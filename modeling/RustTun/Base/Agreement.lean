import RustTun.Base.Call

/-!
# Calls that agree where an invariant holds

`AgreesOn I x y` says that in the states in which `I` holds two calls do the same, and leave a
state in which `I` holds.  It is what relates a program to a simpler one that it is as good as:
the calls that are made in sequence are replaced one by one, and `I` is what is known in between.
-/

namespace Call

universe u

variable {ε σ α β : Type u}

/-- Where `I` holds the calls do the same, and `I` holds after that. -/
def AgreesOn (I : σ → Prop) (x y : Call ε σ α) : Prop := ∀ s, I s → x s = y s ∧ I (x s).2

namespace AgreesOn

variable {I : σ → Prop}

/-- A call that preserves the invariant agrees with itself. -/
theorem of_preserves {x : Call ε σ α} (h : x.Preserves I) : AgreesOn I x x :=
  fun s hs ↦ ⟨rfl, h s hs⟩

theorem pure (a : α) : AgreesOn I (pure a : Call ε σ α) (pure a) := .of_preserves (.pure a)

theorem fail (e : ε) : AgreesOn I (fail e : Call ε σ α) (fail e) := .of_preserves (.fail e)

/-- One call after the other. -/
theorem bind {x y : Call ε σ β} {f g : β → Call ε σ α} (h : AgreesOn I x y)
    (hf : ∀ b, AgreesOn I (f b) (g b)) : AgreesOn I (x >>= f) (y >>= g) := by
  intro s hs
  obtain ⟨heq, hI⟩ := h s hs
  rw [bind_apply, bind_apply, ← heq]
  rcases hx : x s with ⟨e | b, t⟩
  · rw [hx] at hI
    exact ⟨rfl, hI⟩
  · rw [hx] at hI
    exact hf b t hI

end AgreesOn

end Call
