import RustTun.Base.Call

/-!
# Calls that differ by what they keep a record of

`Erases e x y` says that the call `y` does on the state that `e` leaves of one what `x` does on all
of it: it ends in the same way, and in what `e` leaves of the state that `x` ends in.  So what is
in the state besides has no influence, and may be put there for the sake of a proof.
-/

namespace Call

universe u

variable {ε σ τ α β : Type u}

/-- `y` is what `x` does on the part of the state that `e` leaves. -/
def Erases (e : σ → τ) (x : Call ε σ α) (y : Call ε τ α) : Prop :=
  ∀ s, y (e s) = ((x s).1, e (x s).2)

namespace Erases

variable {e : σ → τ}

theorem pure (a : α) : Erases e (pure a : Call ε σ α) (pure a) := fun _ ↦ rfl

theorem fail (b : ε) : Erases e (fail b : Call ε σ α) (fail b) := fun _ ↦ rfl

theorem modify {f : σ → σ} {g : τ → τ} (h : ∀ s, g (e s) = e (f s)) :
    Erases e (modify f : Call ε σ PUnit) (modify g) := by
  intro s
  rw [modify_apply, modify_apply, h]

/-- One call after the other. -/
theorem bind {x : Call ε σ β} {y : Call ε τ β} {f : β → Call ε σ α} {g : β → Call ε τ α}
    (h : Erases e x y) (hf : ∀ b, Erases e (f b) (g b)) : Erases e (x >>= f) (y >>= g) := by
  intro s
  rw [bind_apply, bind_apply, h s]
  rcases x s with ⟨_ | b, t⟩
  · rfl
  · exact hf b t

/-- Clean-ups that agree as well. -/
theorem guarded {c : σ → σ} {d : τ → τ} {x : Call ε σ α} {y : Call ε τ α} (h : Erases e x y)
    (hc : ∀ s, d (e s) = e (c s)) : Erases e (guarded c x) (guarded d y) := by
  intro s
  rw [Call.guarded, Call.guarded, h s]
  rcases x s with ⟨_ | a, t⟩
  · show (_, d (e t)) = _
    rw [hc]
  · rfl

end Erases

end Call
