import RustTun.Base.Call

/-!
# Conditions before and after a call

A `Triple P x Q E` says of a call that is made in a state in which `P` holds how it may end: it
returns a value and a state that are in `Q`, or it stops, with an error or a panic, in a state
that is in `E`.  There is one rule for each way to put calls together, and `Triple.bind` is the one
that proofs are made of: the condition after the first call is the one before the second, and
whatever either of them stops with has to be in `E`.

The conditions may mention a state that is fixed from outside, which is how they speak of what a
call has changed.
-/

namespace Call

universe u

variable {ε σ α β : Type u}

/-- A call that is made in `P` returns in `Q`, or stops in `E`. -/
def Triple (P : σ → Prop) (x : Call ε σ α) (Q : α → σ → Prop) (E : σ → Prop) : Prop :=
  ∀ s, P s → match x s with
    | (.ok a, t) => Q a t
    | (.error _, t) => E t

namespace Triple

variable {P P' : σ → Prop} {Q Q' : α → σ → Prop} {E E' : σ → Prop}

/-- A call that is made in `P` and returned is in `Q`. -/
theorem of_ok {x : Call ε σ α} (h : Triple P x Q E) {s t : σ} {a : α} (hs : P s)
    (hx : x s = (.ok a, t)) : Q a t := by
  have ht := h s hs
  rw [hx] at ht
  exact ht

/-- A call that is made in `P` and stopped is in `E`. -/
theorem of_error {x : Call ε σ α} (h : Triple P x Q E) {s t : σ} {e : Stop ε} (hs : P s)
    (hx : x s = (.error e, t)) : E t := by
  have ht := h s hs
  rw [hx] at ht
  exact ht

theorem pure {a : α} (h : ∀ s, P s → Q a s) : Triple P (Pure.pure a : Call ε σ α) Q E := h

theorem fail {e : ε} (h : ∀ s, P s → E s) : Triple P (Call.fail e : Call ε σ α) Q E := h

theorem panic (h : ∀ s, P s → E s) : Triple P (Call.panic : Call ε σ α) Q E := h

theorem get : Triple P (Call.get : Call ε σ σ) (fun _ ↦ P) E := fun _ hs ↦ hs

/-- **One call after the other.** -/
theorem bind {R : β → σ → Prop} {x : Call ε σ β} {f : β → Call ε σ α} (hx : Triple P x R E)
    (hf : ∀ b, Triple (R b) (f b) Q E) : Triple P (x >>= f) Q E := by
  intro s hs
  have ht := hx s hs
  rw [bind_apply]
  rcases hxs : x s with ⟨e | b, t⟩
  · rw [hxs] at ht
    exact ht
  · rw [hxs] at ht
    exact hf b t ht

/-- More is known before, or less is wanted after. -/
theorem weaken {x : Call ε σ α} (h : Triple P x Q E) (hP : ∀ s, P' s → P s)
    (hQ : ∀ a s, Q a s → Q' a s) (hE : ∀ s, E s → E' s) : Triple P' x Q' E' := by
  intro s hs
  have ht := h s (hP s hs)
  rcases hxs : x s with ⟨e | a, t⟩
  · rw [hxs] at ht
    exact hE t ht
  · rw [hxs] at ht
    exact hQ a t ht

/-- Two things may be shown one by one. -/
theorem and {x : Call ε σ α} (h : Triple P x Q E) (h' : Triple P x Q' E') :
    Triple P x (fun a s ↦ Q a s ∧ Q' a s) fun s ↦ E s ∧ E' s := by
  intro s hs
  have ht := h s hs
  have ht' := h' s hs
  rcases hxs : x s with ⟨e | a, t⟩
  · rw [hxs] at ht ht'
    exact ⟨ht, ht'⟩
  · rw [hxs] at ht ht'
    exact ⟨ht, ht'⟩

/-- A call that is cleaned up after stops where the clean-up leads to. -/
theorem guarded {cleanup : σ → σ} {x : Call ε σ α} (h : Triple P x Q E)
    (hE : ∀ s, E s → E' (cleanup s)) : Triple P (Call.guarded cleanup x) Q E' := by
  intro s hs
  have ht := h s hs
  rw [Call.guarded]
  rcases hxs : x s with ⟨e | a, t⟩
  · rw [hxs] at ht
    exact hE t ht
  · rw [hxs] at ht
    exact ht

/-- What a call preserves holds however it ends. -/
theorem of_preserves {x : Call ε σ α} (h : x.Preserves P) (hE : ∀ s, P s → E s) :
    Triple P x (fun _ ↦ P) E := by
  intro s hs
  have ht := h s hs
  rcases hxs : x s with ⟨e | a, t⟩
  · rw [hxs] at ht
    exact hE t ht
  · rw [hxs] at ht
    exact ht

/-- What there is before the call may be given a name. -/
theorem of_exists {γ : Sort*} {R : γ → σ → Prop} {x : Call ε σ α} (h : ∀ c, Triple (R c) x Q E) :
    Triple (fun s ↦ ∃ c, R c s) x Q E := by
  intro s hs
  obtain ⟨c, hc⟩ := hs
  exact h c s hc

/-- A fact that does not depend on the state may be assumed. -/
theorem of_imp {p : Prop} {x : Call ε σ α} (h : p → Triple P x Q E) :
    Triple (fun s ↦ p ∧ P s) x Q E :=
  fun s hs ↦ h hs.1 s hs.2

end Triple

end Call
