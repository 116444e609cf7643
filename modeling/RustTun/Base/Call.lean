import Mathlib.Tactic.TypeStar

/-!
# Calls: computations that return, fail or panic

A `Call ε σ α` runs on a state `σ` and ends in one of three ways: it returns a value
of type `α`, it returns an error of type `ε`, or it panics.  Whatever it did to the
state before it stopped stays done, which is the point of having the state outside
the result: most of what is proved about a call is about the state an *unsuccessful*
call leaves behind.

`Call.bind_apply` evaluates a sequence one call at a time, and `Call.bind_eq_ok` is
its inversion: a sequence returned exactly if each of its calls did.
-/

universe u v w

/-- How a call stops other than by returning a value. -/
inductive Stop (ε : Type u) where
  | /-- The call returned an error. -/ err (e : ε)
  | /-- The call panicked. -/ panic
deriving DecidableEq, Repr

/-- A computation on the state `σ` that returns an `α`, fails with an `ε`, or panics. -/
def Call (ε : Type u) (σ : Type v) (α : Type w) := σ → Except (Stop ε) α × σ

namespace Call

variable {ε σ : Type u} {α β : Type u}

instance instMonad : Monad (Call ε σ) where
  pure a := fun s ↦ (.ok a, s)
  bind x f := fun s ↦
    match x s with
    | (.ok a, t) => f a t
    | (.error e, t) => (.error e, t)

/-- Stop with an error. -/
def fail (e : ε) : Call ε σ α := fun s ↦ (.error (.err e), s)

/-- Stop with a panic. -/
def panic : Call ε σ α := fun s ↦ (.error .panic, s)

/-- Read the state. -/
def get : Call ε σ σ := fun s ↦ (.ok s, s)

/-- Change the state. -/
def modify (f : σ → σ) : Call ε σ PUnit := fun s ↦ (.ok ⟨⟩, f s)

/-- Run a call and hand its result, an error included, to the continuation; only a
panic is passed on. -/
def catching (x : Call ε σ α) (f : Except ε α → Call ε σ β) : Call ε σ β := fun s ↦
  match x s with
  | (.ok a, t) => f (.ok a) t
  | (.error (.err e), t) => f (.error e) t
  | (.error .panic, t) => (.error .panic, t)

/-- Run a call and clean up if it stops: what unwinding or an early return does to the
values that are alive at that point. -/
def guarded (cleanup : σ → σ) (x : Call ε σ α) : Call ε σ α := fun s ↦
  match x s with
  | (.ok a, t) => (.ok a, t)
  | (.error e, t) => (.error e, cleanup t)

@[simp] theorem pure_apply (a : α) (s : σ) : (pure a : Call ε σ α) s = (.ok a, s) := rfl

@[simp] theorem fail_apply (e : ε) (s : σ) : (fail e : Call ε σ α) s = (.error (.err e), s) := rfl

@[simp] theorem get_apply (s : σ) : (get : Call ε σ σ) s = (.ok s, s) := rfl

@[simp] theorem modify_apply (f : σ → σ) (s : σ) :
    (modify f : Call ε σ PUnit) s = (.ok ⟨⟩, f s) := rfl

theorem bind_apply (x : Call ε σ α) (f : α → Call ε σ β) (s : σ) :
    (x >>= f) s = match x s with
      | (.ok a, t) => f a t
      | (.error e, t) => (.error e, t) := rfl

/-- A sequence continues where its first call returned. -/
theorem bind_of_ok {x : Call ε σ α} {a : α} {s t : σ} (h : x s = (.ok a, t))
    (f : α → Call ε σ β) : (x >>= f) s = f a t := by
  rw [bind_apply, h]

/-- A sequence stops where its first call stopped. -/
theorem bind_of_error {x : Call ε σ α} {e : Stop ε} {s t : σ} (h : x s = (.error e, t))
    (f : α → Call ε σ β) : (x >>= f) s = (.error e, t) := by
  rw [bind_apply, h]

/-- A sequence returned exactly if both of its calls did. -/
theorem bind_eq_ok {x : Call ε σ α} {f : α → Call ε σ β} {s u : σ} {b : β} :
    (x >>= f) s = (.ok b, u) ↔ ∃ a t, x s = (.ok a, t) ∧ f a t = (.ok b, u) := by
  rw [bind_apply]
  constructor
  · intro h
    split at h
    · rename_i a t hx
      exact ⟨a, t, hx, h⟩
    · cases h
  · rintro ⟨a, t, hx, hf⟩
    rw [hx]
    exact hf

/-- A guarded call returned exactly if the call did. -/
@[simp] theorem guarded_eq_ok {cleanup : σ → σ} {x : Call ε σ α} {s t : σ} {a : α} :
    guarded cleanup x s = (.ok a, t) ↔ x s = (.ok a, t) := by
  rw [guarded]
  split
  · rename_i b u hx
    rw [hx]
  · rename_i e u hx
    rw [hx]
    constructor
    · intro h
      cases h
    · intro h
      cases h

@[simp] theorem pure_eq_ok {a b : α} {s t : σ} :
    (pure a : Call ε σ α) s = (.ok b, t) ↔ a = b ∧ s = t := by
  rw [pure_apply, Prod.mk.injEq, Except.ok.injEq]

/-- A call whose errors are handled returned exactly if it stopped with a value or an
error that its continuation made a value of. -/
theorem catching_eq_ok {x : Call ε σ α} {f : Except ε α → Call ε σ β} {s u : σ} {b : β} :
    catching x f s = (.ok b, u) ↔
      (∃ a t, x s = (.ok a, t) ∧ f (.ok a) t = (.ok b, u)) ∨
        ∃ e t, x s = (.error (.err e), t) ∧ f (.error e) t = (.ok b, u) := by
  rw [catching]
  rcases x s with ⟨(e | _) | a, t⟩
  · constructor
    · intro h
      exact .inr ⟨e, t, rfl, h⟩
    · rintro (⟨_, _, ⟨⟩, _⟩ | ⟨_, _, ⟨⟩, h⟩)
      exact h
  · constructor
    · exact (nomatch ·)
    · rintro (⟨_, _, ⟨⟩, _⟩ | ⟨_, _, ⟨⟩, _⟩)
  · constructor
    · intro h
      exact .inl ⟨a, t, rfl, h⟩
    · rintro (⟨_, _, ⟨⟩, h⟩ | ⟨_, _, ⟨⟩, _⟩)
      exact h

/-- A call whose errors are ignored returns unless it panics. -/
theorem catching_pure_of_ne_panic {x : Call ε σ α} {s : σ} (h : (x s).1 ≠ .error .panic) (b : β) :
    (catching x (fun _ ↦ pure b) s).1 = .ok b := by
  rw [catching]
  rcases hx : x s with ⟨(e | _) | a, t⟩
  · rfl
  · rw [hx] at h
    exact absurd rfl h
  · rfl

/-! ## Invariants -/

/-- A call that returns keeps the invariant `I` of the state. -/
def Keeps (I : σ → Prop) (x : Call ε σ α) : Prop := ∀ s a t, I s → x s = (.ok a, t) → I t

namespace Keeps

variable {I : σ → Prop}

theorem pure (a : α) : Keeps I (pure a : Call ε σ α) := by
  intro s b t hs h
  cases h
  exact hs

theorem fail (e : ε) : Keeps I (fail e : Call ε σ α) := fun _ _ _ _ h ↦ nomatch h

theorem panic : Keeps I (panic : Call ε σ α) := fun _ _ _ _ h ↦ nomatch h

theorem modify {f : σ → σ} (hf : ∀ s, I s → I (f s)) : Keeps I (modify f : Call ε σ PUnit) := by
  intro s b t hs h
  cases h
  exact hf s hs

theorem guarded {cleanup : σ → σ} {x : Call ε σ α} (hx : Keeps I x) :
    Keeps I (guarded cleanup x) :=
  fun s a t hs h ↦ hx s a t hs (guarded_eq_ok.1 h)

/-- A sequence keeps what both of its calls keep. -/
theorem bind {x : Call ε σ α} {f : α → Call ε σ β} (hx : Keeps I x)
    (hf : ∀ a, Keeps I (f a)) : Keeps I (x >>= f) := by
  intro s b u hs h
  obtain ⟨a, t, hxs, hft⟩ := bind_eq_ok.1 h
  exact hf a t b u (hx s a t hs hxs) hft

end Keeps

/-- A call keeps the invariant `I` of the state, however it ends. -/
def Preserves (I : σ → Prop) (x : Call ε σ α) : Prop := ∀ s, I s → I (x s).2

namespace Preserves

variable {I : σ → Prop}

theorem keeps {x : Call ε σ α} (hx : Preserves I x) : Keeps I x := by
  intro s a t hs h
  have ht := hx s hs
  rw [h] at ht
  exact ht

theorem pure (a : α) : Preserves I (pure a : Call ε σ α) := fun _ hs ↦ hs

theorem fail (e : ε) : Preserves I (fail e : Call ε σ α) := fun _ hs ↦ hs

theorem panic : Preserves I (panic : Call ε σ α) := fun _ hs ↦ hs

theorem get : Preserves I (get : Call ε σ σ) := fun _ hs ↦ hs

theorem modify {f : σ → σ} (hf : ∀ s, I s → I (f s)) :
    Preserves I (modify f : Call ε σ PUnit) := hf

/-- A guarded call preserves what it and the clean-up preserve. -/
theorem guarded {cleanup : σ → σ} {x : Call ε σ α} (hx : Preserves I x)
    (hcleanup : ∀ s, I s → I (cleanup s)) : Preserves I (guarded cleanup x) := by
  intro s hs
  have ht := hx s hs
  rw [Call.guarded]
  rcases hxs : x s with ⟨_ | a, t⟩
  · rw [hxs] at ht
    exact hcleanup t ht
  · rw [hxs] at ht
    exact ht

/-- A sequence preserves what both of its calls preserve. -/
theorem bind {x : Call ε σ α} {f : α → Call ε σ β} (hx : Preserves I x)
    (hf : ∀ a, Preserves I (f a)) : Preserves I (x >>= f) := by
  intro s hs
  have ht := hx s hs
  rw [bind_apply]
  rcases hxs : x s with ⟨_ | a, t⟩
  · rw [hxs] at ht
    exact ht
  · rw [hxs] at ht
    exact hf a t ht

/-- Handling errors preserves what the call and the handler preserve. -/
theorem catching {x : Call ε σ α} {f : Except ε α → Call ε σ β} (hx : Preserves I x)
    (hf : ∀ r, Preserves I (f r)) : Preserves I (catching x f) := by
  intro s hs
  have ht := hx s hs
  rw [Call.catching]
  rcases hxs : x s with ⟨(e | _) | a, t⟩
  · rw [hxs] at ht
    exact hf (.error e) t ht
  · rw [hxs] at ht
    exact ht
  · rw [hxs] at ht
    exact hf (.ok a) t ht

end Preserves

/-! ## Ways to stop -/

/-- A call that stops does so in one of the ways `E`. -/
def StopsIn (E : Stop ε → Prop) (x : Call ε σ α) : Prop := ∀ s e, (x s).1 = .error e → E e

theorem err_ne_panic (e : ε) : Stop.err e ≠ .panic := by simp

namespace StopsIn

variable {E : Stop ε → Prop}

theorem pure (a : α) : StopsIn E (pure a : Call ε σ α) := fun _ _ h ↦ nomatch h

theorem fail {e : ε} (he : E (.err e)) : StopsIn E (fail e : Call ε σ α) := by
  intro s e' h
  cases h
  exact he

theorem panic (he : E .panic) : StopsIn E (panic : Call ε σ α) := by
  intro s e' h
  cases h
  exact he

theorem get : StopsIn E (get : Call ε σ σ) := fun _ _ h ↦ nomatch h

theorem modify (f : σ → σ) : StopsIn E (modify f : Call ε σ PUnit) := fun _ _ h ↦ nomatch h

/-- A sequence stops in the ways its calls do. -/
theorem bind {x : Call ε σ α} {f : α → Call ε σ β} (hx : StopsIn E x)
    (hf : ∀ a, StopsIn E (f a)) : StopsIn E (x >>= f) := by
  intro s e h
  rw [bind_apply] at h
  rcases hxs : x s with ⟨e' | a, t⟩
  · rw [hxs] at h
    cases h
    exact hx s e (congrArg Prod.fst hxs)
  · rw [hxs] at h
    exact hf a t e h

/-- A call that is cleaned up after stops in the same ways. -/
theorem guarded {cleanup : σ → σ} {x : Call ε σ α} (hx : StopsIn E x) :
    StopsIn E (guarded cleanup x) := by
  intro s e h
  rw [Call.guarded] at h
  rcases hxs : x s with ⟨e' | a, t⟩
  · rw [hxs] at h
    cases h
    exact hx s e (congrArg Prod.fst hxs)
  · rw [hxs] at h
    cases h

/-- Where errors are handled, only a panic of the call gets through. -/
theorem catching {x : Call ε σ α} {f : Except ε α → Call ε σ β} (hx : StopsIn (· ≠ .panic) x)
    (hf : ∀ r, StopsIn E (f r)) : StopsIn E (catching x f) := by
  intro s e h
  rw [Call.catching] at h
  rcases hxs : x s with ⟨(e' | _) | a, t⟩
  · rw [hxs] at h
    exact hf (.error e') t e h
  · exact absurd rfl (hx s .panic (congrArg Prod.fst hxs))
  · rw [hxs] at h
    exact hf (.ok a) t e h

end StopsIn

end Call
