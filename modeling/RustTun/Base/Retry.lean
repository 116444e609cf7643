import RustTun.Base.Readiness
import RustTun.Base.Run

/-!
# Retrying an operation while its source is ready

A call that has to be made without blocking is made in a loop: wait until the source is
believed to be ready, attempt the operation, and forget the readiness if the operation
would have blocked.  Meanwhile the source becomes ready again, others forget its
readiness or change the state the operation works on.

`Loop` is such a call with a record of all its attempts.  Whatever happens, its attempts
block but for the last, whose result the call returns (`Loop.ExactlyOnce`); and it makes
no more steps than there are readiness events to pay for them (`countP_code_le`), because
an attempt that blocks uses up the event it was made on.
-/

namespace Retry

open Readiness Transition

universe u v

variable {σ : Type u} {ρ : Type v}

/-! ## Sources -/

/-- What a reactor knows of a source: whether it is ready, and how often it became so. -/
structure Source where
  ready : Bool
  tick : Nat
deriving DecidableEq, Repr

namespace Source

/-- The source becomes ready. -/
def event (s : Source) : Source := { ready := true, tick := s.tick + 1 }

/-- Forget the readiness that was seen at `tick`; one that was reported since then stays. -/
def clear (tick : Nat) (s : Source) : Source :=
  if s.tick = tick then { s with ready := false } else s

/-- Forgetting does not make a source ready. -/
theorem ready_of_ready_clear {tick : Nat} {s : Source} (h : (s.clear tick).ready = true) :
    s.ready = true ∧ s.tick ≠ tick := by
  unfold clear at h
  split at h
  · cases h
  · rename_i htick
    exact ⟨h, htick⟩

@[simp] theorem tick_clear (tick : Nat) (s : Source) : (s.clear tick).tick = s.tick := by
  rw [clear]
  split <;> rfl

end Source

/-! ## Loops -/

/-- An operation that may block, and what waiting for its source may fail with. -/
structure Operation (σ : Type u) (ρ : Type v) where
  /-- Attempt the operation. -/
  run : σ → ρ × σ
  /-- It would have blocked. -/
  blocks : ρ → Bool
  /-- The results of failing to wait. -/
  fails : ρ → Bool
  /-- Failing to wait is not blocking. -/
  not_blocks_of_fails {r : ρ} : fails r = true → blocks r = false

/-- Where in its loop a call is. -/
inductive Phase (ρ : Type v) where
  | /-- About to wait for the source. -/ polling
  | /-- About to attempt the operation, on the readiness seen at `tick`. -/ guarded (tick : Nat)
  | /-- The call has returned. -/ returned (result : Poll ρ)
deriving DecidableEq, Repr

/-- What an attempt did. -/
structure Attempt (σ : Type u) (ρ : Type v) where
  before : σ
  result : ρ
  after : σ

/-- A call, and what it has done so far. -/
structure Loop (σ : Type u) (ρ : Type v) where
  source : Source
  state : σ
  phase : Phase ρ
  /-- The attempts, oldest first. -/
  attempts : List (Attempt σ ρ)
  /-- What waiting failed with. -/
  failed : Option ρ

/-- What may happen next. -/
inductive Act (σ : Type u) (ρ : Type v) where
  | /-- The call waits for the source. -/ poll
  | /-- Waiting fails with `r`. -/ pollFails (r : ρ)
  | /-- The call attempts the operation. -/ attempt
  | /-- The call is made again. -/ again
  | /-- The source becomes ready. -/ event
  | /-- Somebody else forgets the readiness seen at `tick`. -/ clear (tick : Nat)
  | /-- Somebody else changes the state. -/ change (state : σ)

/-- The call does something. -/
def Act.isCode : Act σ ρ → Bool
  | .poll | .pollFails _ | .attempt => true
  | .again | .event | .clear _ | .change _ => false

/-- The call gets something more to do. -/
def Act.isRefill : Act σ ρ → Bool
  | .again | .event => true
  | .poll | .pollFails _ | .attempt | .clear _ | .change _ => false

namespace Operation

variable (op : Operation σ ρ)

/-- What is recorded of an attempt. -/
def attemptIn (state : σ) : Attempt σ ρ :=
  { before := state, result := (op.run state).1, after := (op.run state).2 }

/-- One step. -/
inductive Step : Loop σ ρ → Act σ ρ → Loop σ ρ → Prop
  | /-- The source is ready. -/ ready {l : Loop σ ρ} : l.phase = .polling →
      l.source.ready = true → Step l .poll { l with phase := .guarded l.source.tick }
  | /-- It is not. -/ pending {l : Loop σ ρ} : l.phase = .polling →
      l.source.ready = false → Step l .poll { l with phase := .returned .pending }
  | /-- The source is gone. -/ fails {l : Loop σ ρ} {r : ρ} : l.phase = .polling →
      op.fails r = true →
      Step l (.pollFails r) { l with phase := .returned (.ready r), failed := some r }
  | /-- The operation would have blocked. -/ blocks {l : Loop σ ρ} {tick : Nat} :
      l.phase = .guarded tick → op.blocks (op.run l.state).1 = true →
      Step l .attempt
        { l with
          source := l.source.clear tick
          state := (op.run l.state).2
          phase := .polling
          attempts := l.attempts ++ [op.attemptIn l.state] }
  | /-- It has a result. -/ takes {l : Loop σ ρ} {tick : Nat} :
      l.phase = .guarded tick → op.blocks (op.run l.state).1 = false →
      Step l .attempt
        { l with
          state := (op.run l.state).2
          phase := .returned (.ready (op.run l.state).1)
          attempts := l.attempts ++ [op.attemptIn l.state] }
  | /-- The call that had to wait is made again. -/ again {l : Loop σ ρ} :
      l.phase = .returned .pending → Step l .again { l with phase := .polling }
  | /-- An event. -/ event {l : Loop σ ρ} : Step l .event { l with source := l.source.event }
  | /-- Another call would have blocked. -/ clear {l : Loop σ ρ} (tick : Nat) :
      Step l (.clear tick) { l with source := l.source.clear tick }
  | /-- Something happens to the state. -/ change {l : Loop σ ρ} (state : σ) :
      Step l (.change state) { l with state }

/-- Calls that are made for the first time. -/
def system : System (Loop σ ρ) (Act σ ρ) where
  init l := l.phase = .polling ∧ l.attempts = [] ∧ l.failed = none
  step := op.Step

end Operation

/-! ## Exactly once -/

namespace Loop

variable (op : Operation σ ρ) (l : Loop σ ρ)

/-- The operation takes place at most once, and the call returns with a result exactly if
it did or waiting failed. -/
structure ExactlyOnce : Prop where
  /-- All that was attempted is the operation. -/
  sound : ∀ a ∈ l.attempts, op.run a.before = (a.result, a.after)
  /-- It took place at most once. -/
  once : (l.attempts.filter fun a ↦ !op.blocks a.result).length ≤ 1
  /-- If it did, or if waiting failed, the call returned the result, and not otherwise. -/
  ready_iff (r : ρ) : l.phase = .returned (.ready r) ↔
    (∃ a ∈ l.attempts, op.blocks a.result = false ∧ a.result = r) ∨ l.failed = some r
  /-- The result is not that it would have blocked. -/
  not_blocks (r : ρ) : l.phase = .returned (.ready r) → op.blocks r = false
  /-- What waiting failed with is what it fails with. -/
  failed (r : ρ) : l.failed = some r → op.fails r = true

end Loop

section Record

variable (op : Operation σ ρ) (attempts : List (Attempt σ ρ)) (failed : Option ρ)

/-- All attempts were blocked, and waiting did not fail. -/
structure Blocked : Prop where
  blocks : ∀ a ∈ attempts, op.blocks a.result = true
  failed : failed = none

/-- All attempts but the last were blocked, and that had the result `r`. -/
structure Took (r : ρ) : Prop where
  attempts : ∃ blocked a, attempts = blocked ++ [a] ∧ a.result = r ∧
    ∀ b ∈ blocked, op.blocks b.result = true
  not_blocks : op.blocks r = false
  failed : failed = none

/-- All attempts were blocked, and waiting failed with `r`. -/
structure Failed (r : ρ) : Prop where
  blocks : ∀ a ∈ attempts, op.blocks a.result = true
  fails : op.fails r = true
  failed : failed = some r

/-- What a call has done when it is in the phase it is in. -/
def Record : Phase ρ → Prop
  | .polling | .guarded _ | .returned .pending => Blocked op attempts failed
  | .returned (.ready r) => Took op attempts failed r ∨ Failed op attempts failed r

end Record

/-- What holds between the steps of a call. -/
structure Loop.Inv (op : Operation σ ρ) (l : Loop σ ρ) : Prop where
  sound : ∀ a ∈ l.attempts, op.run a.before = (a.result, a.after)
  record : Record op l.attempts l.failed l.phase

variable {op : Operation σ ρ} {l : Loop σ ρ}

/-- Attempts that blocked are none that did not. -/
theorem filter_eq_nil {attempts : List (Attempt σ ρ)}
    (h : ∀ a ∈ attempts, op.blocks a.result = true) :
    (attempts.filter fun a ↦ !op.blocks a.result) = [] := by
  rw [List.filter_eq_nil_iff]
  intro a ha
  rw [h a ha]
  exact Bool.false_ne_true

/-- A call that was only blocked has not returned a result. -/
theorem Blocked.exactlyOnce (h : Blocked op l.attempts l.failed)
    (hphase : ∀ r, l.phase ≠ .returned (.ready r))
    (hsound : ∀ a ∈ l.attempts, op.run a.before = (a.result, a.after)) : l.ExactlyOnce op where
  sound := hsound
  once := by
    rw [filter_eq_nil h.blocks]
    exact Nat.zero_le _
  ready_iff r := by
    refine iff_of_false (hphase r) ?_
    rintro (⟨a, ha, hnot, -⟩ | hfailed)
    · rw [h.blocks a ha] at hnot
      cases hnot
    · rw [h.failed] at hfailed
      cases hfailed
  not_blocks r hr := absurd hr (hphase r)
  failed r hr := nomatch h.failed.symm.trans hr

/-- One whose last attempt was not has returned that result. -/
theorem Took.exactlyOnce {r : ρ} (h : Took op l.attempts l.failed r)
    (hphase : l.phase = .returned (.ready r))
    (hsound : ∀ a ∈ l.attempts, op.run a.before = (a.result, a.after)) : l.ExactlyOnce op := by
  obtain ⟨blocked, a, hattempts, rfl, hblocked⟩ := h.attempts
  refine ⟨hsound, ?_, fun r' ↦ ?_, fun r' hr' ↦ ?_, fun r' hr' ↦ nomatch h.failed.symm.trans hr'⟩
  · rw [hattempts, List.filter_append, filter_eq_nil hblocked, List.nil_append]
    exact List.length_filter_le _ [a]
  · rw [hphase, h.failed, Phase.returned.injEq, Poll.ready.injEq, hattempts]
    constructor
    · rintro rfl
      exact .inl ⟨a, List.mem_append_right _ (.head _), h.not_blocks, rfl⟩
    · rintro (⟨b, hb, hnot, rfl⟩ | hfailed)
      · rcases List.mem_append.1 hb with hb | hb
        · rw [hblocked b hb] at hnot
          cases hnot
        · rw [List.mem_singleton.1 hb]
      · cases hfailed
  · rw [hphase] at hr'
    cases hr'
    exact h.not_blocks

/-- One that failed to wait has returned what that failed with. -/
theorem Failed.exactlyOnce {r : ρ} (h : Failed op l.attempts l.failed r)
    (hphase : l.phase = .returned (.ready r))
    (hsound : ∀ a ∈ l.attempts, op.run a.before = (a.result, a.after)) : l.ExactlyOnce op := by
  refine ⟨hsound, ?_, fun r' ↦ ?_, fun r' hr' ↦ ?_, fun r' hr' ↦ ?_⟩
  · rw [filter_eq_nil h.blocks]
    exact Nat.zero_le _
  · rw [hphase, h.failed, Phase.returned.injEq, Poll.ready.injEq, Option.some.injEq]
    refine ⟨.inr, ?_⟩
    rintro (⟨a, ha, hnot, -⟩ | rfl)
    · rw [h.blocks a ha] at hnot
      cases hnot
    · rfl
  · rw [hphase] at hr'
    cases hr'
    exact op.not_blocks_of_fails h.fails
  · rw [h.failed] at hr'
    cases hr'
    exact h.fails

namespace Loop

/-- **The record of a call says that its operation took place exactly once or not at all.** -/
theorem Inv.exactlyOnce (h : l.Inv op) : l.ExactlyOnce op := by
  have hrecord := h.record
  cases hphase : l.phase with
  | polling =>
      rw [hphase] at hrecord
      exact Blocked.exactlyOnce hrecord (fun r hr ↦ nomatch hphase.symm.trans hr) h.sound
  | guarded tick =>
      rw [hphase] at hrecord
      exact Blocked.exactlyOnce hrecord (fun r hr ↦ nomatch hphase.symm.trans hr) h.sound
  | returned result =>
      rw [hphase] at hrecord
      cases result with
      | pending =>
          exact Blocked.exactlyOnce hrecord (fun r hr ↦ nomatch hphase.symm.trans hr) h.sound
      | ready r =>
          rcases hrecord with htook | hfailed
          · exact htook.exactlyOnce hphase h.sound
          · exact hfailed.exactlyOnce hphase h.sound

/-- A call that had to wait was only blocked. -/
theorem Inv.blocked_of_pending (h : l.Inv op) (hphase : l.phase = .returned .pending) :
    Blocked op l.attempts l.failed := by
  have hrecord := h.record
  rw [hphase] at hrecord
  exact hrecord

theorem Inv.init (h : op.system.init l) : l.Inv op := by
  obtain ⟨hphase, hattempts, hfailed⟩ := h
  have hnone : ∀ a, a ∉ l.attempts := by
    rw [hattempts]
    exact fun a ↦ List.not_mem_nil
  refine ⟨fun a ha ↦ absurd ha (hnone a), ?_⟩
  rw [hphase]
  exact ⟨fun a ha ↦ absurd ha (hnone a), hfailed⟩

/-- One more attempt is one of the operation. -/
theorem Inv.sound_append (h : l.Inv op) (state : σ) :
    ∀ a ∈ l.attempts ++ [op.attemptIn state], op.run a.before = (a.result, a.after) := by
  intro a ha
  rcases List.mem_append.1 ha with ha | ha
  · exact h.sound a ha
  · rw [List.mem_singleton.1 ha]
    rfl

/-- What a step preserves. -/
theorem Inv.step {t : Loop σ ρ} {a : Act σ ρ} (h : l.Inv op) (hstep : op.system.step l a t) :
    t.Inv op := by
  have hrecord := h.record
  cases hstep with
  | ready hphase hready =>
      rw [hphase] at hrecord
      exact ⟨h.sound, hrecord⟩
  | pending hphase hready =>
      rw [hphase] at hrecord
      exact ⟨h.sound, hrecord⟩
  | fails hphase hfails =>
      rw [hphase] at hrecord
      exact ⟨h.sound, .inr ⟨hrecord.blocks, hfails, rfl⟩⟩
  | blocks hphase hblocks =>
      rw [hphase] at hrecord
      refine ⟨h.sound_append _, ?_, hrecord.failed⟩
      intro a ha
      rcases List.mem_append.1 ha with ha | ha
      · exact hrecord.blocks a ha
      · rw [List.mem_singleton.1 ha]
        exact hblocks
  | takes hphase hblocks =>
      rw [hphase] at hrecord
      exact ⟨h.sound_append _, .inl ⟨⟨_, _, rfl, rfl, hrecord.blocks⟩, hblocks, hrecord.failed⟩⟩
  | again hphase =>
      rw [hphase] at hrecord
      exact ⟨h.sound, hrecord⟩
  | event => exact ⟨h.sound, hrecord⟩
  | clear tick => exact ⟨h.sound, hrecord⟩
  | change state => exact ⟨h.sound, hrecord⟩

/-! ## Termination -/

/-- How many steps a call can still make if nothing happens meanwhile. -/
def budget (l : Loop σ ρ) : Nat :=
  match l.phase with
  | .polling => if l.source.ready then 3 else 1
  | .guarded tick => if l.source.ready = true ∧ l.source.tick ≠ tick then 4 else 2
  | .returned _ => 0

theorem budget_of_polling (h : l.phase = .polling) :
    l.budget = if l.source.ready then 3 else 1 := by
  rw [budget, h]

theorem budget_of_guarded {tick : Nat} (h : l.phase = .guarded tick) :
    l.budget = if l.source.ready = true ∧ l.source.tick ≠ tick then 4 else 2 := by
  rw [budget, h]

theorem budget_of_returned {result : Poll ρ} (h : l.phase = .returned result) : l.budget = 0 := by
  rw [budget, h]

/-- What the call does costs something: an attempt that blocks uses up the readiness it was
made on. -/
theorem budget_lt {t : Loop σ ρ} {a : Act σ ρ} (hstep : op.system.step l a t)
    (ha : a.isCode = true) : t.budget < l.budget := by
  cases hstep with
  | ready hphase hready =>
      rw [budget_of_polling hphase, if_pos hready, budget_of_guarded rfl]
      rw [if_neg fun h ↦ h.2 rfl]
      exact Nat.lt_succ_self 2
  | pending hphase hready =>
      rw [budget_of_polling hphase, hready, budget_of_returned rfl]
      exact Nat.one_pos
  | fails hphase hfails =>
      rw [budget_of_polling hphase, budget_of_returned rfl]
      split <;> omega
  | @blocks tick hphase hblocks =>
      rw [budget_of_guarded hphase, budget_of_polling rfl]
      cases hclear : (l.source.clear tick).ready with
      | true =>
          rw [if_pos rfl, if_pos (Source.ready_of_ready_clear hclear)]
          exact Nat.lt_succ_self 3
      | false =>
          rw [if_neg Bool.false_ne_true]
          split <;> omega
  | @takes tick hphase hblocks =>
      rw [budget_of_guarded hphase, budget_of_returned rfl]
      split <;> omega
  | again hphase => cases ha
  | event => cases ha
  | clear tick => cases ha
  | change state => cases ha

/-- An event or a new call pays for at most three steps. -/
theorem budget_le_of_refill {t : Loop σ ρ} {a : Act σ ρ} (hstep : op.system.step l a t)
    (ha : a.isRefill = true) : t.budget ≤ l.budget + 3 := by
  have hle (u : Loop σ ρ) (hu : ∀ tick, u.phase ≠ .guarded tick) : u.budget ≤ 3 := by
    rw [budget]
    cases hphase : u.phase with
    | polling =>
        dsimp only
        split <;> omega
    | guarded tick => exact absurd hphase (hu tick)
    | returned result => exact Nat.zero_le _
  cases hstep with
  | again hphase => exact Nat.le_add_left_of_le (hle _ fun _ h ↦ nomatch h)
  | event =>
      cases hphase : l.phase with
      | guarded tick =>
          rw [budget_of_guarded hphase, budget_of_guarded rfl]
          split <;> split <;> omega
      | polling => exact Nat.le_add_left_of_le (hle _ fun _ h ↦ nomatch h)
      | returned result => exact Nat.le_add_left_of_le (hle _ fun _ h ↦ nomatch h)
  | ready => cases ha
  | pending => cases ha
  | fails => cases ha
  | blocks => cases ha
  | takes => cases ha
  | clear tick => cases ha
  | change state => cases ha

/-- What others do pays for nothing. -/
theorem budget_le_of_other {t : Loop σ ρ} {a : Act σ ρ} (hstep : op.system.step l a t)
    (ha : a.isCode = false) (ha' : a.isRefill = false) : t.budget ≤ l.budget := by
  cases hstep with
  | clear tick =>
      cases hphase : l.phase with
      | polling =>
          rw [budget_of_polling hphase, budget_of_polling rfl]
          cases hclear : (l.source.clear tick).ready with
          | true =>
              exact Nat.le_of_eq (by rw [(Source.ready_of_ready_clear hclear).1])
          | false =>
              rw [if_neg Bool.false_ne_true]
              split <;> omega
      | guarded seen =>
          rw [budget_of_guarded hphase, budget_of_guarded rfl, Source.tick_clear]
          split
          · rename_i h
            exact Nat.le_of_eq (if_pos ⟨(Source.ready_of_ready_clear h.1).1, h.2⟩).symm
          · split <;> omega
      | returned result =>
          rw [budget_of_returned rfl]
          exact Nat.zero_le _
  | change state => exact Nat.le_refl _
  | ready => cases ha
  | pending => cases ha
  | fails => cases ha
  | blocks => cases ha
  | takes => cases ha
  | again => cases ha'
  | event => cases ha'

/-- A call that has not returned can go on. -/
theorem progress (op : Operation σ ρ) (l : Loop σ ρ) :
    (∃ result, l.phase = .returned result) ∨ ∃ a t, a.isCode = true ∧ op.system.step l a t := by
  cases hphase : l.phase with
  | polling =>
      cases hready : l.source.ready with
      | true => exact .inr ⟨.poll, _, rfl, .ready hphase hready⟩
      | false => exact .inr ⟨.poll, _, rfl, .pending hphase hready⟩
  | guarded tick =>
      cases hblocks : op.blocks (op.run l.state).1 with
      | true => exact .inr ⟨.attempt, _, rfl, .blocks hphase hblocks⟩
      | false => exact .inr ⟨.attempt, _, rfl, .takes hphase hblocks⟩
  | returned result => exact .inl ⟨result, rfl⟩

end Loop

/-! ## Runs -/

variable {s : Loop σ ρ} {l : List (Act σ ρ × Loop σ ρ)}

/-- **However it is interleaved, a call makes its operation take place exactly once or not at
all.** -/
theorem exactlyOnce_of_run (hinit : op.system.init s) (hrun : op.system.Run s l) :
    s.Inv op ∧ ∀ x ∈ l, x.2.Inv op := by
  have hs := Loop.Inv.init hinit
  exact ⟨hs, hrun.invariant (fun _ _ _ h hstep ↦ h.step hstep) hs⟩

/-- **A call ends**: it makes at most three steps, and three more for each event and each time
it is made again. -/
theorem countP_code_le (hinit : op.system.init s) (hrun : op.system.Run s l) :
    l.countP (fun x ↦ x.1.isCode) ≤ 3 + 3 * l.countP (fun x ↦ x.1.isRefill) := by
  have hbudget : s.budget ≤ 3 := by
    rw [Loop.budget_of_polling hinit.1]
    split <;> omega
  have hle : l.countP (fun x ↦ x.1.isCode) ≤
      s.budget + 3 * l.countP (fun x ↦ x.1.isRefill) := hrun.countP_le
    (fun _ _ _ hstep h ↦ Loop.budget_lt hstep h)
    (fun _ _ _ hstep h ↦ Loop.budget_le_of_refill hstep h)
    (fun _ _ _ hstep h h' ↦ Loop.budget_le_of_other hstep h h')
  exact Nat.le_trans hle (Nat.add_le_add_right hbudget _)

end Retry
