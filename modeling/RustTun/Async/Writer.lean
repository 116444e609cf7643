import Mathlib.Logic.Function.Basic
import RustTun.Base.Readiness
import RustTun.Base.Run
import RustTun.Posix.Split

/-!
# The clones of an `AsyncWriter`

An `AsyncWriter` can be cloned, and all clones share one `AsyncFd`, which keeps one
waker for the write direction.  A call of `poll_write` or `poll_write_vectored` takes
turns between `poll_write_ready` and `try_io` until one of the two has a result; calls on
different clones interleave between these.

`try_write` and `try_write_vectored` make the same call with a waker that wakes no task.
Finding the descriptor not ready, they leave it behind like every other call.
-/

namespace RustTun

open Readiness Transition

/-! ## Calls -/

/-- The result of a write. -/
abbrev WriteResult := Except (Stop IoError) Unit

/-- What is written. -/
inductive WriteOp where
  | write (buf : Buf)
  | writeVectored (bufs : List Buf)
deriving DecidableEq, Repr

/-- The call that `try_io` makes on the device. -/
def WriteOp.send (os : TargetOs) (tun : Tun) : WriteOp → Call IoError File Unit
  | .write buf => tun.send os buf
  | .writeVectored bufs => tun.sendVectored os bufs

/-- `try_poll_fn`, applied to what the poll returned. -/
def tryPollFn {α : Type} : Poll (Except (Stop IoError) α) → Except (Stop IoError) α
  | .ready result => result
  | .pending => .error (.err (.simple .wouldBlock))

/-- `io::Error::kind() == WouldBlock`: the kind of a number is a matter of the target. -/
def IoError.isWouldBlock (os : TargetOs) : IoError → Bool
  | .os errno => errno = File.EAGAIN os
  | .simple kind | .new kind _ | .wrap kind _ => kind = .wouldBlock

/-- The result is the one on which `try_io` fails. -/
def wouldBlock {α : Type} (os : TargetOs) : Except (Stop IoError) α → Bool
  | .error (.err e) => e.isWouldBlock os
  | .error .panic | .ok _ => false

/-- A call in progress: `poll_write` or `poll_write_vectored`, or their `try_` variants. -/
structure WriteCall where
  op : WriteOp
  /-- The call was made through `try_poll_fn`. -/
  tried : Bool
deriving DecidableEq, Repr

/-- Where in its loop a call is. -/
inductive Phase where
  | /-- About to call `poll_write_ready`. -/ polling
  | /-- With a guard, about to call `try_io`. -/ guarded
deriving DecidableEq, Repr

/-- One clone and the task that holds it. -/
structure Clone where
  /-- The call in progress. -/
  running : Option (WriteCall × Phase)
  /-- What the latest `poll_write` or `poll_write_vectored` returned; `none` while it is
  in progress. -/
  latest : Option (Poll WriteResult)
  /-- The task has been woken since it returned. -/
  woken : Bool
  /-- What the latest `try_write` or `try_write_vectored` returned. -/
  tried : Option WriteResult

namespace Clone

/-- A clone on which nothing was called yet. -/
def initial : Clone := { running := none, latest := none, woken := false, tried := none }

/-- The task waits to be woken. -/
def Waiting (c : Clone) : Prop := c.latest = some .pending ∧ c.woken = false

/-- A call begins. -/
def start (call : WriteCall) (c : Clone) : Clone :=
  if call.tried then { c with running := some (call, .polling) }
  else { c with running := some (call, .polling), latest := none }

/-- A call goes on. -/
def goOn (call : WriteCall) (phase : Phase) (c : Clone) : Clone :=
  { c with running := some (call, phase) }

/-- A call returns. -/
def finish (call : WriteCall) (result : Poll WriteResult) (c : Clone) : Clone :=
  if call.tried then { c with running := none, tried := some (tryPollFn result) }
  else { c with running := none, latest := some result, woken := false }

/-- The task is woken. -/
def wake (c : Clone) : Clone := { c with woken := true }

@[simp] theorem waiting_start (call : WriteCall) (c : Clone) :
    (c.start call).Waiting ↔ call.tried = true ∧ c.Waiting := by
  unfold start Waiting
  split <;> simp_all

@[simp] theorem waiting_goOn (call : WriteCall) (phase : Phase) (c : Clone) :
    (c.goOn call phase).Waiting ↔ c.Waiting := Iff.rfl

@[simp] theorem waiting_finish_ready (call : WriteCall) (r : WriteResult) (c : Clone) :
    (c.finish call (.ready r)).Waiting ↔ call.tried = true ∧ c.Waiting := by
  unfold finish Waiting
  split <;> simp_all

@[simp] theorem waiting_finish_pending (call : WriteCall) (c : Clone) :
    (c.finish call .pending).Waiting ↔ call.tried = false ∨ c.Waiting := by
  unfold finish Waiting
  split <;> simp_all

@[simp] theorem not_waiting_wake (c : Clone) : ¬ c.wake.Waiting := fun h ↦ nomatch h.2

/-- While a call that is not a try is in progress, the task does not wait. -/
def Awake (c : Clone) : Prop :=
  ∀ call phase, c.running = some (call, phase) → call.tried = false → ¬ c.Waiting

namespace Awake

variable {c : Clone} {call : WriteCall}

theorem initial : Clone.initial.Awake := fun _ _ h ↦ nomatch h

theorem start : (c.start call).Awake := by
  intro call' phase hrunning htried
  have hcall : call' = call := by
    unfold Clone.start at hrunning
    split at hrunning <;> cases hrunning <;> rfl
  rw [waiting_start, ← hcall, htried]
  simp

theorem goOn {phase : Phase} (h : c.Awake) (hc : c.running = some (call, phase))
    (phase' : Phase) : (c.goOn call phase').Awake := by
  intro call' phase'' hrunning htried
  cases hrunning
  exact h call phase hc htried

theorem finish {result : Poll WriteResult} : (c.finish call result).Awake := by
  intro call' phase hrunning
  unfold Clone.finish at hrunning
  split at hrunning <;> cases hrunning

theorem wake : c.wake.Awake := fun _ _ _ _ ↦ not_waiting_wake c

end Awake

end Clone

/-- The waker in the context of a call. -/
def WriteCall.waker {ι : Type} (i : ι) (call : WriteCall) : Waker ι :=
  if call.tried then .noop else .task i

/-! ## All clones -/

/-- The clones, the descriptor they share and the device behind it. -/
structure Writers (ι : Type) where
  fd : Direction ι
  file : File
  clones : ι → Clone

/-- What may happen next. -/
inductive WriteAct (ι : Type) where
  | /-- A call is made on a clone. -/ call (i : ι) (c : WriteCall)
  | /-- The call in progress polls for readiness. -/ pollWriteReady (i : ι)
  | /-- Polling fails, because the runtime shuts down. -/ pollFailed (i : ι) (e : IoError)
  | /-- The call in progress tries to write. -/ tryIo (i : ι)
  | /-- A write-readiness event. -/ writable
  | /-- Something else wakes the task. -/ wake (i : ι)

namespace Writers

variable {ι : Type} [DecidableEq ι]

/-- Change one clone. -/
def update (s : Writers ι) (i : ι) (f : Clone → Clone) : Writers ι :=
  { s with clones := Function.update s.clones i (f (s.clones i)) }

/-- A call in progress polls for readiness, and returns if it has to wait. -/
def pollWriteReady (eager : Bool) (s : Writers ι) (i : ι) (call : WriteCall) : Writers ι :=
  match s.fd.pollReady eager (call.waker i) with
  | (.ready (), fd) => { s with fd }.update i (Clone.goOn call .guarded)
  | (.pending, fd) => { s with fd }.update i (Clone.finish call .pending)

/-- A call in progress tries to write: it returns the result unless it would block. -/
def tryIo (os : TargetOs) (tun : Tun) (s : Writers ι) (i : ι) (call : WriteCall) : Writers ι :=
  let (result, file) := call.op.send os tun s.file
  if wouldBlock os result then
    { s with file, fd := s.fd.clearReady }.update i (Clone.goOn call .polling)
  else { s with file }.update i (Clone.finish call (.ready result))

/-- A write-readiness event wakes the task that left its waker. -/
def writable (s : Writers ι) : Writers ι :=
  match s.fd.event with
  | (some (.task i), fd) => { s with fd }.update i Clone.wake
  | (some .noop, fd) | (none, fd) => { s with fd }

/-- One step. -/
def step (os : TargetOs) (tun : Tun) (eager : Bool) (s : Writers ι) :
    WriteAct ι → Option (Writers ι)
  | .call i call =>
    match (s.clones i).running with
    | none => some (s.update i (Clone.start call))
    | some _ => none
  | .pollWriteReady i =>
    match (s.clones i).running with
    | some (call, .polling) => some (s.pollWriteReady eager i call)
    | _ => none
  | .pollFailed i e =>
    match (s.clones i).running with
    | some (call, .polling) => some (s.update i (Clone.finish call (.ready (.error (.err e)))))
    | _ => none
  | .tryIo i =>
    match (s.clones i).running with
    | some (call, .guarded) => some (s.tryIo os tun i call)
    | _ => none
  | .writable => some s.writable
  | .wake i => some (s.update i Clone.wake)

/-- The clones of an `AsyncWriter` of a device that was just created. -/
def system (os : TargetOs) (tun : Tun) (eager : Bool) : System (Writers ι) (WriteAct ι) where
  init s := s.fd = .initial ∧ ∀ i, s.clones i = .initial
  step s a t := s.step os tun eager a = some t

/-- **No wakeup is lost**: every task that waits has its waker registered. -/
def NoLost (s : Writers ι) : Prop :=
  ∀ i, (s.clones i).Waiting → s.fd.waker = some (.task i)

/-- A call that has to wait leaves its waker only while no task waits. -/
def Alone (s : Writers ι) (a : WriteAct ι) : Prop :=
  ∀ i, a = .pollWriteReady i → s.fd.ready = false → ∀ j, ¬ (s.clones j).Waiting

/-! ## What a step does -/

@[simp] theorem fd_update (s : Writers ι) (i : ι) (f : Clone → Clone) : (s.update i f).fd = s.fd :=
  rfl

theorem clones_update (s : Writers ι) (i : ι) (f : Clone → Clone) (j : ι) :
    (s.update i f).clones j = if j = i then f (s.clones j) else s.clones j := by
  rw [update]
  by_cases h : j = i
  · rw [if_pos h, h]
    exact Function.update_self ..
  · rw [if_neg h]
    exact Function.update_of_ne h ..

/-- A change to one clone that makes its task wait only if it did makes no task wait. -/
theorem waiting_of_update {s : Writers ι} {i j : ι} {f : Clone → Clone}
    (hf : ∀ c : Clone, (f c).Waiting → c.Waiting) (h : ((s.update i f).clones j).Waiting) :
    (s.clones j).Waiting := by
  rw [clones_update] at h
  split at h
  · exact hf _ h
  · exact h

/-- A task that waits after an event waited before, and had not left its waker. -/
theorem waiting_writable {s : Writers ι} {j : ι} (h : (s.writable.clones j).Waiting) :
    (s.clones j).Waiting ∧ s.fd.waker ≠ some (.task j) := by
  unfold writable Direction.event at h
  split at h
  · rename_i i fd hevent
    have hwaker : s.fd.waker = _ := congrArg Prod.fst hevent
    rw [clones_update] at h
    split at h
    · exact absurd h (Clone.not_waiting_wake _)
    · rename_i hij
      rw [hwaker]
      exact ⟨h, fun hc ↦ hij (by cases hc; rfl)⟩
  · rename_i fd hevent
    have hwaker : s.fd.waker = _ := congrArg Prod.fst hevent
    rw [hwaker]
    exact ⟨h, (nomatch ·)⟩
  · rename_i fd hevent
    have hwaker : s.fd.waker = _ := congrArg Prod.fst hevent
    rw [hwaker]
    exact ⟨h, (nomatch ·)⟩

/-- The wakers are where they have to be exactly if an event wakes every task that waits. -/
theorem noLost_iff_writable {s : Writers ι} :
    s.NoLost ↔ ∀ j, ¬ (s.writable.clones j).Waiting := by
  constructor
  · intro hs j hj
    exact (waiting_writable hj).2 (hs j (waiting_writable hj).1)
  · intro h j hj
    by_contra hwaker
    refine h j ?_
    rw [writable]
    split
    · rename_i i fd hevent
      have hi : s.fd.waker = _ := congrArg Prod.fst hevent
      rw [clones_update, if_neg fun hij ↦ hwaker (by rw [hi, hij])]
      exact hj
    · exact hj
    · exact hj

/-- A step that leaves the tasks that wait with what they have.  Either the waker is not
touched, or the descriptor is ready, or the task that left its waker is woken. -/
structure Quiet (s : Writers ι) (a : WriteAct ι) (t : Writers ι) : Prop where
  waiting : ∀ j, (t.clones j).Waiting → (s.clones j).Waiting
  alone : s.Alone a
  waker : (t.fd.waker = s.fd.waker ∧ (t.fd.ready = true → s.fd.ready = true)) ∨
    s.fd.ready = true ∨ ∀ j, (t.clones j).Waiting → s.fd.waker ≠ some (.task j)

/-- A step in which a call finds that it has to wait. -/
def Stalls (s : Writers ι) (i : ι) (call : WriteCall) (t : Writers ι) : Prop :=
  s.fd.ready = false ∧ (s.clones i).running = some (call, .polling) ∧
    t = { s with fd := { s.fd with waker := some (call.waker i) } }.update i
      (Clone.finish call .pending)

/-- Every step is quiet, or a call finds that it has to wait. -/
theorem step_cases {os : TargetOs} {tun : Tun} {eager : Bool} {s t : Writers ι}
    {a : WriteAct ι} (h : s.step os tun eager a = some t) :
    s.Quiet a t ∨ ∃ i call, a = .pollWriteReady i ∧ s.Stalls i call t := by
  cases a with
  | call i call =>
      simp only [step] at h
      split at h <;> cases h
      exact .inl ⟨fun j ↦ waiting_of_update fun c hc ↦ ((Clone.waiting_start ..).1 hc).2,
        fun _ ↦ (nomatch ·), .inl ⟨rfl, id⟩⟩
  | pollWriteReady i =>
      simp only [step] at h
      split at h <;> cases h
      rename_i call hrunning
      rw [pollWriteReady]
      cases hready : s.fd.ready with
      | true =>
          rw [Direction.pollReady_of_ready _ _ hready]
          exact .inl ⟨fun j ↦ waiting_of_update fun c ↦ (Clone.waiting_goOn ..).1,
            fun _ _ hc ↦ absurd hready (by simp [hc]), .inr (.inl hready)⟩
      | false =>
          rw [Direction.pollReady_of_not_ready _ _ hready]
          exact .inr ⟨i, call, rfl, hready, hrunning, rfl⟩
  | pollFailed i e =>
      simp only [step] at h
      split at h <;> cases h
      exact .inl ⟨fun j ↦ waiting_of_update fun c hc ↦ ((Clone.waiting_finish_ready ..).1 hc).2,
        fun _ ↦ (nomatch ·), .inl ⟨rfl, id⟩⟩
  | tryIo i =>
      simp only [step] at h
      split at h <;> cases h
      refine .inl ⟨fun j ↦ ?_, fun _ ↦ (nomatch ·), .inl ?_⟩
      · rw [tryIo]
        simp only
        split
        · exact waiting_of_update fun c ↦ (Clone.waiting_goOn ..).1
        · exact waiting_of_update fun c hc ↦ ((Clone.waiting_finish_ready ..).1 hc).2
      · rw [tryIo]
        simp only
        split
        · exact ⟨rfl, fun hc ↦ nomatch hc⟩
        · exact ⟨rfl, id⟩
  | writable =>
      cases h
      exact .inl ⟨fun j hj ↦ (waiting_writable hj).1, fun _ ↦ (nomatch ·),
        .inr (.inr fun j hj ↦ (waiting_writable hj).2)⟩
  | wake i =>
      cases h
      exact .inl ⟨fun j ↦ waiting_of_update fun c hc ↦ absurd hc c.not_waiting_wake,
        fun _ ↦ (nomatch ·), .inl ⟨rfl, id⟩⟩

/-- A step keeps the tasks awake that have a call in progress. -/
theorem awake_step {os : TargetOs} {tun : Tun} {eager : Bool} {s t : Writers ι} {a : WriteAct ι}
    (hs : ∀ j, (s.clones j).Awake) (h : s.step os tun eager a = some t) (j : ι) :
    (t.clones j).Awake := by
  have hupdate : ∀ (u : Writers ι) (i : ι) (f : Clone → Clone), u.clones = s.clones →
      (f (s.clones i)).Awake → ((u.update i f).clones j).Awake := by
    intro u i f hu hf
    rw [clones_update, hu]
    split
    · rename_i hij
      rw [hij]
      exact hf
    · exact hs j
  cases a with
  | call i call =>
      simp only [step] at h
      split at h <;> cases h
      exact hupdate _ _ _ rfl .start
  | pollWriteReady i =>
      simp only [step] at h
      split at h <;> cases h
      rename_i call hrunning
      rw [pollWriteReady]
      split
      · exact hupdate _ _ _ rfl ((hs i).goOn hrunning _)
      · exact hupdate _ _ _ rfl .finish
  | pollFailed i e =>
      simp only [step] at h
      split at h <;> cases h
      exact hupdate _ _ _ rfl .finish
  | tryIo i =>
      simp only [step] at h
      split at h <;> cases h
      rename_i call hrunning
      rw [tryIo]
      simp only
      split
      · exact hupdate _ _ _ rfl ((hs i).goOn hrunning _)
      · exact hupdate _ _ _ rfl .finish
  | writable =>
      cases h
      rw [writable]
      split
      · exact hupdate _ _ _ rfl .wake
      · exact hs j
      · exact hs j
  | wake i =>
      cases h
      exact hupdate _ _ _ rfl .wake

/-! ## Runs -/

/-- What holds between the steps of a run that loses no wakeup. -/
structure Inv (s : Writers ι) : Prop where
  noLost : s.NoLost
  ready : s.fd.ready = true → ∀ i, ¬ (s.clones i).Waiting
  awake : ∀ i, (s.clones i).Awake

omit [DecidableEq ι] in
/-- A quiet step loses no wakeup. -/
theorem Inv.quiet {s t : Writers ι} {a : WriteAct ι} (hs : s.Inv) (h : s.Quiet a t) :
    t.NoLost ∧ (t.fd.ready = true → ∀ i, ¬ (t.clones i).Waiting) := by
  rcases h.waker with ⟨hwaker, hready⟩ | hready | hwoken
  · constructor
    · intro i hi
      exact hwaker ▸ hs.noLost i (h.waiting i hi)
    · intro hr i hi
      exact hs.ready (hready hr) i (h.waiting i hi)
  · constructor
    · intro i hi
      exact absurd (h.waiting i hi) (hs.ready hready i)
    · intro _ i hi
      exact hs.ready hready i (h.waiting i hi)
  · constructor
    · intro i hi
      exact absurd (hs.noLost i (h.waiting i hi)) (hwoken i hi)
    · intro _ i hi
      exact hwoken i hi (hs.noLost i (h.waiting i hi))

/-- **A call that finds that it has to wait** loses a wakeup unless it is alone. -/
theorem Inv.noLost_iff_of_stalls {s t : Writers ι} {i : ι} {call : WriteCall} (hs : s.Inv)
    (h : s.Stalls i call t) : t.NoLost ↔ ∀ j, ¬ (s.clones j).Waiting := by
  obtain ⟨hready, hrunning, rfl⟩ := h
  constructor
  · intro ht j hj
    have hmust := ht j
    rw [clones_update] at hmust
    by_cases hij : j = i
    · subst hij
      cases htried : call.tried with
      | true =>
          rw [if_pos rfl, Clone.waiting_finish_pending] at hmust
          have hwaker := hmust (.inr hj)
          simp [WriteCall.waker, htried] at hwaker
      | false => exact hs.awake j call _ hrunning htried hj
    · rw [if_neg hij] at hmust
      have hwaker := hmust hj
      unfold WriteCall.waker at hwaker
      cases htried : call.tried with
      | true => simp [htried] at hwaker
      | false => simp [htried, Ne.symm hij] at hwaker
  · intro halone j hj
    rw [clones_update] at hj
    split at hj
    · rename_i hij
      rw [Clone.waiting_finish_pending] at hj
      have htried := hj.resolve_right (halone j)
      simp [WriteCall.waker, htried, hij]
    · exact absurd hj (halone j)

/-- A step loses no wakeup exactly if it is not a call that has to wait while another
task does. -/
theorem Inv.noLost_step_iff {os : TargetOs} {tun : Tun} {eager : Bool} {s t : Writers ι}
    {a : WriteAct ι} (hs : s.Inv) (h : s.step os tun eager a = some t) :
    t.NoLost ↔ s.Alone a := by
  rcases step_cases h with hquiet | ⟨i, call, rfl, hstalls⟩
  · exact iff_of_true (hs.quiet hquiet).1 hquiet.alone
  · rw [hs.noLost_iff_of_stalls hstalls]
    constructor
    · intro halone _ _ _
      exact halone
    · intro halone
      exact halone i rfl hstalls.1

/-- A step that loses no wakeup keeps the invariant. -/
theorem Inv.step {os : TargetOs} {tun : Tun} {eager : Bool} {s t : Writers ι} {a : WriteAct ι}
    (hs : s.Inv) (h : s.step os tun eager a = some t) (ht : t.NoLost) : t.Inv := by
  refine ⟨ht, ?_, awake_step hs.awake h⟩
  rcases step_cases h with hquiet | ⟨i, call, rfl, hready, -, rfl⟩
  · exact (hs.quiet hquiet).2
  · intro hc
    exact absurd hready (by simpa using hc)

omit [DecidableEq ι] in
/-- Nothing was called yet. -/
theorem Inv.init {s : Writers ι} (hs : ∀ i, s.clones i = .initial) : s.Inv := by
  have hwaiting : ∀ i, ¬ (s.clones i).Waiting := by
    intro i h
    rw [hs i] at h
    cases h.1
  exact ⟨fun i h ↦ absurd h (hwaiting i), fun _ ↦ hwaiting, fun i ↦ hs i ▸ Clone.Awake.initial⟩

/-- **A wakeup is lost exactly when a call has to wait while a task already does.**  For
any number of clones and any interleaving of their calls, every task that waits keeps its
waker registered as long as each call that finds the descriptor not ready, a `try_` one
included, finds no task waiting. -/
theorem noLost_iff (os : TargetOs) (tun : Tun) (eager : Bool) {s : Writers ι}
    {l : List (WriteAct ι × Writers ι)} (hs : (system os tun eager).init s)
    (h : (system os tun eager).Run s l) :
    (∀ x ∈ l, x.2.NoLost) ↔ AllSteps (fun s a _ ↦ s.Alone a) s l := by
  rw [← allSteps_target (s := s)]
  exact h.allSteps_iff (I := Inv) (fun s a t hi ht ↦ hi.noLost_step_iff ht)
    (fun s a t hi ht ↦ hi.step ht) (.init hs.2)

/-- Clones on which nothing was called yet, of a device that answers with `refusals`. -/
def initial (ι : Type) (refusals : List (Option Errno)) : Writers ι :=
  { fd := .initial
    file := { inbound := [], outbound := [], refusals, nonblock := true }
    clones := fun _ ↦ .initial }

/-- Two clones take turns: the first waits and is woken by the event, and only then the second
tries, finds that it would block, and waits. -/
theorem noLost_two_clones :
    let first : WriteCall := ⟨.write [0x45], false⟩
    let second : WriteCall := ⟨.writeVectored [[0x60], [1]], false⟩
    let s₁ := (initial Bool [some (File.EAGAIN .macos)]).update true (Clone.start first)
    let s₂ := s₁.pollWriteReady false true first
    let s₃ := s₂.writable.update false (Clone.start second)
    let s₄ := s₃.pollWriteReady false false second
    let s₅ := s₄.tryIo .macos (Tun.sample true) false second
    let s₆ := s₅.pollWriteReady false false second
    (s₂.clones true).Waiting ∧ s₂.NoLost ∧ (s₆.clones false).Waiting ∧ s₆.NoLost := by
  intro first second s₁ s₂ s₃ s₄ s₅ s₆
  have hrun : (system .macos (Tun.sample true) false).Run
      (initial Bool [some (File.EAGAIN .macos)])
      [(.call true first, s₁), (.pollWriteReady true, s₂), (.writable, s₂.writable),
        (.call false second, s₃), (.pollWriteReady false, s₄), (.tryIo false, s₅),
        (.pollWriteReady false, s₆)] :=
    .cons rfl <| .cons rfl <| .cons rfl <| .cons rfl <| .cons rfl <| .cons rfl <| .cons rfl <|
      .nil _
  -- When the second has to wait, the task of the first was woken.
  have hawake (j : Bool) : ¬ (s₅.clones j).Waiting := by
    cases j with
    | true => exact fun h ↦ nomatch h.2
    | false => exact fun h ↦ nomatch h.1
  have hall := (noLost_iff .macos (Tun.sample true) false ⟨rfl, fun _ ↦ rfl⟩ hrun).2
    ⟨fun _ ↦ (nomatch ·), fun _ _ _ j hw ↦ (by cases j <;> exact nomatch hw.1),
      fun _ ↦ (nomatch ·), fun _ ↦ (nomatch ·), fun _ _ hready ↦ (nomatch hready),
      fun _ ↦ (nomatch ·), fun _ _ _ ↦ hawake, trivial⟩
  exact ⟨⟨rfl, rfl⟩, hall (_, s₂) (.tail _ (.head _)), ⟨rfl, rfl⟩,
    hall (_, s₆) (List.mem_of_getLast? rfl)⟩

/-- Two clones, of which the second tries to write while the first waits to: the waker of
the first is gone, and the event wakes no task. -/
theorem try_write_loses_wakeup :
    let s₁ := (initial Bool []).update true (Clone.start ⟨.write [0x45], false⟩)
    let s₂ := s₁.pollWriteReady false true ⟨.write [0x45], false⟩
    let s₃ := s₂.update false (Clone.start ⟨.write [0x60], true⟩)
    let s₄ := s₃.pollWriteReady false false ⟨.write [0x60], true⟩
    (system .linux (Tun.sample false) false).Run (initial Bool [])
        [(.call true ⟨.write [0x45], false⟩, s₁), (.pollWriteReady true, s₂),
          (.call false ⟨.write [0x60], true⟩, s₃), (.pollWriteReady false, s₄)] ∧
      ¬ s₄.NoLost ∧ (s₄.writable.clones true).Waiting := by
  intro s₁ s₂ s₃ s₄
  refine ⟨.cons rfl (.cons rfl (.cons rfl (.cons rfl (.nil _)))), fun h ↦ ?_, rfl, rfl⟩
  cases h true ⟨rfl, rfl⟩

end Writers

end RustTun
