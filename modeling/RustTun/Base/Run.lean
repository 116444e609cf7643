import Mathlib.Data.List.Forall2
import Mathlib.Tactic.TypeStar

/-!
# Runs of a labelled transition system

A `System σ α` is a set of initial states together with a step relation whose
steps carry an action.  This file packages the inductions that arguments about
such a system need:

* `System.Reach.invariant` turns an inductive invariant into a property of every
  reachable state;
* `System.Run.allSteps_mono` carries a property of the steps of a run to another one
  that follows from it under an invariant, and `System.Run.allSteps_iff` is the
  *exactness* rule built on it.  When, under an invariant,
  a single step does what is promised exactly if a condition `C` on the state it
  starts from and the action it takes holds, then a whole run keeps the promise
  at each of its steps exactly if each of its steps meets `C`;
* `System.Run.queue_final`, `System.Run.log_final` and `System.Run.count_final` add up
  what the steps say that they take off a queue, write to a log, or count;
* `System.Run.stream_final` is about a log that is read out and then at its end: what the steps
  put out is the log first, and then nothing but ends.

The exactness rule is what separates "the system is safe as long as `C` holds" from
"`C` is the weakest such condition": both directions come out of one statement
about a single step.
-/

namespace Transition

variable {σ α : Type*}

/-- Initial states and labelled steps. -/
structure System (σ α : Type*) where
  /-- The states a run may start from. -/
  init : σ → Prop
  /-- `step s a t`: taking action `a` in state `s` may lead to state `t`. -/
  step : σ → α → σ → Prop

namespace System

variable (S : System σ α)

/-- `S.Reach s`: some run of `S` arrives in the state `s`. -/
inductive Reach : σ → Prop
  | /-- An initial state is reachable. -/ init {s : σ} : S.init s → Reach s
  | /-- One more step. -/ step {s t : σ} (a : α) : Reach s → S.step s a t → Reach t

/-- `S.Run s l`: starting in `s`, the system can take the steps `l`, each listed
as the action taken and the state it leads to. -/
inductive Run : σ → List (α × σ) → Prop
  | /-- The run that takes no step. -/ nil (s : σ) : Run s []
  | /-- One more step at the front. -/ cons {s t : σ} {a : α} {l : List (α × σ)} :
      S.step s a t → Run t l → Run s ((a, t) :: l)

variable {S}

/-- An inductive invariant holds of every reachable state. -/
theorem Reach.invariant {I : σ → Prop} (hinit : ∀ s, S.init s → I s)
    (hstep : ∀ s a t, I s → S.step s a t → I t) {s : σ} (h : S.Reach s) : I s := by
  induction h with
  | init h => exact hinit _ h
  | step a _ hs ih => exact hstep _ a _ ih hs

end System

/-- `AllSteps R s l`: every step of the run `l` from `s` is in the relation `R`. -/
def AllSteps (R : σ → α → σ → Prop) : σ → List (α × σ) → Prop
  | _, [] => True
  | s, (a, t) :: l => R s a t ∧ AllSteps R t l

@[simp] theorem allSteps_nil (R : σ → α → σ → Prop) (s : σ) : AllSteps R s [] := trivial

@[simp] theorem allSteps_cons {R : σ → α → σ → Prop} {s t : σ} {a : α} {l : List (α × σ)} :
    AllSteps R s ((a, t) :: l) ↔ R s a t ∧ AllSteps R t l := Iff.rfl

/-- A property of the state each step leads to is a property of every listed state. -/
theorem allSteps_target {P : σ → Prop} {s : σ} {l : List (α × σ)} :
    AllSteps (fun _ (_ : α) t ↦ P t) s l ↔ ∀ x ∈ l, P x.2 := by
  induction l generalizing s with
  | nil => simp
  | cons x l ih =>
      obtain ⟨a, t⟩ := x
      simp only [allSteps_cons, ih, List.forall_mem_cons]

/-- Where the steps `l` from `s` arrive. -/
def final : σ → List (α × σ) → σ
  | s, [] => s
  | _, (_, t) :: l => final t l

@[simp] theorem final_nil (s : σ) : final (α := α) s [] = s := rfl

@[simp] theorem final_cons (s : σ) (x : α × σ) (l : List (α × σ)) :
    final s (x :: l) = final x.2 l := rfl

/-- What the steps `l` from `s` put out, if the action `a` puts out `out s a` in the state `s`. -/
def outputs {γ : Type*} (out : σ → α → List γ) : σ → List (α × σ) → List γ
  | _, [] => []
  | s, (a, t) :: l => out s a ++ outputs out t l

@[simp] theorem outputs_nil {γ : Type*} (out : σ → α → List γ) (s : σ) : outputs out s [] = [] :=
  rfl

@[simp] theorem outputs_cons {γ : Type*} (out : σ → α → List γ) (s : σ) (x : α × σ)
    (l : List (α × σ)) : outputs out s (x :: l) = out s x.1 ++ outputs out x.2 l := rfl

/-- What no step ends is so in the end, if it was at first. -/
theorem final_of_allSteps {P : σ → Prop} {s : σ} {l : List (α × σ)}
    (h : AllSteps (fun s _ t ↦ P s → P t) s l) (hs : P s) : P (final s l) := by
  induction l generalizing s with
  | nil => exact hs
  | cons x l ih =>
      obtain ⟨hstep, hrest⟩ := h
      exact ih hrest (hstep hs)

namespace System.Run

variable {S T : System σ α} {I : σ → Prop}

/-- An inductive invariant that holds where a run starts holds wherever it gets. -/
theorem invariant (hstep : ∀ s a t, I s → S.step s a t → I t) {s : σ} {l : List (α × σ)}
    (h : S.Run s l) (hs : I s) : ∀ x ∈ l, I x.2 := by
  induction h with
  | nil => exact fun x hx ↦ nomatch hx
  | cons ht _ ih =>
      have hi := hstep _ _ _ hs ht
      rw [List.forall_mem_cons]
      exact ⟨hi, ih hi⟩

/-- It holds where the run ends. -/
theorem final_invariant (hstep : ∀ s a t, I s → S.step s a t → I t) {s : σ} {l : List (α × σ)}
    (h : S.Run s l) (hs : I s) : I (final s l) := by
  induction h with
  | nil => exact hs
  | cons ht _ ih => exact ih (hstep _ _ _ hs ht)

/-- A run of one system is one of another, if under an invariant of the first its steps are steps
of the second. -/
theorem mono (hstep : ∀ s a t, I s → S.step s a t → T.step s a t)
    (hinv : ∀ s a t, I s → S.step s a t → I t) {s : σ} {l : List (α × σ)} (h : S.Run s l)
    (hs : I s) : T.Run s l := by
  induction h with
  | nil s => exact .nil s
  | cons ht _ ih => exact .cons (hstep _ _ _ hs ht) (ih (hinv _ _ _ hs ht))

/-- Two systems that have the same steps under an invariant of one have the same runs. -/
theorem congr (hstep : ∀ s a t, I s → (S.step s a t ↔ T.step s a t))
    (hinv : ∀ s a t, I s → S.step s a t → I t) {s : σ} {l : List (α × σ)} (hs : I s) :
    S.Run s l ↔ T.Run s l := by
  constructor
  · intro h
    exact h.mono (fun s a t hs ↦ (hstep s a t hs).1) hinv hs
  · intro h
    exact h.mono (fun s a t hs ↦ (hstep s a t hs).2)
      (fun s a t hs ht ↦ hinv s a t hs ((hstep s a t hs).2 ht)) hs

/-- If under the invariant `I` every step in `Q` is in `R`, and steps in `Q` keep the
invariant, then a run whose steps are all in `Q` has all its steps in `R`. -/
theorem allSteps_mono {Q R : σ → α → σ → Prop}
    (hstep : ∀ s a t, I s → S.step s a t → Q s a t → R s a t)
    (hinv : ∀ s a t, I s → S.step s a t → Q s a t → I t)
    {s : σ} {l : List (α × σ)} (h : S.Run s l) (hs : I s) (hq : AllSteps Q s l) :
    AllSteps R s l := by
  induction h with
  | nil => trivial
  | cons ht _ ih =>
      obtain ⟨hq, hrest⟩ := hq
      exact ⟨hstep _ _ _ hs ht hq, ih (hinv _ _ _ hs ht hq) hrest⟩

/-- **Exactness of a step condition.**  If under the invariant `I` a step keeps the
promise `Q` exactly when it meets the condition `C`, and keeping the promise keeps
the invariant, then a run keeps the promise at each of its steps exactly when it
meets the condition at each of its steps. -/
theorem allSteps_iff {Q C : σ → α → σ → Prop}
    (hstep : ∀ s a t, I s → S.step s a t → (Q s a t ↔ C s a t))
    (hinv : ∀ s a t, I s → S.step s a t → Q s a t → I t)
    {s : σ} {l : List (α × σ)} (h : S.Run s l) (hs : I s) :
    AllSteps Q s l ↔ AllSteps C s l :=
  ⟨allSteps_mono (fun s a t hi ht ↦ (hstep s a t hi ht).1) hinv h hs,
    allSteps_mono (fun s a t hi ht ↦ (hstep s a t hi ht).2)
      (fun s a t hi ht hc ↦ hinv s a t hi ht ((hstep s a t hi ht).2 hc)) h hs⟩

/-- **Work is paid for.**  If every step that does work lowers the potential, a step that
refills it raises it by at most `k`, and the others do not raise it, then a run does no more
work than it starts with potential and gets by refills. -/
theorem countP_le {φ : σ → Nat} {work refill : α → Bool} {k : Nat}
    (hwork : ∀ s a t, S.step s a t → work a = true → φ t < φ s)
    (hrefill : ∀ s a t, S.step s a t → refill a = true → φ t ≤ φ s + k)
    (hother : ∀ s a t, S.step s a t → work a = false → refill a = false → φ t ≤ φ s)
    {s : σ} {l : List (α × σ)} (h : S.Run s l) :
    l.countP (fun x ↦ work x.1) ≤ φ s + k * l.countP (fun x ↦ refill x.1) := by
  induction h with
  | nil => exact Nat.zero_le _
  | @cons s t a l hs _ ih =>
      rw [List.countP_cons, List.countP_cons, Nat.mul_add]
      cases hw : work a with
      | true =>
          have hlt := hwork s a t hs hw
          rw [if_pos rfl]
          omega
      | false =>
          rw [if_neg Bool.false_ne_true]
          cases hr : refill a with
          | true =>
              have hle := hrefill s a t hs hr
              rw [if_pos rfl]
              omega
          | false =>
              have hle := hother s a t hs hw hr
              rw [if_neg Bool.false_ne_true]
              omega

section Accounts

variable {β γ : Type*} {R : γ → β → Prop} (queue : σ → List β) {leaves : α → List γ}

/-- **A queue along a run.**  If a step takes off the front what it says that leaves, and puts
at the back what it says that enters, then in a run what leaves is what was there and what enters,
in order, up to what is still there in the end. -/
theorem queue_final (enters : α → List β)
    (hstep : ∀ s a t, I s → S.step s a t → I t ∧ ∃ taken,
      queue s ++ enters a = taken ++ queue t ∧ List.Forall₂ R (leaves a) taken)
    {s : σ} {l : List (α × σ)} (h : S.Run s l) (hs : I s) :
    ∃ taken, queue s ++ l.flatMap (fun x ↦ enters x.1) = taken ++ queue (final s l) ∧
      List.Forall₂ R (l.flatMap fun x ↦ leaves x.1) taken := by
  induction h with
  | nil s => exact ⟨[], by rw [List.flatMap_nil, List.append_nil]; rfl, .nil⟩
  | @cons s t a l ht _ ih =>
      obtain ⟨hinv, taken, hqueue, hleaves⟩ := hstep s a t hs ht
      obtain ⟨rest, hrest, hall⟩ := ih hinv
      refine ⟨taken ++ rest, ?_, ?_⟩
      · rw [List.flatMap_cons, ← List.append_assoc, hqueue, List.append_assoc, hrest,
          List.append_assoc, final_cons]
      · rw [List.flatMap_cons]
        exact List.rel_append hleaves hall

/-- **A log along a run.**  If a step adds to it what it says, then so does a run. -/
theorem log_final
    (hstep : ∀ s a t, I s → S.step s a t → I t ∧ ∃ added,
      queue t = queue s ++ added ∧ List.Forall₂ R (leaves a) added)
    {s : σ} {l : List (α × σ)} (h : S.Run s l) (hs : I s) :
    ∃ added, queue (final s l) = queue s ++ added ∧
      List.Forall₂ R (l.flatMap fun x ↦ leaves x.1) added := by
  induction h with
  | nil s => exact ⟨[], (List.append_nil _).symm, .nil⟩
  | @cons s t a l ht _ ih =>
      obtain ⟨hinv, added, hlog, hleaves⟩ := hstep s a t hs ht
      obtain ⟨rest, hrest, hall⟩ := ih hinv
      refine ⟨added ++ rest, ?_, ?_⟩
      · rw [final_cons, hrest, hlog, List.append_assoc]
      · rw [List.flatMap_cons]
        exact List.rel_append hleaves hall

/-- **A counter along a run.**  If a step raises it by one or leaves it, as its action says, then a
run raises it by the number of actions that say so. -/
theorem count_final {φ : σ → Nat} {counts : α → Bool}
    (hstep : ∀ s a t, S.step s a t → φ t = φ s + if counts a then 1 else 0)
    {s : σ} {l : List (α × σ)} (h : S.Run s l) :
    φ (final s l) = φ s + l.countP fun x ↦ counts x.1 := by
  induction h with
  | nil s => rfl
  | @cons s t a l ht _ ih =>
      rw [final_cons, ih, hstep s a t ht, List.countP_cons, Nat.add_right_comm, Nat.add_assoc]

/-- What holds of the action of every step holds of all actions of a run. -/
theorem forall_action {P : α → Prop} (hstep : ∀ s a t, S.step s a t → P a) {s : σ}
    {l : List (α × σ)} (h : S.Run s l) : ∀ x ∈ l, P x.1 := by
  induction h with
  | nil s => exact List.forall_mem_nil _
  | cons ht _ ih => exact List.forall_mem_cons.2 ⟨hstep _ _ _ ht, ih⟩

end Accounts

section Streams

variable {β γ : Type*} {R : γ → β → Prop} {E : γ → Prop} {C : σ → Prop} (log : σ → List β)
  (out : σ → α → List γ)

/-- Where a log is closed, it stays as it is, and nothing but ends is put out. -/
theorem closed_final
    (hstep : ∀ s a t, C s → S.step s a t → C t ∧ log t = log s ∧ ∀ x ∈ out s a, E x)
    {s : σ} {l : List (α × σ)} (h : S.Run s l) (hs : C s) :
    log (final s l) = log s ∧ ∀ x ∈ outputs out s l, E x := by
  induction h with
  | nil s => exact ⟨rfl, List.forall_mem_nil _⟩
  | @cons s t a l ht _ ih =>
      obtain ⟨hclosed, hlog, hout⟩ := hstep s a t hs ht
      obtain ⟨hfinal, hrest⟩ := ih hclosed
      rw [final_cons, hfinal, hlog, outputs_cons]
      exact ⟨rfl, List.forall_mem_append.2 ⟨hout, hrest⟩⟩

/-- **A stream along a run.**  If a step puts out what it adds to the log, or puts out nothing but
ends and closes the log, then a run puts out what it adds to the log, and after that nothing but
ends. -/
theorem stream_final
    (hstep : ∀ s a t, I s → S.step s a t → I t ∧
      ((∃ added, log t = log s ++ added ∧ List.Forall₂ R (out s a) added) ∨
        C t ∧ log t = log s ∧ ∀ x ∈ out s a, E x))
    (hclosed : ∀ s a t, C s → S.step s a t → C t ∧ log t = log s ∧ ∀ x ∈ out s a, E x)
    {s : σ} {l : List (α × σ)} (h : S.Run s l) (hs : I s) :
    ∃ first rest added, outputs out s l = first ++ rest ∧ log (final s l) = log s ++ added ∧
      List.Forall₂ R first added ∧ ∀ x ∈ rest, E x := by
  induction h with
  | nil s => exact ⟨[], [], [], rfl, (List.append_nil _).symm, .nil, List.forall_mem_nil _⟩
  | @cons s t a l ht hrun ih =>
      obtain ⟨hinv, ⟨added, hlog, hadded⟩ | ⟨hclose, hlog, hends⟩⟩ := hstep s a t hs ht
      · obtain ⟨first, rest, more, hout, hfinal, hall, hrest⟩ := ih hinv
        refine ⟨out s a ++ first, rest, added ++ more, ?_, ?_, List.rel_append hadded hall, hrest⟩
        · rw [outputs_cons, hout, List.append_assoc]
        · rw [final_cons, hfinal, hlog, List.append_assoc]
      · obtain ⟨hfinal, hrest⟩ := hrun.closed_final log out hclosed hclose
        refine ⟨[], out s a ++ outputs out t l, [], rfl, ?_, .nil,
          List.forall_mem_append.2 ⟨hends, hrest⟩⟩
        rw [final_cons, hfinal, hlog, List.append_nil]

end Streams

end System.Run

end Transition
