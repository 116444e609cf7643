import RustTun.Base.Run
import RustTun.Base.Shared

/-!
# How long the session lives

On Windows it is the `Tun` that shuts its session down, when it is dropped, and the session ends
when the last `Arc<Session>` is.  The two are not the same: the thread of an `AsyncReader`, and
whoever called `Tun::session`, hold the session without the `Tun`.

`sharings` are the runs of a program that splits what it has, asks for sessions and drops the
parts, in any order, while threads end.  `session_lifetime` says what has become of the session in
every state that there can be: it was started once, is shut down once, when no part with the `Tun`
is left, and is ended once after that, when nothing is left at all.  In particular an `AsyncReader`
that outlives its writers reads from a session that was shut down.
-/

namespace RustTun.Windows

open Shared Transition

/-- `Tun`, over sessions `σ`. -/
structure Tun (σ : Type) where
  session : Arc σ

/-- What becomes of a session. -/
inductive SessionEvent where
  | /-- `Adapter::start_session`. -/ started
  | /-- `Session::shutdown`. -/ shutdown
  | /-- The drop of the `Session`. -/ ended
deriving DecidableEq, Repr

/-- Reference counts, and what has become of the session, oldest first. -/
structure World where
  heap : Heap
  log : List SessionEvent

namespace World

variable {σ : Type}

/-- Note an event. -/
def note (e : SessionEvent) (w : World) : World := { w with log := w.log ++ [e] }

/-- Drop an `Arc<Session>`. -/
def dropSession (a : Arc σ) (w : World) : World :=
  w.heap.release (fun heap ↦ { w with heap }) (fun _ ↦ note .ended) a

/-- Drop a `Tun`: its `Drop` shuts the session down, and then its field is dropped. -/
def dropTun (tun : Tun σ) (w : World) : World := (w.note .shutdown).dropSession tun.session

/-- Drop an `Arc<Tun>`, or an `Arc<Device>`. -/
def dropShared (a : Arc (Tun σ)) (w : World) : World :=
  w.heap.release (fun heap ↦ { w with heap }) dropTun a

end World

/-! ## Parts -/

/-- What holds a session.  A `Device` is its `Tun`, as far as this goes. -/
inductive Part (σ : Type) where
  | device (tun : Tun σ)
  | /-- `Reader`, which is an `Arc<Tun>`. -/ reader (tun : Arc (Tun σ))
  | /-- `Writer`, likewise. -/ writer (tun : Arc (Tun σ))
  | /-- `AsyncDevice`, which is a `Device`. -/ asyncDevice (tun : Tun σ)
  | /-- `AsyncReader`: its thread, as long as it runs, holds the session. -/
    asyncReader (session : Option (Arc σ))
  | /-- `AsyncWriter`, which is an `Arc<Device>`. -/ asyncWriter (device : Arc (Tun σ))
  | /-- What `Tun::session` returned. -/ session (session : Arc σ)

namespace Part

variable {σ : Type}

/-- Drop a part.  Dropping an `AsyncReader` joins its thread. -/
def drop : Part σ → World → World
  | .device tun | .asyncDevice tun => World.dropTun tun
  | .reader a | .writer a | .asyncWriter a => World.dropShared a
  | .asyncReader (some a) | .session a => World.dropSession a
  | .asyncReader none => id

end Part

/-- `Device::split`: the `Tun` goes into a fresh `Arc`, of which each half gets a clone; the `Arc`
itself is dropped when the function ends. -/
def Tun.split {σ : Type} (tun : Tun σ) (w : World) : (Arc (Tun σ) × Arc (Tun σ)) × World :=
  let (tun, heap) := w.heap.new tun
  let (forReader, heap) := heap.clone tun
  let (forWriter, heap) := heap.clone tun
  ((forReader, forWriter), { w with heap }.dropShared tun)

/-- `AsyncDevice::split`: the thread of the reader gets a clone of the session, and the device
goes into a fresh `Arc` for the writer. -/
def Tun.splitAsync {σ : Type} (tun : Tun σ) (w : World) : (Arc σ × Arc (Tun σ)) × World :=
  let (session, heap) := w.heap.clone tun.session
  let (device, heap) := heap.new tun
  ((session, device), { w with heap })

/-! ## Programs -/

/-- The parts of a program that hold a session. -/
structure Sharing (σ : Type) where
  parts : List (Part σ)
  world : World

/-- What a program does with one of its parts. -/
inductive Sharing.Action where
  | /-- `Device::split`. -/ split
  | /-- `AsyncDevice::new`. -/ asyncNew
  | /-- `AsyncDevice::split`. -/ asyncSplit
  | /-- `Tun::session`, and cloning what it returned. -/ session
  | /-- `AsyncWriter::clone`. -/ clone
  | /-- The thread of an `AsyncReader` ends. -/ threadEnds
  | /-- Drop it. -/ drop
deriving DecidableEq, Repr

/-- One action of a program, on any of its parts. -/
inductive Sharing.Step {σ : Type} : Sharing σ → Sharing.Action → Sharing σ → Prop
  | split {l₁ l₂ : List (Part σ)} {tun : Tun σ} {r x : Arc (Tun σ)} {w w' : World} :
      tun.split w = ((r, x), w') →
        Step ⟨l₁ ++ .device tun :: l₂, w⟩ .split ⟨l₁ ++ .reader r :: .writer x :: l₂, w'⟩
  | asyncNew {l₁ l₂ : List (Part σ)} {tun : Tun σ} {w : World} :
      Step ⟨l₁ ++ .device tun :: l₂, w⟩ .asyncNew ⟨l₁ ++ .asyncDevice tun :: l₂, w⟩
  | asyncSplit {l₁ l₂ : List (Part σ)} {tun : Tun σ} {r : Arc σ} {x : Arc (Tun σ)} {w w' : World} :
      tun.splitAsync w = ((r, x), w') →
        Step ⟨l₁ ++ .asyncDevice tun :: l₂, w⟩ .asyncSplit
          ⟨l₁ ++ .asyncReader (some r) :: .asyncWriter x :: l₂, w'⟩
  | /-- The event or the thread of the reader cannot be made, which panics and drops the device. -/
    asyncSplitPanics {l₁ l₂ : List (Part σ)} {tun : Tun σ} {w : World} :
      Step ⟨l₁ ++ .asyncDevice tun :: l₂, w⟩ .asyncSplit ⟨l₁ ++ l₂, w.dropTun tun⟩
  | session {l₁ l₂ : List (Part σ)} {p : Part σ} {a a' : Arc σ} {w : World} {heap : Heap} :
      (p = .device ⟨a⟩ ∨ p = .asyncDevice ⟨a⟩ ∨ p = .session a) → w.heap.clone a = (a', heap) →
        Step ⟨l₁ ++ p :: l₂, w⟩ .session ⟨l₁ ++ p :: .session a' :: l₂, { w with heap }⟩
  | clone {l₁ l₂ : List (Part σ)} {a a' : Arc (Tun σ)} {w : World} {heap : Heap} :
      w.heap.clone a = (a', heap) →
        Step ⟨l₁ ++ .asyncWriter a :: l₂, w⟩ .clone
          ⟨l₁ ++ .asyncWriter a :: .asyncWriter a' :: l₂, { w with heap }⟩
  | threadEnds {l₁ l₂ : List (Part σ)} {a : Arc σ} {w : World} :
      Step ⟨l₁ ++ .asyncReader (some a) :: l₂, w⟩ .threadEnds
        ⟨l₁ ++ .asyncReader none :: l₂, w.dropSession a⟩
  | drop {l₁ l₂ : List (Part σ)} {p : Part σ} {w : World} :
      Step ⟨l₁ ++ p :: l₂, w⟩ .drop ⟨l₁ ++ l₂, p.drop w⟩

/-- A device that was just built: its session was started, and is in a fresh `Arc`. -/
inductive Sharing.Built {σ : Type} : Sharing σ → Prop
  | device (session : σ) (heap : Heap) :
      Built ⟨[.device ⟨(heap.new session).1⟩], ⟨(heap.new session).2, [.started]⟩⟩

/-- Programs that share a device. -/
def sharings (σ : Type) : System (Sharing σ) Sharing.Action where
  init := Sharing.Built
  step := Sharing.Step

/-! ## What is held -/

/-- How a part holds the `Tun`. -/
inductive Hold (σ : Type) where
  | whole (tun : Tun σ)
  | shared (tun : Arc (Tun σ))

namespace Part

variable {σ : Type}

/-- How a part holds the `Tun`, if it does. -/
def tuns : Part σ → List (Hold σ)
  | .device tun | .asyncDevice tun => [.whole tun]
  | .reader a | .writer a | .asyncWriter a => [.shared a]
  | .asyncReader _ | .session _ => []

/-- The handle of the session that a part has besides. -/
def sessions : Part σ → List (Arc σ)
  | .asyncReader (some a) | .session a => [a]
  | .asyncReader none | .device _ | .reader _ | .writer _ | .asyncDevice _ | .asyncWriter _ => []

end Part

/-- What must have become of a session by the time that some part has the `Tun`, or has none, and
that some part holds the session besides, or none does. -/
def record : Bool → Bool → List SessionEvent
  | true, _ => [.started]
  | false, true => [.started, .shutdown]
  | false, false => [.started, .shutdown, .ended]

variable {σ : Type} {S : Arc σ} {tuns : List (Hold σ)} {sessions : List (Arc σ)} {w : World}

/-- The `Tun` over the session `S` is held by one part, or shared by those that hold it, or
gone. -/
inductive Shape (S : Arc σ) : List (Hold σ) → Heap → Prop
  | whole {tun : Tun σ} {h : Heap} : tun.session = S → Shape S [.whole tun] h
  | shared {tuns : List (Hold σ)} {a : Arc (Tun σ)} {h : Heap} :
      (∀ x ∈ tuns, x = .shared a) → tuns ≠ [] → h.strong a.cell = tuns.length →
        a.val.session = S → a.cell ≠ S.cell → Shape S tuns h
  | gone {h : Heap} : Shape S [] h

/-- What holds of what is held: the session is counted once for the `Tun` and once for every other
handle, and what has become of it is what must have. -/
structure Inv (S : Arc σ) (tuns : List (Hold σ)) (sessions : List (Arc σ)) (w : World) :
    Prop where
  shape : Shape S tuns w.heap
  same : ∀ a ∈ sessions, a = S
  strong : w.heap.strong S.cell = sessions.length + if tuns = [] then 0 else 1
  used : S.cell < w.heap.next
  log : w.log = record (!tuns.isEmpty) (!sessions.isEmpty)

namespace World

/-- Dropping a session that others hold lowers the count. -/
theorem dropSession_of_ne (h : w.heap.strong S.cell ≠ 1) :
    w.dropSession S = { w with heap := (w.heap.intoInner S).2 } :=
  Heap.release_of_strong_ne_one _ _ h

/-- Dropping one that nobody else holds ends it. -/
theorem dropSession_of_eq (h : w.heap.strong S.cell = 1) :
    w.dropSession S = { heap := (w.heap.intoInner S).2, log := w.log ++ [.ended] } :=
  Heap.release_of_strong_eq_one _ _ h

end World

/-- Counts of other cells say nothing about who has the `Tun`. -/
theorem Shape.congr_heap {h h' : Heap} (hshape : Shape S tuns h)
    (heq : ∀ c, c ≠ S.cell → h'.strong c = h.strong c) : Shape S tuns h' := by
  cases hshape with
  | whole hsession => exact .whole hsession
  | shared hall hne hstrong hsession hcell =>
      exact .shared hall hne ((heq _ hcell).trans hstrong) hsession hcell
  | gone => exact .gone

/-- A part that holds the `Tun` alone holds one over the session. -/
theorem Shape.session_of_whole {tun : Tun σ} {h : Heap} (hshape : Shape S (.whole tun :: tuns) h) :
    tun.session = S := by
  cases hshape with
  | whole hsession => exact hsession
  | shared hall => cases hall _ List.mem_cons_self

/-- No other part holds it then. -/
theorem Shape.eq_nil_of_whole {tun : Tun σ} {h : Heap} (hshape : Shape S (.whole tun :: tuns) h) :
    tuns = [] := by
  cases hshape with
  | whole hsession => rfl
  | shared hall => cases hall _ List.mem_cons_self

/-- The order does not matter. -/
theorem Shape.perm {tuns' : List (Hold σ)} {h : Heap} (hshape : Shape S tuns h)
    (hp : tuns.Perm tuns') : Shape S tuns' h := by
  cases hshape with
  | whole hsession =>
      rw [← List.singleton_perm.1 hp]
      exact .whole hsession
  | shared hall hne hstrong hsession hcell =>
      refine .shared (fun x hx ↦ hall x (hp.mem_iff.2 hx)) ?_ (hstrong.trans hp.length_eq) hsession
        hcell
      rintro rfl
      exact hne hp.eq_nil
  | gone =>
      rw [List.nil_perm.1 hp]
      exact .gone

namespace Inv

/-- Dropping a handle of the session. -/
theorem dropSession {a : Arc σ} (h : Inv S tuns (a :: sessions) w) :
    Inv S tuns sessions (w.dropSession a) := by
  obtain rfl : a = S := h.same a List.mem_cons_self
  have hsessions : ∀ b ∈ sessions, b = a := fun b hb ↦ h.same b (List.mem_cons_of_mem _ hb)
  have hshape : Shape a tuns (w.heap.intoInner a).2 :=
    h.shape.congr_heap fun c hc ↦ Heap.strong_intoInner_of_ne _ hc
  have hstrong : (w.heap.intoInner a).2.strong a.cell =
      sessions.length + if tuns = [] then 0 else 1 := by
    rw [Heap.strong_intoInner, h.strong, List.length_cons]
    omega
  by_cases hone : w.heap.strong a.cell = 1
  · -- It was the last: there is neither a `Tun` nor another handle.
    have hcount := h.strong
    rw [hone, List.length_cons] at hcount
    have htuns : tuns = [] := by
      by_contra hne
      rw [if_neg hne] at hcount
      omega
    have hnil : sessions = [] := by
      rw [← List.length_eq_zero_iff]
      omega
    subst htuns hnil
    rw [World.dropSession_of_eq hone]
    exact ⟨hshape, hsessions, hstrong, h.used, by rw [h.log]; rfl⟩
  · rw [World.dropSession_of_ne hone]
    refine ⟨hshape, hsessions, hstrong, h.used, ?_⟩
    have hlog : w.log = record (!tuns.isEmpty) true := h.log
    show w.log = _
    rw [hlog]
    cases htuns : tuns with
    | cons x l => rfl
    | nil =>
        have hne : sessions ≠ [] := by
          rintro rfl
          rw [htuns] at h
          exact hone h.strong
        rw [List.isEmpty_eq_false_iff.2 hne]
        rfl

/-- Dropping the `Tun` shuts the session down, and is from then on like dropping one more handle
of it. -/
theorem dropTun {tun : Tun σ} (h : Inv S [.whole tun] sessions w) :
    Inv S [] sessions (w.dropTun tun) := by
  have hsession : tun.session = S := h.shape.session_of_whole
  have hnote : Inv S [] (tun.session :: sessions) (w.note .shutdown) := by
    refine ⟨.gone, List.forall_mem_cons.2 ⟨hsession, h.same⟩, h.strong, h.used, ?_⟩
    show w.log ++ [.shutdown] = _
    rw [h.log]
    rfl
  exact hnote.dropSession

/-- Dropping one of those that share the `Tun`. -/
theorem dropShared {a : Arc (Tun σ)} (h : Inv S (.shared a :: tuns) sessions w) :
    Inv S tuns sessions (w.dropShared a) := by
  cases hshape : h.shape with
  | @shared _ b _ hall hne hstrong hsession hcell =>
      cases hall _ List.mem_cons_self
      have hrest : ∀ x ∈ tuns, x = .shared a := fun x hx ↦ hall x (List.mem_cons_of_mem _ hx)
      have hcount : (w.heap.intoInner a).2.strong S.cell = w.heap.strong S.cell :=
        Heap.strong_intoInner_of_ne _ hcell.symm
      by_cases hnil : tuns = []
      · subst hnil
        have hwhole : Inv S [.whole a.val] sessions
            { w with heap := (w.heap.intoInner a).2 } :=
          ⟨.whole hsession, h.same, hcount.trans h.strong, h.used, h.log⟩
        have heq : w.dropShared a =
            ({ w with heap := (w.heap.intoInner a).2 } : World).dropTun a.val :=
          Heap.release_of_strong_eq_one _ _ hstrong
        rw [heq]
        exact hwhole.dropTun
      · have hlength : tuns.length ≠ 0 := fun h ↦ hnil (List.length_eq_zero_iff.1 h)
        have heq : w.dropShared a = { w with heap := (w.heap.intoInner a).2 } := by
          refine Heap.release_of_strong_ne_one _ _ ?_
          rw [hstrong, List.length_cons]
          omega
        have hlog : w.log = [.started] := h.log
        rw [heq]
        refine ⟨.shared hrest hnil ?_ hsession hcell, h.same, ?_, h.used, ?_⟩
        · rw [Heap.strong_intoInner, hstrong, List.length_cons, Nat.add_sub_cancel]
        · rw [if_neg hnil]
          exact hcount.trans h.strong
        · show w.log = _
          rw [hlog, List.isEmpty_eq_false_iff.2 hnil]
          rfl

/-- Splitting a device leaves two that share its `Tun`. -/
theorem split {tun : Tun σ} {r x : Arc (Tun σ)} {w' : World} (h : Inv S [.whole tun] sessions w)
    (hsplit : tun.split w = ((r, x), w')) : Inv S [.shared r, .shared x] sessions w' := by
  let a := (w.heap.new tun).1
  let h₃ := (((w.heap.new tun).2.clone a).2.clone a).2
  have hcell : a.cell ≠ S.cell := Nat.ne_of_gt h.used
  have hsession : tun.session = S := h.shape.session_of_whole
  have hthree : h₃.strong a.cell = 3 := by
    rw [Heap.strong_clone, Heap.strong_clone, Heap.strong_new]
  have hothers : (h₃.intoInner a).2.strong S.cell = w.heap.strong S.cell := by
    rw [Heap.strong_intoInner_of_ne _ hcell.symm, Heap.strong_clone_of_ne _ hcell.symm,
      Heap.strong_clone_of_ne _ hcell.symm, Heap.strong_new_of_lt tun h.used]
  have hne : h₃.strong a.cell ≠ 1 := by rw [hthree]; decide
  have hdrop : ({ w with heap := h₃ } : World).dropShared a =
      { w with heap := (h₃.intoInner a).2 } := Heap.release_of_strong_ne_one _ _ hne
  have hworld : tun.split w = ((a, a), { w with heap := (h₃.intoInner a).2 }) :=
    congrArg (Prod.mk (a, a)) hdrop
  rw [hworld, Prod.mk.injEq, Prod.mk.injEq] at hsplit
  obtain ⟨⟨rfl, rfl⟩, rfl⟩ := hsplit
  refine ⟨.shared (a := a) ?_ (List.cons_ne_nil _ _) ?_ hsession hcell, h.same, ?_, ?_, h.log⟩
  · exact List.forall_mem_cons.2 ⟨rfl, List.forall_mem_singleton.2 rfl⟩
  · rw [Heap.strong_intoInner, hthree]
    rfl
  · exact hothers.trans h.strong
  · exact Nat.lt_succ_of_lt h.used

/-- Splitting an asynchronous device leaves one that has its `Tun`, and a handle of the session. -/
theorem splitAsync {tun : Tun σ} {r : Arc σ} {x : Arc (Tun σ)} {w' : World}
    (h : Inv S [.whole tun] sessions w) (hsplit : tun.splitAsync w = ((r, x), w')) :
    Inv S [.shared x] (r :: sessions) w' := by
  have hsession : tun.session = S := h.shape.session_of_whole
  cases hsplit
  have hcell : w.heap.next ≠ S.cell := Nat.ne_of_gt h.used
  refine ⟨.shared (List.forall_mem_singleton.2 rfl) (List.cons_ne_nil _ _) ?_ hsession hcell,
    List.forall_mem_cons.2 ⟨hsession, h.same⟩, ?_, Nat.lt_succ_of_lt h.used, h.log⟩
  · exact Heap.strong_new tun _
  · show ((w.heap.clone tun.session).2.new tun).2.strong S.cell = _
    have hused : S.cell < (w.heap.clone tun.session).2.next := h.used
    rw [Heap.strong_new_of_lt tun hused, hsession, Heap.strong_clone, h.strong, List.length_cons]
    rfl

/-- A clone of the session is one more handle. -/
theorem cloneSession {a' : Arc σ} {heap : Heap} (h : Inv S tuns sessions w)
    (hheld : tuns ≠ [] ∨ sessions ≠ []) (hclone : w.heap.clone S = (a', heap)) :
    Inv S tuns (a' :: sessions) { w with heap } := by
  cases hclone
  refine ⟨h.shape.congr_heap fun c hc ↦ Heap.strong_clone_of_ne _ hc,
    List.forall_mem_cons.2 ⟨rfl, h.same⟩, ?_, h.used, ?_⟩
  · show (w.heap.clone S).2.strong S.cell = _
    rw [Heap.strong_clone, h.strong, List.length_cons]
    omega
  · show w.log = _
    rw [h.log]
    cases tuns with
    | cons x l => rfl
    | nil =>
        rcases hheld with hne | hne
        · exact absurd rfl hne
        · rw [List.isEmpty_eq_false_iff.2 hne]
          rfl

/-- A clone of a writer is one more that shares the `Tun`. -/
theorem cloneShared {a a' : Arc (Tun σ)} {heap : Heap} (h : Inv S (.shared a :: tuns) sessions w)
    (hclone : w.heap.clone a = (a', heap)) :
    Inv S (.shared a :: .shared a' :: tuns) sessions { w with heap } := by
  cases hclone
  cases hshape : h.shape with
  | @shared _ b _ hall hne hstrong hsession hcell =>
      cases hall _ List.mem_cons_self
      refine ⟨.shared (List.forall_mem_cons.2 ⟨rfl, hall⟩) (List.cons_ne_nil _ _) ?_ hsession hcell,
        h.same, ?_, h.used, h.log⟩
      · show (w.heap.clone a).2.strong a.cell = _
        rw [Heap.strong_clone, hstrong, List.length_cons, List.length_cons, List.length_cons]
      · exact (Heap.strong_clone_of_ne _ hcell.symm).trans h.strong

/-- The order of what is held does not matter. -/
theorem perm {tuns' : List (Hold σ)} {sessions' : List (Arc σ)} (h : Inv S tuns sessions w)
    (ht : tuns.Perm tuns') (hs : sessions.Perm sessions') : Inv S tuns' sessions' w where
  shape := h.shape.perm ht
  same := fun a ha ↦ h.same a (hs.mem_iff.2 ha)
  strong := by
    have hnil : tuns' = [] ↔ tuns = [] :=
      ⟨fun heq ↦ (heq ▸ ht).eq_nil, fun heq ↦ (heq ▸ ht.symm).eq_nil⟩
    rw [h.strong, hs.length_eq]
    simp only [hnil]
  used := h.used
  log := by rw [h.log, ht.isEmpty_eq, hs.isEmpty_eq]

end Inv

/-! ## Runs -/

/-- What holds of the parts of a program. -/
def Sharing.Inv (S : Arc σ) (s : Sharing σ) : Prop :=
  Windows.Inv S (s.parts.flatMap Part.tuns) (s.parts.flatMap Part.sessions) s.world

namespace Sharing

variable {s t : Sharing σ} {a : Action} {l₁ l₂ : List (Part σ)} {p : Part σ} {w' : World}

/-- One part is in front, and is looked at by itself. -/
theorem Inv.front (h : Sharing.Inv S ⟨l₁ ++ p :: l₂, w⟩) :
    Windows.Inv S (p.tuns ++ (l₁ ++ l₂).flatMap Part.tuns)
      (p.sessions ++ (l₁ ++ l₂).flatMap Part.sessions) w :=
  Windows.Inv.perm h (List.perm_middle.flatMap_right Part.tuns)
    (List.perm_middle.flatMap_right Part.sessions)

/-- Others are put in its place. -/
theorem Inv.of_front (new : List (Part σ))
    (h : Windows.Inv S (new.flatMap Part.tuns ++ (l₁ ++ l₂).flatMap Part.tuns)
      (new.flatMap Part.sessions ++ (l₁ ++ l₂).flatMap Part.sessions) w') :
    Sharing.Inv S ⟨l₁ ++ (new ++ l₂), w'⟩ := by
  have hperm : (new ++ (l₁ ++ l₂)).Perm (l₁ ++ (new ++ l₂)) := List.perm_append_comm_assoc _ _ _
  refine Windows.Inv.perm h ?_ ?_
  · rw [← List.flatMap_append]
    exact hperm.flatMap_right Part.tuns
  · rw [← List.flatMap_append]
    exact hperm.flatMap_right Part.sessions

/-- A part that has the `Tun` to itself is the only one that has it. -/
theorem Inv.front_whole {tun : Tun σ} (h : Sharing.Inv S ⟨l₁ ++ p :: l₂, w⟩)
    (hp : p.tuns = [.whole tun]) : (l₁ ++ l₂).flatMap Part.tuns = [] ∧
      Windows.Inv S [.whole tun] (p.sessions ++ (l₁ ++ l₂).flatMap Part.sessions) w := by
  have hfront := Inv.front h
  rw [hp, List.singleton_append] at hfront
  have hnil : (l₁ ++ l₂).flatMap Part.tuns = [] := hfront.shape.eq_nil_of_whole
  rw [hnil] at hfront
  exact ⟨hnil, hfront⟩

/-- **One step** keeps the account. -/
theorem Step.inv (hstep : Step s a t) (hs : s.Inv S) : t.Inv S := by
  cases hstep with
  | @split l₁ l₂ tun r x w w' hsplit =>
      obtain ⟨hnil, hwhole⟩ := hs.front_whole rfl
      refine Inv.of_front [.reader r, .writer x] ?_
      rw [hnil]
      exact hwhole.split hsplit
  | @asyncNew l₁ l₂ tun w =>
      exact Inv.of_front [.asyncDevice tun] hs.front
  | @asyncSplit l₁ l₂ tun r x w w' hsplit =>
      obtain ⟨hnil, hwhole⟩ := hs.front_whole rfl
      refine Inv.of_front [.asyncReader (some r), .asyncWriter x] ?_
      rw [hnil]
      exact hwhole.splitAsync hsplit
  | @asyncSplitPanics l₁ l₂ tun w =>
      obtain ⟨hnil, hwhole⟩ := hs.front_whole rfl
      refine Inv.of_front [] ?_
      rw [hnil]
      exact hwhole.dropTun
  | @session l₁ l₂ p a a' w heap hp hclone =>
      refine Inv.of_front [p, .session a'] ?_
      have hfront := hs.front
      rcases hp with rfl | rfl | rfl
      · obtain rfl : a = S := hfront.shape.session_of_whole
        exact hfront.cloneSession (.inl (List.cons_ne_nil _ _)) hclone
      · obtain rfl : a = S := hfront.shape.session_of_whole
        exact hfront.cloneSession (.inl (List.cons_ne_nil _ _)) hclone
      · obtain rfl : a = S := hfront.same a List.mem_cons_self
        have hcloned := hfront.cloneSession (.inr (List.cons_ne_nil _ _)) hclone
        exact hcloned.perm (.refl _) (.swap _ _ _)
  | @clone l₁ l₂ a a' w heap hclone =>
      exact Inv.of_front [.asyncWriter a, .asyncWriter a'] (hs.front.cloneShared hclone)
  | @threadEnds l₁ l₂ a w =>
      exact Inv.of_front [.asyncReader none] hs.front.dropSession
  | @drop l₁ l₂ p w =>
      refine Inv.of_front [] ?_
      cases p with
      | device tun | asyncDevice tun =>
          obtain ⟨hnil, hwhole⟩ := hs.front_whole rfl
          rw [hnil]
          exact hwhole.dropTun
      | reader a | writer a | asyncWriter a => exact hs.front.dropShared
      | session a => exact hs.front.dropSession
      | asyncReader session =>
          cases session with
          | none => exact hs.front
          | some a => exact hs.front.dropSession

/-- What was just built is one device. -/
theorem Built.inv (hs : Built s) : ∃ S, s.Inv S := by
  cases hs with
  | device session heap =>
      refine ⟨(heap.new session).1, ?_⟩
      have hstrong : (heap.new session).2.strong (heap.new session).1.cell = 1 :=
        Heap.strong_new session heap
      exact ⟨.whole rfl, List.forall_mem_nil _, hstrong, Nat.lt_succ_self _, rfl⟩

end Sharing

namespace Part

/-- It has the `Tun`, by itself or with others. -/
def hasTun : Part σ → Bool
  | .device _ | .reader _ | .writer _ | .asyncDevice _ | .asyncWriter _ => true
  | .asyncReader _ | .session _ => false

/-- It has the session besides the `Tun`. -/
def hasSession : Part σ → Bool
  | .asyncReader (some _) | .session _ => true
  | .asyncReader none | .device _ | .reader _ | .writer _ | .asyncDevice _ | .asyncWriter _ => false

theorem hasTun_eq (p : Part σ) : p.hasTun = !p.tuns.isEmpty := by
  cases p <;> rfl

theorem hasSession_eq (p : Part σ) : p.hasSession = !p.sessions.isEmpty := by
  cases p with
  | asyncReader session => cases session <;> rfl
  | device t | reader t | writer t | asyncDevice t | asyncWriter t | session t => rfl

/-- Something is held if some part holds something. -/
theorem any_eq {α : Type} (f : Part σ → List α) (parts : List (Part σ)) :
    parts.any (fun p ↦ !(f p).isEmpty) = !(parts.flatMap f).isEmpty := by
  induction parts with
  | nil => rfl
  | cons p parts ih =>
      rw [List.any_cons, ih, List.flatMap_cons]
      cases f p <;> rfl

end Part

/-- The account says what has become of the session. -/
theorem Sharing.Inv.log_eq_record {s : Sharing σ} (hs : s.Inv S) :
    s.world.log = record (s.parts.any Part.hasTun) (s.parts.any Part.hasSession) := by
  rw [funext Part.hasTun_eq, funext Part.hasSession_eq, Part.any_eq, Part.any_eq]
  exact hs.log

/-- **The lifetime of a session.**  In every state that a program can reach with a device: its
session is as it was started as long as some part has the `Tun`; it was shut down, once, if none
has; and it has ended, once and after that, if nobody has the session either. -/
theorem session_lifetime (s : Sharing σ) (h : (sharings σ).Reach s) :
    s.world.log = record (s.parts.any Part.hasTun) (s.parts.any Part.hasSession) := by
  have hinv : ∃ S, s.Inv S := by
    refine h.invariant (I := fun s ↦ ∃ S, s.Inv S) (fun _ hs ↦ Sharing.Built.inv hs)
      fun s a t hs hstep ↦ ?_
    obtain ⟨S, hs⟩ := hs
    exact ⟨S, Sharing.Step.inv hstep hs⟩
  obtain ⟨S, hs⟩ := hinv
  exact hs.log_eq_record

/-- An asynchronous device is split, and its writer is dropped: the reader is left with a session
that was shut down.  Dropping the reader ends it. -/
theorem session_lifetime_reader : ∃ s t, (sharings Unit).Reach s ∧ (sharings Unit).Reach t ∧
    s.parts.length = 1 ∧ t.parts = [] ∧
    s.world.log = [.started, .shutdown] ∧ t.world.log = [.started, .shutdown, .ended] := by
  let built := Heap.new () { next := 0, strong := fun _ ↦ 0 }
  let tun : Tun Unit := ⟨built.1⟩
  let w : World := ⟨built.2, [.started]⟩
  let r := (tun.splitAsync w).1.1
  let x := (tun.splitAsync w).1.2
  let w₁ := (tun.splitAsync w).2
  have hbuilt : Sharing.Built (σ := Unit) ⟨[] ++ [.device tun], w⟩ := .device () _
  have hnew : Sharing.Step ⟨[] ++ [.device tun], w⟩ .asyncNew ⟨[] ++ [.asyncDevice tun], w⟩ :=
    .asyncNew
  have hsplit : Sharing.Step ⟨[] ++ [.asyncDevice tun], w⟩ .asyncSplit
      ⟨[] ++ [.asyncReader (some r), .asyncWriter x], w₁⟩ := .asyncSplit rfl
  have hwriter : Sharing.Step ⟨[.asyncReader (some r)] ++ [.asyncWriter x], w₁⟩ .drop
      ⟨[.asyncReader (some r)] ++ [], (Part.asyncWriter x).drop w₁⟩ := .drop
  have hreader (v : World) : Sharing.Step ⟨[] ++ [.asyncReader (some r)], v⟩ .drop
      ⟨[] ++ [], (Part.asyncReader (some r)).drop v⟩ := .drop
  have hs : (sharings Unit).Reach _ :=
    .step _ (.step _ (.step _ (.init hbuilt) hnew) hsplit) hwriter
  have ht : (sharings Unit).Reach _ := .step _ hs (hreader _)
  exact ⟨_, _, hs, ht, rfl, rfl, session_lifetime _ hs, session_lifetime _ ht⟩

end RustTun.Windows
