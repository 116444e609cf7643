import RustTun.Base.Channel
import RustTun.Base.Run
import RustTun.Windows.Tun

/-!
# The Windows `AsyncReader`

A thread of its own moves packets from the session to a channel of 1024 packets.  It
waits for the read event of the session or for the cancel event of the reader, and after
the former moves packets until the session has no more.  The owner of the reader polls the
receiving end of the channel.  Dropping the reader sets the cancel event, joins the
thread, closes the event, and only then drops the receiving end.

The thread can block in two places.  It waits for both events at once, but while it sends
to a full channel it waits for the receiving end only.
-/

namespace RustTun.Windows

open Readiness Scatter Transition

/-! ## The session, as the thread uses it -/

/-- `Session::try_receive`, when it does not fail. -/
def Session.tryReceive (s : Session) : Option Buf × Session :=
  match s.inbound with
  | packet :: rest => (some packet, { s with inbound := rest })
  | [] => (none, s)

/-! ## The reader -/

/-- The capacity of the channel, `1 << 10`. -/
def channelCapacity : Nat := 1 <<< 10

/-- Where the thread is. -/
inductive Thread where
  | /-- About to ask for the read event. -/ starting
  | /-- In `WaitForMultipleObjects`. -/ waiting
  | /-- About to call `try_receive`. -/ draining
  | /-- In `blocking_send`. -/ sending (packet : Buf)
  | finished
deriving DecidableEq, Repr

/-- The packet in the hand of the thread. -/
def Thread.hand : Thread → List Buf
  | .sending packet => [packet]
  | .starting | .waiting | .draining | .finished => []

/-- How far the owner is with the reader. -/
inductive Owner where
  | /-- Polls as it likes. -/ live
  | /-- In `drop`, waiting for the thread to end. -/ joining
  | /-- In `drop`, about to close the cancel event. -/ joined
  | /-- Behind the body of `drop`, about to drop the fields. -/ closed
  | dropped
deriving DecidableEq, Repr

/-- A reader, its thread and the session. -/
structure AsyncReader where
  session : Session
  /-- The read event of the session is set. -/
  readEvent : Bool
  /-- The cancel event is set; it is one that stays set. -/
  cancel : Bool
  thread : Thread
  chan : Channel Buf channelCapacity
  owner : Owner
  /-- The packets taken from the session so far, oldest first. -/
  taken : List Buf
  /-- The packets that polls have returned so far, oldest first. -/
  delivered : List Buf

namespace AsyncReader

/-- `AsyncReader::new`. -/
def new (session : Session) (readEvent : Bool) : AsyncReader :=
  { session, readEvent, cancel := false, thread := .starting, chan := .initial _ _, owner := .live
    taken := [], delivered := [] }

/-- The thread returns, and drops the sending end of the channel. -/
def finish (s : AsyncReader) : AsyncReader :=
  { s with thread := .finished, chan := s.chan.dropSender }

/-- The thread makes its next step, unless it is blocked or has ended. -/
def threadStep (s : AsyncReader) : Option AsyncReader :=
  match s.thread with
  | .starting => some { s with thread := .waiting }
  | .waiting =>
    -- of two events that are set the one listed first is reported, and the wait resets it
    if s.readEvent then some { s with readEvent := false, thread := .draining }
    else if s.cancel then some s.finish
    else none
  | .draining =>
    match s.session.tryReceive with
    | (some packet, session) =>
      some { s with session, thread := .sending packet, taken := s.taken ++ [packet] }
    | (none, session) => some { s with session, thread := .waiting }
  | .sending packet =>
    match s.chan.send packet with
    | .sent chan => some { s with chan, thread := .draining }
    | .closed => some s.finish
    | .blocked => none
  | .finished => none

/-- The call that the thread is making fails: `get_read_wait_event`, the wait or
`try_receive`. -/
def threadFails (s : AsyncReader) : Option AsyncReader :=
  match s.thread with
  | .starting | .waiting | .draining => some s.finish
  | .sending _ | .finished => none

/-- `poll_recv` of the receiving end. -/
def pollRecv (s : AsyncReader) : Poll (Option Buf) × AsyncReader :=
  match s.chan.recv with
  | (.ready (some data), chan) =>
    (.ready (some data), { s with chan, delivered := s.delivered ++ [data] })
  | (.ready none, chan) => (.ready none, { s with chan })
  | (.pending, chan) => (.pending, { s with chan })

/-- `AsyncReader::poll_read`; a panic while copying is `none`. -/
def pollRead (buf : Buf) (s : AsyncReader) : Poll (Option (Nat × Buf)) × AsyncReader :=
  match s.pollRecv with
  | (.ready data, s) => (.ready (data.elim (some (0, buf)) fun data ↦ put data buf), s)
  | (.pending, s) => (.pending, s)

/-- `AsyncReader::poll_read_vectored`. -/
def pollReadVectored (bufs : List Buf) (s : AsyncReader) :
    Poll (Option (Nat × List Buf)) × AsyncReader :=
  match s.pollRecv with
  | (.ready data, s) => (.ready (data.elim (some (0, bufs)) fun data ↦ putv data bufs), s)
  | (.pending, s) => (.pending, s)

/-- What may happen next. -/
inductive Act where
  | /-- A packet arrives at the session. -/ arrive (packet : Buf)
  | /-- The read event is set. -/ signal
  | /-- The thread makes a step. -/ thread
  | /-- The call of the thread fails. -/ threadFails
  | /-- The owner polls. -/ pollRead (buf : Buf)
  | /-- The owner polls. -/ pollReadVectored (bufs : List Buf)
  | /-- The owner begins to drop the reader: `SetEvent`. -/ drop
  | /-- `join` returns. -/ join
  | /-- `CloseHandle`. -/ closeHandle
  | /-- The fields are dropped. -/ dropFields
deriving DecidableEq, Repr

/-- One step. -/
def step (s : AsyncReader) : Act → Option AsyncReader
  | .arrive packet =>
    some { s with session := { s.session with inbound := s.session.inbound ++ [packet] } }
  | .signal => some { s with readEvent := true }
  | .thread => s.threadStep
  | .threadFails => s.threadFails
  | .pollRead buf => if s.owner = .live then some (s.pollRead buf).2 else none
  | .pollReadVectored bufs => if s.owner = .live then some (s.pollReadVectored bufs).2 else none
  | .drop => if s.owner = .live then some { s with cancel := true, owner := .joining } else none
  | .join =>
    if s.owner = .joining ∧ s.thread = .finished then some { s with owner := .joined } else none
  | .closeHandle => if s.owner = .joined then some { s with owner := .closed } else none
  | .dropFields =>
    if s.owner = .closed then some { s with chan := s.chan.dropReceiver, owner := .dropped }
    else none

/-- The runs of a reader of any session. -/
def system : System AsyncReader Act where
  init s := ∃ session readEvent, s = new session readEvent
  step s a t := s.step a = some t

/-- What arrives. -/
def Act.arrived : Act → List Buf
  | .arrive packet => [packet]
  | _ => []

/-- What the owner is told in the state `s`, if it polls and the poll is ready. -/
def answers (s : AsyncReader) : Act → List (Receipt UInt8)
  | .pollRead buf =>
    match (s.pollRead buf).1 with
    | .ready (some (amount, filled)) => [{ bufs := [buf], amount, filled := [filled] }]
    | .ready none | .pending => []
  | .pollReadVectored bufs =>
    match (s.pollReadVectored bufs).1 with
    | .ready (some (amount, filled)) => [{ bufs, amount, filled }]
    | .ready none | .pending => []
  | _ => []

/-! ## What always holds -/

/-- No packet is lost, duplicated or out of order, and the ends of the channel are alive
as long as those who hold them. -/
structure Inv (s : AsyncReader) : Prop where
  order : s.owner ≠ .dropped → s.taken = s.delivered ++ s.chan.queue ++ s.thread.hand
  receiver : s.owner ≠ .dropped → s.chan.receiver = true
  sender : s.chan.sender = true ↔ s.thread ≠ .finished
  cancel : s.owner = .joining → s.cancel = true

theorem Inv.new (session : Session) (readEvent : Bool) : (new session readEvent).Inv where
  order _ := rfl
  receiver _ := rfl
  sender := ⟨fun _ ↦ (nomatch ·), fun _ ↦ rfl⟩
  cancel := (nomatch ·)

/-- Nothing is in the hand of a thread that returns, unless nobody can receive. -/
theorem Inv.finish {s : AsyncReader} (hs : s.Inv)
    (hhand : s.owner ≠ .dropped → s.thread.hand = []) : s.finish.Inv where
  order ho := by
    have horder := hs.order ho
    rw [hhand ho] at horder
    exact horder
  receiver := hs.receiver
  sender := ⟨(nomatch ·), fun h ↦ absurd rfl h⟩
  cancel := hs.cancel

/-- A step of the thread keeps the invariant. -/
theorem Inv.threadStep {s t : AsyncReader} (hs : s.Inv) (h : s.threadStep = some t) : t.Inv := by
  unfold AsyncReader.threadStep at h
  cases hthread : s.thread with
  | starting =>
      simp only [hthread, Option.some.injEq] at h
      subst h
      exact ⟨fun ho ↦ by simpa [hthread, Thread.hand] using hs.order ho, hs.receiver,
        by simpa [hthread] using hs.sender, hs.cancel⟩
  | waiting =>
      simp only [hthread] at h
      split at h
      · cases h
        exact ⟨fun ho ↦ by simpa [hthread, Thread.hand] using hs.order ho, hs.receiver,
          by simpa [hthread] using hs.sender, hs.cancel⟩
      · split at h
        · cases h
          exact hs.finish fun _ ↦ by rw [hthread]; rfl
        · cases h
  | draining =>
      simp only [hthread] at h
      split at h
      · rename_i packet session hreceive
        cases h
        refine ⟨fun ho ↦ ?_, hs.receiver, by simpa [hthread] using hs.sender, hs.cancel⟩
        have horder := hs.order ho
        rw [hthread] at horder
        simp only [Thread.hand, List.append_nil] at horder ⊢
        rw [horder]
      · cases h
        exact ⟨fun ho ↦ by simpa [hthread, Thread.hand] using hs.order ho, hs.receiver,
          by simpa [hthread] using hs.sender, hs.cancel⟩
  | sending packet =>
      simp only [hthread] at h
      split at h
      · rename_i chan hsend
        cases h
        obtain ⟨-, hqueue, hreceiver, hsender⟩ := Channel.send_eq_sent hsend
        refine ⟨fun ho ↦ ?_, fun ho ↦ hreceiver.trans (hs.receiver ho), ?_, hs.cancel⟩
        · have horder := hs.order ho
          rw [hthread] at horder
          simp only [Thread.hand, List.append_nil] at horder ⊢
          rw [horder, hqueue, List.append_assoc]
        · simpa [hthread, hsender] using hs.sender
      · rename_i hsend
        cases h
        apply hs.finish
        intro ho
        rw [Channel.send_eq_closed_iff, hs.receiver ho] at hsend
        cases hsend
      · cases h
  | finished =>
      simp only [hthread] at h
      cases h

/-- What a poll of the receiving end does. -/
theorem pollRecv_cases (s : AsyncReader) :
    (∃ data rest, s.chan.queue = data :: rest ∧
        s.pollRecv = (.ready (some data),
          { s with chan := s.chan.pop, delivered := s.delivered ++ [data] })) ∨
      (s.chan.queue = [] ∧ s.chan.sender = false ∧ s.pollRecv = (.ready none, s)) ∨
      (s.chan.queue = [] ∧ s.chan.sender = true ∧ s.pollRecv = (.pending, s)) := by
  rw [pollRecv]
  rcases s.chan.recv_cases with ⟨x, rest, hqueue, hrecv⟩ | ⟨hqueue, hsender, hrecv⟩ |
    ⟨hqueue, hsender, hrecv⟩
  · rw [hrecv]
    exact .inl ⟨x, rest, hqueue, rfl⟩
  · rw [hrecv]
    exact .inr (.inl ⟨hqueue, hsender, rfl⟩)
  · rw [hrecv]
    exact .inr (.inr ⟨hqueue, hsender, rfl⟩)

/-- A poll leaves the owner where it is. -/
@[simp] theorem owner_pollRecv (s : AsyncReader) : s.pollRecv.2.owner = s.owner := by
  rcases s.pollRecv_cases with ⟨_, _, -, hpoll⟩ | ⟨-, -, hpoll⟩ | ⟨-, -, hpoll⟩ <;> rw [hpoll]

/-- A poll keeps the invariant. -/
theorem Inv.pollRecv {s : AsyncReader} (hs : s.Inv) : s.pollRecv.2.Inv := by
  rcases s.pollRecv_cases with ⟨data, rest, hqueue, hpoll⟩ | ⟨-, -, hpoll⟩ | ⟨-, -, hpoll⟩
  · rw [hpoll]
    refine ⟨fun ho ↦ ?_, hs.receiver, hs.sender, hs.cancel⟩
    have horder := hs.order ho
    rw [hqueue] at horder
    simpa [Channel.pop, hqueue] using horder
  · rw [hpoll]
    exact hs
  · rw [hpoll]
    exact hs

/-- Polls into one buffer and into several do the same to the reader. -/
@[simp] theorem pollRead_snd (buf : Buf) (s : AsyncReader) : (s.pollRead buf).2 = s.pollRecv.2 := by
  rw [pollRead]
  rcases s.pollRecv with ⟨_ | _, t⟩ <;> rfl

@[simp] theorem pollReadVectored_snd (bufs : List Buf) (s : AsyncReader) :
    (s.pollReadVectored bufs).2 = s.pollRecv.2 := by
  rw [pollReadVectored]
  rcases s.pollRecv with ⟨_ | _, t⟩ <;> rfl

/-- **Every step keeps the invariant.** -/
theorem Inv.step {s t : AsyncReader} {a : Act} (hs : s.Inv) (h : s.step a = some t) : t.Inv := by
  cases a with
  | arrive packet =>
      cases h
      exact ⟨hs.order, hs.receiver, hs.sender, hs.cancel⟩
  | signal =>
      cases h
      exact ⟨hs.order, hs.receiver, hs.sender, hs.cancel⟩
  | thread => exact hs.threadStep h
  | threadFails =>
      simp only [AsyncReader.step, threadFails] at h
      split at h <;> cases h <;> rename_i hthread <;>
        exact hs.finish fun _ ↦ by rw [hthread]; rfl
  | pollRead buf =>
      simp only [AsyncReader.step] at h
      split at h <;> cases h
      rw [pollRead_snd]
      exact hs.pollRecv
  | pollReadVectored bufs =>
      simp only [AsyncReader.step] at h
      split at h <;> cases h
      rw [pollReadVectored_snd]
      exact hs.pollRecv
  | drop =>
      simp only [AsyncReader.step] at h
      split at h <;> cases h
      rename_i hlive
      have hne : s.owner ≠ .dropped := fun hc ↦ nomatch hc.symm.trans hlive
      exact ⟨fun _ ↦ hs.order hne, fun _ ↦ hs.receiver hne, hs.sender, fun _ ↦ rfl⟩
  | join =>
      simp only [AsyncReader.step] at h
      split at h <;> cases h
      rename_i hjoin
      have hne : s.owner ≠ .dropped := fun hc ↦ nomatch hc.symm.trans hjoin.1
      exact ⟨fun _ ↦ hs.order hne, fun _ ↦ hs.receiver hne, hs.sender, (nomatch ·)⟩
  | closeHandle =>
      simp only [AsyncReader.step] at h
      split at h <;> cases h
      rename_i hjoined
      have hne : s.owner ≠ .dropped := fun hc ↦ nomatch hc.symm.trans hjoined
      exact ⟨fun _ ↦ hs.order hne, fun _ ↦ hs.receiver hne, hs.sender, (nomatch ·)⟩
  | dropFields =>
      simp only [AsyncReader.step] at h
      split at h <;> cases h
      exact ⟨fun hc ↦ absurd rfl hc, fun hc ↦ absurd rfl hc, hs.sender, (nomatch ·)⟩

/-- The invariant holds in every reachable state. -/
theorem Inv.reach {s : AsyncReader} (h : system.Reach s) : s.Inv := by
  refine h.invariant ?_ fun s a t hs ht ↦ hs.step ht
  rintro s ⟨session, readEvent, rfl⟩
  exact .new session readEvent

/-! ## Nothing is lost -/

/-- A poll from `s` to `t` that delivered the packet that is next. -/
structure DeliversNext (s : AsyncReader) (packet : Buf) (t : AsyncReader) : Prop where
  next : s.taken = s.delivered ++ packet :: (t.chan.queue ++ t.thread.hand)
  delivered : t.delivered = s.delivered ++ [packet]
  taken : t.taken = s.taken

/-- A poll from `s` to `t` that found the end of the stream. -/
structure EndsStream (s t : AsyncReader) : Prop where
  same : t = s
  thread : s.thread = .finished
  delivered : s.delivered = s.taken

/-- A channel without a sender is that of a thread that has ended. -/
theorem Inv.finished_of_sender {s : AsyncReader} (hs : s.Inv) (h : s.chan.sender = false) :
    s.thread = .finished := by
  by_contra hne
  rw [hs.sender.2 hne] at h
  cases h

/-- What a poll of the receiving end that is ready can be. -/
theorem Inv.pollRecv_ready {s t : AsyncReader} {data : Option Buf} (hs : s.Inv)
    (hlive : s.owner = .live) (h : s.pollRecv = (.ready data, t)) :
    (∃ packet, data = some packet ∧ s.DeliversNext packet t) ∨ data = none ∧ s.EndsStream t := by
  have horder := hs.order (by rw [hlive]; exact (nomatch ·))
  rcases s.pollRecv_cases with ⟨packet, rest, hqueue, hpoll⟩ | ⟨hqueue, hsender, hpoll⟩ |
    ⟨-, -, hpoll⟩
  · rw [hpoll] at h
    cases h
    refine .inl ⟨packet, rfl, ?_, rfl, rfl⟩
    simpa [Channel.pop, hqueue] using horder
  · rw [hpoll] at h
    cases h
    have hthread := hs.finished_of_sender hsender
    refine .inr ⟨rfl, rfl, hthread, ?_⟩
    rw [horder, hqueue, hthread]
    simp [Thread.hand]
  · rw [hpoll] at h
    cases h

/-- A poll of the receiving end is pending exactly if there is nothing in the channel and the
thread has not ended. -/
theorem Inv.pollRecv_pending_iff {s t : AsyncReader} (hs : s.Inv) :
    s.pollRecv = (.pending, t) ↔ (s.chan.queue = [] ∧ s.thread ≠ .finished) ∧ t = s := by
  rcases s.pollRecv_cases with ⟨packet, rest, hqueue, hpoll⟩ | ⟨hqueue, hsender, hpoll⟩ |
    ⟨hqueue, hsender, hpoll⟩
  · rw [hpoll, hqueue]
    simp
  · rw [hpoll]
    simp [hs.finished_of_sender hsender]
  · rw [hpoll]
    simp [hqueue, hs.sender.1 hsender, eq_comm]

theorem pollRead_pending_iff {s t : AsyncReader} {buf : Buf} :
    s.pollRead buf = (.pending, t) ↔ s.pollRecv = (.pending, t) := by
  rw [pollRead]
  rcases s.pollRecv with ⟨_ | _, u⟩ <;> simp

theorem pollReadVectored_pending_iff {s t : AsyncReader} {bufs : List Buf} :
    s.pollReadVectored bufs = (.pending, t) ↔ s.pollRecv = (.pending, t) := by
  rw [pollReadVectored]
  rcases s.pollRecv with ⟨_ | _, u⟩ <;> simp

/-! ## What the owner is told -/

/-- The stream is at its end. -/
structure Ended (s : AsyncReader) : Prop where
  thread : s.thread = .finished
  queue : s.chan.queue = []

/-- What a poll tells is what it does to the packets that were delivered: it tells of the one that
it adds, or of none; and after one that was ready without a packet the stream is at its end. -/
def Tells (s : AsyncReader) (answers : List (Receipt UInt8)) (t : AsyncReader) : Prop :=
  (∃ added, t.delivered = s.delivered ++ added ∧ List.Forall₂ Receipt.Holds answers added) ∨
    t.Ended ∧ t.delivered = s.delivered ∧ ∀ x ∈ answers, x.Untouched

/-- A step on which the owner is told nothing, because it leaves what was delivered alone. -/
theorem Tells.silent {s t : AsyncReader} (h : t.delivered = s.delivered) : s.Tells [] t :=
  .inl ⟨[], by rw [h, List.append_nil], .nil⟩

/-- A poll into one buffer tells the same as one into several of which there is one. -/
theorem answers_pollRead (s : AsyncReader) (buf : Buf) :
    s.answers (.pollRead buf) = s.answers (.pollReadVectored [buf]) := by
  unfold answers pollRead pollReadVectored
  rcases s.pollRecv with ⟨(_ | data) | _, t⟩
  · rfl
  · simp only [Option.elim_some, put_eq, putv_eq, capacity_cons, capacity_nil, Nat.add_zero,
      scatter_cons, scatter_nil]
  · rfl

/-- A poll into buffers. -/
theorem Inv.tells_poll {s : AsyncReader} (hs : s.Inv) (bufs : List Buf) :
    s.Tells (s.answers (.pollReadVectored bufs)) s.pollRecv.2 := by
  unfold answers pollReadVectored
  rcases s.pollRecv_cases with ⟨data, rest, hqueue, hpoll⟩ | ⟨hqueue, hsender, hpoll⟩ |
    ⟨hqueue, hsender, hpoll⟩
  · simp only [hpoll, Option.elim_some, putv_eq]
    exact .inl ⟨[data], rfl, .cons ⟨rfl, rfl⟩ .nil⟩
  · simp only [hpoll, Option.elim_none]
    exact .inr ⟨⟨hs.finished_of_sender hsender, hqueue⟩, rfl,
      List.forall_mem_singleton.2 ⟨rfl, rfl⟩⟩
  · simp only [hpoll]
    exact .silent rfl

/-- The thread delivers nothing. -/
theorem delivered_threadStep {s t : AsyncReader} (h : s.threadStep = some t) :
    t.delivered = s.delivered := by
  unfold threadStep at h
  split at h
  · cases h
    rfl
  · split at h
    · cases h
      rfl
    · split at h <;> cases h
      rfl
  · split at h <;> cases h <;> rfl
  · split at h <;> cases h <;> rfl
  · cases h

/-- A step is a poll, or the owner is told nothing and what was delivered stays as it is. -/
theorem step_cases {s t : AsyncReader} {a : Act} (h : s.step a = some t) :
    (((∃ buf, a = .pollRead buf) ∨ ∃ bufs, a = .pollReadVectored bufs) ∧ t = s.pollRecv.2) ∨
      (s.answers a = [] ∧ t.delivered = s.delivered ∧ (s.Ended → t.Ended)) := by
  cases a with
  | pollRead buf =>
      simp only [AsyncReader.step] at h
      split at h <;> cases h
      exact .inl ⟨.inl ⟨buf, rfl⟩, pollRead_snd buf s⟩
  | pollReadVectored bufs =>
      simp only [AsyncReader.step] at h
      split at h <;> cases h
      exact .inl ⟨.inr ⟨bufs, rfl⟩, pollReadVectored_snd bufs s⟩
  | thread =>
      refine .inr ⟨rfl, delivered_threadStep h, fun hend ↦ ?_⟩
      simp only [AsyncReader.step, threadStep, hend.thread] at h
      cases h
  | threadFails =>
      simp only [AsyncReader.step, threadFails] at h
      split at h <;> cases h <;> exact .inr ⟨rfl, rfl, fun hend ↦ ⟨rfl, hend.queue⟩⟩
  | arrive packet | signal =>
      cases h
      exact .inr ⟨rfl, rfl, fun hend ↦ ⟨hend.thread, hend.queue⟩⟩
  | drop | join | closeHandle =>
      simp only [AsyncReader.step] at h
      split at h <;> cases h
      exact .inr ⟨rfl, rfl, fun hend ↦ ⟨hend.thread, hend.queue⟩⟩
  | dropFields =>
      simp only [AsyncReader.step] at h
      split at h <;> cases h
      exact .inr ⟨rfl, rfl, fun hend ↦ ⟨hend.thread, rfl⟩⟩

/-- **Every step tells what it does.** -/
theorem Inv.step_tells {s t : AsyncReader} {a : Act} (hs : s.Inv) (h : s.step a = some t) :
    s.Tells (s.answers a) t := by
  rcases step_cases h with ⟨⟨buf, rfl⟩ | ⟨bufs, rfl⟩, rfl⟩ | ⟨hanswers, hdelivered, -⟩
  · rw [answers_pollRead]
    exact hs.tells_poll [buf]
  · exact hs.tells_poll bufs
  · rw [hanswers]
    exact .silent hdelivered

/-- A poll at the end of the stream. -/
theorem Inv.pollRecv_of_ended {s : AsyncReader} (hs : s.Inv) (hend : s.Ended) :
    s.pollRecv = (.ready none, s) := by
  rcases s.pollRecv_cases with ⟨packet, rest, hqueue, -⟩ | ⟨-, -, hpoll⟩ | ⟨-, hsender, -⟩
  · rw [hend.queue] at hqueue
    cases hqueue
  · exact hpoll
  · exact absurd hend.thread (hs.sender.1 hsender)

/-- **The end of the stream stays the end**, and polls tell of nothing else. -/
theorem Ended.step {s t : AsyncReader} {a : Act} (hend : s.Ended) (hs : s.Inv)
    (h : s.step a = some t) :
    t.Ended ∧ t.delivered = s.delivered ∧ ∀ x ∈ s.answers a, x.Untouched := by
  have hpoll := hs.pollRecv_of_ended hend
  have huntouched (bufs : List Buf) : ∀ x ∈ s.answers (.pollReadVectored bufs), x.Untouched := by
    rw [answers, pollReadVectored, hpoll]
    exact List.forall_mem_singleton.2 ⟨rfl, rfl⟩
  rcases step_cases h with ⟨⟨buf, rfl⟩ | ⟨bufs, rfl⟩, rfl⟩ | ⟨hanswers, hdelivered, hkept⟩
  · rw [hpoll, answers_pollRead]
    exact ⟨hend, rfl, huntouched [buf]⟩
  · rw [hpoll]
    exact ⟨hend, rfl, huntouched bufs⟩
  · rw [hanswers]
    exact ⟨hkept hend, hdelivered, List.forall_mem_nil _⟩

/-- A step leaves what was taken and what still waits as it was, and adds what arrives. -/
theorem step_arrived {s t : AsyncReader} {a : Act} (h : s.step a = some t) :
    t.taken ++ t.session.inbound = s.taken ++ s.session.inbound ++ a.arrived := by
  have hsame {u : AsyncReader} (htaken : u.taken = s.taken) (hsession : u.session = s.session) :
      u.taken ++ u.session.inbound = s.taken ++ s.session.inbound ++ [] := by
    rw [htaken, hsession, List.append_nil]
  cases a with
  | arrive packet =>
      cases h
      exact (List.append_assoc ..).symm
  | thread =>
      simp only [AsyncReader.step, threadStep] at h
      split at h
      · cases h
        exact hsame rfl rfl
      · split at h
        · cases h
          exact hsame rfl rfl
        · split at h <;> cases h
          exact hsame rfl rfl
      · -- The packet that is taken was the first of those that wait.
        unfold Session.tryReceive at h
        split at h
        · rename_i hreceive
          split at hreceive <;> cases hreceive
          rename_i hin
          cases h
          simp [hin, Act.arrived]
        · rename_i hreceive
          split at hreceive <;> cases hreceive
          cases h
          exact hsame rfl rfl
      · split at h <;> cases h <;> exact hsame rfl rfl
      · cases h
  | threadFails =>
      simp only [AsyncReader.step, threadFails] at h
      split at h <;> cases h <;> exact hsame rfl rfl
  | pollRead buf | pollReadVectored bufs =>
      simp only [AsyncReader.step, pollRead_snd, pollReadVectored_snd] at h
      split at h <;> cases h
      rcases s.pollRecv_cases with ⟨_, _, -, hpoll⟩ | ⟨-, -, hpoll⟩ | ⟨-, -, hpoll⟩ <;>
        rw [hpoll] <;> exact hsame rfl rfl
  | signal =>
      cases h
      exact hsame rfl rfl
  | drop | join | closeHandle | dropFields =>
      simp only [AsyncReader.step] at h
      split at h <;> cases h
      exact hsame rfl rfl

/-- **The reader loses, duplicates and reorders nothing.**  In every run and wherever it gets
before the reader is dropped:

* what was taken from the session are the packets that were there and that arrived, but for those
  that still wait;
* what was taken is what was delivered, then what is in the channel, then what is in the hand of
  the thread;
* the polls that were ready told the owner of the packets that were delivered, one each and in
  order, as much of each as fitted, and after that of nothing but the end of the stream;
* a poll that is ready delivers the next packet and returns how much of it fitted, or the thread
  has ended and everything was delivered;
* a poll is pending exactly if nothing is in the channel and the thread has not ended, and then
  leaves everything as it is. -/
theorem lossless {r : AsyncReader} {l : List (Act × AsyncReader)} (hr : system.init r)
    (h : system.Run r l) {s : AsyncReader} (hfinal : final r l = s) (hlive : s.owner = .live) :
    s.taken ++ s.session.inbound = r.session.inbound ++ l.flatMap (fun x ↦ x.1.arrived) ∧
    (s.taken = s.delivered ++ s.chan.queue ++ s.thread.hand ∧
      s.chan.queue.length ≤ 1024 ∧ s.thread.hand.length ≤ 1) ∧
    (∃ polls ends, outputs answers r l = polls ++ ends ∧
      List.Forall₂ Receipt.Holds polls s.delivered ∧ ∀ x ∈ ends, x.Untouched) ∧
    (∀ (buf : Buf) (r : Option (Nat × Buf)) (t : AsyncReader), s.pollRead buf = (.ready r, t) →
      (∃ packet, s.DeliversNext packet t ∧
        r = some (min packet.length buf.length, overwrite packet buf)) ∨
      s.EndsStream t ∧ r = some (0, buf)) ∧
    (∀ (bufs : List Buf) (r : Option (Nat × List Buf)) (t : AsyncReader),
      s.pollReadVectored bufs = (.ready r, t) →
      (∃ packet, s.DeliversNext packet t ∧
        r = some (min packet.length (capacity bufs), scatter packet bufs)) ∨
      s.EndsStream t ∧ r = some (0, bufs)) ∧
    (∀ (buf : Buf) (t : AsyncReader), s.pollRead buf = (.pending, t) ↔
      (s.chan.queue = [] ∧ s.thread ≠ .finished) ∧ t = s) ∧
    ∀ (bufs : List Buf) (t : AsyncReader), s.pollReadVectored bufs = (.pending, t) ↔
      (s.chan.queue = [] ∧ s.thread ≠ .finished) ∧ t = s := by
  subst hfinal
  have hnew : r.Inv ∧ r.taken = [] ∧ r.delivered = [] := by
    obtain ⟨session, readEvent, rfl⟩ := hr
    exact ⟨.new session readEvent, rfl, rfl⟩
  obtain ⟨hinv, htaken, hdelivered⟩ := hnew
  have hs : (final r l).Inv := h.final_invariant (fun _ _ _ hs ht ↦ hs.step ht) hinv
  refine ⟨?_, ⟨hs.order (by rw [hlive]; exact (nomatch ·)), (final r l).chan.length_le, ?_⟩, ?_,
    fun buf r t hpoll ↦ ?_, fun bufs r t hpoll ↦ ?_, fun buf t ↦ ?_, fun bufs t ↦ ?_⟩
  · obtain ⟨added, hadded, hall⟩ := h.log_final (R := (· = ·)) (I := fun _ ↦ True)
      (fun s ↦ s.taken ++ s.session.inbound)
      (fun s a t _ ht ↦ ⟨trivial, _, step_arrived ht, List.forall₂_refl _⟩) trivial
    rw [List.forall₂_eq_eq_eq] at hall
    rw [hadded, htaken, hall, List.nil_append]
  · cases (final r l).thread <;> simp [Thread.hand]
  · obtain ⟨polls, ends, added, hout, hlog, hpolls, hends⟩ :=
      h.stream_final delivered answers (I := Inv) (C := fun s ↦ s.Inv ∧ s.Ended)
        (R := Receipt.Holds) (E := Receipt.Untouched)
        (fun s a t hs ht ↦ ⟨hs.step ht, (hs.step_tells ht).imp_right fun hend ↦
          ⟨⟨hs.step ht, hend.1⟩, hend.2⟩⟩)
        (fun s a t hs ht ↦ by
          obtain ⟨hend, hrest⟩ := hs.2.step hs.1 ht
          exact ⟨⟨hs.1.step ht, hend⟩, hrest⟩) hinv
    rw [hdelivered, List.nil_append] at hlog
    rw [hlog]
    exact ⟨polls, ends, hout, hpolls, hends⟩
  · unfold pollRead at hpoll
    split at hpoll <;> cases hpoll
    rename_i data hrecv
    rcases hs.pollRecv_ready hlive hrecv with ⟨packet, rfl, hnext⟩ | ⟨rfl, hend⟩
    · exact .inl ⟨packet, hnext, put_eq packet buf⟩
    · exact .inr ⟨hend, rfl⟩
  · unfold pollReadVectored at hpoll
    split at hpoll <;> cases hpoll
    rename_i data hrecv
    rcases hs.pollRecv_ready hlive hrecv with ⟨packet, rfl, hnext⟩ | ⟨rfl, hend⟩
    · exact .inl ⟨packet, hnext, putv_eq packet bufs⟩
    · exact .inr ⟨hend, rfl⟩
  · rw [pollRead_pending_iff]
    exact hs.pollRecv_pending_iff
  · rw [pollReadVectored_pending_iff]
    exact hs.pollRecv_pending_iff

/-- A session with two packets, of which the thread has sent one and holds the other: a poll with
room for two bytes tells of the front of the first, and the next poll is pending. -/
theorem lossless_two_packets :
    ∃ (r s : AsyncReader) (l : List (Act × AsyncReader)), system.init r ∧ system.Run r l ∧
      final r l = s ∧ s.taken = [[1, 2, 3], [4]] ∧ s.thread.hand = [[4]] ∧
      outputs answers r l = [{ bufs := [[0, 0]], amount := 2, filled := [[1, 2]] }] ∧
      (∃ polls ends, outputs answers r l = polls ++ ends ∧
        List.Forall₂ Receipt.Holds polls s.delivered ∧ ∀ x ∈ ends, x.Untouched) ∧
      s.pollRead [0] = (.pending, s) := by
  let session : Session :=
    { inbound := [[1, 2, 3], [4]], shutdown := "", broken := none, full := fun _ ↦ none, sent := []
      unsent := 0 }
  let s₀ := new session true
  let s₁ : AsyncReader := { s₀ with thread := .waiting }
  let s₂ : AsyncReader := { s₁ with readEvent := false, thread := .draining }
  let s₃ : AsyncReader :=
    { s₂ with
      session := { session with inbound := [[4]] }
      thread := .sending [1, 2, 3]
      taken := [[1, 2, 3]] }
  let s₄ : AsyncReader :=
    { s₃ with chan := s₃.chan.push [1, 2, 3] (by decide), thread := .draining }
  let s₅ : AsyncReader :=
    { s₄ with
      session := { session with inbound := [] }
      thread := .sending [4]
      taken := [[1, 2, 3], [4]] }
  let s₆ : AsyncReader := { s₅ with chan := s₅.chan.pop, delivered := [[1, 2, 3]] }
  have hrun : system.Run s₀ [(.thread, s₁), (.thread, s₂), (.thread, s₃), (.thread, s₄),
      (.thread, s₅), (.pollRead [0, 0], s₆)] :=
    .cons rfl <| .cons rfl <| .cons rfl <| .cons rfl <| .cons rfl <| .cons rfl <| .nil _
  obtain ⟨-, -, hstream, -, -, hpending, -⟩ := lossless ⟨session, true, rfl⟩ hrun rfl rfl
  exact ⟨s₀, s₆, _, ⟨session, true, rfl⟩, hrun, rfl, rfl, rfl, rfl, hstream,
    (hpending [0] s₆).2 ⟨⟨rfl, (nomatch ·)⟩, rfl⟩⟩

end AsyncReader

end RustTun.Windows
