import RustTun.Windows.AsyncReader

/-!
# Dropping the Windows `AsyncReader`

The cancel event ends the thread where it waits for events, but not where it sends to a
full channel: the receiving end, which would let it go on, is dropped only after the
thread was joined.  `noDeadlock_iff` says from which packets this comes: at most as many
as the channel holds may be undelivered when the drop begins, and as long as the owner
waits the thread may take no packet that the channel has no room for.

`Deadlocked.step` says that the owner then waits for ever.
-/

namespace RustTun.Windows.AsyncReader

open Transition

/-- The owner waits for a thread that has not ended and cannot make a step. -/
def Deadlocked (s : AsyncReader) : Prop :=
  s.owner = .joining ∧ s.thread ≠ .finished ∧ s.threadStep = none

/-- How many packets were taken from the session and not delivered. -/
def undelivered (s : AsyncReader) : Nat := s.taken.length - s.delivered.length

/-- The thread is about to take a packet from the session. -/
def Takes (s : AsyncReader) : Prop := s.thread = .draining ∧ s.session.inbound ≠ []

/-- The channel has room for the packets that are undelivered: when the drop begins, and
when one more is taken while the owner waits. -/
structure HasRoom (s : AsyncReader) (a : Act) : Prop where
  drop : a = .drop → s.undelivered ≤ channelCapacity
  take : a = .thread → s.owner = .joining → s.Takes → s.undelivered < channelCapacity

/-- Other steps have nothing to do with the channel. -/
theorem HasRoom.of_ne {s : AsyncReader} {a : Act} (hdrop : a ≠ .drop) (hthread : a ≠ .thread) :
    s.HasRoom a :=
  ⟨fun h ↦ absurd h hdrop, fun h ↦ absurd h hthread⟩

/-! ## Where the thread is stuck -/

/-- The thread is blocked in one of two places, or has ended. -/
theorem threadStep_eq_none_iff {s : AsyncReader} :
    s.threadStep = none ↔ s.thread = .finished ∨
      (s.thread = .waiting ∧ s.readEvent = false ∧ s.cancel = false) ∨
      ∃ packet, s.thread = .sending packet ∧ s.chan.receiver = true ∧
        s.chan.queue.length = channelCapacity := by
  rw [threadStep]
  cases s.thread with
  | starting => simp
  | waiting =>
      cases s.readEvent <;> cases s.cancel <;> simp
  | draining =>
      simp only [reduceCtorEq, false_and, exists_false, or_self, iff_false]
      split <;> exact Option.some_ne_none _
  | sending packet =>
      simp only [reduceCtorEq, false_and, false_or, Thread.sending.injEq, exists_eq_left']
      rw [← Channel.send_eq_blocked_iff (x := packet)]
      split <;> rename_i hsend <;> simp [hsend]
  | finished => simp

/-- **The owner waits for ever exactly if the thread sends to a full channel.** -/
theorem Inv.deadlocked_iff {s : AsyncReader} (hs : s.Inv) :
    s.Deadlocked ↔ s.owner = .joining ∧ s.thread.hand ≠ [] ∧
      s.chan.queue.length = channelCapacity := by
  rw [Deadlocked, threadStep_eq_none_iff]
  constructor
  · rintro ⟨howner, hthread, hfinished | ⟨-, -, hcancel⟩ | ⟨packet, hsending, -, hfull⟩⟩
    · exact absurd hfinished hthread
    · rw [hs.cancel howner] at hcancel
      cases hcancel
    · exact ⟨howner, by rw [hsending]; exact List.cons_ne_nil _ _, hfull⟩
  · rintro ⟨howner, hhand, hfull⟩
    cases hthread : s.thread with
    | sending packet =>
        have hne : s.owner ≠ .dropped := by rw [howner]; exact (nomatch ·)
        exact ⟨howner, (nomatch ·), .inr (.inr ⟨packet, rfl, hs.receiver hne, hfull⟩)⟩
    | starting | waiting | draining | finished => exact absurd (by rw [hthread]; rfl) hhand

/-- What is undelivered is in the channel or in the hand of the thread. -/
theorem Inv.undelivered_eq {s : AsyncReader} (hs : s.Inv) (hne : s.owner ≠ .dropped) :
    s.undelivered = s.chan.queue.length + s.thread.hand.length := by
  rw [undelivered, hs.order hne, List.length_append, List.length_append]
  omega

/-- A thread with nothing in its hand does not make the owner wait for ever. -/
theorem Inv.not_deadlocked_of_hand {s : AsyncReader} (hs : s.Inv) (h : s.thread.hand = []) :
    ¬ s.Deadlocked :=
  fun hd ↦ (hs.deadlocked_iff.1 hd).2.1 h

/-- An owner that does not wait does not wait for ever. -/
theorem not_deadlocked_of_owner {s : AsyncReader} (h : s.owner ≠ .joining) : ¬ s.Deadlocked :=
  fun hd ↦ h hd.1

/-! ## Steps -/

/-- After any other step the thread has nothing in its hand. -/
theorem hand_threadStep {s t : AsyncReader} (h : s.threadStep = some t) (htakes : ¬ s.Takes) :
    t.thread.hand = [] := by
  unfold threadStep at h
  cases hthread : s.thread with
  | starting =>
      simp only [hthread, Option.some.injEq] at h
      subst h
      rfl
  | waiting =>
      simp only [hthread] at h
      split at h
      · cases h
        rfl
      · split at h <;> cases h
        rfl
  | draining =>
      have hin : s.session.inbound = [] := by
        by_contra hne
        exact htakes ⟨hthread, hne⟩
      simp only [hthread, Session.tryReceive, hin, Option.some.injEq] at h
      subst h
      rfl
  | sending packet =>
      simp only [hthread] at h
      split at h <;> cases h <;> rfl
  | finished =>
      simp only [hthread] at h
      cases h

/-- Taking a packet puts it into the hand of the thread, and leaves the owner and the
channel alone. -/
theorem threadStep_of_takes {s t : AsyncReader} (h : s.threadStep = some t) (htakes : s.Takes) :
    t.owner = s.owner ∧ t.chan = s.chan ∧ t.thread.hand ≠ [] := by
  obtain ⟨hthread, hin⟩ := htakes
  obtain ⟨packet, rest, hin⟩ := List.exists_cons_of_ne_nil hin
  simp only [threadStep, hthread, Session.tryReceive, hin, Option.some.injEq] at h
  subst h
  exact ⟨rfl, rfl, List.cons_ne_nil _ _⟩

/-- Of the steps of the thread only the one that takes a packet can deadlock. -/
theorem Inv.threadStep_not_deadlocked_iff {s t : AsyncReader} (hs : s.Inv)
    (h : s.threadStep = some t) : ¬ t.Deadlocked ↔ s.HasRoom .thread := by
  have ht := hs.threadStep h
  by_cases htakes : s.Takes
  · obtain ⟨howner, hchan, hhand⟩ := threadStep_of_takes h htakes
    rw [ht.deadlocked_iff, howner, hchan]
    have hempty : s.thread.hand = [] := by rw [htakes.1]; rfl
    have hle := s.chan.length_le
    constructor
    · refine fun hfree ↦ ⟨(nomatch ·), fun _ hjoining _ ↦ ?_⟩
      rw [hs.undelivered_eq (by rw [hjoining]; exact (nomatch ·)), hempty]
      exact Nat.lt_of_le_of_ne hle fun hfull ↦ hfree ⟨hjoining, hhand, hfull⟩
    · rintro hroom ⟨hjoining, -, hfull⟩
      have hlt := hroom.take rfl hjoining htakes
      rw [hs.undelivered_eq (by rw [hjoining]; exact (nomatch ·)), hempty, hfull] at hlt
      exact absurd hlt (Nat.lt_irrefl _)
  · exact iff_of_true (ht.not_deadlocked_of_hand (hand_threadStep h htakes))
      ⟨(nomatch ·), fun _ _ hc ↦ absurd hc htakes⟩

/-- Beginning to drop the reader deadlocks exactly if the channel is full and the thread
has a packet in its hand. -/
theorem Inv.drop_not_deadlocked_iff {s : AsyncReader} (hs : s.Inv) (hlive : s.owner = .live)
    (ht : ({ s with cancel := true, owner := .joining } : AsyncReader).Inv) :
    ¬ ({ s with cancel := true, owner := .joining } : AsyncReader).Deadlocked ↔
      s.HasRoom .drop := by
  rw [ht.deadlocked_iff]
  have hcount := hs.undelivered_eq (by rw [hlive]; exact (nomatch ·))
  have hle := s.chan.length_le
  constructor
  · refine fun hfree ↦ ⟨fun _ ↦ ?_, (nomatch ·)⟩
    rw [hcount]
    cases hhand : s.thread.hand with
    | nil => exact hle
    | cons packet rest =>
        have hone : s.thread.hand.length ≤ 1 := by cases s.thread <;> simp [Thread.hand]
        have hfull : s.chan.queue.length ≠ channelCapacity :=
          fun hfull ↦ hfree ⟨rfl, by rw [hhand]; exact List.cons_ne_nil _ _, hfull⟩
        rw [hhand] at hone
        omega
  · rintro hroom ⟨-, hhand, hfull⟩
    have hroom := hroom.drop rfl
    have hpos := List.length_pos_iff.2 hhand
    simp only at hpos hfull
    omega

/-- **A step deadlocks exactly if the channel has no room for it.** -/
theorem Inv.step_not_deadlocked_iff {s t : AsyncReader} {a : Act} (hs : s.Inv)
    (hfree : ¬ s.Deadlocked) (h : s.step a = some t) : ¬ t.Deadlocked ↔ s.HasRoom a := by
  have ht := hs.step h
  cases a with
  | thread => exact hs.threadStep_not_deadlocked_iff h
  | drop =>
      simp only [AsyncReader.step] at h
      split at h <;> cases h
      rename_i hlive
      exact hs.drop_not_deadlocked_iff hlive ht
  | arrive packet =>
      cases h
      refine iff_of_true ?_ (.of_ne (by simp) (by simp))
      rwa [ht.deadlocked_iff, ← hs.deadlocked_iff]
  | signal =>
      cases h
      refine iff_of_true ?_ (.of_ne (by simp) (by simp))
      rwa [ht.deadlocked_iff, ← hs.deadlocked_iff]
  | threadFails =>
      refine iff_of_true ?_ (.of_ne (by simp) (by simp))
      simp only [AsyncReader.step, threadFails] at h
      split at h <;> cases h <;> exact ht.not_deadlocked_of_hand rfl
  | pollRead buf =>
      refine iff_of_true (not_deadlocked_of_owner ?_) (.of_ne (by simp) (by simp))
      simp only [AsyncReader.step] at h
      split at h <;> cases h
      rename_i hlive
      simp [hlive]
  | pollReadVectored bufs =>
      refine iff_of_true (not_deadlocked_of_owner ?_) (.of_ne (by simp) (by simp))
      simp only [AsyncReader.step] at h
      split at h <;> cases h
      rename_i hlive
      simp [hlive]
  | join | closeHandle | dropFields =>
      refine iff_of_true (not_deadlocked_of_owner ?_) (.of_ne (by simp) (by simp))
      simp only [AsyncReader.step] at h
      split at h <;> cases h
      simp

/-- **A reader that is deadlocked stays so**, whatever arrives. -/
theorem Deadlocked.step {s t : AsyncReader} {a : Act} (hd : s.Deadlocked) (hs : s.Inv)
    (h : s.step a = some t) : t.Deadlocked := by
  have ht := hs.step h
  obtain ⟨howner, hhand, hfull⟩ := hs.deadlocked_iff.1 hd
  cases a with
  | arrive packet =>
      cases h
      exact ht.deadlocked_iff.2 ⟨howner, hhand, hfull⟩
  | signal =>
      cases h
      exact ht.deadlocked_iff.2 ⟨howner, hhand, hfull⟩
  | thread =>
      simp only [AsyncReader.step, hd.2.2] at h
      cases h
  | threadFails =>
      simp only [AsyncReader.step, threadFails] at h
      split at h <;> cases h <;> rename_i hthread <;> rw [hthread] at hhand <;>
        exact absurd rfl hhand
  | join =>
      simp only [AsyncReader.step] at h
      split at h <;> cases h
      rename_i hjoin
      exact absurd hjoin.2 hd.2.1
  | pollRead | pollReadVectored | drop | closeHandle | dropFields =>
      simp only [AsyncReader.step, howner] at h
      cases h

/-! ## Runs -/

/-- **Dropping the reader deadlocks exactly when the channel runs out of room.**  In every
run, for every interleaving and whatever arrives at the session, the owner never waits for
a thread that is stuck as long as at most 1024 packets are undelivered when the drop
begins, and fewer when one is taken while the owner waits. -/
theorem noDeadlock_iff {s : AsyncReader} {l : List (Act × AsyncReader)} (hs : system.init s)
    (h : system.Run s l) :
    (∀ x ∈ l, ¬ x.2.Deadlocked) ↔ AllSteps (fun s a _ ↦ s.HasRoom a) s l := by
  rw [← allSteps_target (P := fun s ↦ ¬ s.Deadlocked) (s := s)]
  refine h.allSteps_iff (I := fun s ↦ s.Inv ∧ ¬ s.Deadlocked)
    (fun s a t hi ht ↦ hi.1.step_not_deadlocked_iff hi.2 ht)
    (fun s a t hi ht hfree ↦ ⟨hi.1.step ht, hfree⟩) ?_
  obtain ⟨session, readEvent, rfl⟩ := hs
  exact ⟨.new session readEvent, fun hd ↦ nomatch hd.1⟩

/-- A session in which the given packets have arrived. -/
def sampleSession (inbound : List Buf) : Session :=
  { inbound, shutdown := "", broken := none, full := fun _ ↦ none, sent := [], unsent := 0 }

/-- The state after `packet` was taken from the session, which leaves it with `rest`. -/
def take (s : AsyncReader) (packet : Buf) (rest : List Buf) : AsyncReader :=
  { s with
    session := { s.session with inbound := rest }
    thread := .sending packet
    taken := s.taken ++ [packet] }

/-- A reader is dropped with one packet in its channel, while another waits at the session: the
thread moves that as well, and ends. -/
theorem noDeadlock_two_packets :
    let s₀ := new (sampleSession [[1], [2]]) true
    let s₁ : AsyncReader := { s₀ with thread := .waiting }
    let s₂ : AsyncReader := { s₁ with readEvent := false, thread := .draining }
    let s₃ := s₂.take [1] [[2]]
    let s₄ : AsyncReader :=
      { s₃ with chan := s₃.chan.push [1] (by decide), thread := .draining }
    let s₅ : AsyncReader := { s₄ with cancel := true, owner := .joining }
    let s₆ := s₅.take [2] []
    let s₇ : AsyncReader :=
      { s₆ with chan := s₆.chan.push [2] (by decide), thread := .draining }
    let s₈ : AsyncReader := { s₇ with thread := .waiting }
    let s₉ : AsyncReader := { s₈.finish with owner := .joined }
    s₅.chan.queue = [[1]] ∧ s₉.chan.queue = [[1], [2]] ∧ ∀ x ∈ [(Act.thread, s₁), (.thread, s₂),
      (.thread, s₃), (.thread, s₄), (.drop, s₅), (.thread, s₆), (.thread, s₇), (.thread, s₈),
      (.thread, s₈.finish), (.join, s₉)], ¬ x.2.Deadlocked := by
  intro s₀ s₁ s₂ s₃ s₄ s₅ s₆ s₇ s₈ s₉
  have hrun : system.Run s₀ [(.thread, s₁), (.thread, s₂), (.thread, s₃), (.thread, s₄),
      (.drop, s₅), (.thread, s₆), (.thread, s₇), (.thread, s₈), (.thread, s₈.finish),
      (.join, s₉)] :=
    .cons rfl <| .cons rfl <| .cons rfl <| .cons rfl <| .cons rfl <| .cons rfl <| .cons rfl <|
      .cons rfl <| .cons rfl <| .cons rfl <| .nil _
  -- Before the drop there is no condition, and after it one packet is taken.
  have hlive {s : AsyncReader} (h : s.owner = .live) : s.HasRoom .thread :=
    ⟨(nomatch ·), fun _ hjoining _ ↦ nomatch h.symm.trans hjoining⟩
  have hidle {s : AsyncReader} (h : ¬ s.Takes) : s.HasRoom .thread :=
    ⟨(nomatch ·), fun _ _ htakes ↦ absurd htakes h⟩
  have hdrop : s₄.HasRoom .drop := ⟨fun _ ↦ (by decide : 1 ≤ channelCapacity), (nomatch ·)⟩
  have htake : s₅.HasRoom .thread :=
    ⟨(nomatch ·), fun _ _ _ ↦ (by decide : 1 < channelCapacity)⟩
  exact ⟨rfl, rfl, (noDeadlock_iff ⟨_, _, rfl⟩ hrun).2
    ⟨hlive rfl, hlive rfl, hlive rfl, hlive rfl, hdrop, htake, hidle (fun h ↦ nomatch h.1),
      hidle (fun h ↦ h.2 rfl), hidle (fun h ↦ nomatch h.1), .of_ne (by simp) (by simp), trivial⟩⟩

theorem step_take {s : AsyncReader} {packet : Buf} {rest : List Buf}
    (hthread : s.thread = .draining) (hin : s.session.inbound = packet :: rest) :
    system.step s .thread (s.take packet rest) := by
  change s.threadStep = some (s.take packet rest)
  simp only [threadStep, hthread, Session.tryReceive, hin]
  rfl

/-- As long as there is room in the channel, the thread moves the packets that are there. -/
theorem exists_moved (n : Nat) {s : AsyncReader} (hs : system.Reach s) (hlive : s.owner = .live)
    (hthread : s.thread = .draining) (hin : n ≤ s.session.inbound.length)
    (hroom : s.chan.queue.length + n ≤ channelCapacity) :
    ∃ t, system.Reach t ∧ t.owner = .live ∧ t.thread = .draining ∧
      t.session.inbound.length + n = s.session.inbound.length ∧
      t.chan.queue.length = s.chan.queue.length + n := by
  induction n generalizing s with
  | zero => exact ⟨s, hs, hlive, hthread, rfl, rfl⟩
  | succ n ih =>
      obtain ⟨packet, rest, hinbound⟩ := List.exists_cons_of_length_pos
        (Nat.lt_of_lt_of_le (Nat.succ_pos n) hin)
      have hreceiver := (Inv.reach hs).receiver (by rw [hlive]; exact (nomatch ·))
      have hlt : s.chan.queue.length < channelCapacity := by omega
      have hsend : system.step (s.take packet rest) .thread
          { s.take packet rest with chan := s.chan.push packet hlt, thread := .draining } := by
        change (s.take packet rest).threadStep = some _
        simp only [threadStep, take, Channel.send_of_lt hreceiver hlt]
      have hlen : (s.chan.push packet hlt).queue.length = s.chan.queue.length + 1 :=
        List.length_append
      rw [hinbound, List.length_cons] at hin ⊢
      obtain ⟨t, ht, htlive, htthread, htin, htqueue⟩ :=
        ih (.step _ (.step _ hs (step_take hthread hinbound)) hsend) hlive rfl
          (Nat.le_of_succ_le_succ hin)
          (by change (s.chan.push packet hlt).queue.length + n ≤ _; omega)
      refine ⟨t, ht, htlive, htthread, ?_, ?_⟩
      · change _ = rest.length at htin
        omega
      · change _ = (s.chan.push packet hlt).queue.length + n at htqueue
        omega

/-- With 1025 packets taken and none delivered, dropping the reader deadlocks. -/
theorem drop_deadlocks_1025 : ∃ s : AsyncReader, system.Reach s ∧ s.Deadlocked := by
  let session := sampleSession (List.replicate 1025 [0x45])
  let draining : AsyncReader := { new session true with readEvent := false, thread := .draining }
  have hdraining : system.Reach draining :=
    .step .thread (.step .thread (.init ⟨session, true, rfl⟩) rfl) rfl
  have harrived : draining.session.inbound.length = 1025 := List.length_replicate
  have hempty : draining.chan.queue.length = 0 := rfl
  have hcap : channelCapacity = 1024 := rfl
  obtain ⟨s, hs, hlive, hthread, hin, hqueue⟩ :=
    exists_moved 1024 hdraining rfl rfl (by omega) (by omega)
  obtain ⟨packet, rest, hinbound⟩ : ∃ packet rest, s.session.inbound = packet :: rest :=
    List.exists_cons_of_length_pos (by omega)
  let dropping : AsyncReader := { s.take packet rest with cancel := true, owner := .joining }
  have hreach : system.Reach dropping :=
    .step .drop (.step .thread hs (step_take hthread hinbound)) (if_pos hlive)
  refine ⟨_, hreach, (Inv.reach hreach).deadlocked_iff.2 ⟨rfl, List.cons_ne_nil _ _, ?_⟩⟩
  change s.chan.queue.length = channelCapacity
  omega

end RustTun.Windows.AsyncReader
