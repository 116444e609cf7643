import RustTun.Posix.Traffic
import RustTun.Windows.Lifetime
import RustTun.Windows.Send

/-!
# Packets across the parts of a Windows program

All parts of a program that has a Windows device work on one session.  The owners of the `Tun` call
`recv` and `send`, and the thread of an `AsyncReader` takes packets for its channel, while packets
arrive and the driver makes room in the ring of the session, or does not.

`session_traffic` accounts for every packet.  Nothing that is received is lost: what was taken off
the session is what arrived, one packet to a read, in order, and a read into no room at all has
its packet too.  Sending is another matter.  What was put into the ring is exactly what the sends
that returned and had found room were given; a send that returned without having found room had met
a full ring and dropped its packet; and a send of more than 16 bits can say takes a place in the
ring that nothing ever fills.
-/

namespace RustTun.Windows

open Scatter Shared Slice Transition

/-! ## One call -/

/-- What the allocations of a session answer. -/
abbrev Ring := UInt16 → Option WintunError

/-- Make a call on the `Tun`, if it moves packets. -/
def Tun.perform (s : Session) : TunCall → Option (Reply × Session)
  | .recv buf =>
    let (r, s) := recv buf s
    some (.ofRead [buf] (r.map fun x ↦ (x.1, [x.2])), s)
  | .recvVectored bufs =>
    let (r, s) := recvVectored bufs s
    some (.ofRead bufs r, s)
  | .send buf =>
    let (r, s) := send buf s
    some (.done r, s)
  | .sendVectored bufs =>
    let (r, s) := sendVectored bufs s
    some (.done r, s)
  | .setMtu _ | .setNonblock => none

/-- Whether a part has the call.  A `Reader` has no vectored read of its own. -/
def Part.has {σ : Type} : Part σ → TunCall → Bool
  | .device _, _ | .asyncDevice _, _ => true
  | .reader _, .recv _ => true
  | .writer _, .send _ | .writer _, .sendVectored _ => true
  | .asyncWriter _, .send _ | .asyncWriter _, .sendVectored _ => true
  | _, _ => false

/-- What takes a packet off a session. -/
inductive Taker where
  | /-- A read that returned. -/ read (r : Receipt UInt8)
  | /-- The thread of an `AsyncReader`, which takes all of it. -/ thread (packet : Buf)

/-- It was given this packet. -/
def Taker.IsOf : Taker → Buf → Prop
  | .read r, packet => r.Holds packet
  | .thread taken, packet => taken = packet

/-- What a call has taken, by its reply. -/
def takers (c : TunCall) (x : Reply) : List Taker :=
  match c.readsInto, x with
  | some bufs, .received (.ok amount) filled => [.read { bufs, amount, filled }]
  | _, _ => []

/-- What a call has to send: a vectored send of nothing sends nothing. -/
def payload : TunCall → Option Buf
  | .send buf => some buf
  | .sendVectored bufs => if bufs.flatten = [] then none else some bufs.flatten
  | _ => none

/-- What a call has put into the ring, by its reply and by what the ring answered. -/
def accepted (c : TunCall) (x : Reply) (ring : Ring) : List Buf :=
  match payload c, x with
  | some packet, .done (.ok ()) => if ring (.ofNat packet.length) = none then [packet] else []
  | _, _ => []

/-- The call has panicked. -/
def panicked : Reply → Bool
  | .received (.error .panic) _ | .done (.error .panic) => true
  | _ => false

/-- A call with this reply took the packets `taken` off the session, and dealt with the ring as the
reply says. -/
structure Exchanged (c : TunCall) (x : Reply) (s t : Session) (taken : List Buf) : Prop where
  inbound : s.inbound = taken ++ t.inbound
  took : List.Forall₂ Taker.IsOf (takers c x) taken
  sent : t.sent = s.sent ++ accepted c x s.full
  /-- A call that returned has put its packet into the ring, or has met a full ring. -/
  dropped : x = .done (.ok ()) → ∀ packet ∈ payload c,
    packet ∈ accepted c x s.full ∨ s.RingFull packet.length
  /-- A call that panics leaves a packet behind that was allocated and never sent. -/
  unsent : t.unsent = s.unsent + if panicked x then 1 else 0
  /-- It panics on nothing but a length that 16 bits cannot say. -/
  panics : panicked x = true → ∃ packet ∈ payload c, UInt16.size ≤ packet.length

section Calls

variable {c : TunCall} {s t : Session} {packet : Buf}

theorem takers_of_none (h : c.readsInto = none) (x : Reply) : takers c x = [] := by
  unfold takers
  rw [h]

theorem accepted_of_none (h : payload c = none) (x : Reply) (ring : Ring) :
    accepted c x ring = [] := by
  unfold accepted
  rw [h]

theorem accepted_of_ok (h : payload c = some packet) (ring : Ring) :
    accepted c (.done (.ok ())) ring =
      if ring (.ofNat packet.length) = none then [packet] else [] := by
  unfold accepted
  rw [h]

theorem accepted_of_error (h : payload c = some packet) (stop : Stop IoError) (ring : Ring) :
    accepted c (.done (.error stop)) ring = [] := by
  unfold accepted
  rw [h]

/-- A call that has not touched the session, and has not panicked. -/
theorem Exchanged.untouched {x : Reply} (htakers : takers c x = [])
    (haccepted : accepted c x s.full = [])
    (hdropped : x = .done (.ok ()) → ∀ packet ∈ payload c, s.RingFull packet.length)
    (hpanicked : panicked x = false) : Exchanged c x s s [] where
  inbound := rfl
  took := htakers ▸ .nil
  sent := by rw [haccepted, List.append_nil]
  dropped hx packet hpacket := .inr (hdropped hx packet hpacket)
  unsent := by
    rw [hpanicked]
    rfl
  panics h := by
    rw [hpanicked] at h
    cases h

/-- **A send of something**: `fill` copies it into a packet of its length, and panics on a smaller
one. -/
theorem exchanged_withPacket {fill : Buf → Option Buf} (hc : payload c = some packet)
    (hr : c.readsInto = none)
    (hfill : ∀ dst : Buf, dst.length = packet.length → fill dst = some packet)
    (hshort : ∀ dst : Buf, dst.length < packet.length → fill dst = none) (s : Session) :
    Exchanged c (.done (Tun.withPacket packet.length (Tun.fillAndSend fill) s).1) s
      (Tun.withPacket packet.length (Tun.fillAndSend fill) s).2 [] := by
  have hpayload {p : Buf} (hp : p ∈ payload c) : p = packet := Option.some.inj (hp.symm.trans hc)
  cases hfull : s.full (.ofNat packet.length) with
  | none =>
      by_cases hfits : packet.length < UInt16.size
      · rw [Tun.withPacket_of_short hfull hfits hfill]
        have hsent : accepted c (.done (.ok ())) s.full = [packet] := by
          rw [accepted_of_ok hc, if_pos hfull]
        refine ⟨rfl, ?_, ?_, fun _ p hp ↦ .inl ?_, rfl, (fun h ↦ by cases h)⟩
        · rw [takers_of_none hr]
          exact .nil
        · rw [hsent]
        · rw [hsent, hpayload hp]
          exact List.mem_singleton_self _
      · have hlong : UInt16.size ≤ packet.length := Nat.le_of_not_lt hfits
        rw [Tun.withPacket_of_long hfull hlong hshort]
        refine ⟨rfl, ?_, ?_, (fun hx ↦ by cases hx), rfl, fun _ ↦ ⟨packet, hc, hlong⟩⟩
        · rw [takers_of_none hr]
          exact .nil
        · rw [accepted_of_error hc, List.append_nil]
  | some w =>
      have hcall : Tun.withPacket packet.length (Tun.fillAndSend fill) s =
          Tun.allocationFailed w s := by
        unfold Tun.withPacket Session.allocateSendPacket
        simp only [hfull]
      rw [hcall]
      rcases Tun.allocationFailed_cases w with ⟨e, rfl, hcode, heq⟩ | ⟨e, heq⟩
      · rw [heq]
        refine .untouched (takers_of_none hr _) ?_ (fun _ p hp ↦ ?_) rfl
        · have hne : s.full (.ofNat packet.length) ≠ none := by
            rw [hfull]
            exact Option.some_ne_none _
          exact (accepted_of_ok hc _).trans (if_neg hne)
        · rw [hpayload hp]
          exact ⟨e, hfull, hcode⟩
      · rw [heq]
        exact .untouched (takers_of_none hr _) (accepted_of_error hc _ _) (fun hx ↦ by cases hx) rfl

/-- A read takes a packet, or fails. -/
theorem exchanged_read {bufs : List Buf} (hc : c.readsInto = some bufs) (hp : payload c = none)
    {x : Reply}
    (h : (∃ e, x = .received (.error (.err e)) bufs ∧ t = s) ∨
      ∃ data rest, s.inbound = data :: rest ∧ t = { s with inbound := rest } ∧
        x = .received (.ok (min data.length (capacity bufs))) (scatter data bufs)) :
    ∃ taken, Exchanged c x s t taken := by
  have haccepted (x : Reply) : accepted c x s.full = [] := accepted_of_none hp x s.full
  rcases h with ⟨stop, rfl, rfl⟩ | ⟨data, rest, hin, rfl, rfl⟩
  · refine ⟨[], .untouched ?_ (haccepted _) (fun hx ↦ by cases hx) rfl⟩
    unfold takers
    rw [hc]
  · refine ⟨[data], hin, ?_, ?_, (fun hx ↦ by cases hx), rfl, (fun h ↦ by cases h)⟩
    · unfold takers
      rw [hc]
      exact .cons ⟨rfl, rfl⟩ .nil
    · rw [haccepted, List.append_nil]

end Calls

namespace Tun

/-- `receive_blocking` fails, or takes a packet. -/
theorem receiveBlocking_cases (s : Session) :
    (∃ e, receiveBlocking s = (.error (.err e), s)) ∨
      ∃ data rest, s.inbound = data :: rest ∧
        receiveBlocking s = (.ok data, { s with inbound := rest }) := by
  rw [receiveBlocking]
  cases s.broken with
  | some text => exact .inl ⟨_, rfl⟩
  | none =>
      cases s.inbound with
      | nil => exact .inl ⟨_, rfl⟩
      | cons data rest => exact .inr ⟨data, rest, rfl, rfl⟩

theorem exchanged_recv (buf : Buf) (s : Session) : ∃ taken, Exchanged (.recv buf)
    (.ofRead [buf] ((recv buf s).1.map fun x ↦ (x.1, [x.2]))) s (recv buf s).2 taken := by
  refine exchanged_read rfl rfl ?_
  rcases receiveBlocking_cases s with ⟨e, he⟩ | ⟨data, rest, hin, hdata⟩
  · have hrecv : recv buf s = (.error (.err e), s) := Call.bind_of_error he _
    rw [hrecv]
    exact .inl ⟨e, rfl, rfl⟩
  · have hrecv : recv buf s =
        (.ok (min data.length buf.length, overwrite data buf), { s with inbound := rest }) := by
      rw [recv, Call.bind_of_ok hdata, put_eq]
      rfl
    rw [hrecv]
    exact .inr ⟨data, rest, hin, rfl, rfl⟩

theorem exchanged_recvVectored (bufs : List Buf) (s : Session) :
    ∃ taken, Exchanged (.recvVectored bufs) (.ofRead bufs (recvVectored bufs s).1) s
      (recvVectored bufs s).2 taken := by
  refine exchanged_read rfl rfl ?_
  rcases receiveBlocking_cases s with ⟨e, he⟩ | ⟨data, rest, hin, hdata⟩
  · have hrecv : recvVectored bufs s = (.error (.err e), s) := Call.bind_of_error he _
    rw [hrecv]
    exact .inl ⟨e, rfl, rfl⟩
  · have hrecv : recvVectored bufs s =
        (.ok (min data.length (capacity bufs), scatter data bufs), { s with inbound := rest }) := by
      rw [recvVectored, Call.bind_of_ok hdata, putv_eq]
      rfl
    rw [hrecv]
    exact .inr ⟨data, rest, hin, rfl, rfl⟩

theorem exchanged_send (buf : Buf) (s : Session) :
    Exchanged (.send buf) (.done (send buf s).1) s (send buf s).2 [] := by
  refine exchanged_withPacket rfl rfl (fun dst hdst ↦ ?_) (fun dst hdst ↦ ?_) s
  · have hcopy : copyFrom dst 0 dst.length buf =
        some (dst.take 0 ++ buf ++ dst.drop dst.length) :=
      if_pos ⟨Nat.zero_le _, Nat.le_refl _, by omega⟩
    rw [hcopy, List.drop_length, List.append_nil]
    rfl
  · exact if_neg fun hc ↦ by omega

theorem exchanged_sendVectored (bufs : List Buf) (s : Session) :
    Exchanged (.sendVectored bufs) (.done (sendVectored bufs s).1) s (sendVectored bufs s).2
      [] := by
  by_cases hnil : bufs.flatten = []
  · have hpayload : payload (.sendVectored bufs) = none := if_pos hnil
    have hsend : sendVectored bufs s = (.ok (), s) := by
      rw [sendVectored, size_eq_length_flatten, hnil, if_pos List.length_nil]
      rfl
    rw [hsend]
    refine .untouched rfl (accepted_of_none hpayload _ _) (fun _ packet hpacket ↦ ?_) rfl
    rw [hpayload] at hpacket
    cases hpacket
  · have hpayload : payload (.sendVectored bufs) = some bufs.flatten := if_neg hnil
    have hsize : bufs.flatten.length ≠ 0 := fun h ↦ hnil (List.length_eq_zero_iff.1 h)
    rw [sendVectored, size_eq_length_flatten, if_neg hsize]
    refine exchanged_withPacket hpayload rfl (fun dst hdst ↦ ?_) (fun dst hdst ↦ ?_) s
    · exact gather_of_length_eq hdst
    · exact gather_eq_none (Nat.zero_le _) (by omega)

/-- **One call** on the `Tun`. -/
theorem exchanged_perform {s t : Session} {c : TunCall} {x : Reply}
    (h : perform s c = some (x, t)) : ∃ taken, Exchanged c x s t taken := by
  cases c with
  | recv buf =>
      cases h
      exact exchanged_recv buf s
  | recvVectored bufs =>
      cases h
      exact exchanged_recvVectored bufs s
  | send buf =>
      cases h
      exact ⟨[], exchanged_send buf s⟩
  | sendVectored bufs =>
      cases h
      exact ⟨[], exchanged_sendVectored bufs s⟩
  | setMtu value => cases h
  | setNonblock => cases h

end Tun

/-! ## Programs and their network -/

/-- The parts of a program, and the session that they all hold. -/
structure Traffic (σ : Type) where
  sharing : Sharing σ
  session : Session

/-- What a program, its threads and its network do. -/
inductive Traffic.Action where
  | /-- A call on one of the parts, with its reply and with what the ring answers then. -/
    call (c : TunCall) (x : Reply) (ring : Ring)
  | /-- Something else with one of the parts. -/ share (a : Sharing.Action)
  | /-- The thread of an `AsyncReader` takes a packet. -/ take (packet : Buf)
  | /-- A packet arrives. -/ arrive (packet : Buf)
  | /-- The ring fills, or the driver empties it. -/ refill (ring : Ring)
  | /-- The adapter is terminated, or receiving works again. -/ disrupt (broken : Option String)

/-- One action. -/
inductive Traffic.Step {σ : Type} : Traffic σ → Traffic.Action → Traffic σ → Prop
  | call {s : Sharing σ} {y z : Session} {p : Part σ} {c : TunCall} {x : Reply} :
      p ∈ s.parts → p.has c → Tun.perform y c = some (x, z) →
        Step ⟨s, y⟩ (.call c x y.full) ⟨s, z⟩
  | share {s t : Sharing σ} {a : Sharing.Action} {y : Session} :
      Sharing.Step s a t → Step ⟨s, y⟩ (.share a) ⟨t, y⟩
  | take {s : Sharing σ} {y : Session} {a : Arc σ} {packet : Buf} {rest : List Buf} :
      .asyncReader (some a) ∈ s.parts → y.inbound = packet :: rest →
        Step ⟨s, y⟩ (.take packet) ⟨s, { y with inbound := rest }⟩
  | arrive {s : Sharing σ} {y : Session} {packet : Buf} :
      Step ⟨s, y⟩ (.arrive packet) ⟨s, { y with inbound := y.inbound ++ [packet] }⟩
  | refill {s : Sharing σ} {y : Session} {ring : Ring} :
      Step ⟨s, y⟩ (.refill ring) ⟨s, { y with full := ring }⟩
  | disrupt {s : Sharing σ} {y : Session} {broken : Option String} :
      Step ⟨s, y⟩ (.disrupt broken) ⟨s, { y with broken }⟩

/-- Programs that share a device, and their network. -/
def traffics (σ : Type) : System (Traffic σ) Traffic.Action where
  init s := Sharing.Built s.sharing
  step := Traffic.Step

namespace Traffic.Action

/-- What arrives. -/
def arrived : Traffic.Action → List Buf
  | .arrive packet => [packet]
  | _ => []

/-- What takes packets. -/
def takers : Traffic.Action → List Taker
  | .call c x _ => Windows.takers c x
  | .take packet => [.thread packet]
  | _ => []

/-- What is put into the ring. -/
def accepted : Traffic.Action → List Buf
  | .call c x ring => Windows.accepted c x ring
  | _ => []

/-- It is a call that panics. -/
def panicked : Traffic.Action → Bool
  | .call _ x _ => Windows.panicked x
  | _ => false

/-- What a call promises: if it is a send that returned, its packet is in the ring, or met a full
ring and is dropped; and it panics on nothing but a length that 16 bits cannot say. -/
def Honest : Traffic.Action → Prop
  | .call c x ring =>
    (x = .done (.ok ()) → ∀ packet ∈ payload c, packet ∈ Windows.accepted c x ring ∨
      ∃ e, ring (.ofNat packet.length) = some (.io e) ∧
        e.rawOsError = some ERROR_BUFFER_OVERFLOW) ∧
    (Windows.panicked x = true → ∃ packet ∈ payload c, UInt16.size ≤ packet.length)
  | _ => True

end Traffic.Action

namespace Traffic

variable {σ : Type} {s t : Traffic σ} {a : Action}

/-- What an action does to the session. -/
structure Accounts (s : Traffic σ) (a : Action) (t : Traffic σ) : Prop where
  took : ∃ taken, s.session.inbound ++ a.arrived = taken ++ t.session.inbound ∧
    List.Forall₂ Taker.IsOf a.takers taken
  sent : t.session.sent = s.session.sent ++ a.accepted
  unsent : t.session.unsent = s.session.unsent + if a.panicked then 1 else 0
  honest : a.Honest

/-- **One action.** -/
theorem Step.accounts (hstep : Step s a t) : Accounts s a t := by
  have hnil {l : List Buf} : ∃ taken, l ++ [] = taken ++ l ∧ List.Forall₂ Taker.IsOf [] taken :=
    ⟨[], List.append_nil l, .nil⟩
  cases hstep with
  | call hp hhas hperform =>
      obtain ⟨taken, h⟩ := Tun.exchanged_perform hperform
      exact ⟨⟨taken, (List.append_nil _).trans h.inbound, h.took⟩, h.sent, h.unsent, h.dropped,
        h.panics⟩
  | share hshare => exact ⟨hnil, (List.append_nil _).symm, rfl, trivial⟩
  | @take s y a packet rest hp hin =>
      refine ⟨⟨[packet], ?_, .cons rfl .nil⟩, (List.append_nil _).symm, rfl, trivial⟩
      exact (List.append_nil _).trans hin
  | arrive => exact ⟨⟨[], rfl, .nil⟩, (List.append_nil _).symm, rfl, trivial⟩
  | refill | disrupt => exact ⟨hnil, (List.append_nil _).symm, rfl, trivial⟩

end Traffic

/-- **The traffic of a Windows program.**  Whichever parts it reads and writes on, and whatever
else it does with them: what was taken off the session are the packets that were there and that
arrived, one each and in order, but for those that wait in the end; what was put into the ring are
the packets of the sends, if vectored of something, that returned and had found room, in order; no
other packet of these was dropped without an error than by a full ring; and the ring has one hole
for every call that panicked, which only sends do that are too long. -/
theorem session_traffic {σ : Type} (s : Traffic σ) (l : List (Traffic.Action × Traffic σ))
    (hrun : (traffics σ).Run s l) :
    (∃ taken, s.session.inbound ++ l.flatMap (fun x ↦ x.1.arrived) =
        taken ++ (final s l).session.inbound ∧
      List.Forall₂ Taker.IsOf (l.flatMap fun x ↦ x.1.takers) taken) ∧
    (final s l).session.sent = s.session.sent ++ l.flatMap (fun x ↦ x.1.accepted) ∧
    (final s l).session.unsent = s.session.unsent + l.countP (fun x ↦ x.1.panicked) ∧
    ∀ x ∈ l, x.1.Honest := by
  refine ⟨?_, ?_, ?_, ?_⟩
  · exact hrun.queue_final (fun s ↦ s.session.inbound) Traffic.Action.arrived (I := fun _ ↦ True)
      (fun s a t _ hstep ↦ ⟨trivial, (Traffic.Step.accounts hstep).took⟩) trivial
  · have hlog : ∃ added, (final s l).session.sent = s.session.sent ++ added ∧
        List.Forall₂ (· = ·) (l.flatMap fun x ↦ x.1.accepted) added :=
      hrun.log_final (fun s ↦ s.session.sent) (I := fun _ ↦ True)
        (fun s a t _ hstep ↦
          ⟨trivial, _, (Traffic.Step.accounts hstep).sent, List.forall₂_refl _⟩) trivial
    obtain ⟨added, hsent, hadded⟩ := hlog
    rw [List.forall₂_eq_eq_eq] at hadded
    rw [hsent, hadded]
  · exact hrun.count_final (fun s a t hstep ↦ (Traffic.Step.accounts hstep).unsent)
  · exact hrun.forall_action fun s a t hstep ↦ (Traffic.Step.accounts hstep).honest

/-- An asynchronous device is split while a packet arrives, which the thread of the reader takes.
Of two sends on the writer the second finds the ring full, and returns like the first. -/
theorem session_traffic_dropped : ∃ (s : Traffic Unit) (l : List (Traffic.Action × Traffic Unit)),
    (traffics Unit).init s ∧ (traffics Unit).Run s l ∧
    l.flatMap (fun x ↦ x.1.arrived) = [[9]] ∧ (l.flatMap fun x ↦ x.1.takers).length = 1 ∧
    l.flatMap (fun x ↦ x.1.accepted) = [[1, 2]] ∧
    (final s l).session.sent = s.session.sent ++ l.flatMap (fun x ↦ x.1.accepted) := by
  let built := Heap.new () { next := 0, strong := fun _ ↦ 0 }
  let tun : Tun Unit := ⟨built.1⟩
  let w : World := ⟨built.2, [.started]⟩
  let r := (tun.splitAsync w).1.1
  let x := (tun.splitAsync w).1.2
  let v : Sharing Unit := ⟨[.asyncReader (some r), .asyncWriter x], (tun.splitAsync w).2⟩
  let y₀ : Session := Tun.roomySession
  let y₁ : Session := { y₀ with inbound := [[9]] }
  let y₂ : Session := { y₀ with sent := [[1, 2]] }
  let full : Ring := fun _ ↦ some (.io (.os ERROR_BUFFER_OVERFLOW))
  let y₃ : Session := { y₂ with full }
  have hbuilt : (traffics Unit).init ⟨⟨[.device tun], w⟩, y₀⟩ := .device () _
  have hnew : Traffic.Step ⟨⟨[] ++ [.device tun], w⟩, y₀⟩ (.share .asyncNew)
      ⟨⟨[] ++ [.asyncDevice tun], w⟩, y₀⟩ := .share .asyncNew
  have hsplit : Traffic.Step ⟨⟨[] ++ [.asyncDevice tun], w⟩, y₀⟩ (.share .asyncSplit) ⟨v, y₀⟩ :=
    .share (.asyncSplit rfl)
  have harrive : Traffic.Step ⟨v, y₀⟩ (.arrive [9]) ⟨v, y₁⟩ := .arrive
  have htake : Traffic.Step ⟨v, y₁⟩ (.take [9]) ⟨v, y₀⟩ := .take List.mem_cons_self rfl
  have hwriter : .asyncWriter x ∈ v.parts := List.mem_cons_of_mem _ List.mem_cons_self
  have hsend : Traffic.Step ⟨v, y₀⟩ (.call (.send [1, 2]) (.done (.ok ())) y₀.full) ⟨v, y₂⟩ :=
    .call hwriter rfl rfl
  have hrefill : Traffic.Step ⟨v, y₂⟩ (.refill full) ⟨v, y₃⟩ := .refill
  have hdrop : Traffic.Step ⟨v, y₃⟩ (.call (.send [3]) (.done (.ok ())) y₃.full) ⟨v, y₃⟩ :=
    .call hwriter rfl rfl
  have hrun := System.Run.cons (S := traffics Unit) hnew <| .cons hsplit <| .cons harrive <|
    .cons htake <| .cons hsend <| .cons hrefill <| .cons hdrop <| .nil _
  exact ⟨_, _, hbuilt, hrun, rfl, rfl, rfl, (session_traffic _ _ hrun).2.1⟩

end RustTun.Windows
