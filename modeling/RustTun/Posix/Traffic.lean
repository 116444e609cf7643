import RustTun.Async.Poll
import RustTun.Posix.Lifetime
import RustTun.Posix.Wire

/-!
# Packets across the parts of a program

A program shares a descriptor among parts, splits and clones them, and reads and writes on any of
them, while frames arrive at the device.  `traffics` are the runs of such a program together with
its network; each call is listed with its reply.

`traffic_exact` says what the replies are worth.  The reads that had room for something were given
the frames that arrived, one each and in order, and the writes of something put out one frame
each, in order as well.  It does not matter which parts the calls were made on, nor how many
calls failed in between: a call that fails moves nothing.
-/

namespace RustTun

open Scatter Shared Transition

/-! ## One call -/

/-- The buffers that a call reads into. -/
def TunCall.readsInto : TunCall → Option (List Buf)
  | .recv buf => some [buf]
  | .recvVectored bufs => some bufs
  | _ => none

/-- The packet that a call writes. -/
def TunCall.writes : TunCall → Option Buf
  | .send buf => some buf
  | .sendVectored bufs => some bufs.flatten
  | _ => none

/-- What a call has read, if it had room for something; with packet information, the header makes
room. -/
def TunCall.read (pi : Bool) (c : TunCall) (x : Reply) : List (Receipt UInt8) :=
  match c.readsInto, x with
  | some bufs, .received (.ok amount) filled =>
    if pi ∨ bufs.flatten ≠ [] then [{ bufs, amount, filled }] else []
  | _, _ => []

/-- What a call has written, if it was something. -/
def TunCall.written (c : TunCall) (x : Reply) : List Buf :=
  match c.writes, x with
  | some packet, .done (.ok ()) => if packet = [] then [] else [packet]
  | _, _ => []

namespace TunCall

variable {c : TunCall} {pi : Bool}

theorem read_of_none (h : c.readsInto = none) (x : Reply) : c.read pi x = [] := by
  unfold read
  rw [h]

theorem read_of_error {bufs bufs' : List Buf} (h : c.readsInto = some bufs)
    (stop : Stop IoError) : c.read pi (.received (.error stop) bufs') = [] := by
  unfold read
  rw [h]

theorem read_of_ok {bufs filled : List Buf} (h : c.readsInto = some bufs) (amount : Nat) :
    c.read pi (.received (.ok amount) filled) =
      if pi ∨ bufs.flatten ≠ [] then [{ bufs, amount, filled }] else [] := by
  unfold read
  rw [h]

theorem written_of_none (h : c.writes = none) (x : Reply) : c.written x = [] := by
  unfold written
  rw [h]

theorem written_of_error {packet : Buf} (h : c.writes = some packet) (stop : Stop IoError) :
    c.written (.done (.error stop)) = [] := by
  unfold written
  rw [h]

theorem written_of_ok {packet : Buf} (h : c.writes = some packet) :
    c.written (.done (.ok ())) = if packet = [] then [] else [packet] := by
  unfold written
  rw [h]

end TunCall

/-- The length of the headers. -/
def headerLength (pi : Bool) : Nat := if pi then PIL else 0

/-- The read was given what is behind the header of this frame. -/
def IsReadOf (pi : Bool) (r : Receipt UInt8) (frame : Buf) : Prop :=
  r.Holds (frame.drop (headerLength pi))

/-- The frame of a packet. -/
def IsFrameOf (os : TargetOs) (pi : Bool) (packet frame : Buf) : Prop :=
  if pi then ∃ ipv6, isIpv6 packet = .ok ipv6 ∧ frame = packetInformation os ipv6 ++ packet
  else frame = packet

/-- A call with this reply took the frames `taken` from the device and put out the frames
`put`. -/
structure Moved (os : TargetOs) (pi : Bool) (c : TunCall) (x : Reply) (f g : File)
    (taken put : List Buf) : Prop where
  inbound : f.inbound = taken ++ g.inbound
  outbound : g.outbound = f.outbound ++ put
  read : List.Forall₂ (IsReadOf pi) (c.read pi x) taken
  written : List.Forall₂ (IsFrameOf os pi) (c.written x) put

namespace Moved

variable {os : TargetOs} {pi : Bool} {c : TunCall} {x : Reply} {f g : File}

/-- A call that moved nothing, and does not say that it did. -/
theorem nothing (hsame : SamePackets f g) (hread : c.read pi x = []) (hwritten : c.written x = []) :
    Moved os pi c x f g [] [] where
  inbound := hsame.inbound.symm
  outbound := hsame.outbound.trans (List.append_nil _).symm
  read := by rw [hread]; exact .nil
  written := by rw [hwritten]; exact .nil

end Moved

namespace Reader

/-- A read that fails moves nothing. -/
theorem movesNothing_recvVectored (os : TargetOs) (r : Reader) (bufs : List Buf) :
    MovesNothing (r.recvVectored os bufs) := by
  rw [recvVectored]
  split
  · exact Tun.movesNothing_readv _ _ _
  · exact (Tun.movesNothing_readv _ _ _).bind_pure _

/-- A read takes the frame that it says it was given. -/
theorem moved_recvVectored (os : TargetOs) {pi : Bool} {r : Reader}
    (ho : r.offset = headerLength pi) (bufs : List Buf) {c : TunCall}
    (hc : c.readsInto = some bufs) (hw : c.writes = none) (f : File) :
    ∃ taken, Moved os pi c (.ofRead bufs (r.recvVectored os bufs f).1) f
      (r.recvVectored os bufs f).2 taken [] := by
  have hwritten (x : Reply) : c.written x = [] := TunCall.written_of_none hw x
  rcases h : r.recvVectored os bufs f with ⟨stop | ⟨n, filled⟩, g⟩
  · have hread : c.read pi (.received (.error stop) bufs) = [] := TunCall.read_of_error hc stop
    exact ⟨[], .nothing (r.movesNothing_recvVectored os bufs f g stop h) hread (hwritten _)⟩
  · by_cases hroom : pi ∨ bufs.flatten ≠ []
    · have hroom' : r.offset ≠ 0 ∨ bufs.flatten ≠ [] := by
        rcases hroom with hpi | hne
        · left
          rw [ho, hpi]
          decide
        · exact .inr hne
      obtain ⟨-, hreceive⟩ := (recvVectored_eq_ok_iff hroom').1 h
      obtain ⟨-, frame, rest, hin, hn, hfilled, rfl⟩ := File.receive_eq_ok_iff.1 hreceive
      refine ⟨[frame], hin, (List.append_nil _).symm, ?_, ?_⟩
      · have hread : c.read pi (.received (.ok n) filled) = [{ bufs, amount := n, filled }] := by
          rw [TunCall.read_of_ok hc]
          exact if_pos hroom
        rw [ho] at hn hfilled
        rw [← List.length_drop] at hn
        exact hread ▸ .cons ⟨hn, hfilled⟩ .nil
      · rw [hwritten]
        exact .nil
    · rw [not_or, Bool.not_eq_true, not_not] at hroom
      have hoffset : r.offset = 0 := by
        rw [ho, hroom.1]
        rfl
      have hg : g = f := state_of_recvVectored_eq_ok hoffset hroom.2 h
      have hread : c.read pi (.received (.ok n) filled) = [] := by
        rw [TunCall.read_of_ok hc]
        refine if_neg fun hor ↦ ?_
        rcases hor with hpi | hne
        · rw [hroom.1] at hpi
          cases hpi
        · exact hne hroom.2
      exact ⟨[], .nothing (hg ▸ .refl f) hread (hwritten _)⟩

end Reader

namespace Writer

/-- A write that fails moves nothing. -/
theorem movesNothing_sendVectored (os : TargetOs) (w : Writer) (bufs : List Buf) :
    MovesNothing (w.sendVectored os bufs) := by
  rw [sendVectored]
  split
  · exact Tun.movesNothing_writev _ _
  · split
    · exact .pure ()
    · split
      · exact .fail _
      · exact Tun.movesNothing_writev _ _

/-- A write that fails moves nothing. -/
theorem movesNothing_send (os : TargetOs) (w : Writer) (buf : Buf) :
    MovesNothing (w.send os buf) := by
  rw [send]
  split
  · exact .checked fun _ _ _ ↦ File.samePackets_write
  · split
    · exact .fail _
    · exact Tun.movesNothing_writev _ _

/-- A write of nothing that returns moves nothing. -/
theorem samePackets_send_nil {os : TargetOs} {w : Writer} {f g : File}
    (h : w.send os [] f = (.ok (), g)) : SamePackets f g := by
  by_cases ho : w.offset = 0
  · rw [send, if_pos ho, Fd.write, Fd.checked_eq_ok, File.write, if_pos rfl, File.reach] at h
    split at h <;> cases h
    exact ⟨rfl, rfl⟩
  · rw [send, if_neg ho] at h
    cases h

/-- A write of nothing that returns moves nothing. -/
theorem samePackets_sendVectored {os : TargetOs} {w : Writer} {bufs : List Buf}
    (hnil : bufs.flatten = []) {f g : File} (h : w.sendVectored os bufs f = (.ok (), g)) :
    SamePackets f g := by
  by_cases ho : w.offset = 0
  · rw [sendVectored_plain os ho, Fd.checked_eq_ok, File.writev] at h
    split at h
    · cases h
    · cases h
      exact .refl f
  · rw [sendVectored, if_neg ho, nonempty_eq_nil_iff.2 hnil] at h
    cases h
    exact .refl f

/-- What a frame is made of. -/
theorem isFrameOf_of_frame {os : TargetOs} {pi : Bool} {w : Writer}
    (ho : w.offset = headerLength pi) {packet frame : Buf}
    (h : w.frame os packet = .ok frame) : IsFrameOf os pi packet frame := by
  rw [Writer.frame, ho] at h
  cases pi with
  | false =>
      cases h
      rfl
  | true =>
      rw [if_neg (by decide)] at h
      cases hip : isIpv6 packet with
      | error e =>
          rw [hip] at h
          cases h
      | ok ipv6 =>
          rw [hip] at h
          cases h
          have hheader : w.header os ipv6 = packetInformation os ipv6 := by
            rw [header, ho]
            exact List.take_of_length_le (Nat.le_of_eq (length_packetInformation os ipv6))
          show IsFrameOf os true packet (w.header os ipv6 ++ packet)
          rw [hheader]
          exact ⟨ipv6, hip, rfl⟩

/-- A write puts out the frame of the packet that it says it has written. -/
theorem moved_sendVectored (os : TargetOs) {pi : Bool} {w : Writer}
    (ho : w.offset = headerLength pi) (bufs : List Buf) {c : TunCall}
    (hc : c.writes = some bufs.flatten) (hr : c.readsInto = none) (f : File) :
    ∃ put, Moved os pi c (.done (w.sendVectored os bufs f).1) f (w.sendVectored os bufs f).2
      [] put := by
  have hread (x : Reply) : c.read pi x = [] := TunCall.read_of_none hr x
  rcases h : w.sendVectored os bufs f with ⟨stop | ⟨⟩, g⟩
  · have hwritten : c.written (.done (.error stop)) = [] := TunCall.written_of_error hc stop
    exact ⟨[], .nothing (movesNothing_sendVectored os w bufs f g stop h) (hread _) hwritten⟩
  · by_cases hnil : bufs.flatten = []
    · have hwritten : c.written (.done (.ok ())) = [] := by
        rw [TunCall.written_of_ok hc]
        exact if_pos hnil
      exact ⟨[], .nothing (samePackets_sendVectored hnil h) (hread _) hwritten⟩
    · obtain ⟨-, frame, hframe, hsubmit⟩ := (sendVectored_eq_ok_iff hnil).1 h
      obtain ⟨-, rfl⟩ := File.submit_eq_ok_iff.1 hsubmit
      refine ⟨[frame], rfl, rfl, ?_, ?_⟩
      · rw [hread]
        exact .nil
      · have hwritten : c.written (.done (.ok ())) = [bufs.flatten] := by
          rw [TunCall.written_of_ok hc]
          exact if_neg hnil
        rw [hwritten]
        exact .cons (isFrameOf_of_frame ho hframe) .nil

end Writer

/-! ## One part -/

/-- A flat read likewise. -/
theorem Reader.moved_recv (os : TargetOs) {pi : Bool} {r : Reader} (ho : r.offset = headerLength pi)
    (buf : Buf) (f : File) :
    ∃ taken, Moved os pi (.recv buf)
      (.ofRead [buf] ((r.recv os buf f).1.map fun x ↦ (x.1, [x.2]))) f (r.recv os buf f).2
      taken [] := by
  have hmoved := moved_recvVectored os ho [buf] (c := .recv buf) rfl rfl f
  rw [recv_eq_recvVectored] at hmoved
  exact hmoved

/-- A flat write likewise. -/
theorem Writer.moved_send (os : TargetOs) {pi : Bool} {w : Writer} (ho : w.offset = headerLength pi)
    (buf : Buf) (f : File) :
    ∃ put, Moved os pi (.send buf) (.done (w.send os buf f).1) f (w.send os buf f).2 [] put := by
  by_cases hne : buf = []
  · subst hne
    have hread (x : Reply) : (TunCall.send []).read pi x = [] := TunCall.read_of_none rfl x
    rcases hs : w.send os [] f with ⟨stop | ⟨⟩, g⟩
    · have hsame : SamePackets f g := movesNothing_send os w [] f g stop hs
      exact ⟨[], .nothing hsame (hread _) (TunCall.written_of_error rfl stop)⟩
    · exact ⟨[], .nothing (samePackets_send_nil hs) (hread _) rfl⟩
  · have hflatten : (TunCall.send buf).writes = some [buf].flatten :=
      congrArg some List.flatten_singleton.symm
    rw [send_eq_sendVectored os w hne]
    exact moved_sendVectored os ho [buf] hflatten rfl f

/-- A reader that makes the call takes what it says. -/
theorem Reader.moved_perform (os : TargetOs) {pi : Bool} {r : Reader}
    (ho : r.offset = headerLength pi) {f g : File} {c : TunCall} {x : Reply}
    (h : r.perform os f c = some (x, g)) : ∃ taken, Moved os pi c x f g taken [] := by
  cases c with
  | recv buf =>
      cases h
      exact moved_recv os ho buf f
  | recvVectored bufs =>
      cases h
      exact moved_recvVectored os ho _ rfl rfl f
  | send buf | sendVectored bufs | setMtu value => cases h
  | setNonblock => cases h

/-- A writer that makes the call puts out what it says. -/
theorem Writer.moved_perform {os : TargetOs} {pi : Bool} {w : Writer}
    (ho : w.offset = headerLength pi) {f g : File} {c : TunCall} {x : Reply}
    (h : w.perform os f c = some (x, g)) : ∃ put, Moved os pi c x f g [] put := by
  cases c with
  | send buf =>
      cases h
      exact moved_send os ho buf f
  | sendVectored bufs =>
      cases h
      exact moved_sendVectored os ho _ rfl rfl f
  | recv buf | recvVectored bufs | setMtu value => cases h
  | setNonblock => cases h

/-- So does a `Tun`. -/
theorem Tun.moved_perform {os : TargetOs} {pi : Bool} {t : Tun}
    (hr : t.reader.offset = headerLength pi) (hw : t.writer.offset = headerLength pi) (f : File)
    (c : TunCall) :
    ∃ taken put, Moved os pi c (t.perform os f c).1 f (t.perform os f c).2.2 taken put := by
  cases c with
  | recv buf =>
      obtain ⟨taken, h⟩ := Reader.moved_recv os hr buf f
      exact ⟨taken, [], h⟩
  | recvVectored bufs =>
      obtain ⟨taken, h⟩ :=
        Reader.moved_recvVectored os hr bufs (c := .recvVectored bufs) rfl rfl f
      exact ⟨taken, [], h⟩
  | send buf =>
      obtain ⟨put, h⟩ := Writer.moved_send os hw buf f
      exact ⟨[], put, h⟩
  | sendVectored bufs =>
      obtain ⟨put, h⟩ :=
        Writer.moved_sendVectored os hw bufs (c := .sendVectored bufs) rfl rfl f
      exact ⟨[], put, h⟩
  | setMtu value => exact ⟨[], [], .nothing (.refl f) rfl rfl⟩
  | setNonblock => exact ⟨[], [], .nothing (t.samePackets_setNonblock rfl) rfl rfl⟩

namespace Part

/-- How long the headers are for the reader and the writer behind a part. -/
def offsets : Part → List Nat
  | .tun t => [t.reader.offset, t.writer.offset]
  | .device dev | .asyncDevice dev => [dev.tun.reader.offset, dev.tun.writer.offset]
  | .reader r => [r.offset]
  | .writer w => [w.offset]
  | .asyncReader a | .asyncWriter a => [a.val.tun.reader.offset, a.val.tun.writer.offset]

/-- They are as long as they are to be. -/
def Informed (pi : Bool) (p : Part) : Prop := ∀ o ∈ p.offsets, o = headerLength pi

/-- I/O leaves the length of the headers as it is. -/
theorem offsets_perform {os : TargetOs} {p p' : Part} {f f' : File} {c : TunCall} {x : Reply}
    (h : p.perform os f c = some (x, p', f')) : p'.offsets = p.offsets := by
  cases p with
  | tun t | device dev | asyncDevice dev =>
      cases h
      cases c with
      | recv buf | recvVectored bufs | send buf | sendVectored bufs | setMtu value => rfl
      | setNonblock => rfl
  | reader r | writer r | asyncReader r | asyncWriter r =>
      obtain ⟨y, -, hy⟩ := Option.map_eq_some_iff.1 h
      cases hy
      rfl

/-- **A call on a part moves what it says.** -/
theorem moved_perform {os : TargetOs} {pi : Bool} {p p' : Part} (hp : p.Informed pi)
    {f f' : File} {c : TunCall} {x : Reply} (h : p.perform os f c = some (x, p', f')) :
    ∃ taken put, Moved os pi c x f f' taken put := by
  have hfst {a b : Nat} (hall : ∀ o ∈ [a, b], o = headerLength pi) : a = headerLength pi :=
    hall a List.mem_cons_self
  have hsnd {a b : Nat} (hall : ∀ o ∈ [a, b], o = headerLength pi) : b = headerLength pi :=
    hall b (List.mem_cons_of_mem _ List.mem_cons_self)
  cases p with
  | tun t | device dev | asyncDevice dev =>
      cases h
      exact Tun.moved_perform (hfst hp) (hsnd hp) f c
  | reader r =>
      obtain ⟨y, hy, hcong⟩ := Option.map_eq_some_iff.1 h
      cases hcong
      obtain ⟨taken, hmoved⟩ := Reader.moved_perform os (hp _ List.mem_cons_self) hy
      exact ⟨taken, [], hmoved⟩
  | asyncReader a =>
      obtain ⟨y, hy, hcong⟩ := Option.map_eq_some_iff.1 h
      cases hcong
      obtain ⟨taken, hmoved⟩ := Reader.moved_perform os (hfst hp) hy
      exact ⟨taken, [], hmoved⟩
  | writer w =>
      obtain ⟨y, hy, hcong⟩ := Option.map_eq_some_iff.1 h
      cases hcong
      obtain ⟨put, hmoved⟩ := Writer.moved_perform (hp _ List.mem_cons_self) hy
      exact ⟨[], put, hmoved⟩
  | asyncWriter a =>
      obtain ⟨y, hy, hcong⟩ := Option.map_eq_some_iff.1 h
      cases hcong
      obtain ⟨put, hmoved⟩ := Writer.moved_perform (hsnd hp) hy
      exact ⟨[], put, hmoved⟩

end Part

/-! ## Programs and their network -/

/-- What a program and its network do. -/
inductive Traffic.Action where
  | /-- The program makes a call on one of its parts, and gets the reply. -/
    call (c : TunCall) (x : Reply)
  | /-- It does something else with one of its parts. -/ share (a : Sharing.Action)
  | /-- A frame arrives at the device. -/ arrive (frame : Buf)

/-- One action. -/
inductive Traffic.Step (os : TargetOs) : Sharing → Traffic.Action → Sharing → Prop
  | call {l₁ l₂ : List Part} {p p' : Part} {w : World} {f f' : File} {c : TunCall} {x : Reply} :
      p.perform os f c = some (x, p', f') →
        Step os ⟨l₁ ++ p :: l₂, w, f⟩ (.call c x) ⟨l₁ ++ p' :: l₂, w, f'⟩
  | share {s t : Sharing} {a : Sharing.Action} :
      (∀ c, a ≠ .perform c) → Sharing.Step os s a t → Step os s (.share a) t
  | arrive {parts : List Part} {w : World} {f : File} {frame : Buf} :
      Step os ⟨parts, w, f⟩ (.arrive frame)
        ⟨parts, w, { f with inbound := f.inbound ++ [frame] }⟩

/-- Programs that share what was built over the descriptor `d`, and their network. -/
def traffics (os : TargetOs) (d : RawFd) (close : Bool) : System Sharing Traffic.Action where
  init := Sharing.Built d close
  step := Traffic.Step os

namespace Traffic.Action

/-- What arrives. -/
def arrived : Traffic.Action → List Buf
  | .arrive frame => [frame]
  | _ => []

/-- What is read. -/
def read (pi : Bool) : Traffic.Action → List (Receipt UInt8)
  | .call c x => c.read pi x
  | _ => []

/-- What is written. -/
def written : Traffic.Action → List Buf
  | .call c x => c.written x
  | _ => []

end Traffic.Action

/-- The headers are as long as they are to be for all parts. -/
def Sharing.Informed (pi : Bool) (s : Sharing) : Prop := ∀ p ∈ s.parts, p.Informed pi

/-- What was just built has headers or has none. -/
theorem Sharing.Built.informed {d : RawFd} {close : Bool} {s : Sharing} (hs : Built d close s) :
    ∃ pi, s.Informed pi := by
  cases hs with
  | tun h mtu pi w f =>
      refine ⟨pi, fun p hp o ho ↦ ?_⟩
      rw [List.mem_singleton.1 hp] at ho
      rcases List.mem_cons.1 ho with ho | ho
      · exact ho
      · exact List.mem_singleton.1 ho
  | device h hctl mtu pi w f =>
      refine ⟨pi, fun p hp o ho ↦ ?_⟩
      rw [List.mem_singleton.1 hp] at ho
      rcases List.mem_cons.1 ho with ho | ho
      · exact ho
      · exact List.mem_singleton.1 ho

/-- An action puts parts in the place of one, with headers like its headers. -/
theorem Sharing.Step.offsets {os : TargetOs} {s t : Sharing} {a : Action} (h : Step os s a t) :
    ∃ l₁ p l₂ new, s.parts = l₁ ++ p :: l₂ ∧ t.parts = l₁ ++ (new ++ l₂) ∧
      ∀ q ∈ new, q.offsets ⊆ p.offsets := by
  cases h with
  | @perform l₁ l₂ p p' w f f' c x hp =>
      refine ⟨l₁, p, l₂, [p'], rfl, rfl, List.forall_mem_singleton.2 ?_⟩
      rw [Part.offsets_perform hp]
      exact List.Subset.refl _
  | @split l₁ l₂ dev r x w w' f hsplit =>
      cases hsplit
      refine ⟨l₁, _, l₂, [.reader dev.tun.reader, .writer dev.tun.writer], rfl, rfl, ?_⟩
      rw [List.forall_mem_cons, List.forall_mem_singleton]
      exact ⟨List.cons_subset_cons _ (List.nil_subset _), List.subset_cons_self _ _⟩
  | @asyncNew l₁ l₂ dev w f f' hset =>
      exact ⟨l₁, _, l₂, [.asyncDevice dev], rfl, rfl,
        List.forall_mem_singleton.2 (List.Subset.refl _)⟩
  | @asyncNewFails l₁ l₂ dev w f f' result hset =>
      exact ⟨l₁, _, l₂, [], rfl, rfl, List.forall_mem_nil _⟩
  | @asyncSplit l₁ l₂ dev r x w w' f hsplit =>
      cases hsplit
      refine ⟨l₁, _, l₂, [.asyncReader _, .asyncWriter _], rfl, rfl, ?_⟩
      rw [List.forall_mem_cons, List.forall_mem_singleton]
      exact ⟨List.Subset.refl _, List.Subset.refl _⟩
  | @clone l₁ l₂ device device' w heap f hclone =>
      cases hclone
      refine ⟨l₁, _, l₂, [.asyncWriter device, .asyncWriter device], rfl, rfl, ?_⟩
      rw [List.forall_mem_cons, List.forall_mem_singleton]
      exact ⟨List.Subset.refl _, List.Subset.refl _⟩
  | @drop l₁ l₂ p w f => exact ⟨l₁, p, l₂, [], rfl, rfl, List.forall_mem_nil _⟩

/-- So the headers stay as long as they are to be. -/
theorem Sharing.Informed.step {os : TargetOs} {pi : Bool} {s t : Sharing} {a : Action}
    (hs : s.Informed pi) (h : Step os s a t) : t.Informed pi := by
  obtain ⟨l₁, p, l₂, new, hparts, hparts', hnew⟩ := h.offsets
  rw [Informed, hparts, List.forall_mem_append, List.forall_mem_cons] at hs
  obtain ⟨hl₁, hp, hl₂⟩ := hs
  rw [Informed, hparts', List.forall_mem_append, List.forall_mem_append]
  exact ⟨hl₁, fun q hq o ho ↦ hp o (hnew q hq ho), hl₂⟩

/-- Nothing but a call moves packets. -/
theorem Sharing.Step.samePackets {os : TargetOs} {s t : Sharing} {a : Action}
    (h : Step os s a t) (ha : ∀ c, a ≠ .perform c) : SamePackets s.file t.file := by
  cases h with
  | perform hp => exact absurd rfl (ha _)
  | asyncNew hset | asyncNewFails hset => exact Tun.samePackets_setNonblock _ hset
  | split | asyncSplit | clone | drop => exact .refl _

namespace Traffic

variable {os : TargetOs} {pi : Bool} {s t : Sharing} {a : Action}

/-- **One action** keeps the length of the headers, and takes off the device and puts out what
it says. -/
theorem Step.moved (hstep : Step os s a t) (hs : s.Informed pi) :
    t.Informed pi ∧ ∃ taken put, s.file.inbound ++ a.arrived = taken ++ t.file.inbound ∧
      t.file.outbound = s.file.outbound ++ put ∧
      List.Forall₂ (IsReadOf pi) (a.read pi) taken ∧
      List.Forall₂ (IsFrameOf os pi) a.written put := by
  cases hstep with
  | @call l₁ l₂ p p' w f f' c x hp =>
      have hinformed : p.Informed pi := hs p (List.mem_append_right _ List.mem_cons_self)
      obtain ⟨taken, put, hmoved⟩ := Part.moved_perform hinformed hp
      refine ⟨hs.step (.perform hp), taken, put, ?_, hmoved.outbound, hmoved.read, hmoved.written⟩
      exact (List.append_nil _).trans hmoved.inbound
  | share ha hshare =>
      have hsame := hshare.samePackets ha
      refine ⟨hs.step hshare, [], [], ?_, ?_, .nil, .nil⟩
      · exact (List.append_nil _).trans hsame.inbound.symm
      · exact hsame.outbound.trans (List.append_nil _).symm
  | arrive => exact ⟨hs, [], [], rfl, (List.append_nil _).symm, .nil, .nil⟩

end Traffic

/-- **The traffic of a program.**  However it shares the descriptor among parts and whichever of
them it reads and writes on: what was read are the frames that were there and that arrived, one
each and in order, but for those that wait in the end; and what was written are the frames that
were put out, one each and in order. -/
theorem traffic_exact (os : TargetOs) (d : RawFd) (close : Bool) (s : Sharing)
    (l : List (Traffic.Action × Sharing)) (hinit : (traffics os d close).init s)
    (hrun : (traffics os d close).Run s l) :
    ∃ pi, s.Informed pi ∧ ∃ taken put,
      s.file.inbound ++ l.flatMap (fun x ↦ x.1.arrived) = taken ++ (final s l).file.inbound ∧
      (final s l).file.outbound = s.file.outbound ++ put ∧
      List.Forall₂ (IsReadOf pi) (l.flatMap fun x ↦ x.1.read pi) taken ∧
      List.Forall₂ (IsFrameOf os pi) (l.flatMap fun x ↦ x.1.written) put := by
  obtain ⟨pi, hs⟩ := Sharing.Built.informed hinit
  obtain ⟨taken, hin, hread⟩ := hrun.queue_final (fun s ↦ s.file.inbound)
    Traffic.Action.arrived (I := Sharing.Informed pi) (fun s a t hs hstep ↦ by
      obtain ⟨ht, taken, -, hin, -, hread, -⟩ := Traffic.Step.moved hstep hs
      exact ⟨ht, taken, hin, hread⟩) hs
  obtain ⟨put, hout, hwritten⟩ := hrun.log_final (fun s ↦ s.file.outbound)
    (I := Sharing.Informed pi) (fun s a t hs hstep ↦ by
      obtain ⟨ht, -, put, -, hout, -, hwritten⟩ := Traffic.Step.moved hstep hs
      exact ⟨ht, put, hout, hwritten⟩) hs
  exact ⟨pi, hs, taken, put, hin, hout, hread, hwritten⟩

/-- A device with packet information is split while a frame arrives.  The writer is given
something that is no packet, the reader reads the frame, and the writer writes it back. -/
theorem traffic_exact_echo : ∃ s l, (traffics .macos 5 true).Run s l ∧
    l.flatMap (fun x ↦ x.1.arrived) = [[0, 0, 0, 2, 0x45, 1]] ∧
    (l.flatMap fun x ↦ x.1.read true).length = 1 ∧
    l.flatMap (fun x ↦ x.1.written) = [[0x45, 1]] ∧
    ∃ pi, s.Informed pi ∧ ∃ taken put,
      s.file.inbound ++ l.flatMap (fun x ↦ x.1.arrived) = taken ++ (final s l).file.inbound ∧
      (final s l).file.outbound = s.file.outbound ++ put ∧
      List.Forall₂ (IsReadOf pi) (l.flatMap fun x ↦ x.1.read pi) taken ∧
      List.Forall₂ (IsFrameOf .macos pi) (l.flatMap fun x ↦ x.1.written) put := by
  let built := Tun.new { inner := 5, closeFdOnDrop := true } 1500 true World.initial.heap
  let dev : Device := { tun := built.1, ctl := none }
  let w : World := { World.initial with heap := built.2 }
  let frame : Buf := [0, 0, 0, 2, 0x45, 1]
  let f₀ : File := { inbound := [], outbound := [], refusals := [], nonblock := false }
  let f₁ : File := { f₀ with inbound := [frame] }
  let f₂ : File := { f₀ with outbound := [frame] }
  let r := (dev.split w).1.1
  let x := (dev.split w).1.2
  let w₁ := (dev.split w).2
  have hbuilt : Sharing.Built 5 true ⟨[.device dev], w, f₀⟩ :=
    .device rfl (by rintro _ ⟨⟩) 1500 true World.initial f₀
  have harrive : Traffic.Step .macos ⟨[.device dev], w, f₀⟩ (.arrive frame)
      ⟨[.device dev], w, f₁⟩ := .arrive
  have hsplit : Traffic.Step .macos ⟨[] ++ [.device dev], w, f₁⟩ (.share .split)
      ⟨[] ++ [.reader r, .writer x], w₁, f₁⟩ := .share (fun c hc ↦ nomatch hc) (.split rfl)
  have hbad : Traffic.Step .macos ⟨[.reader r] ++ [.writer x], w₁, f₁⟩
      (.call (.send [0]) (.done (.error (.err (.new .invalidData "IP version 0")))))
      ⟨[.reader r] ++ [.writer x], w₁, f₁⟩ := .call rfl
  have hrecv : Traffic.Step .macos ⟨[] ++ [.reader r, .writer x], w₁, f₁⟩
      (.call (.recv [0, 0, 0]) (.received (.ok 2) [[0x45, 1, 0]]))
      ⟨[] ++ [.reader r, .writer x], w₁, f₀⟩ := .call rfl
  have hsend : Traffic.Step .macos ⟨[.reader r] ++ [.writer x], w₁, f₀⟩
      (.call (.send [0x45, 1]) (.done (.ok ())))
      ⟨[.reader r] ++ [.writer x], w₁, f₂⟩ := .call rfl
  have hrun := System.Run.cons (S := traffics .macos 5 true) harrive <| .cons hsplit <|
    .cons hbad <| .cons hrecv <| .cons hsend <| .nil _
  exact ⟨_, _, hrun, rfl, rfl, rfl, traffic_exact .macos 5 true _ _ hbuilt hrun⟩

end RustTun
