import RustTun.Base.Call
import RustTun.Utils

/-!
# The Windows `Tun`

A wintun session hands out packets of its send ring to write to.  The size of a packet
is asked for as a `u16`, while the library knows its length as a `usize`; `with_packet`
narrows the one to the other (`size as u16`), and what is copied into the packet is
checked against the packet's own length.  So everything depends on whether the two
agree: `allOrNothing_iff`.
-/

namespace RustTun.Windows

open Scatter Slice

/-! ## The session -/

def ERROR_BUFFER_OVERFLOW : Errno := 111

def ERROR_HANDLE_EOF : Errno := 38

/-- `wintun::Session`. -/
structure Session where
  /-- Packets waiting to be received, oldest first. -/
  inbound : List Buf
  /-- What `receive_blocking` fails with once the session is shut down. -/
  shutdown : String
  /-- What it fails with although packets may be waiting, as it does once the adapter is
  terminated; `none` is that it does not. -/
  broken : Option String
  /-- How an allocation of a packet fails; `none` is success. -/
  full : UInt16 → Option WintunError
  /-- Packets sent, oldest first. -/
  sent : List Buf
  /-- How many packets were allocated and not sent. -/
  unsent : Nat

namespace Session

/-- `Session::allocate_send_packet`: a packet of exactly `n` bytes. -/
def allocateSendPacket (n : UInt16) (s : Session) : Except WintunError Buf × Session :=
  match s.full n with
  | some e => (.error e, s)
  | none => (.ok (List.replicate n.toNat 0), { s with unsent := s.unsent + 1 })

/-- `Session::send_packet`. -/
def sendPacket (packet : Buf) : Call IoError Session Unit := .modify fun s ↦
  { s with sent := s.sent ++ [packet], unsent := s.unsent - 1 }

/-- The ring has no room for a packet of `n` bytes. -/
def RingFull (s : Session) (n : Nat) : Prop :=
  ∃ e, s.full (UInt16.ofNat n) = some (.io e) ∧ e.rawOsError = some ERROR_BUFFER_OVERFLOW

end Session

/-! ## `Tun` -/

namespace Tun

/-- A checked result: a failed check is a panic. -/
def orPanic {α : Type} : Option α → Call IoError Session α
  | some a => pure a
  | none => .panic

/-- `Session::receive_blocking`, with its error made an `io::Error`. -/
def receiveBlocking : Call IoError Session Buf := fun s ↦
  match s.broken, s.inbound with
  | some text, _ => (.error (.err (.new .connectionAborted text)), s)
  | none, p :: ps => (.ok p, { s with inbound := ps })
  | none, [] => (.error (.err (.new .connectionAborted s.shutdown)), s)

/-- `Tun::recv`. -/
def recv (buf : Buf) : Call IoError Session (Nat × Buf) := do
  let data ← receiveBlocking
  orPanic (put data buf)

/-- `Tun::recv_vectored`. -/
def recvVectored (bufs : List Buf) : Call IoError Session (Nat × List Buf) := do
  let data ← receiveBlocking
  orPanic (putv data bufs)

/-- What `with_packet` makes of an error of the allocation. -/
def allocationFailed : WintunError → Call IoError Session Unit
  | .io e =>
    match e.rawOsError with
    | some code =>
      if code = ERROR_BUFFER_OVERFLOW then pure ()
      else if code = ERROR_HANDLE_EOF then .fail (.wrap .brokenPipe e)
      else .fail e
    | none => .fail e
  | .other text => .fail (.new .other text)

/-- `Tun::with_packet`; `size as u16` keeps the low 16 bits. -/
def withPacket (size : Nat) (f : Buf → Call IoError Session Unit) : Call IoError Session Unit :=
  fun s ↦
    match s.allocateSendPacket (UInt16.ofNat size) with
    | (.ok packet, s) => f packet s
    | (.error e, s) => allocationFailed e s

/-- What the two sends do with a packet: copy into it with `fill`, and send it. -/
def fillAndSend (fill : Buf → Option Buf) (packet : Buf) : Call IoError Session Unit := do
  let packet ← orPanic (fill packet)
  Session.sendPacket packet

/-- `Tun::send`. -/
def send (buf : Buf) : Call IoError Session Unit :=
  withPacket buf.length (fillAndSend fun packet ↦ copyFrom packet 0 packet.length buf)

/-- The loop of `Tun::send_vectored` over the slices that are left. -/
def gather (dst : Buf) : Nat → List Buf → Option Buf
  | _, [] => some dst
  | offset, buf :: bufs =>
    if buf = [] then gather dst offset bufs
    else do
      let dst ← copyFrom dst offset (offset + buf.length) buf
      gather dst (offset + buf.length) bufs

/-- `Tun::send_vectored`. -/
def sendVectored (bufs : List Buf) : Call IoError Session Unit :=
  if size bufs = 0 then pure ()
  else withPacket (size bufs) (fillAndSend fun packet ↦ gather packet 0 bufs)

/-! ## Receiving -/

/-- A receive returns exactly if there is a packet and the session is not broken. -/
theorem receiveBlocking_eq_ok_iff {s t : Session} {data : Buf} :
    receiveBlocking s = (.ok data, t) ↔
      s.broken = none ∧ ∃ rest, s.inbound = data :: rest ∧ t = { s with inbound := rest } := by
  rw [receiveBlocking]
  cases hbroken : s.broken with
  | some text => simp
  | none =>
      rw [eq_self, true_and]
      cases s.inbound with
      | nil => simp
      | cons p ps =>
          constructor
          · intro h
            cases h
            exact ⟨ps, rfl, rfl⟩
          · rintro ⟨rest, heq, rfl⟩
            cases heq
            rfl

/-- A receive takes one packet and copies what fits of it into the buffer. -/
theorem recv_eq_ok_iff {s t : Session} {buf filled : Buf} {n : Nat} :
    recv buf s = (.ok (n, filled), t) ↔
      s.broken = none ∧ ∃ data rest, s.inbound = data :: rest ∧ n = min data.length buf.length ∧
        filled = overwrite data buf ∧ t = { s with inbound := rest } := by
  rw [recv, Call.bind_eq_ok]
  constructor
  · rintro ⟨data, u, hdata, hput⟩
    obtain ⟨hbroken, rest, hin, rfl⟩ := receiveBlocking_eq_ok_iff.1 hdata
    rw [put_eq] at hput
    cases hput
    exact ⟨hbroken, data, rest, hin, rfl, rfl, rfl⟩
  · rintro ⟨hbroken, data, rest, hin, rfl, rfl, rfl⟩
    refine ⟨data, _, receiveBlocking_eq_ok_iff.2 ⟨hbroken, rest, hin, rfl⟩, ?_⟩
    rw [put_eq]
    rfl

/-- A vectored receive takes one packet and scatters it over the buffers. -/
theorem recvVectored_eq_ok_iff {s t : Session} {bufs filled : List Buf} {n : Nat} :
    recvVectored bufs s = (.ok (n, filled), t) ↔
      s.broken = none ∧ ∃ data rest, s.inbound = data :: rest ∧
        n = min data.length (capacity bufs) ∧ filled = scatter data bufs ∧
        t = { s with inbound := rest } := by
  rw [recvVectored, Call.bind_eq_ok]
  constructor
  · rintro ⟨data, u, hdata, hput⟩
    obtain ⟨hbroken, rest, hin, rfl⟩ := receiveBlocking_eq_ok_iff.1 hdata
    rw [putv_eq] at hput
    cases hput
    exact ⟨hbroken, data, rest, hin, rfl, rfl, rfl⟩
  · rintro ⟨hbroken, data, rest, hin, rfl, rfl, rfl⟩
    refine ⟨data, _, receiveBlocking_eq_ok_iff.2 ⟨hbroken, rest, hin, rfl⟩, ?_⟩
    rw [putv_eq]
    rfl

end Tun

end RustTun.Windows
