import RustTun.Base.Shared
import RustTun.Posix.Fd

/-!
# `Reader`, `Writer` and `Tun`

A `Tun` is one descriptor held three times: by its `Reader`, by its `Writer` and by
itself.  When the driver puts a packet information header in front of every frame,
`offset` is the length of that header: the reader strips it from what it delivers
and the writer infers it from the first nibble of what it is given.

The buffers a caller passes to a read come back as the second component of the
result.  On an error they are as they were.
-/

namespace RustTun

open Scatter Shared

/-! ## Packet information -/

/-- `PACKET_INFORMATION_LENGTH`. -/
def PIL : Nat := 4

/-- `is_ipv6`: infer the protocol from the first nibble of the packet. -/
def isIpv6 : Buf → Except IoError Bool
  | [] => .error (.new .invalidData "Zero-length data")
  | b :: _ =>
    let p := b >>> 4
    if p = 4 then .ok false
    else if p = 6 then .ok true
    else .error (.new .invalidData ("IP version " ++ toString p))

/-- `u32::to_be_bytes`. -/
def toBeBytes (n : UInt32) : Buf :=
  [(n >>> 24).toUInt8, (n >>> 16).toUInt8, (n >>> 8).toUInt8, n.toUInt8]

/-- `packet_information`. -/
def packetInformation (os : TargetOs) (ipv6 : Bool) : Buf :=
  match os with
  | .linux | .android => toBeBytes (if ipv6 then 0x86DD else 0x0800)
  | .macos | .ios => toBeBytes (if ipv6 then 30 else 2)
  | .freebsd => toBeBytes (if ipv6 then 0x86DD else 0x0800)

@[simp] theorem length_packetInformation (os : TargetOs) (ipv6 : Bool) :
    (packetInformation os ipv6).length = PIL := by
  cases os <;> rfl

/-! ## Reader -/

/-- `posix::Reader`. -/
structure Reader where
  fd : Arc Fd
  offset : Nat
  mtu : UInt16
  /-- `header[..self.offset]` is within the header. -/
  offset_le : offset ≤ PIL

namespace Reader

def setMtu (r : Reader) (value : UInt16) : Reader := { r with mtu := value }

/-- What is left of a count of bytes once the header is taken off. -/
def payload (r : Reader) (amount : Nat) : Nat :=
  if amount ≤ r.offset then 0 else amount - r.offset

/-- `header[..self.offset]` of a zeroed header. -/
def header (r : Reader) : Buf := (List.replicate PIL 0).take r.offset

/-- `Reader::recv`. -/
def recv (os : TargetOs) (r : Reader) (buf : Buf) : Call IoError File (Nat × Buf) :=
  if r.offset = 0 then r.fd.val.read os buf
  else do
    let (amount, filled) ← r.fd.val.readv os [r.header, buf]
    pure (r.payload amount, (filled.drop 1).headD buf)

/-- `Reader::recv_vectored`: with a header in front, the empty buffers are left out of
the list that is passed on. -/
def recvVectored (os : TargetOs) (r : Reader) (bufs : List Buf) :
    Call IoError File (Nat × List Buf) :=
  if r.offset = 0 then r.fd.val.readv os bufs
  else do
    let (amount, filled) ← r.fd.val.readv os (r.header :: nonempty bufs)
    pure (r.payload amount, refill bufs (filled.drop 1))

end Reader

/-! ## Writer -/

/-- `posix::Writer`. -/
structure Writer where
  fd : Arc Fd
  offset : Nat
  mtu : UInt16
  /-- `header[..self.offset]` is within the header. -/
  offset_le : offset ≤ PIL

namespace Writer

def setMtu (w : Writer) (value : UInt16) : Writer := { w with mtu := value }

/-- `packet_information(ipv6)[..self.offset]`. -/
def header (os : TargetOs) (w : Writer) (ipv6 : Bool) : Buf :=
  (RustTun.packetInformation os ipv6).take w.offset

/-- `Writer::send`. -/
def send (os : TargetOs) (w : Writer) (buf : Buf) : Call IoError File Unit :=
  if w.offset = 0 then w.fd.val.write buf
  else match isIpv6 buf with
    | .error e => .fail e
    | .ok ipv6 => w.fd.val.writev [w.header os ipv6, buf]

/-- `Writer::send_vectored`: with a header in front, the empty buffers are left out and
the header is inferred from the first buffer that remains. -/
def sendVectored (os : TargetOs) (w : Writer) (bufs : List Buf) : Call IoError File Unit :=
  if w.offset = 0 then w.fd.val.writev bufs
  else match nonempty bufs with
    | [] => pure ()
    | first :: rest =>
      match isIpv6 first with
      | .error e => .fail e
      | .ok ipv6 => w.fd.val.writev (w.header os ipv6 :: first :: rest)

end Writer

/-! ## Tun -/

/-- `posix::Tun`. -/
structure Tun where
  reader : Reader
  writer : Writer
  fd : Arc Fd
  mtu : UInt16
  packetInformation : Bool

namespace Tun

/-- `Tun::new`: the descriptor goes into a fresh cell, and the reader, the writer and
the `Tun` itself hold one handle each. -/
def new (fd : Fd) (mtu : UInt16) (packetInformation : Bool) (h : Heap) : Tun × Heap :=
  let (fd, h) := h.new fd
  let offset := if packetInformation then PIL else 0
  have offset_le : offset ≤ PIL := by
    unfold offset
    split
    · exact Nat.le_refl _
    · exact Nat.zero_le _
  let (forReader, h) := h.clone fd
  let (forWriter, h) := h.clone fd
  ({ reader := { fd := forReader, offset, mtu, offset_le }
     writer := { fd := forWriter, offset, mtu, offset_le }
     fd, mtu, packetInformation }, h)

def setNonblock (t : Tun) : Call IoError File Unit := t.reader.fd.val.setNonblock

def setMtu (t : Tun) (value : UInt16) : Tun :=
  { t with mtu := value, reader := t.reader.setMtu value, writer := t.writer.setMtu value }

def recv (os : TargetOs) (t : Tun) (buf : Buf) : Call IoError File (Nat × Buf) :=
  t.reader.recv os buf

def recvVectored (os : TargetOs) (t : Tun) (bufs : List Buf) :
    Call IoError File (Nat × List Buf) :=
  t.reader.recvVectored os bufs

def send (os : TargetOs) (t : Tun) (buf : Buf) : Call IoError File Unit := t.writer.send os buf

def sendVectored (os : TargetOs) (t : Tun) (bufs : List Buf) : Call IoError File Unit :=
  t.writer.sendVectored os bufs

/-- A `Tun` over the descriptor `3`, with packet information or without. -/
def sample (pi : Bool) : Tun :=
  (Tun.new { inner := 3, closeFdOnDrop := true } 1500 pi { next := 0, strong := fun _ ↦ 0 }).1

end Tun

/-! ## Sequences of calls -/

/-- The calls that can be made on a `Tun` any number of times. -/
inductive TunCall where
  | recv (buf : Buf)
  | recvVectored (bufs : List Buf)
  | send (buf : Buf)
  | sendVectored (bufs : List Buf)
  | setMtu (value : UInt16)
  | setNonblock
deriving DecidableEq, Repr

/-- What a call tells the caller: its result and, for a read, the contents of the
buffers that were passed, as they are after the call. -/
inductive Reply where
  | received (amount : Except (Stop IoError) Nat) (bufs : List Buf)
  | done (result : Except (Stop IoError) Unit)
deriving DecidableEq, Repr

/-- The reply to a read of `bufs`. -/
def Reply.ofRead (bufs : List Buf) : Except (Stop IoError) (Nat × List Buf) → Reply
  | .ok (n, filled) => .received (.ok n) filled
  | .error e => .received (.error e) bufs

namespace Tun

/-- Make one call. -/
def perform (os : TargetOs) (t : Tun) (f : File) : TunCall → Reply × Tun × File
  | .recv buf =>
    let (r, f) := t.recv os buf f
    (.ofRead [buf] (r.map fun x ↦ (x.1, [x.2])), t, f)
  | .recvVectored bufs =>
    let (r, f) := t.recvVectored os bufs f
    (.ofRead bufs r, t, f)
  | .send buf =>
    let (r, f) := t.send os buf f
    (.done r, t, f)
  | .sendVectored bufs =>
    let (r, f) := t.sendVectored os bufs f
    (.done r, t, f)
  | .setMtu value => (.done (.ok ()), t.setMtu value, f)
  | .setNonblock =>
    let (r, f) := t.setNonblock f
    (.done r, t, f)

/-- Make the calls one after the other. -/
def performAll (os : TargetOs) (t : Tun) (f : File) : List TunCall → List Reply × Tun × File
  | [] => ([], t, f)
  | c :: cs =>
    let (r, t, f) := t.perform os f c
    let (rs, t, f) := t.performAll os f cs
    (r :: rs, t, f)

end Tun

end RustTun
