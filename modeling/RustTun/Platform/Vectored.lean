import RustTun.Base.VectoredIo
import RustTun.FreeBsd.Device
import RustTun.Linux.Device
import RustTun.MacOs.Device
import RustTun.Posix.Wire
import RustTun.Windows.Send

/-!
# Reading from and writing to a platform device

Every platform `Device` implements `Read` and `Write` by hand, on top of the
implementations of its `Tun`.  A `Tun` keeps packet boundaries with any list of buffers;
a `Device` does so only if it passes the list on:

| device | `read_vectored` | `write_vectored` |
|---|---|---|
| Linux, FreeBSD, iOS | passed on | passed on |
| macOS, Android, OHOS | default | default |
| Windows | default | passed on |

The default uses the first buffer that is not empty.  `vectored_iff` says for each call
that returned when this is as good as passing the list on.
-/

namespace RustTun

open Scatter

/-! ## `Read` and `Write` for `Reader`, `Writer` and `Tun` -/

/-- `Read for Reader`. -/
def Reader.readImpl (os : TargetOs) (r : Reader) : VectoredIo.Read IoError File UInt8 :=
  { read := r.recv os, readVectored := some (r.recvVectored os) }

/-- `Write for Writer`. -/
def Writer.writeImpl (os : TargetOs) (w : Writer) : VectoredIo.Write IoError File UInt8 :=
  { write := fun buf ↦ do
      w.send os buf
      pure buf.length
    writeVectored := some fun bufs ↦ do
      w.sendVectored os bufs
      pure (size bufs) }

namespace Tun

/-- `Read for Tun`, delegated to the reader. -/
def readImpl (os : TargetOs) (t : Tun) : VectoredIo.Read IoError File UInt8 :=
  { read := (t.reader.readImpl os).read
    readVectored := some (t.reader.readImpl os).vectored }

/-- `Write for Tun`, delegated to the writer. -/
def writeImpl (os : TargetOs) (t : Tun) : VectoredIo.Write IoError File UInt8 :=
  { write := (t.writer.writeImpl os).write
    writeVectored := some (t.writer.writeImpl os).vectored }

/-- A `Read for Device` with both methods, each of which is that of `self.tun`. -/
def forwardRead (os : TargetOs) (t : Tun) : VectoredIo.Read IoError File UInt8 :=
  { read := (t.readImpl os).read, readVectored := some (t.readImpl os).vectored }

/-- A `Write for Device` with both methods, each of which is that of `self.tun`. -/
def forwardWrite (os : TargetOs) (t : Tun) : VectoredIo.Write IoError File UInt8 :=
  { write := (t.writeImpl os).write, writeVectored := some (t.writeImpl os).vectored }

/-- A `Read for Device` that has `read` only. -/
def scalarRead (os : TargetOs) (t : Tun) : VectoredIo.Read IoError File UInt8 :=
  { read := (t.readImpl os).read, readVectored := none }

/-- A `Write for Device` that has `write` only. -/
def scalarWrite (os : TargetOs) (t : Tun) : VectoredIo.Write IoError File UInt8 :=
  { write := (t.writeImpl os).write, writeVectored := none }

end Tun

/-! ## `Read` and `Write` for `Device` -/

namespace Linux.Device

/-- `Read for Device`. -/
def readImpl (dev : Device) : VectoredIo.Read IoError File UInt8 := dev.tun.forwardRead .linux

/-- `Write for Device`. -/
def writeImpl (dev : Device) : VectoredIo.Write IoError File UInt8 := dev.tun.forwardWrite .linux

end Linux.Device

namespace FreeBsd.Device

/-- `Read for Device`. -/
def readImpl (dev : Device) : VectoredIo.Read IoError File UInt8 := dev.tun.forwardRead .freebsd

/-- `Write for Device`. -/
def writeImpl (dev : Device) : VectoredIo.Write IoError File UInt8 := dev.tun.forwardWrite .freebsd

end FreeBsd.Device

namespace MacOs.Device

/-- `Read for Device`. -/
def readImpl (dev : Device) : VectoredIo.Read IoError File UInt8 := dev.tun.scalarRead .macos

/-- `Write for Device`. -/
def writeImpl (dev : Device) : VectoredIo.Write IoError File UInt8 := dev.tun.scalarWrite .macos

end MacOs.Device

namespace Ios

/-- `ios::Device`. -/
structure Device where
  tun : Tun

/-- `Read for Device`. -/
def Device.readImpl (dev : Device) : VectoredIo.Read IoError File UInt8 :=
  dev.tun.forwardRead .ios

/-- `Write for Device`. -/
def Device.writeImpl (dev : Device) : VectoredIo.Write IoError File UInt8 :=
  dev.tun.forwardWrite .ios

end Ios

namespace Android

/-- `android::Device`. -/
structure Device where
  tun : Tun

/-- `Read for Device`. -/
def Device.readImpl (dev : Device) : VectoredIo.Read IoError File UInt8 :=
  dev.tun.scalarRead .android

/-- `Write for Device`. -/
def Device.writeImpl (dev : Device) : VectoredIo.Write IoError File UInt8 :=
  dev.tun.scalarWrite .android

end Android

namespace Ohos

/-- `ohos::Device`. -/
structure Device where
  tun : Tun

/-- `Read for Device`; OpenHarmony is a Linux target. -/
def Device.readImpl (dev : Device) : VectoredIo.Read IoError File UInt8 :=
  dev.tun.scalarRead .linux

/-- `Write for Device`. -/
def Device.writeImpl (dev : Device) : VectoredIo.Write IoError File UInt8 :=
  dev.tun.scalarWrite .linux

end Ohos

namespace Windows

/-- `Read for Tun`. -/
def Tun.readImpl : VectoredIo.Read IoError Session UInt8 :=
  { read := recv, readVectored := none }

/-- `Write for Tun`. -/
def Tun.writeImpl : VectoredIo.Write IoError Session UInt8 :=
  { write := fun buf ↦ do
      send buf
      pure buf.length
    writeVectored := some fun bufs ↦ do
      sendVectored bufs
      pure (size bufs) }

/-- `Read for Device`. -/
def Device.readImpl : VectoredIo.Read IoError Session UInt8 :=
  { read := Tun.readImpl.read, readVectored := none }

/-- `Write for Device`. -/
def Device.writeImpl : VectoredIo.Write IoError Session UInt8 :=
  { write := Tun.writeImpl.write, writeVectored := some Tun.writeImpl.vectored }

end Windows

/-- A device of one of the posix platforms. -/
inductive PosixDevice where
  | linux (dev : Linux.Device)
  | freebsd (dev : FreeBsd.Device)
  | macos (dev : MacOs.Device)
  | ios (dev : Ios.Device)
  | android (dev : Android.Device)
  | ohos (dev : Ohos.Device)

namespace PosixDevice

/-- The `Tun` of a device. -/
def tun : PosixDevice → Tun
  | .linux dev => dev.tun
  | .freebsd dev => dev.tun
  | .macos dev => dev.tun
  | .ios dev => dev.tun
  | .android dev => dev.tun
  | .ohos dev => dev.tun

/-- The target a device is compiled for. -/
def targetOs : PosixDevice → TargetOs
  | .linux _ => .linux
  | .freebsd _ => .freebsd
  | .macos _ => .macos
  | .ios _ => .ios
  | .android _ => .android
  | .ohos _ => .linux

/-- `Read` for the device. -/
def readImpl : PosixDevice → VectoredIo.Read IoError File UInt8
  | .linux dev => dev.readImpl
  | .freebsd dev => dev.readImpl
  | .macos dev => dev.readImpl
  | .ios dev => dev.readImpl
  | .android dev => dev.readImpl
  | .ohos dev => dev.readImpl

/-- `Write` for the device. -/
def writeImpl : PosixDevice → VectoredIo.Write IoError File UInt8
  | .linux dev => dev.writeImpl
  | .freebsd dev => dev.writeImpl
  | .macos dev => dev.writeImpl
  | .ios dev => dev.writeImpl
  | .android dev => dev.writeImpl
  | .ohos dev => dev.writeImpl

/-- The platforms whose devices pass a list of buffers on. -/
def Forwards : PosixDevice → Prop
  | .linux _ | .freebsd _ | .ios _ => True
  | .macos _ | .android _ | .ohos _ => False

/-- A device passes both kinds of lists on or neither. -/
theorem forwards_or (dev : PosixDevice) :
    (dev.Forwards ∧ dev.readImpl = dev.tun.forwardRead dev.targetOs ∧
        dev.writeImpl = dev.tun.forwardWrite dev.targetOs) ∨
      (¬ dev.Forwards ∧ dev.readImpl = dev.tun.scalarRead dev.targetOs ∧
        dev.writeImpl = dev.tun.scalarWrite dev.targetOs) := by
  cases dev with
  | linux | freebsd | ios => exact .inl ⟨trivial, rfl, rfl⟩
  | macos | android | ohos => exact .inr ⟨id, rfl, rfl⟩

end PosixDevice

/-! ## The law -/

/-- The vectored calls of a `Tun`, with the packets that are waiting, those that were
sent, and the lengths of the headers they are behind. -/
structure Port (σ : Type) where
  recvVectored : List Buf → Call IoError σ (Nat × List Buf)
  sendVectored : List Buf → Call IoError σ Unit
  inbound : σ → List Buf
  outbound : σ → List Buf
  headerIn : Nat
  headerOut : Nat

/-- The port of a posix `Tun`. -/
def Tun.port (os : TargetOs) (t : Tun) : Port File :=
  { recvVectored := t.recvVectored os
    sendVectored := t.sendVectored os
    inbound := File.inbound
    outbound := File.outbound
    headerIn := t.reader.offset
    headerOut := t.writer.offset }

/-- The port of a Windows `Tun`. -/
def Windows.Tun.port : Port Windows.Session :=
  { recvVectored := recvVectored
    sendVectored := sendVectored
    inbound := Session.inbound
    outbound := Session.sent
    headerIn := 0
    headerOut := 0 }

namespace Port

variable {σ : Type} {p : Port σ} {bufs filled : List Buf} {n : Nat} {s t : σ}

/-- A write of `bufs` that returned `n` and went from `s` to `t` keeps packet boundaries. -/
structure KeepsWrite (p : Port σ) (bufs : List Buf) (s : σ) (n : Nat) (t : σ) : Prop where
  count : n = bufs.flatten.length
  packet : ∃ header : Buf, header.length = p.headerOut ∧
    p.outbound t = p.outbound s ++ [header ++ bufs.flatten]
  agrees : p.sendVectored bufs s = (.ok (), t)

/-- A read of `bufs` that returned `n`, left `filled` in the buffers and went from `s` to
`t` keeps packet boundaries. -/
structure KeepsRead (p : Port σ) (bufs : List Buf) (s : σ) (n : Nat) (filled : List Buf)
    (t : σ) : Prop where
  packet : ∃ frame, p.inbound s = frame :: p.inbound t ∧
    n = min (frame.length - p.headerIn) (capacity bufs) ∧
    filled = scatter (frame.drop p.headerIn) bufs
  agrees : p.recvVectored bufs s = (.ok (n, filled), t)

/-- What is behind the header of the oldest packet fits into the first buffer. -/
def FitsFirst (p : Port σ) (bufs : List Buf) (s : σ) : Prop :=
  ∀ frame ∈ (p.inbound s).head?, frame.length - p.headerIn ≤ (first bufs).length

/-- **A read that filled the first buffer only** keeps packet boundaries if its `Tun`
takes the list, which is `A`, and the first buffer was enough. -/
theorem keepsRead_first_iff {A : Prop} {frame : Buf}
    (hin : p.inbound s = frame :: p.inbound t)
    (hn : n = min (frame.length - p.headerIn) (first bufs).length)
    (hfilled : filled = replaceFirst bufs (overwrite (frame.drop p.headerIn) (first bufs)))
    (hrecv : n = min (frame.length - p.headerIn) (capacity bufs) →
      filled = scatter (frame.drop p.headerIn) bufs →
      (p.recvVectored bufs s = (.ok (n, filled), t) ↔ A)) :
    p.KeepsRead bufs s n filled t ↔ A ∧ ((nonempty bufs).length ≤ 1 ∨ p.FitsFirst bufs s) := by
  have hfits : p.FitsFirst bufs s ↔ frame.length - p.headerIn ≤ (first bufs).length := by
    simp [FitsFirst, hin]
  have hfirst := @first_fills_iff _ (frame.drop p.headerIn) bufs
  rw [List.length_drop, ← hn, ← hfilled] at hfirst
  rw [hfits, ← hfirst]
  constructor
  · rintro ⟨⟨frame', hin', hn', hfilled'⟩, hagrees⟩
    rw [hin, List.cons.injEq] at hin'
    obtain ⟨rfl, -⟩ := hin'
    exact ⟨(hrecv hn' hfilled').1 hagrees, hn', hfilled'⟩
  · rintro ⟨ha, hn', hfilled'⟩
    exact ⟨⟨frame, hin, hn', hfilled'⟩, (hrecv hn' hfilled').2 ha⟩

end Port

/-! ## Posix devices -/

namespace Tun

variable {os : TargetOs} {t : Tun} {bufs filled : List Buf} {n : Nat} {f g : File}

/-- A write that is passed on keeps packet boundaries. -/
theorem keepsWrite_forward (hne : bufs.flatten ≠ [])
    (h : (t.forwardWrite os).vectored bufs f = (.ok n, g)) :
    (t.port os).KeepsWrite bufs f n g := by
  obtain ⟨⟨⟩, u, hsend, hpure⟩ := Call.bind_eq_ok.1 h
  obtain ⟨rfl, rfl⟩ := Call.pure_eq_ok.1 hpure
  exact ⟨size_eq_length_flatten bufs, Writer.packet_of_sendVectored_eq_ok hne hsend, hsend⟩

/-- A write of the first slice keeps packet boundaries exactly if it is the only one, and
the list one that would have been passed on. -/
theorem keepsWrite_scalar_iff (hne : bufs.flatten ≠ [])
    (h : (t.scalarWrite os).vectored bufs f = (.ok n, g)) :
    (t.port os).KeepsWrite bufs f n g ↔
      (nonempty bufs).length ≤ 1 ∧ File.Accepts t.writer.offset bufs := by
  obtain ⟨⟨⟩, u, hsend, hpure⟩ := Call.bind_eq_ok.1 h
  obtain ⟨rfl, rfl⟩ := Call.pure_eq_ok.1 hpure
  have hfirst : first bufs ≠ [] := fun hc ↦ hne (first_eq_nil_iff.1 hc)
  rw [Writer.send_eq_sendVectored os _ hfirst,
    Writer.sendVectored_eq_ok_iff (by simpa using hfirst)] at hsend
  obtain ⟨-, fr, hfr, hsubmit⟩ := hsend
  rw [List.flatten_singleton] at hfr
  constructor
  · intro hk
    have hcount := hk.count
    rw [← capacity_eq_length_flatten, length_first_eq_iff] at hcount
    exact ⟨hcount, ((Writer.sendVectored_eq_ok_iff hne).1 hk.agrees).1⟩
  · rintro ⟨hone, haccepts⟩
    rw [first_eq_flatten hone] at hfr
    have hsend : t.writer.sendVectored os bufs f = (.ok (), u) :=
      (Writer.sendVectored_eq_ok_iff hne).2 ⟨haccepts, fr, hfr, hsubmit⟩
    exact ⟨by rw [first_eq_flatten hone], Writer.packet_of_sendVectored_eq_ok hne hsend, hsend⟩

/-- Without room for anything no frame is taken. -/
theorem room_of_keepsRead (h : (t.port os).KeepsRead bufs f n filled g) :
    t.reader.offset ≠ 0 ∨ bufs.flatten ≠ [] := by
  by_contra hc
  rw [not_or, not_not, not_not] at hc
  obtain ⟨frame, hin, -⟩ := h.packet
  rw [Reader.state_of_recvVectored_eq_ok hc.1 hc.2 h.agrees] at hin
  exact absurd (congrArg List.length hin) (Nat.succ_ne_self _).symm

/-- A read that is passed on keeps packet boundaries exactly if there is room for
something. -/
theorem keepsRead_forward_iff (h : (t.forwardRead os).vectored bufs f = (.ok (n, filled), g)) :
    (t.port os).KeepsRead bufs f n filled g ↔ t.reader.offset ≠ 0 ∨ bufs.flatten ≠ [] :=
  ⟨room_of_keepsRead, fun hroom ↦ ⟨Reader.packet_of_recvVectored_eq_ok hroom h, h⟩⟩

/-- A read into the first buffer keeps packet boundaries exactly if there is room for
something, the list is one that would have been passed on, and the first buffer was
enough. -/
theorem keepsRead_scalar_iff (h : (t.scalarRead os).vectored bufs f = (.ok (n, filled), g)) :
    (t.port os).KeepsRead bufs f n filled g ↔
      (t.reader.offset ≠ 0 ∨ bufs.flatten ≠ []) ∧ File.Accepts t.reader.offset bufs ∧
        ((nonempty bufs).length ≤ 1 ∨ (t.port os).FitsFirst bufs f) := by
  obtain ⟨buf, hread, rfl⟩ := VectoredIo.Read.default_eq_ok.1 h
  by_cases hroom : t.reader.offset ≠ 0 ∨ bufs.flatten ≠ []
  · have hfirst : t.reader.offset ≠ 0 ∨ first bufs ≠ [] :=
      hroom.imp_right fun hne hc ↦ hne (first_eq_nil_iff.1 hc)
    have hrecv := Reader.recv_eq_receive os t.reader hfirst f
    rw [show t.reader.recv os (first bufs) f = (.ok (n, buf), g) from hread] at hrecv
    obtain ⟨hwilling, frame, rest, hin, hn, hbuf, rfl⟩ :=
      File.receive_eq_ok_iff.1 (Fd.checked_eq_ok.1 hrecv.symm)
    rw [capacity_cons, capacity_nil, Nat.add_zero] at hn
    rw [scatter_cons, scatter_nil, List.cons.injEq] at hbuf
    obtain ⟨rfl, -⟩ := hbuf
    rw [and_iff_right hroom]
    apply Port.keepsRead_first_iff hin hn rfl
    intro hn' hfilled'
    refine Iff.trans (Reader.recvVectored_eq_ok_iff hroom) (and_iff_left ?_)
    exact File.receive_eq_ok_iff.2 ⟨hwilling, frame, rest, hin, hn', hfilled', rfl⟩
  · constructor
    · intro hk
      exact absurd (room_of_keepsRead hk) hroom
    · intro hk
      exact absurd hk.1 hroom

end Tun

/-! ## The Windows device -/

namespace Windows

variable {bufs filled : List Buf} {n : Nat} {s t : Session}

/-- A Windows write keeps packet boundaries exactly if the ring is not full. -/
theorem keepsWrite_iff (hne : bufs.flatten ≠ [])
    (h : Device.writeImpl.vectored bufs s = (.ok n, t)) :
    Tun.port.KeepsWrite bufs s n t ↔ ¬ s.RingFull bufs.flatten.length := by
  obtain ⟨⟨⟩, u, hsend, hpure⟩ := Call.bind_eq_ok.1 h
  obtain ⟨rfl, rfl⟩ := Call.pure_eq_ok.1 hpure
  constructor
  · rintro hk ⟨e, hfull, -⟩
    rcases (Tun.sendVectored_eq_ok_iff hne).1 hsend with ⟨hnone, -⟩ | ⟨-, rfl⟩
    · rw [hfull] at hnone
      cases hnone
    · obtain ⟨header, -, hsent⟩ := hk.packet
      have hlen := congrArg List.length hsent
      rw [List.length_append, List.length_singleton] at hlen
      exact absurd hlen (Nat.succ_ne_self _).symm
  · intro hfull
    refine ⟨size_eq_length_flatten bufs, ⟨[], rfl, ?_⟩, hsend⟩
    rcases (Tun.sendVectored_eq_ok_iff hne).1 hsend with ⟨-, -, rfl⟩ | ⟨hc, -⟩
    · rfl
    · exact absurd hc hfull

/-- A Windows read keeps packet boundaries exactly if the first buffer was enough. -/
theorem keepsRead_iff (h : Device.readImpl.vectored bufs s = (.ok (n, filled), t)) :
    Tun.port.KeepsRead bufs s n filled t ↔
      (nonempty bufs).length ≤ 1 ∨ Tun.port.FitsFirst bufs s := by
  obtain ⟨buf, hread, rfl⟩ := VectoredIo.Read.default_eq_ok.1 h
  obtain ⟨hbroken, data, rest, hin, hn, rfl, rfl⟩ := Tun.recv_eq_ok_iff.1 hread
  refine (Port.keepsRead_first_iff hin hn rfl fun hn' hfilled' ↦ ?_).trans (Iff.of_eq (true_and _))
  exact iff_true_intro
    (Tun.recvVectored_eq_ok_iff.2 ⟨hbroken, data, rest, hin, hn', hfilled', rfl⟩)

end Windows

/-! ## All of them -/

/-- **When a platform device keeps packet boundaries.**  A posix device that passes its
lists on always does, apart from a read without room for anything, which takes no packet.
One that does not only does so with one slice to write, and with a first buffer that is
all there is or large enough for the packet, as long as its `Tun` takes the list at all.
The Windows device passes on what it writes, which is a packet unless the ring is full,
and reads into the first buffer. -/
theorem vectored_iff (bufs : List Buf) :
    (∀ (dev : PosixDevice) (f : File) (n : Nat) (g : File),
      bufs.flatten ≠ [] → dev.writeImpl.vectored bufs f = (.ok n, g) →
      ((dev.tun.port dev.targetOs).KeepsWrite bufs f n g ↔
        dev.Forwards ∨
          (nonempty bufs).length ≤ 1 ∧ File.Accepts dev.tun.writer.offset bufs)) ∧
    (∀ (dev : PosixDevice) (f : File) (n : Nat) (filled : List Buf) (g : File),
      dev.readImpl.vectored bufs f = (.ok (n, filled), g) →
      ((dev.tun.port dev.targetOs).KeepsRead bufs f n filled g ↔
        (dev.tun.reader.offset ≠ 0 ∨ bufs.flatten ≠ []) ∧
          (dev.Forwards ∨ File.Accepts dev.tun.reader.offset bufs ∧
            ((nonempty bufs).length ≤ 1 ∨ (dev.tun.port dev.targetOs).FitsFirst bufs f)))) ∧
    (∀ (s : Windows.Session) (n : Nat) (t : Windows.Session),
      bufs.flatten ≠ [] → Windows.Device.writeImpl.vectored bufs s = (.ok n, t) →
      (Windows.Tun.port.KeepsWrite bufs s n t ↔ ¬ s.RingFull bufs.flatten.length)) ∧
    (∀ (s : Windows.Session) (n : Nat) (filled : List Buf) (t : Windows.Session),
      Windows.Device.readImpl.vectored bufs s = (.ok (n, filled), t) →
      (Windows.Tun.port.KeepsRead bufs s n filled t ↔
        (nonempty bufs).length ≤ 1 ∨ Windows.Tun.port.FitsFirst bufs s)) := by
  refine ⟨fun dev f n g hne h ↦ ?_, fun dev f n filled g h ↦ ?_,
    fun s n t ↦ Windows.keepsWrite_iff, fun s n filled t ↦ Windows.keepsRead_iff⟩
  · rcases dev.forwards_or with ⟨hfwd, -, hw⟩ | ⟨hfwd, -, hw⟩
    · rw [hw] at h
      exact iff_of_true (Tun.keepsWrite_forward hne h) (.inl hfwd)
    · rw [hw] at h
      rw [Tun.keepsWrite_scalar_iff hne h, or_iff_right hfwd]
  · rcases dev.forwards_or with ⟨hfwd, hr, -⟩ | ⟨hfwd, hr, -⟩
    · rw [hr] at h
      rw [Tun.keepsRead_forward_iff h, and_iff_left (.inl hfwd)]
    · rw [hr] at h
      rw [Tun.keepsRead_scalar_iff h, or_iff_right hfwd]

/-- On Linux and on Windows two slices are one packet, and one buffer is enough for a
small packet. -/
theorem vectored_two_slices :
    (let linux : PosixDevice := .linux { tunName := [], tun := Tun.sample false, ctl := ⟨4, true⟩ }
      let file : File := { inbound := [[5, 6]], outbound := [], refusals := [], nonblock := false }
      (linux.tun.port .linux).KeepsWrite [[1], [2]] file 2 { file with outbound := [[1, 2]] } ∧
        (linux.tun.port .linux).KeepsRead [[0], [0]] file 2 [[5], [6]]
          { file with inbound := [] }) ∧
      Windows.Tun.port.KeepsWrite [[1], [2]] Windows.Tun.roomySession 2
        { Windows.Tun.roomySession with sent := [[1, 2]] } ∧
      Windows.Tun.port.KeepsRead [[0, 0], [0]]
        { Windows.Tun.roomySession with inbound := [[5, 6]] } 2 [[5, 6], [0]]
        Windows.Tun.roomySession := by
  obtain ⟨hwrite, -, hwinWrite, -⟩ := vectored_iff [[1], [2]]
  refine ⟨⟨?_, ?_⟩, ?_, ?_⟩
  · exact (hwrite (.linux _) _ _ _ (by decide) rfl).2 (.inl trivial)
  · obtain ⟨-, hread, -, -⟩ := vectored_iff [[0], [0]]
    exact (hread (.linux _) _ _ _ _ rfl).2 ⟨.inr (by decide), .inl trivial⟩
  · exact (hwinWrite _ _ _ (by decide) rfl).2 fun ⟨_, hc, _⟩ ↦ nomatch hc
  · obtain ⟨-, -, -, hread⟩ := vectored_iff [[0, 0], [0]]
    refine (hread _ _ _ _ rfl).2 (.inr fun frame h ↦ ?_)
    cases h
    decide

/-- A macOS device sends the first of two slices as a packet and reports one byte. -/
theorem write_vectored_macos_truncates :
    let dev : PosixDevice :=
      .macos { tunName := none, tun := Tun.sample true, ctl := none, route := none }
    let file : File := { inbound := [], outbound := [], refusals := [], nonblock := false }
    let after : File := { file with outbound := [[0, 0, 0, 2, 0x45]] }
    dev.writeImpl.vectored [[0x45], [1]] file = (.ok 1, after) ∧
      ¬ (dev.tun.port dev.targetOs).KeepsWrite [[0x45], [1]] file 1 after :=
  ⟨rfl, fun h ↦ nomatch h.count⟩

end RustTun
