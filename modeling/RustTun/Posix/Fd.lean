import RustTun.Base.Call
import RustTun.Base.Scatter
import RustTun.Error

/-!
# Descriptors and the packet device behind them

`Fd` is the crate's owned descriptor.  Its four input and output methods are thin
wrappers over `read`, `readv`, `write` and `writev`; what those system calls do is
the model `File` of a packet device: a queue of frames waiting to be read and the
frames it has accepted, oldest first.

* A read takes one frame, stores as much of it as fits into the buffers in order and
  discards the rest.  A read with no capacity at all returns `0` and takes nothing.
* A write gathers its buffers in order into one frame.  Of nothing at all no frame is made:
  `writev` then returns at once, while `write` asks the driver nevertheless.
* Both refuse more than `IOV_MAX` buffers with `EINVAL`.
* The driver may refuse any call for reasons of its own.  `refusals` is the script of
  what it answers to the calls that reach it, `none` standing for "go ahead".

A read of an empty queue fails with `EAGAIN`, the answer of a descriptor in
non-blocking mode; in blocking mode the call would not return, so that nothing is
claimed about it.  The number of `EAGAIN` depends on the target.
-/

namespace RustTun

open Scatter

/-- The contents of a byte buffer. -/
abbrev Buf := List UInt8

/-- `c_int` as a descriptor number. -/
abbrev RawFd := Int

/-- The targets of the posix implementation, as far as the code or the numbers of the
system tell them apart.  OpenHarmony is a Linux target. -/
inductive TargetOs where
  | linux
  | android
  | macos
  | ios
  | freebsd
deriving DecidableEq, Repr

/-! ## The packet device -/

/-- A packet device as seen through one of its descriptors. -/
structure File where
  /-- Frames waiting to be read, oldest first. -/
  inbound : List Buf
  /-- Frames written, oldest first. -/
  outbound : List Buf
  /-- What the driver answers to the calls that reach it. -/
  refusals : List (Option Errno)
  /-- `O_NONBLOCK` is set. -/
  nonblock : Bool
deriving DecidableEq, Repr

namespace File

/-- The largest number of buffers `readv` and `writev` take. -/
def iovMax : Nat := 1024

def EINVAL : Errno := 22

def EAGAIN : TargetOs → Errno
  | .linux | .android => 11
  | .macos | .ios | .freebsd => 35

/-- A call that reaches the driver: it goes on with `call` unless the driver refuses. -/
def reach {α : Type} (call : File → Except Errno α × File) (f : File) : Except Errno α × File :=
  match f.refusals.head?.join with
  | some e => (.error e, { f with refusals := f.refusals.tail })
  | none => call { f with refusals := f.refusals.tail }

/-- Take the oldest frame and scatter it over `iov`. -/
def deliver (os : TargetOs) (iov : List Buf) (f : File) :
    Except Errno (Nat × List Buf) × File :=
  match f.inbound with
  | [] => (.error (EAGAIN os), f)
  | p :: ps => (.ok (min p.length (capacity iov), scatter p iov), { f with inbound := ps })

/-- `readv(2)`. -/
def readv (os : TargetOs) (iov : List Buf) (f : File) :
    Except Errno (Nat × List Buf) × File :=
  if iovMax < iov.length then (.error EINVAL, f)
  else if capacity iov = 0 then (.ok (0, iov), f)
  else f.reach (deliver os iov)

/-- Accept `frame`. -/
def emit (frame : Buf) (f : File) : Except Errno Unit × File :=
  (.ok (), { f with outbound := f.outbound ++ [frame] })

/-- `writev(2)`. -/
def writev (iov : List Buf) (f : File) : Except Errno Unit × File :=
  if iovMax < iov.length then (.error EINVAL, f)
  else if iov.flatten = [] then (.ok (), f)
  else f.reach (emit iov.flatten)

/-- `read(2)`, which is `readv(2)` into one buffer. -/
def read (os : TargetOs) (buf : Buf) (f : File) : Except Errno (Nat × Buf) × File :=
  match f.readv os [buf] with
  | (.ok (n, bufs), f) => (.ok (n, bufs.headD buf), f)
  | (.error e, f) => (.error e, f)

/-- `write(2)`.  An empty write reaches the driver as well, which puts nothing out if it does
not refuse it. -/
def write (buf : Buf) (f : File) : Except Errno Unit × File :=
  f.reach (if buf = [] then fun f ↦ (.ok (), f) else emit buf)

/-- `fcntl(2)` with `F_SETFL`, which adds `O_NONBLOCK`. -/
def setNonblock (f : File) : Except Errno Unit × File :=
  f.reach fun f ↦ (.ok (), { f with nonblock := true })

end File

/-! ## The descriptor -/

/-- `posix::Fd`: a descriptor number and whether dropping it closes the descriptor. -/
structure Fd where
  inner : RawFd
  closeFdOnDrop : Bool
deriving DecidableEq, Repr

namespace Fd

/-- `Fd::new`. -/
def new (value : RawFd) (closeFdOnDrop : Bool) : Except Error Fd :=
  if value < 0 then .error .invalidDescriptor else .ok { inner := value, closeFdOnDrop }

/-- The result of a system call as an `io::Result`: a negative return value becomes
`io::Error::last_os_error()`. -/
def checked {α : Type} (call : File → Except Errno α × File) : Call IoError File α := fun f ↦
  match call f with
  | (.ok a, f) => (.ok a, f)
  | (.error e, f) => (.error (.err (.os e)), f)

/-- `libc::c_int::MAX as usize`. -/
def cIntMax : Nat := 0x7fffffff

/-- `Fd::set_nonblock`. -/
def setNonblock (_ : Fd) : Call IoError File Unit := checked File.setNonblock

/-- `Fd::read`. -/
def read (os : TargetOs) (_ : Fd) (buf : Buf) : Call IoError File (Nat × Buf) :=
  checked (File.read os buf)

/-- `Fd::readv`: the count passed on is clamped to a `c_int`. -/
def readv (os : TargetOs) (_ : Fd) (bufs : List Buf) : Call IoError File (Nat × List Buf) := do
  let count := min bufs.length cIntMax
  let (amount, filled) ← checked (File.readv os (bufs.take count))
  pure (amount, filled ++ bufs.drop count)

/-- `Fd::write`. -/
def write (_ : Fd) (buf : Buf) : Call IoError File Unit := checked (File.write buf)

/-- `Fd::writev`: the count passed on is clamped to a `c_int`. -/
def writev (_ : Fd) (bufs : List Buf) : Call IoError File Unit :=
  checked (File.writev (bufs.take (min bufs.length cIntMax)))

/-- `Fd::into_raw_fd`: the number, and the `Fd` as its drop finds it. -/
def intoRawFd (fd : Fd) : RawFd × Fd := (fd.inner, { fd with inner := -1 })

/-- `Drop for Fd`: the descriptor the drop closes, if any. -/
def drop (fd : Fd) : Option RawFd :=
  if fd.closeFdOnDrop ∧ 0 ≤ fd.inner then some fd.inner else none

/-- What closes on drop closes its descriptor. -/
theorem drop_of_nonneg {value : RawFd} (h : 0 ≤ value) : drop ⟨value, true⟩ = some value :=
  if_pos (by simp [h])

theorem new_eq_ok_iff {value : RawFd} {close : Bool} {fd : Fd} :
    Fd.new value close = .ok fd ↔ 0 ≤ value ∧ fd = { inner := value, closeFdOnDrop := close } := by
  rw [Fd.new]
  split
  · rename_i h
    constructor
    · intro h
      cases h
    · intro hc
      exact absurd h (Int.not_lt.2 hc.1)
  · rename_i h
    rw [Except.ok.injEq]
    constructor
    · intro hc
      exact ⟨Int.not_lt.1 h, hc.symm⟩
    · intro hc
      exact hc.2.symm

@[simp] theorem checked_snd {α : Type} (call : File → Except Errno α × File) (f : File) :
    (checked call f).2 = (call f).2 := by
  rw [checked]
  rcases call f with ⟨_ | a, g⟩ <;> rfl

/-- The `io::Result` determines what the system call returned. -/
@[simp] theorem checked_fst_inj {α : Type} {call call' : File → Except Errno α × File}
    {f f' : File} : (checked call f).1 = (checked call' f').1 ↔ (call f).1 = (call' f').1 := by
  unfold checked
  rcases call f with ⟨_ | a, g⟩ <;> rcases call' f' with ⟨_ | a', g'⟩ <;> simp

/-- A system call that failed is an `io::Result` with its `errno`. -/
theorem checked_fst_eq_error {α : Type} {call : File → Except Errno α × File} {f : File}
    {e : Errno} : (checked call f).1 = .error (.err (.os e)) ↔ (call f).1 = .error e := by
  rw [checked]
  rcases call f with ⟨_ | b, t⟩ <;> simp

/-- A system call that returned is an `io::Result` that is `Ok`. -/
theorem checked_eq_ok {α : Type} {call : File → Except Errno α × File} {f g : File} {a : α} :
    checked call f = (.ok a, g) ↔ call f = (.ok a, g) := by
  rw [checked]
  rcases call f with ⟨_ | b, t⟩ <;> simp

/-- An error of a system call is an `errno`. -/
theorem checked_fst_ne_new {α : Type} {call : File → Except Errno α × File} {f : File}
    {kind : ErrorKind} {text : String} : (checked call f).1 ≠ .error (.err (.new kind text)) := by
  rw [checked]
  rcases call f with ⟨_ | b, t⟩ <;> exact (nomatch ·)

/-- A list longer than a `c_int` can count is longer than `IOV_MAX` as well, so the
clamp never turns a refused call into one on part of the list. -/
theorem readv_eq (os : TargetOs) (fd : Fd) (bufs : List Buf) :
    fd.readv os bufs = checked (File.readv os bufs) := by
  funext f
  rw [Fd.readv]
  rcases Nat.le_total bufs.length cIntMax with h | h
  · rw [Nat.min_eq_left h, List.take_length, List.drop_length, Call.bind_apply]
    rcases checked (File.readv os bufs) f with ⟨_ | ⟨n, filled⟩, g⟩ <;> simp
  · have hmax : File.iovMax < cIntMax := by decide
    have hlen : File.iovMax < (bufs.take cIntMax).length := by
      rw [List.length_take]; omega
    rw [Nat.min_eq_right h, Call.bind_apply, checked, checked, File.readv, File.readv,
      if_pos hlen, if_pos (by omega)]

/-- The same for a write. -/
theorem writev_eq (fd : Fd) (bufs : List Buf) : fd.writev bufs = checked (File.writev bufs) := by
  funext f
  rw [Fd.writev]
  rcases Nat.le_total bufs.length cIntMax with h | h
  · rw [Nat.min_eq_left h, List.take_length]
  · have hmax : File.iovMax < cIntMax := by decide
    have hlen : File.iovMax < (bufs.take cIntMax).length := by
      rw [List.length_take]; omega
    rw [Nat.min_eq_right h, checked, checked, File.writev, File.writev,
      if_pos hlen, if_pos (by omega)]

end Fd

end RustTun
