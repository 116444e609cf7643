import RustTun.Async.Writer
import RustTun.Base.Retry
import RustTun.Posix.Ownership

/-!
# Polling an asynchronous device

`poll_read`, `poll_read_vectored`, `poll_write` and `poll_write_vectored` are one loop each,
and the same one: wait for the descriptor to be ready, and make a call on the device with
`try_io`, which forgets the readiness if the call would have blocked.  The loops differ in
the direction of the readiness and in the call.

A call that fails moves no packet (`MovesNothing`).  So each loop, however often it is
polled, moves what one call of `recv`, `recv_vectored`, `send` or `send_vectored` on the device
moves, and returns what that call returned (`polls_exactlyOnce`).
-/

namespace RustTun

open Readiness Retry Transition

/-! ## The calls on the device -/

namespace Device

variable (os : TargetOs) (dev : Device)

/-- `Device::recv`: a device dereferences to its `Tun`. -/
def recv (buf : Buf) : Call IoError File (Nat × Buf) := dev.tun.recv os buf

/-- `Device::recv_vectored`. -/
def recvVectored (bufs : List Buf) : Call IoError File (Nat × List Buf) :=
  dev.tun.recvVectored os bufs

/-- `Device::send`. -/
def send (buf : Buf) : Call IoError File Unit := dev.tun.send os buf

/-- `Device::send_vectored`. -/
def sendVectored (bufs : List Buf) : Call IoError File Unit := dev.tun.sendVectored os bufs

end Device

/-! ## The loops -/

/-- What `poll_read_ready` and `poll_write_ready` fail with: an error of the runtime, which
is not that they would have blocked. -/
def pollFailure {α : Type} (os : TargetOs) : Except (Stop IoError) α → Bool
  | .error (.err e) => !e.isWouldBlock os
  | .error .panic | .ok _ => false

/-- A call on the device that is made with `try_io`. -/
def tryIo {α : Type} (os : TargetOs) (call : Call IoError File α) :
    Operation File (Except (Stop IoError) α) where
  run := call
  blocks := wouldBlock os
  fails := pollFailure os
  not_blocks_of_fails := by
    rintro (⟨e | _⟩ | a) h
    · exact (Bool.not_eq_true' _).mp h
    · rfl
    · rfl

namespace AsyncReader

/-- `AsyncReader::poll_read`. -/
def pollRead (os : TargetOs) (dev : Device) (buf : Buf) :
    Operation File (Except (Stop IoError) (Nat × Buf)) :=
  tryIo os (dev.recv os buf)

/-- `AsyncReader::poll_read_vectored`. -/
def pollReadVectored (os : TargetOs) (dev : Device) (bufs : List Buf) :
    Operation File (Except (Stop IoError) (Nat × List Buf)) :=
  tryIo os (dev.recvVectored os bufs)

end AsyncReader

namespace AsyncWriter

/-- `AsyncWriter::poll_write`. -/
def pollWrite (os : TargetOs) (dev : Device) (buf : Buf) :
    Operation File (Except (Stop IoError) Unit) :=
  tryIo os (dev.send os buf)

/-- `AsyncWriter::poll_write_vectored`. -/
def pollWriteVectored (os : TargetOs) (dev : Device) (bufs : List Buf) :
    Operation File (Except (Stop IoError) Unit) :=
  tryIo os (dev.sendVectored os bufs)

end AsyncWriter

/-! ## Calls that fail -/

/-- No packet was read and none was written between the two. -/
structure SamePackets (f g : File) : Prop where
  inbound : g.inbound = f.inbound
  outbound : g.outbound = f.outbound

namespace SamePackets

theorem refl (f : File) : SamePackets f f := ⟨rfl, rfl⟩

end SamePackets

/-- A call on the device that fails moves no packet. -/
def MovesNothing {α : Type} (call : Call IoError File α) : Prop :=
  ∀ f g stop, call f = (.error stop, g) → SamePackets f g

namespace MovesNothing

variable {α β : Type}

theorem pure (a : α) : MovesNothing (pure a : Call IoError File α) := fun _ _ _ h ↦ nomatch h

theorem fail (e : IoError) : MovesNothing (.fail e : Call IoError File α) := by
  intro f g stop h
  cases h
  exact .refl f

/-- Neither does one that makes something of the result. -/
theorem bind_pure {call : Call IoError File α} (hcall : MovesNothing call) (g : α → β) :
    MovesNothing (call >>= fun a ↦ Pure.pure (g a)) := by
  intro f f' stop h
  rw [Call.bind_apply] at h
  rcases hc : call f with ⟨e | a, f₁⟩
  · rw [hc] at h
    cases h
    exact hcall f _ _ hc
  · rw [hc] at h
    cases h

/-- A system call that fails moves no packet. -/
theorem checked {call : File → Except Errno α × File}
    (hcall : ∀ f e g, call f = (.error e, g) → SamePackets f g) :
    MovesNothing (Fd.checked call) := by
  intro f g stop h
  rw [Fd.checked] at h
  rcases hc : call f with ⟨e | a, f₁⟩
  · rw [hc] at h
    cases h
    exact hcall f _ _ hc
  · rw [hc] at h
    cases h

end MovesNothing

namespace File

/-- A call that the driver refuses is not made. -/
theorem samePackets_reach {α : Type} {call : File → Except Errno α × File}
    (hcall : ∀ f e g, call f = (.error e, g) → SamePackets f g) {f g : File} {e : Errno}
    (h : f.reach call = (.error e, g)) : SamePackets f g := by
  rw [reach] at h
  rcases hr : f.refusals.head?.join with _ | e'
  · rw [hr] at h
    have hsame := hcall _ _ _ h
    exact ⟨hsame.inbound, hsame.outbound⟩
  · rw [hr] at h
    cases h
    exact ⟨rfl, rfl⟩

theorem samePackets_readv {os : TargetOs} {iov : List Buf} {f g : File} {e : Errno}
    (h : f.readv os iov = (.error e, g)) : SamePackets f g := by
  rw [readv] at h
  split_ifs at h
  · cases h
    exact .refl f
  · cases h
  · refine samePackets_reach (fun f e g hdeliver ↦ ?_) h
    rw [deliver] at hdeliver
    split at hdeliver
    · cases hdeliver
      exact .refl f
    · cases hdeliver

theorem samePackets_writev {iov : List Buf} {f g : File} {e : Errno}
    (h : f.writev iov = (.error e, g)) : SamePackets f g := by
  rw [writev] at h
  split_ifs at h
  · cases h
    exact .refl f
  · cases h
  · exact samePackets_reach (fun _ _ _ hemit ↦ by cases hemit) h

theorem samePackets_read {os : TargetOs} {buf : Buf} {f g : File} {e : Errno}
    (h : f.read os buf = (.error e, g)) : SamePackets f g := by
  rw [read] at h
  rcases hr : f.readv os [buf] with ⟨e' | ⟨n, bufs⟩, f₁⟩
  · rw [hr] at h
    cases h
    exact samePackets_readv hr
  · rw [hr] at h
    cases h

theorem samePackets_write {buf : Buf} {f g : File} {e : Errno}
    (h : f.write buf = (.error e, g)) : SamePackets f g := by
  refine samePackets_reach (fun f e g hcall ↦ ?_) h
  split at hcall <;> cases hcall

/-- Changing the mode moves no packet, refused or not. -/
theorem samePackets_setNonblock (f : File) : SamePackets f f.setNonblock.2 := by
  rw [setNonblock, reach]
  cases f.refusals.head?.join <;> exact ⟨rfl, rfl⟩

end File

namespace Tun

variable (os : TargetOs) (tun : Tun)

theorem movesNothing_readv (fd : Fd) (bufs : List Buf) : MovesNothing (fd.readv os bufs) := by
  rw [Fd.readv_eq]
  exact .checked fun _ _ _ ↦ File.samePackets_readv

theorem movesNothing_writev (fd : Fd) (bufs : List Buf) : MovesNothing (fd.writev bufs) := by
  rw [Fd.writev_eq]
  exact .checked fun _ _ _ ↦ File.samePackets_writev

theorem movesNothing_recv (buf : Buf) : MovesNothing (tun.recv os buf) := by
  rw [recv, Reader.recv]
  split_ifs
  · exact .checked fun _ _ _ ↦ File.samePackets_read
  · exact (movesNothing_readv _ _ _).bind_pure _

theorem movesNothing_recvVectored (bufs : List Buf) :
    MovesNothing (tun.recvVectored os bufs) := by
  rw [recvVectored, Reader.recvVectored]
  split_ifs
  · exact movesNothing_readv _ _ _
  · exact (movesNothing_readv _ _ _).bind_pure _

theorem movesNothing_send (buf : Buf) : MovesNothing (tun.send os buf) := by
  rw [send, Writer.send]
  split_ifs
  · exact .checked fun _ _ _ ↦ File.samePackets_write
  · split
    · exact .fail _
    · exact movesNothing_writev _ _

theorem movesNothing_sendVectored (bufs : List Buf) : MovesNothing (tun.sendVectored os bufs) := by
  rw [sendVectored, Writer.sendVectored]
  split_ifs
  · exact movesNothing_writev _ _
  · split
    · exact .pure ()
    · split
      · exact .fail _
      · exact movesNothing_writev _ _

theorem samePackets_setNonblock {f g : File} {result : Except (Stop IoError) Unit}
    (h : tun.setNonblock f = (result, g)) : SamePackets f g := by
  have hg : (tun.setNonblock f).2 = g := congrArg Prod.snd h
  rw [← hg, setNonblock, Fd.setNonblock, Fd.checked_snd]
  exact File.samePackets_setNonblock f

end Tun

/-! ## Exactly once -/

/-- A poll that made `call` on the device at most once, and moved no packet if it has to be
made again. -/
structure PolledOnce {α : Type} (os : TargetOs) (call : Call IoError File α)
    (l : Loop File (Except (Stop IoError) α)) : Prop where
  /-- All that it attempted was to make the call. -/
  sound : ∀ a ∈ l.attempts, call a.before = (a.result, a.after)
  /-- The call took place at most once. -/
  once : (l.attempts.filter fun a ↦ !wouldBlock os a.result).length ≤ 1
  /-- If it did, or if waiting failed, the poll returned the result, and not otherwise. -/
  ready_iff (r : Except (Stop IoError) α) : l.phase = .returned (.ready r) ↔
    (∃ a ∈ l.attempts, wouldBlock os a.result = false ∧ a.result = r) ∨ l.failed = some r
  /-- Waiting fails with an error. -/
  failed (r : Except (Stop IoError) α) : l.failed = some r → ∃ e, r = .error (.err e)
  /-- The result is not that it would have blocked. -/
  not_wouldBlock (r : Except (Stop IoError) α) :
    l.phase = .returned (.ready r) → wouldBlock os r = false
  /-- What was attempted in vain moved nothing. -/
  blocked : ∀ a ∈ l.attempts, wouldBlock os a.result = true → SamePackets a.before a.after
  /-- A poll that is pending attempted all in vain. -/
  pending : l.phase = .returned .pending → ∀ a ∈ l.attempts, SamePackets a.before a.after
  /-- So did one of which `try_poll_fn` says that it would have blocked. -/
  tried : ∀ result, l.phase = .returned result → wouldBlock os (tryPollFn result) = true →
    ∀ a ∈ l.attempts, SamePackets a.before a.after

/-- Whatever happens, a poll makes `call` on the device at most once; and it ends, if there
is an end to what it has to go on for. -/
structure PollsOnce {α : Type} (os : TargetOs) (call : Call IoError File α)
    (poll : Operation File (Except (Stop IoError) α)) : Prop where
  polledOnce {s : Loop File (Except (Stop IoError) α)} {l} : poll.system.init s →
    poll.system.Run s l → ∀ x ∈ l, PolledOnce os call x.2
  ends {s : Loop File (Except (Stop IoError) α)} {l} : poll.system.init s →
    poll.system.Run s l →
    l.countP (fun x ↦ x.1.isCode) ≤ 3 + 3 * l.countP (fun x ↦ x.1.isRefill)
  progress (l : Loop File (Except (Stop IoError) α)) : (∃ result, l.phase = .returned result) ∨
    ∃ a t, a.isCode = true ∧ poll.system.step l a t

/-- Waiting fails with an error. -/
theorem eq_error_of_pollFailure {α : Type} {os : TargetOs} {r : Except (Stop IoError) α}
    (h : pollFailure os r = true) : ∃ e, r = .error (.err e) := by
  rcases r with ⟨e | _⟩ | a
  · exact ⟨e, rfl⟩
  · cases h
  · cases h

/-- **A loop whose call moves nothing when it fails polls once.** -/
theorem pollsOnce_tryIo {α : Type} (os : TargetOs) {call : Call IoError File α}
    (hcall : MovesNothing call) : PollsOnce os call (tryIo os call) where
  polledOnce {s l} hinit hrun x hx := by
    have hinv := (exactlyOnce_of_run hinit hrun).2 x hx
    have honce := hinv.exactlyOnce
    have hblocked : ∀ a ∈ x.2.attempts, wouldBlock os a.result = true →
        SamePackets a.before a.after := by
      intro a ha hwould
      have hsound : call a.before = (a.result, a.after) := hinv.sound a ha
      rcases hr : a.result with stop | value
      · rw [hr] at hsound
        exact hcall _ _ _ hsound
      · rw [hr] at hwould
        cases hwould
    have hpending (hphase : x.2.phase = .returned .pending) :
        ∀ a ∈ x.2.attempts, SamePackets a.before a.after := fun a ha ↦
      hblocked a ha ((hinv.blocked_of_pending hphase).blocks a ha)
    refine ⟨honce.sound, honce.once, honce.ready_iff,
      fun r hr ↦ eq_error_of_pollFailure (honce.failed r hr), honce.not_blocks, hblocked, hpending,
      fun result hphase hwould ↦ ?_⟩
    cases result with
    | pending => exact hpending hphase
    | ready r =>
        have hnot : wouldBlock os r = false := honce.not_blocks r hphase
        have hsame : wouldBlock os r = true := hwould
        rw [hnot] at hsame
        cases hsame
  ends hinit hrun := countP_code_le hinit hrun
  progress l := l.progress _

/-- **Every poll makes its call on the device exactly once**: `poll_read` that of `recv`,
`poll_read_vectored` that of `recv_vectored`, `poll_write` that of `send` and
`poll_write_vectored` that of `send_vectored`. -/
theorem polls_exactlyOnce (os : TargetOs) (dev : Device) (buf : Buf) (bufs : List Buf) :
    PollsOnce os (dev.recv os buf) (AsyncReader.pollRead os dev buf) ∧
      PollsOnce os (dev.recvVectored os bufs) (AsyncReader.pollReadVectored os dev bufs) ∧
      PollsOnce os (dev.send os buf) (AsyncWriter.pollWrite os dev buf) ∧
      PollsOnce os (dev.sendVectored os bufs) (AsyncWriter.pollWriteVectored os dev bufs) :=
  ⟨pollsOnce_tryIo os (dev.tun.movesNothing_recv os buf),
    pollsOnce_tryIo os (dev.tun.movesNothing_recvVectored os bufs),
    pollsOnce_tryIo os (dev.tun.movesNothing_send os buf),
    pollsOnce_tryIo os (dev.tun.movesNothing_sendVectored os bufs)⟩

end RustTun
