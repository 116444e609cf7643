import RustTun.Posix.Traffic

/-!
# Synchronous and asynchronous parts

`AsyncDevice::new` puts its descriptor into non-blocking mode before it registers it, and what it
is split into relies on that from then on: a poll calls the device as soon as the runtime says
that it is ready, and must not wait in that call.

The mode belongs to the descriptor, so it is to hold for as long as there is an asynchronous part,
whatever is done with the others.  `nonblocking` says that it does, and that there are no others:
the parts of a program are synchronous all or asynchronous all.
-/

namespace RustTun

open Shared Transition

/-- The descriptor does not block. -/
def File.Nonblocking (f : File) : Prop := f.nonblock = true

/-! ## Calls keep the mode -/

namespace File

/-- What the driver does to a call keeps the mode if the call does. -/
theorem nonblocking_reach {α : Type} {call : File → Except Errno α × File}
    (hcall : ∀ f, f.Nonblocking → (call f).2.Nonblocking) {f : File} (hf : f.Nonblocking) :
    (f.reach call).2.Nonblocking := by
  rw [reach]
  cases f.refusals.head?.join with
  | none => exact hcall _ hf
  | some e => exact hf

theorem nonblocking_readv (os : TargetOs) (iov : List Buf) {f : File} (hf : f.Nonblocking) :
    (f.readv os iov).2.Nonblocking := by
  rw [readv]
  split_ifs
  · exact hf
  · exact hf
  · refine nonblocking_reach (fun g hg ↦ ?_) hf
    rw [deliver]
    cases g.inbound with
    | nil => exact hg
    | cons p ps => exact hg

theorem nonblocking_writev (iov : List Buf) {f : File} (hf : f.Nonblocking) :
    (f.writev iov).2.Nonblocking := by
  rw [writev]
  split_ifs
  · exact hf
  · exact hf
  · exact nonblocking_reach (fun g hg ↦ hg) hf

theorem nonblocking_write (buf : Buf) {f : File} (hf : f.Nonblocking) :
    (f.write buf).2.Nonblocking := by
  refine nonblocking_reach (fun g hg ↦ ?_) hf
  split <;> exact hg

theorem nonblocking_setNonblock {f : File} (hf : f.Nonblocking) :
    f.setNonblock.2.Nonblocking := by
  rw [setNonblock]
  refine nonblocking_reach (fun _ _ ↦ ?_) hf
  rfl

end File

namespace Fd

theorem preserves_readv (os : TargetOs) (fd : Fd) (bufs : List Buf) :
    (fd.readv os bufs).Preserves File.Nonblocking := by
  intro f hf
  rw [readv_eq, checked_snd]
  exact File.nonblocking_readv os bufs hf

theorem preserves_writev (fd : Fd) (bufs : List Buf) :
    (fd.writev bufs).Preserves File.Nonblocking := by
  intro f hf
  rw [writev_eq, checked_snd]
  exact File.nonblocking_writev bufs hf

end Fd

namespace Reader

/-- Reading keeps the mode. -/
theorem preserves_recvVectored (os : TargetOs) (r : Reader) (bufs : List Buf) :
    (r.recvVectored os bufs).Preserves File.Nonblocking := by
  rw [recvVectored]
  split
  · exact Fd.preserves_readv _ _ _
  · exact .bind (Fd.preserves_readv _ _ _) fun x ↦ .pure _

theorem preserves_recv (os : TargetOs) (r : Reader) (buf : Buf) :
    (r.recv os buf).Preserves File.Nonblocking := by
  intro f hf
  have h := r.preserves_recvVectored os [buf] f hf
  rw [recv_eq_recvVectored] at h
  exact h

theorem nonblocking_perform {os : TargetOs} {r : Reader} {f g : File} {c : TunCall} {x : Reply}
    (h : r.perform os f c = some (x, g)) (hf : f.Nonblocking) : g.Nonblocking := by
  cases c with
  | recv buf =>
      cases h
      exact r.preserves_recv os buf f hf
  | recvVectored bufs =>
      cases h
      exact r.preserves_recvVectored os bufs f hf
  | send buf | sendVectored bufs | setMtu value => cases h
  | setNonblock => cases h

end Reader

namespace Writer

/-- So does writing. -/
theorem preserves_sendVectored (os : TargetOs) (w : Writer) (bufs : List Buf) :
    (w.sendVectored os bufs).Preserves File.Nonblocking := by
  rw [sendVectored]
  split
  · exact Fd.preserves_writev _ _
  · split
    · exact .pure ()
    · split
      · exact .fail _
      · exact Fd.preserves_writev _ _

theorem preserves_send (os : TargetOs) (w : Writer) (buf : Buf) :
    (w.send os buf).Preserves File.Nonblocking := by
  rw [send]
  split
  · intro f hf
    rw [Fd.write, Fd.checked_snd]
    exact File.nonblocking_write buf hf
  · split
    · exact .fail _
    · exact Fd.preserves_writev _ _

theorem nonblocking_perform {os : TargetOs} {w : Writer} {f g : File} {c : TunCall} {x : Reply}
    (h : w.perform os f c = some (x, g)) (hf : f.Nonblocking) : g.Nonblocking := by
  cases c with
  | send buf =>
      cases h
      exact w.preserves_send os buf f hf
  | sendVectored bufs =>
      cases h
      exact w.preserves_sendVectored os bufs f hf
  | recv buf | recvVectored bufs | setMtu value => cases h
  | setNonblock => cases h

end Writer

theorem Tun.nonblocking_perform (os : TargetOs) (t : Tun) {f : File} (c : TunCall)
    (hf : f.Nonblocking) : (t.perform os f c).2.2.Nonblocking := by
  cases c with
  | recv buf => exact t.reader.preserves_recv os buf f hf
  | recvVectored bufs => exact t.reader.preserves_recvVectored os bufs f hf
  | send buf => exact t.writer.preserves_send os buf f hf
  | sendVectored bufs => exact t.writer.preserves_sendVectored os bufs f hf
  | setMtu value => exact hf
  | setNonblock =>
      simp only [Tun.perform, Tun.setNonblock, Fd.setNonblock, Fd.checked_snd]
      exact File.nonblocking_setNonblock hf

/-- Setting the mode sets it, if it succeeds. -/
theorem Tun.nonblocking_of_setNonblock {t : Tun} {f g : File}
    (h : t.setNonblock f = (.ok (), g)) : g.Nonblocking := by
  rw [setNonblock, Fd.setNonblock, Fd.checked_eq_ok, File.setNonblock, File.reach] at h
  split at h <;> cases h
  rfl

namespace Part

/-- It is made of an `AsyncDevice`. -/
def isAsync : Part → Bool
  | .asyncDevice _ | .asyncReader _ | .asyncWriter _ => true
  | .tun _ | .device _ | .reader _ | .writer _ => false

/-- No call on a part makes the descriptor block. -/
theorem nonblocking_perform {os : TargetOs} {p p' : Part} {f f' : File} {c : TunCall} {x : Reply}
    (h : p.perform os f c = some (x, p', f')) (hf : f.Nonblocking) : f'.Nonblocking := by
  cases p with
  | tun t =>
      cases h
      exact Tun.nonblocking_perform os t c hf
  | device dev | asyncDevice dev =>
      cases h
      exact Tun.nonblocking_perform os dev.tun c hf
  | reader r | asyncReader a =>
      obtain ⟨y, hy, hcong⟩ := Option.map_eq_some_iff.1 h
      cases hcong
      exact Reader.nonblocking_perform hy hf
  | writer w | asyncWriter a =>
      obtain ⟨y, hy, hcong⟩ := Option.map_eq_some_iff.1 h
      cases hcong
      exact Writer.nonblocking_perform hy hf

/-- A call leaves a part what it is. -/
theorem isAsync_perform {os : TargetOs} {p p' : Part} {f f' : File} {c : TunCall} {x : Reply}
    (h : p.perform os f c = some (x, p', f')) : p'.isAsync = p.isAsync := by
  cases p with
  | tun t | device dev | asyncDevice dev =>
      cases h
      rfl
  | reader r | writer r | asyncReader a | asyncWriter a =>
      obtain ⟨y, -, hcong⟩ := Option.map_eq_some_iff.1 h
      cases hcong
      rfl

/-- Halves of an `Fd` are synchronous. -/
theorem isAsync_of_half {p : Part} {a : Arc Fd} (h : p.hold = .half a) : p.isAsync = false := by
  cases p with
  | reader r | writer r => rfl
  | tun t | device t | asyncDevice t | asyncReader t | asyncWriter t => cases h

/-- Halves of a device are asynchronous. -/
theorem isAsync_of_shared {p : Part} {a : Arc Device} (h : p.hold = .shared a) :
    p.isAsync = true := by
  cases p with
  | asyncReader r | asyncWriter r => rfl
  | tun t | device t | asyncDevice t | reader t | writer t => cases h

end Part

/-! ## Runs -/

/-- The parts are of one kind. -/
theorem Shape.isAsync {d : RawFd} {close : Bool} {l : List Part} {h : Heap}
    (hshape : Shape d close l h) : ∃ b, ∀ p ∈ l, p.isAsync = b := by
  cases hshape with
  | @whole p dev h hp hover => exact ⟨p.isAsync, fun q hq ↦ by rw [List.mem_singleton.1 hq]⟩
  | halves hall => exact ⟨false, fun p hp ↦ Part.isAsync_of_half (hall p hp)⟩
  | shared hall => exact ⟨true, fun p hp ↦ Part.isAsync_of_shared (hall p hp)⟩
  | gone => exact ⟨false, fun p hp ↦ nomatch hp⟩

namespace Sharing

/-- As long as there is an asynchronous part, the descriptor does not block, and the other parts
are asynchronous too. -/
def Waitless (s : Sharing) : Prop :=
  (∃ p ∈ s.parts, p.isAsync = true) →
    s.file.Nonblocking ∧ ∀ p ∈ s.parts, p.isAsync = true

variable {d : RawFd} {close : Bool} {os : TargetOs} {s t : Sharing} {a : Action}

/-- With parts of one kind, it is enough that the descriptor does not block. -/
theorem waitless_of_shape (hshape : Shape d close s.parts s.world.heap)
    (h : (∃ p ∈ s.parts, p.isAsync = true) → s.file.Nonblocking) : s.Waitless := by
  obtain ⟨b, hb⟩ := hshape.isAsync
  intro hasync
  obtain ⟨p, hp, hpa⟩ := hasync
  have htrue : b = true := (hb p hp).symm.trans hpa
  exact ⟨h ⟨p, hp, hpa⟩, fun q hq ↦ (hb q hq).trans htrue⟩

/-- What is left when a part is taken away was there before. -/
theorem exists_isAsync_of_append {l₁ l₂ : List Part} {p : Part}
    (h : ∃ q ∈ l₁ ++ l₂, q.isAsync = true) : ∃ q ∈ l₁ ++ p :: l₂, q.isAsync = true := by
  obtain ⟨q, hq, hasync⟩ := h
  exact ⟨q, List.mem_append.2 ((List.mem_append.1 hq).imp_right (List.mem_cons_of_mem p)), hasync⟩

/-- **One action of a program.** -/
theorem Step.waitless (hd : 0 ≤ d) (hstep : Step os s a t)
    (hshape : Shape d close s.parts s.world.heap) (hs : s.Waitless) : t.Waitless := by
  refine waitless_of_shape (hstep.shape hd hshape).2.1 ?_
  cases hstep with
  | @perform l₁ l₂ p p' w f f' c x hp =>
      intro hasync
      obtain ⟨q, hq, hqa⟩ := hasync
      refine Part.nonblocking_perform hp (hs ?_).1
      rcases List.mem_append.1 hq with hq | hq
      · exact ⟨q, List.mem_append_left _ hq, hqa⟩
      · rcases List.mem_cons.1 hq with rfl | hq
        · exact ⟨p, List.mem_append_right _ List.mem_cons_self, Part.isAsync_perform hp ▸ hqa⟩
        · exact ⟨q, List.mem_append_right _ (List.mem_cons_of_mem _ hq), hqa⟩
  | split hsplit =>
      -- The halves are synchronous, and there is nothing else.
      obtain ⟨rfl, rfl, -⟩ := hshape.of_whole_append rfl
      intro hasync
      obtain ⟨q, hq, hqa⟩ := hasync
      rcases List.mem_cons.1 hq with rfl | hq
      · cases hqa
      · rw [List.mem_singleton.1 hq] at hqa
        cases hqa
  | asyncNew hset => exact fun _ ↦ Tun.nonblocking_of_setNonblock hset
  | asyncNewFails hset =>
      -- The device that is dropped was all there was.
      obtain ⟨rfl, rfl, -⟩ := hshape.of_whole_append rfl
      exact fun h ↦ absurd h fun ⟨_, hp, _⟩ ↦ nomatch hp
  | asyncSplit hsplit => exact fun _ ↦ (hs ⟨_, List.mem_append_right _ List.mem_cons_self, rfl⟩).1
  | clone hclone => exact fun _ ↦ (hs ⟨_, List.mem_append_right _ List.mem_cons_self, rfl⟩).1
  | drop => exact fun h ↦ (hs (exists_isAsync_of_append h)).1

/-- What was just built is synchronous. -/
theorem Built.waitless (hs : Built d close s) : s.Waitless := by
  have hsync : ∀ p ∈ s.parts, p.isAsync = false := by
    cases hs with
    | tun h mtu pi w f => exact List.forall_mem_singleton.2 rfl
    | device h hctl mtu pi w f => exact List.forall_mem_singleton.2 rfl
  intro hasync
  obtain ⟨p, hp, hpa⟩ := hasync
  rw [hsync p hp] at hpa
  cases hpa

end Sharing

/-- **One action**, of the program or its network. -/
theorem Traffic.Step.waitless {os : TargetOs} {d : RawFd} {close : Bool} {s t : Sharing}
    {a : Traffic.Action} (hd : 0 ≤ d) (hstep : Traffic.Step os s a t)
    (hshape : Shape d close s.parts s.world.heap) (hs : s.Waitless) :
    Shape d close t.parts t.world.heap ∧ t.Waitless := by
  cases hstep with
  | @call l₁ l₂ p p' w f f' c x hp =>
      have hshare : Sharing.Step os ⟨l₁ ++ p :: l₂, w, f⟩ (.perform c) ⟨l₁ ++ p' :: l₂, w, f'⟩ :=
        .perform hp
      exact ⟨(hshare.shape hd hshape).2.1, hshare.waitless hd hshape hs⟩
  | share ha hshare => exact ⟨(hshare.shape hd hshape).2.1, hshare.waitless hd hshape hs⟩
  | arrive => exact ⟨hshape, hs⟩

/-- **Asynchronous parts never block.**  In every state that a program can reach with what it
built over a descriptor, whatever arrives and whatever the system refuses meanwhile: if one of
its parts is asynchronous, then all of them are, and the descriptor is in non-blocking mode. -/
theorem nonblocking (os : TargetOs) (d : RawFd) (close : Bool) (s : Sharing)
    (h : (traffics os d close).Reach s) (hasync : ∃ p ∈ s.parts, p.isAsync = true) :
    s.file.Nonblocking ∧ ∀ p ∈ s.parts, p.isAsync = true := by
  have hinv : 0 ≤ d ∧ Shape d close s.parts s.world.heap ∧ s.Waitless := by
    refine h.invariant (I := fun s ↦ 0 ≤ d ∧ Shape d close s.parts s.world.heap ∧ s.Waitless)
      (fun s hs ↦ ?_) fun s a t hs hstep ↦ ?_
    · exact ⟨hs.inv.1, hs.inv.2.shape, hs.waitless⟩
    · obtain ⟨hd, hshape, hwaitless⟩ := hs
      exact ⟨hd, hstep.waitless hd hshape hwaitless⟩
  exact hinv.2.2 hasync

/-- A device becomes asynchronous and is split, a frame arrives, and the reader reads it, and in
vain once more. -/
theorem nonblocking_reader : ∃ s, (traffics .linux 3 true).Reach s ∧ s.parts.length = 2 ∧
    s.file.Nonblocking ∧ ∀ p ∈ s.parts, p.isAsync = true := by
  let built := Tun.new { inner := 3, closeFdOnDrop := true } 1500 false World.initial.heap
  let dev : Device := { tun := built.1, ctl := none }
  let w : World := { World.initial with heap := built.2 }
  let f₀ : File := { inbound := [], outbound := [], refusals := [], nonblock := false }
  let f₁ : File := { f₀ with nonblock := true }
  let f₂ : File := { f₁ with inbound := [[0x45]] }
  let a := (dev.splitAsync w).1.1
  let w₁ := (dev.splitAsync w).2
  have hbuilt : Sharing.Built 3 true ⟨[.device dev], w, f₀⟩ :=
    .device rfl (by rintro _ ⟨⟩) 1500 false World.initial f₀
  have hnew : Traffic.Step .linux ⟨[] ++ [.device dev], w, f₀⟩ (.share .asyncNew)
      ⟨[] ++ [.asyncDevice dev], w, f₁⟩ := .share (fun c hc ↦ nomatch hc) (.asyncNew rfl)
  have hsplit : Traffic.Step .linux ⟨[] ++ [.asyncDevice dev], w, f₁⟩ (.share .asyncSplit)
      ⟨[] ++ [.asyncReader a, .asyncWriter a], w₁, f₁⟩ :=
    .share (fun c hc ↦ nomatch hc) (.asyncSplit rfl)
  have harrive : Traffic.Step .linux ⟨[.asyncReader a, .asyncWriter a], w₁, f₁⟩ (.arrive [0x45])
      ⟨[.asyncReader a, .asyncWriter a], w₁, f₂⟩ := .arrive
  have hread : Traffic.Step .linux ⟨[] ++ [.asyncReader a, .asyncWriter a], w₁, f₂⟩
      (.call (.recv [0]) (.received (.ok 1) [[0x45]]))
      ⟨[] ++ [.asyncReader a, .asyncWriter a], w₁, f₁⟩ := .call rfl
  have hagain : Traffic.Step .linux ⟨[] ++ [.asyncReader a, .asyncWriter a], w₁, f₁⟩
      (.call (.recv [0]) (.received (.error (.err (.os (File.EAGAIN .linux)))) [[0]]))
      ⟨[] ++ [.asyncReader a, .asyncWriter a], w₁, f₁⟩ := .call rfl
  have hreach : (traffics .linux 3 true).Reach _ :=
    .step _ (.step _ (.step _ (.step _ (.step _ (.init hbuilt) hnew) hsplit) harrive) hread) hagain
  exact ⟨_, hreach, rfl,
    nonblocking .linux 3 true _ hreach ⟨_, List.mem_cons_self, rfl⟩⟩

end RustTun
