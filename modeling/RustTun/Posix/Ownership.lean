import RustTun.Posix.Split

/-!
# Who owns the descriptor

`World` is what the ownership of descriptors is about: the counts of the `Arc<Fd>`
cells and the descriptors `close(2)` was called on.  Dropping an `Arc<Fd>` drops the
`Fd` when the handle was the last one, and dropping an `Fd` closes its descriptor
unless it was built with `close_fd_on_drop = false` or its number was taken out.

A `Tun` holds three handles of one cell (`Tun.Owned`).  `Tun::into_raw_fd` gives up
one of them while the reader and the writer still hold the other two: destructuring
`let Self { fd, .. } = self` moves `fd` out and leaves the rest of `self` alive until
the function ends.  So `Arc::into_inner` never finds the last handle
(`Tun.Owned.intoRawFd`), and the call panics on every `Tun` there is.
-/

namespace RustTun

open Shared

/-- Reference counts and the record of closed descriptors. -/
structure World where
  /-- Counts of the `Arc<Fd>` cells. -/
  heap : Heap
  /-- Arguments of the `close(2)` calls made, oldest first. -/
  closes : List RawFd

namespace World

/-- Nothing shared and nothing closed yet. -/
def initial : World := { heap := { next := 0, strong := fun _ ↦ 0 }, closes := [] }

/-- Drop an `Fd`. -/
def dropFd (fd : Fd) (w : World) : World := { w with closes := w.closes ++ fd.drop.toList }

/-- Drop an `Arc`: `drop` is what becomes of its value when it was the last one. -/
def dropHandle {α : Type} (drop : α → World → World) (a : Arc α) (w : World) : World :=
  match w.heap.intoInner a with
  | (some v, heap) => drop v { w with heap }
  | (none, heap) => { w with heap }

/-- Dropping a handle that is not the last only lowers the count. -/
theorem dropHandle_of_strong_ne_one {α : Type} (drop : α → World → World) {a : Arc α} {w : World}
    (h : w.heap.strong a.cell ≠ 1) :
    w.dropHandle drop a = { w with heap := (w.heap.intoInner a).2 } := by
  have hnone := Heap.intoInner_of_strong_ne_one h
  rw [dropHandle]
  split
  · rename_i v heap hi
    rw [hi] at hnone
    cases hnone
  · rename_i heap hi
    rw [hi]

/-- Dropping the last handle drops the value. -/
theorem dropHandle_of_strong_eq_one {α : Type} (drop : α → World → World) {a : Arc α} {w : World}
    (h : w.heap.strong a.cell = 1) :
    w.dropHandle drop a = drop a.val { w with heap := (w.heap.intoInner a).2 } := by
  have hsome := Heap.intoInner_of_strong_eq_one h
  rw [dropHandle]
  split
  · rename_i v heap hi
    rw [hi] at hsome
    cases hsome
    rw [hi]
  · rename_i heap hi
    rw [hi] at hsome
    cases hsome

/-- Drop an `Arc<Fd>`. -/
def dropArc (a : Arc Fd) (w : World) : World :=
  match w.heap.intoInner a with
  | (some fd, heap) => { w with heap }.dropFd fd
  | (none, heap) => { w with heap }

theorem dropArc_eq_dropHandle (a : Arc Fd) (w : World) : w.dropArc a = w.dropHandle dropFd a := by
  rw [dropArc, dropHandle]
  rcases w.heap.intoInner a with ⟨_ | fd, heap⟩
  · rfl
  · rfl

theorem dropArc_of_strong_ne_one {a : Arc Fd} {w : World} (h : w.heap.strong a.cell ≠ 1) :
    w.dropArc a = { w with heap := (w.heap.intoInner a).2 } := by
  rw [dropArc_eq_dropHandle, dropHandle_of_strong_ne_one dropFd h]

theorem dropArc_of_strong_eq_one {a : Arc Fd} {w : World} (h : w.heap.strong a.cell = 1) :
    w.dropArc a = { w with heap := (w.heap.intoInner a).2 }.dropFd a.val := by
  rw [dropArc_eq_dropHandle, dropHandle_of_strong_eq_one dropFd h]

/-- Drop a `Tun`: its fields in the order of their declaration. -/
def dropTun (t : Tun) (w : World) : World :=
  ((w.dropArc t.reader.fd).dropArc t.writer.fd).dropArc t.fd

end World

/-! ## `into_raw_fd` -/

namespace Tun

/-- `Tun::into_raw_fd`.  `fd` is moved out of `self`; `reader` and `writer` are dropped
when the function ends, by returning or by unwinding from the failed `unwrap`. -/
def intoRawFd (t : Tun) : Call Error World RawFd := fun w ↦
  match w.heap.intoInner t.fd with
  | (some fd, heap) =>
    let (value, fd) := fd.intoRawFd
    (.ok value, (({ w with heap }.dropFd fd).dropArc t.reader.fd).dropArc t.writer.fd)
  | (none, heap) =>
    (.error .panic, ({ w with heap }.dropArc t.reader.fd).dropArc t.writer.fd)

/-- The three handles of a `Tun` are of one cell, and no other handle of it is alive. -/
structure Owned (t : Tun) (h : Heap) : Prop where
  reader : t.reader.fd = t.fd
  writer : t.writer.fd = t.fd
  strong : h.strong t.fd.cell = 3

/-- `Tun::new` hands the descriptor to exactly its three handles. -/
theorem owned_new (fd : Fd) (mtu : UInt16) (pi : Bool) (h : Heap) :
    (Tun.new fd mtu pi h).1.Owned (Tun.new fd mtu pi h).2 where
  reader := rfl
  writer := rfl
  strong := by simp [Tun.new, Heap.new, Heap.clone]

/-- No call on a `Tun` touches its handles. -/
theorem perform_handles (os : TargetOs) (t : Tun) (f : File) (c : TunCall) :
    (t.perform os f c).2.1.fd = t.fd ∧ (t.perform os f c).2.1.reader.fd = t.reader.fd ∧
      (t.perform os f c).2.1.writer.fd = t.writer.fd := by
  cases c <;> exact ⟨rfl, rfl, rfl⟩

/-- No sequence of calls on a `Tun` touches its handles. -/
theorem performAll_handles (os : TargetOs) (t : Tun) (f : File) (cs : List TunCall) :
    (t.performAll os f cs).2.1.fd = t.fd ∧
      (t.performAll os f cs).2.1.reader.fd = t.reader.fd ∧
      (t.performAll os f cs).2.1.writer.fd = t.writer.fd := by
  induction cs generalizing t f with
  | nil => exact ⟨rfl, rfl, rfl⟩
  | cons c cs ih =>
      obtain ⟨hf, hr, hw⟩ := perform_handles os t f c
      obtain ⟨hf', hr', hw'⟩ := ih (t.perform os f c).2.1 (t.perform os f c).2.2
      exact ⟨hf'.trans hf, hr'.trans hr, hw'.trans hw⟩

/-- A `Tun` stays the only owner of its descriptor through any sequence of calls. -/
theorem Owned.performAll {t : Tun} {h : Heap} (ho : t.Owned h) (os : TargetOs) (f : File)
    (cs : List TunCall) : (t.performAll os f cs).2.1.Owned h := by
  obtain ⟨hf, hr, hw⟩ := performAll_handles os t f cs
  exact ⟨by rw [hr, hf, ho.reader], by rw [hw, hf, ho.writer], by rw [hf]; exact ho.strong⟩

/-- Dropping a `Tun` drops its handles, and the last one drops the `Fd`. -/
theorem Owned.closes_dropTun {t : Tun} {w : World} (ho : t.Owned w.heap) :
    (w.dropTun t).closes = w.closes ++ t.fd.val.drop.toList := by
  have hthree : w.heap.strong t.fd.cell ≠ 1 := by rw [ho.strong]; decide
  have htwo : (w.heap.intoInner t.fd).2.strong t.fd.cell = 2 := by
    rw [Heap.strong_intoInner, ho.strong]
  have hone : ((w.heap.intoInner t.fd).2.intoInner t.fd).2.strong t.fd.cell = 1 := by
    rw [Heap.strong_intoInner, htwo]
  rw [World.dropTun, ho.reader, ho.writer, World.dropArc_of_strong_ne_one hthree,
    World.dropArc_of_strong_ne_one (w := { w with heap := (w.heap.intoInner t.fd).2 })
      (by rw [htwo]; decide),
    World.dropArc_of_strong_eq_one hone]
  rfl

/-- **`into_raw_fd` panics.**  The handle it gives up is never the last, and unwinding
then drops the two others, which drops the `Fd`. -/
theorem Owned.intoRawFd {t : Tun} {w : World} (ho : t.Owned w.heap) :
    (t.intoRawFd w).1 = .error .panic ∧
      (t.intoRawFd w).2.closes = w.closes ++ t.fd.val.drop.toList := by
  have hthree := ho.strong
  have hfst : (w.heap.intoInner t.fd).1 = none :=
    Heap.intoInner_of_strong_ne_one (by rw [hthree]; decide)
  have htwo : (w.heap.intoInner t.fd).2.strong t.fd.cell = 2 := by
    rw [Heap.strong_intoInner, hthree]
  rw [Tun.intoRawFd]
  split
  · rename_i fd heap hi
    rw [hi] at hfst
    cases hfst
  · rename_i heap hi
    rw [hi] at htwo
    refine ⟨rfl, ?_⟩
    rw [ho.reader, ho.writer, World.dropArc_of_strong_ne_one (w := { w with heap })
        (by rw [htwo]; decide),
      World.dropArc_of_strong_eq_one (by rw [Heap.strong_intoInner, htwo])]
    rfl

end Tun

/-! ## Devices -/

/-- What the posix devices own: the `Tun` and, on some platforms, a control socket. -/
structure Device where
  tun : Tun
  ctl : Option Fd

/-- Drop the control socket, if there is one. -/
def World.dropCtl (ctl : Option Fd) (w : World) : World :=
  match ctl with
  | some ctl => w.dropFd ctl
  | none => w

/-- Drop a `Device`: its fields in the order of their declaration. -/
def World.dropDevice (dev : Device) (w : World) : World := (w.dropTun dev.tun).dropCtl dev.ctl

/-- `Device::split` of every posix platform.  The reader and the writer are moved out of
`self.tun`; the handle of the `Tun` itself and the control socket are dropped when the function
ends. -/
def Device.split (dev : Device) (w : World) : (Reader × Writer) × World :=
  ((dev.tun.reader, dev.tun.writer), (w.dropArc dev.tun.fd).dropCtl dev.ctl)

/-- `IntoRawFd for Device` of every posix platform: `self.tun.into_raw_fd()` moves the
`Tun` out, and the control socket is dropped when the function ends. -/
def Device.intoRawFd (dev : Device) : Call Error World RawFd := fun w ↦
  let (r, w) := dev.tun.intoRawFd w
  (r, match dev.ctl with
    | some ctl => w.dropFd ctl
    | none => w)

/-- What handing the descriptor `d` over means for a call that ended in `r`: the caller
gets `d`, nothing closed it, and no handle is left whose drop could close it later. -/
structure HandsOver (d : RawFd) (cell : Nat) (w : World)
    (r : Except (Stop Error) RawFd × World) : Prop where
  returned : r.1 = .ok d
  open_ : r.2.closes.count d = w.closes.count d
  released : r.2.heap.strong cell = 0

/-- **`into_raw_fd` hands nothing over.**  For every `Tun` over an open descriptor,
after any calls on it, `into_raw_fd` panics, on the `Tun` as through a device; while it
unwinds it closes the descriptor if `close_fd_on_drop` is set and leaks it otherwise. -/
theorem intoRawFd_never_handsOver (os : TargetOs) (d : RawFd) (close : Bool) (fd : Fd)
    (hfd : Fd.new d close = .ok fd) (mtu : UInt16) (pi : Bool) (w : World) (f : File)
    (calls : List TunCall) (ctl : Option Fd) :
    let built := Tun.new fd mtu pi w.heap
    let tun := (built.1.performAll os f calls).2.1
    let w' := { w with heap := built.2 }
    (tun.intoRawFd w').1 = .error .panic ∧
      (tun.intoRawFd w').2.closes = w.closes ++ (if close then [d] else []) ∧
      ¬ HandsOver d tun.fd.cell w' (tun.intoRawFd w') ∧
      ¬ HandsOver d tun.fd.cell w' (Device.intoRawFd ⟨tun, ctl⟩ w') := by
  obtain ⟨hd, rfl⟩ := Fd.new_eq_ok_iff.1 hfd
  intro built tun w'
  have ho : tun.Owned w'.heap := (Tun.owned_new _ mtu pi w.heap).performAll os f calls
  have hval : tun.fd.val = { inner := d, closeFdOnDrop := close } := by
    rw [(Tun.performAll_handles os _ f calls).1]; rfl
  obtain ⟨hpanic, hcloses⟩ := ho.intoRawFd
  refine ⟨hpanic, ?_, fun h ↦ ?_, fun h ↦ ?_⟩
  · rw [hcloses, hval]
    cases close <;> simp [Fd.drop, hd, w']
  · have := h.returned
    rw [hpanic] at this
    cases this
  · have : (tun.intoRawFd w').1 = .ok d := h.returned
    rw [hpanic] at this
    cases this

/-- A `Tun` over descriptor `3` that must not be closed: the call panics and leaks it. -/
theorem intoRawFd_never_handsOver_three :
    let built := Tun.new { inner := 3, closeFdOnDrop := false } 1500 false World.initial.heap
    let w := { World.initial with heap := built.2 }
    (built.1.intoRawFd w).1 = .error .panic ∧ (built.1.intoRawFd w).2.closes = [] := by
  have h := intoRawFd_never_handsOver .linux 3 false _ rfl 1500 false .initial
    { inbound := [], outbound := [], refusals := [], nonblock := false } [] none
  exact ⟨h.1, h.2.1⟩

/-- A macOS device over descriptor `5` with control socket `6`, after one `recv`: instead
of handing `5` over, the call panics and closes both. -/
theorem device_intoRawFd_closes_five :
    let built := Tun.new { inner := 5, closeFdOnDrop := true } 1500 true World.initial.heap
    let file : File :=
      { inbound := [[0, 0, 0, 2, 0x45]], outbound := [], refusals := [], nonblock := false }
    let dev : Device :=
      { tun := (built.1.performAll .macos file [.recv [0, 0]]).2.1
        ctl := some { inner := 6, closeFdOnDrop := true } }
    let r := dev.intoRawFd { World.initial with heap := built.2 }
    r.1 = .error .panic ∧ r.2.closes = [5, 6] ∧
      ¬ HandsOver 5 dev.tun.fd.cell { World.initial with heap := built.2 } r := by
  refine ⟨rfl, rfl, fun h ↦ ?_⟩
  have hreturned := h.returned
  cases hreturned

end RustTun
