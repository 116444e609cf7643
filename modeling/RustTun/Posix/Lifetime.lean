import RustTun.Base.Run
import RustTun.Posix.Ownership

/-!
# How long the descriptor lives

A descriptor is shared by the parts of a program that can do I/O on it: a `Tun` or a `Device`,
the `Reader` and the `Writer` it is split into, and the asynchronous counterparts of all three.
Whole devices hold the `Arc<Fd>` three times, split ones once for each half, and the two kinds
of asynchronous halves share an `Arc` of the whole device.

`sharings` are the runs of a program that splits what it has, does I/O on the parts and drops
them, in any order.  `lifetime` says that the descriptor is open as long as there is a part, and
is closed, if it is to be closed at all, by the step that leaves none.

Which parts there can be at one time is what the proof rests on (`Shape`): one whole device, or
halves that hold one `Arc<Fd>` among them, or halves that hold one device among them.
-/

namespace RustTun

open Shared Transition

/-! ## Parts -/

/-- What can do I/O on a descriptor. -/
inductive Part where
  | tun (t : Tun)
  | device (dev : Device)
  | reader (r : Reader)
  | writer (w : Writer)
  | /-- `AsyncDevice`, which is an `AsyncFd<Device>`. -/ asyncDevice (dev : Device)
  | /-- `AsyncReader`, which is an `Arc<AsyncFd<Device>>`. -/ asyncReader (device : Arc Device)
  | /-- `AsyncWriter`, likewise. -/ asyncWriter (device : Arc Device)

/-- The calls on a `Reader`. -/
def Reader.perform (os : TargetOs) (r : Reader) (f : File) : TunCall → Option (Reply × File)
  | .recv buf =>
    let (x, f) := r.recv os buf f
    some (.ofRead [buf] (x.map fun x ↦ (x.1, [x.2])), f)
  | .recvVectored bufs =>
    let (x, f) := r.recvVectored os bufs f
    some (.ofRead bufs x, f)
  | _ => none

/-- The calls on a `Writer`. -/
def Writer.perform (os : TargetOs) (w : Writer) (f : File) : TunCall → Option (Reply × File)
  | .send buf =>
    let (x, f) := w.send os buf f
    some (.done x, f)
  | .sendVectored bufs =>
    let (x, f) := w.sendVectored os bufs f
    some (.done x, f)
  | _ => none

/-- The calls on a `Device` that are those on its `Tun`. -/
def Device.perform (os : TargetOs) (dev : Device) (f : File) (c : TunCall) :
    Reply × Device × File :=
  let (x, tun, f) := dev.tun.perform os f c
  (x, { dev with tun }, f)

namespace Part

/-- Do I/O on a part, if the part has the call.  For an asynchronous half this is one attempt of
a poll. -/
def perform (os : TargetOs) (p : Part) (f : File) (c : TunCall) : Option (Reply × Part × File) :=
  match p with
  | .tun t =>
    let (x, t, f) := t.perform os f c
    some (x, .tun t, f)
  | .device dev =>
    let (x, dev, f) := dev.perform os f c
    some (x, .device dev, f)
  | .reader r => (r.perform os f c).map fun (x, f) ↦ (x, .reader r, f)
  | .writer w => (w.perform os f c).map fun (x, f) ↦ (x, .writer w, f)
  | .asyncDevice dev =>
    let (x, dev, f) := dev.perform os f c
    some (x, .asyncDevice dev, f)
  | .asyncReader a => (a.val.tun.reader.perform os f c).map fun (x, f) ↦ (x, .asyncReader a, f)
  | .asyncWriter a => (a.val.tun.writer.perform os f c).map fun (x, f) ↦ (x, .asyncWriter a, f)

/-- Drop a part. -/
def drop : Part → World → World
  | .tun t => World.dropTun t
  | .device dev | .asyncDevice dev => World.dropDevice dev
  | .reader r => World.dropArc r.fd
  | .writer w => World.dropArc w.fd
  | .asyncReader a | .asyncWriter a => World.dropHandle World.dropDevice a

/-- The handles that the I/O of a part goes through. -/
def handles : Part → List (Arc Fd)
  | .tun t => [t.fd, t.reader.fd, t.writer.fd]
  | .device dev | .asyncDevice dev => [dev.tun.fd, dev.tun.reader.fd, dev.tun.writer.fd]
  | .reader r => [r.fd]
  | .writer w => [w.fd]
  | .asyncReader a => [a.val.tun.reader.fd]
  | .asyncWriter a => [a.val.tun.writer.fd]

end Part

/-- `AsyncDevice::split`: the device goes into a fresh `Arc`, of which each half gets a clone;
the `Arc` itself is dropped when the function ends. -/
def Device.splitAsync (dev : Device) (w : World) : (Arc Device × Arc Device) × World :=
  let (device, heap) := w.heap.new dev
  let (forReader, heap) := heap.clone device
  let (forWriter, heap) := heap.clone device
  ((forReader, forWriter), { w with heap }.dropHandle World.dropDevice device)

/-! ## Programs -/

/-- The parts of a program that share a descriptor, and the descriptor. -/
structure Sharing where
  parts : List Part
  world : World
  file : File

/-- What a program does with one of its parts. -/
inductive Sharing.Action where
  | /-- I/O. -/ perform (call : TunCall)
  | /-- `Device::split`. -/ split
  | /-- `AsyncDevice::new`. -/ asyncNew
  | /-- `AsyncDevice::split`. -/ asyncSplit
  | /-- `AsyncWriter::clone`. -/ clone
  | /-- Drop it. -/ drop
deriving DecidableEq, Repr

/-- One action of a program, on any of its parts. -/
inductive Sharing.Step (os : TargetOs) : Sharing → Sharing.Action → Sharing → Prop
  | perform {l₁ l₂ : List Part} {p p' : Part} {w : World} {f f' : File} {c : TunCall} {x : Reply} :
      p.perform os f c = some (x, p', f') →
        Step os ⟨l₁ ++ p :: l₂, w, f⟩ (.perform c) ⟨l₁ ++ p' :: l₂, w, f'⟩
  | split {l₁ l₂ : List Part} {dev : Device} {r : Reader} {x : Writer} {w w' : World} {f : File} :
      dev.split w = ((r, x), w') →
        Step os ⟨l₁ ++ .device dev :: l₂, w, f⟩ .split ⟨l₁ ++ .reader r :: .writer x :: l₂, w', f⟩
  | asyncNew {l₁ l₂ : List Part} {dev : Device} {w : World} {f f' : File} :
      dev.tun.setNonblock f = (.ok (), f') →
        Step os ⟨l₁ ++ .device dev :: l₂, w, f⟩ .asyncNew ⟨l₁ ++ .asyncDevice dev :: l₂, w, f'⟩
  | /-- `set_nonblock` failed, or `AsyncFd::new` after it, which drops the device. -/
    asyncNewFails {l₁ l₂ : List Part} {dev : Device} {w : World} {f f' : File}
      {result : Except (Stop IoError) Unit} : dev.tun.setNonblock f = (result, f') →
        Step os ⟨l₁ ++ .device dev :: l₂, w, f⟩ .asyncNew ⟨l₁ ++ l₂, w.dropDevice dev, f'⟩
  | asyncSplit {l₁ l₂ : List Part} {dev : Device} {r x : Arc Device} {w w' : World} {f : File} :
      dev.splitAsync w = ((r, x), w') →
        Step os ⟨l₁ ++ .asyncDevice dev :: l₂, w, f⟩ .asyncSplit
          ⟨l₁ ++ .asyncReader r :: .asyncWriter x :: l₂, w', f⟩
  | clone {l₁ l₂ : List Part} {device device' : Arc Device} {w : World} {heap : Heap} {f : File} :
      w.heap.clone device = (device', heap) →
        Step os ⟨l₁ ++ .asyncWriter device :: l₂, w, f⟩ .clone
          ⟨l₁ ++ .asyncWriter device :: .asyncWriter device' :: l₂, { w with heap }, f⟩
  | drop {l₁ l₂ : List Part} {p : Part} {w : World} {f : File} :
      Step os ⟨l₁ ++ p :: l₂, w, f⟩ .drop ⟨l₁ ++ l₂, p.drop w, f⟩

/-- A `Tun` or a `Device` that was just built over the descriptor `d`.  The control socket of a
device is another descriptor. -/
inductive Sharing.Built (d : RawFd) (close : Bool) : Sharing → Prop
  | tun {fd : Fd} (h : Fd.new d close = .ok fd) (mtu : UInt16) (pi : Bool) (w : World) (f : File) :
      Built d close ⟨[.tun (Tun.new fd mtu pi w.heap).1],
        { w with heap := (Tun.new fd mtu pi w.heap).2 }, f⟩
  | device {fd : Fd} {ctl : Option Fd} (h : Fd.new d close = .ok fd)
      (hctl : ∀ fd ∈ ctl, fd.inner ≠ d) (mtu : UInt16) (pi : Bool) (w : World) (f : File) :
      Built d close ⟨[.device { tun := (Tun.new fd mtu pi w.heap).1, ctl }],
        { w with heap := (Tun.new fd mtu pi w.heap).2 }, f⟩

/-- Programs that share what was built over the descriptor `d`. -/
def sharings (os : TargetOs) (d : RawFd) (close : Bool) : System Sharing Sharing.Action where
  init := Sharing.Built d close
  step := Sharing.Step os

/-- How often `d` was closed. -/
def Sharing.closed (d : RawFd) (s : Sharing) : Nat := s.world.closes.count d

/-- What a step does to the descriptor `d`, which was closed `n` times before it was handed
over. -/
structure Sharing.Sound (d : RawFd) (close : Bool) (n : Nat) (s t : Sharing) : Prop where
  /-- All I/O of the parts is on `d`. -/
  inner : ∀ p ∈ t.parts, ∀ fd ∈ p.handles, fd.val.inner = d
  /-- While there is a part, `d` was not closed. -/
  isOpen : t.parts ≠ [] → t.closed d = n
  /-- Once there is none, it was closed once, or never if it is not to be closed. -/
  isClosed : t.parts = [] → t.closed d = n + if close then 1 else 0
  /-- So the step that closes it is the one that leaves no part. -/
  step : t.closed d = s.closed d + if s.parts ≠ [] ∧ t.parts = [] ∧ close then 1 else 0

/-! ## What parts there can be -/

/-- The device is over `d` and owns it: no handle of it is alive but the three of its `Tun`. -/
structure Device.Over (d : RawFd) (close : Bool) (dev : Device) (h : Heap) : Prop where
  owned : dev.tun.Owned h
  fd : dev.tun.fd.val = { inner := d, closeFdOnDrop := close }
  used : dev.tun.fd.cell < h.next
  ctl : ∀ fd ∈ dev.ctl, fd.inner ≠ d

/-- What a part holds of the descriptor. -/
inductive Hold where
  | /-- All of it. -/ whole (dev : Device)
  | /-- One of the handles of an `Fd`. -/ half (fd : Arc Fd)
  | /-- One of the handles of a device. -/ shared (dev : Arc Device)

/-- Drop what a part holds. -/
def Hold.drop : Hold → World → World
  | .whole dev => World.dropDevice dev
  | .half fd => World.dropArc fd
  | .shared dev => World.dropHandle World.dropDevice dev

/-- One device is as good as another as far as what it holds is concerned. -/
structure Device.SameHandles (dev dev' : Device) : Prop where
  fd : dev'.tun.fd = dev.tun.fd
  reader : dev'.tun.reader.fd = dev.tun.reader.fd
  writer : dev'.tun.writer.fd = dev.tun.writer.fd
  ctl : dev'.ctl = dev.ctl

theorem Device.Over.congr {d : RawFd} {close : Bool} {dev dev' : Device} {h : Heap}
    (hover : dev.Over d close h) (heq : dev.SameHandles dev') : dev'.Over d close h where
  owned :=
    { reader := by rw [heq.reader, heq.fd, hover.owned.reader]
      writer := by rw [heq.writer, heq.fd, hover.owned.writer]
      strong := by rw [heq.fd, hover.owned.strong] }
  fd := by rw [heq.fd, hover.fd]
  used := by rw [heq.fd]; exact hover.used
  ctl := by rw [heq.ctl]; exact hover.ctl

namespace Part

/-- What a part holds. -/
def hold : Part → Hold
  | .tun t => .whole { tun := t, ctl := none }
  | .device dev | .asyncDevice dev => .whole dev
  | .reader r => .half r.fd
  | .writer w => .half w.fd
  | .asyncReader a | .asyncWriter a => .shared a

theorem drop_eq (p : Part) (w : World) : p.drop w = p.hold.drop w := by
  cases p <;> rfl

/-- I/O leaves what a part holds as it is. -/
theorem hold_perform {os : TargetOs} {p p' : Part} {f f' : File} {c : TunCall} {x : Reply}
    (h : p.perform os f c = some (x, p', f')) :
    p'.hold = p.hold ∨ ∃ dev dev', p.hold = .whole dev ∧ p'.hold = .whole dev' ∧
      dev.SameHandles dev' := by
  cases p with
  | tun t =>
      cases h
      obtain ⟨hfd, hreader, hwriter⟩ := Tun.perform_handles os t f c
      exact .inr ⟨_, _, rfl, rfl, hfd, hreader, hwriter, rfl⟩
  | device dev | asyncDevice dev =>
      cases h
      obtain ⟨hfd, hreader, hwriter⟩ := Tun.perform_handles os dev.tun f c
      exact .inr ⟨_, _, rfl, rfl, hfd, hreader, hwriter, rfl⟩
  | reader r | writer r | asyncReader r | asyncWriter r =>
      obtain ⟨y, -, hy⟩ := Option.map_eq_some_iff.1 h
      cases hy
      exact .inl rfl

/-- All I/O of a part that holds a device over `d` is on `d`. -/
theorem inner_of_whole {p : Part} {dev : Device} {d : RawFd} {close : Bool} {h : Heap}
    (hhold : p.hold = .whole dev) (hover : dev.Over d close h) :
    ∀ fd ∈ p.handles, fd.val.inner = d := by
  have hinner : ∀ fd ∈ [dev.tun.fd, dev.tun.reader.fd, dev.tun.writer.fd], fd.val.inner = d := by
    rw [hover.owned.reader, hover.owned.writer]
    intro fd hmem
    rw [List.mem_cons, List.mem_cons, List.mem_singleton] at hmem
    obtain rfl : fd = dev.tun.fd := by
      rcases hmem with h | h | h
      · exact h
      · exact h
      · exact h
    rw [hover.fd]
  cases p with
  | tun t | device t | asyncDevice t =>
      cases hhold
      exact hinner
  | reader r | writer r | asyncReader r | asyncWriter r => cases hhold

theorem inner_of_half {p : Part} {a : Arc Fd} {d : RawFd} (hhold : p.hold = .half a)
    (ha : a.val.inner = d) : ∀ fd ∈ p.handles, fd.val.inner = d := by
  intro fd hmem
  cases p with
  | reader r | writer r =>
      cases hhold
      rw [List.mem_singleton.1 hmem, ha]
  | tun t | device t | asyncDevice t | asyncReader t | asyncWriter t => cases hhold

theorem inner_of_shared {p : Part} {a : Arc Device} {d : RawFd} {close : Bool} {h : Heap}
    (hhold : p.hold = .shared a) (hover : a.val.Over d close h) :
    ∀ fd ∈ p.handles, fd.val.inner = d := by
  intro fd hmem
  cases p with
  | asyncReader b =>
      cases hhold
      rw [List.mem_singleton.1 hmem, hover.owned.reader, hover.fd]
  | asyncWriter b =>
      cases hhold
      rw [List.mem_singleton.1 hmem, hover.owned.writer, hover.fd]
  | tun t | device t | asyncDevice t | reader t | writer t => cases hhold

end Part

/-- **What parts there can be at one time**, and how often what they hold is counted. -/
inductive Shape (d : RawFd) (close : Bool) : List Part → Heap → Prop
  | /-- One whole device. -/ whole {p : Part} {dev : Device} {h : Heap} :
      p.hold = .whole dev → dev.Over d close h → Shape d close [p] h
  | /-- Halves that hold one `Arc<Fd>` among them. -/
    halves {parts : List Part} {a : Arc Fd} {h : Heap} :
      (∀ p ∈ parts, p.hold = .half a) → parts ≠ [] → h.strong a.cell = parts.length →
        a.val = { inner := d, closeFdOnDrop := close } → Shape d close parts h
  | /-- Halves that hold one device among them. -/
    shared {parts : List Part} {a : Arc Device} {h : Heap} :
      (∀ p ∈ parts, p.hold = .shared a) → parts ≠ [] → h.strong a.cell = parts.length →
        a.val.Over d close h → a.cell ≠ a.val.tun.fd.cell → Shape d close parts h
  | /-- Nothing. -/ gone {h : Heap} : Shape d close [] h

/-- The parts are of one of the possible shapes, and `d` was closed if there are none. -/
structure Sharing.Inv (d : RawFd) (close : Bool) (n : Nat) (s : Sharing) : Prop where
  shape : Shape d close s.parts s.world.heap
  closed : s.closed d = n + if s.parts = [] ∧ close then 1 else 0

/-! ## What dropping does to the descriptor -/

section Drop

variable {d : RawFd} {close : Bool}

/-- The `Fd` closes `d` if it is to close it at all. -/
theorem count_drop (hd : 0 ≤ d) :
    ({ inner := d, closeFdOnDrop := close } : Fd).drop.toList.count d = if close then 1 else 0 := by
  cases close with
  | true =>
      rw [Fd.drop, if_pos ⟨rfl, hd⟩, if_pos rfl]
      exact List.count_singleton_self
  | false =>
      rw [Fd.drop, if_neg (fun h ↦ Bool.false_ne_true h.1), if_neg Bool.false_ne_true]
      rfl

/-- Dropping the control socket does not close `d`. -/
theorem count_dropCtl {ctl : Option Fd} (h : ∀ fd ∈ ctl, fd.inner ≠ d) (w : World) :
    (w.dropCtl ctl).closes.count d = w.closes.count d := by
  cases ctl with
  | none => rfl
  | some fd =>
      have hne : fd.inner ≠ d := h fd rfl
      show (w.closes ++ fd.drop.toList).count d = w.closes.count d
      have hzero : fd.drop.toList.count d = 0 := by
        rw [List.count_eq_zero, Fd.drop]
        split
        · rw [Option.toList_some, List.mem_singleton]
          exact hne.symm
        · exact List.not_mem_nil
      rw [List.count_append, hzero, Nat.add_zero]

@[simp] theorem heap_dropCtl (ctl : Option Fd) (w : World) : (w.dropCtl ctl).heap = w.heap := by
  cases ctl <;> rfl

/-- Dropping a device that owns `d` closes it. -/
theorem Device.Over.count_dropDevice (hd : 0 ≤ d) {dev : Device} {w : World}
    (h : dev.Over d close w.heap) :
    (w.dropDevice dev).closes.count d = w.closes.count d + if close then 1 else 0 := by
  rw [World.dropDevice, count_dropCtl h.ctl, h.owned.closes_dropTun, h.fd, List.count_append,
    count_drop hd]

/-- A device is over `d` as long as nobody touches the count of its cell. -/
theorem Device.Over.congr_heap {dev : Device} {h h' : Heap} (hover : dev.Over d close h)
    (hstrong : h'.strong dev.tun.fd.cell = h.strong dev.tun.fd.cell) (hnext : h.next ≤ h'.next) :
    dev.Over d close h' where
  owned := ⟨hover.owned.reader, hover.owned.writer, hstrong.trans hover.owned.strong⟩
  fd := hover.fd
  used := Nat.lt_of_lt_of_le hover.used hnext
  ctl := hover.ctl

end Drop

/-! ## The steps -/

section Steps

variable {d : RawFd} {close : Bool} {l l' : List Part} {p p' : Part} {h : Heap}

/-- The order of the parts does not matter. -/
theorem Shape.perm (hperm : l.Perm l') (hshape : Shape d close l h) : Shape d close l' h := by
  have hne (hnil : l ≠ []) : l' ≠ [] := fun hnil' ↦ hnil (by
    rw [hnil'] at hperm
    exact hperm.eq_nil)
  cases hshape with
  | whole hp hover =>
      rw [← List.singleton_perm.1 hperm]
      exact .whole hp hover
  | halves hall hnil hstrong hval =>
      exact .halves (fun p hp ↦ hall p (hperm.mem_iff.2 hp)) (hne hnil)
        (hstrong.trans hperm.length_eq) hval
  | shared hall hnil hstrong hover hcell =>
      exact .shared (fun p hp ↦ hall p (hperm.mem_iff.2 hp)) (hne hnil)
        (hstrong.trans hperm.length_eq) hover hcell
  | gone =>
      rw [← hperm.nil_eq]
      exact .gone

/-- A whole device is the only part. -/
theorem Shape.of_whole {dev : Device} (hshape : Shape d close (p :: l) h)
    (hp : p.hold = .whole dev) : l = [] ∧ dev.Over d close h := by
  cases hshape with
  | whole hq hover =>
      rw [hp] at hq
      cases hq
      exact ⟨rfl, hover⟩
  | halves hall | shared hall =>
      have hq := hall p List.mem_cons_self
      rw [hp] at hq
      cases hq

/-- Wherever it stands. -/
theorem Shape.of_whole_append {dev : Device} (hshape : Shape d close (l ++ p :: l') h)
    (hp : p.hold = .whole dev) : l = [] ∧ l' = [] ∧ dev.Over d close h := by
  obtain ⟨hnil, hover⟩ := (hshape.perm List.perm_middle).of_whole hp
  obtain ⟨hl, hl'⟩ := List.append_eq_nil_iff.1 hnil
  exact ⟨hl, hl', hover⟩

/-- Next to a half there are only halves of the same `Fd`. -/
theorem Shape.of_half {a : Arc Fd} (hshape : Shape d close (p :: l) h) (hp : p.hold = .half a) :
    (∀ q ∈ l, q.hold = .half a) ∧ h.strong a.cell = l.length + 1 ∧
      a.val = { inner := d, closeFdOnDrop := close } := by
  cases hshape with
  | whole hq hover =>
      rw [hp] at hq
      cases hq
  | halves hall _ hstrong hval =>
      have hq := hall p List.mem_cons_self
      rw [hp] at hq
      cases hq
      exact ⟨fun q hq ↦ hall q (List.mem_cons_of_mem _ hq), hstrong, hval⟩
  | shared hall =>
      have hq := hall p List.mem_cons_self
      rw [hp] at hq
      cases hq

/-- Next to an asynchronous half there are only asynchronous halves of the same device. -/
theorem Shape.of_shared {a : Arc Device} (hshape : Shape d close (p :: l) h)
    (hp : p.hold = .shared a) : (∀ q ∈ l, q.hold = .shared a) ∧ h.strong a.cell = l.length + 1 ∧
      a.val.Over d close h ∧ a.cell ≠ a.val.tun.fd.cell := by
  cases hshape with
  | whole hq hover =>
      rw [hp] at hq
      cases hq
  | halves hall =>
      have hq := hall p List.mem_cons_self
      rw [hp] at hq
      cases hq
  | shared hall _ hstrong hover hcell =>
      have hq := hall p List.mem_cons_self
      rw [hp] at hq
      cases hq
      exact ⟨fun q hq ↦ hall q (List.mem_cons_of_mem _ hq), hstrong, hover, hcell⟩

/-- I/O goes on the descriptor, whatever the part. -/
theorem Shape.inner (hshape : Shape d close l h) : ∀ p ∈ l, ∀ fd ∈ p.handles, fd.val.inner = d := by
  intro p hp
  cases hshape with
  | whole hq hover =>
      rw [List.mem_singleton.1 hp]
      exact Part.inner_of_whole hq hover
  | halves hall _ _ hval => exact Part.inner_of_half (hall p hp) (by rw [hval])
  | shared hall _ _ hover => exact Part.inner_of_shared (hall p hp) hover
  | gone => cases hp

/-- I/O changes nothing about what is held. -/
theorem Shape.perform {os : TargetOs} {f f' : File} {c : TunCall} {x : Reply}
    (hshape : Shape d close (p :: l) h) (hp : p.perform os f c = some (x, p', f')) :
    Shape d close (p' :: l) h := by
  rcases Part.hold_perform hp with heq | ⟨dev, dev', hdev, hdev', hsame⟩
  · cases hhold : p.hold with
    | whole dev =>
        obtain ⟨rfl, hover⟩ := hshape.of_whole hhold
        exact .whole (heq.trans hhold) hover
    | half a =>
        obtain ⟨hall, hstrong, hval⟩ := hshape.of_half hhold
        exact .halves (List.forall_mem_cons.2 ⟨heq.trans hhold, hall⟩) (List.cons_ne_nil _ _)
          hstrong hval
    | shared a =>
        obtain ⟨hall, hstrong, hover, hcell⟩ := hshape.of_shared hhold
        exact .shared (List.forall_mem_cons.2 ⟨heq.trans hhold, hall⟩) (List.cons_ne_nil _ _)
          hstrong hover hcell
  · obtain ⟨rfl, hover⟩ := hshape.of_whole hdev
    exact .whole hdev' (hover.congr hsame)

/-- **Dropping a part** closes the descriptor exactly if it is the last one. -/
theorem Shape.drop (hd : 0 ≤ d) {w : World} (hshape : Shape d close (p :: l) w.heap) :
    Shape d close l (p.drop w).heap ∧
      (p.drop w).closes.count d = w.closes.count d + if l = [] ∧ close then 1 else 0 := by
  rw [Part.drop_eq]
  cases hhold : p.hold with
  | whole dev =>
      obtain ⟨rfl, hover⟩ := hshape.of_whole hhold
      refine ⟨.gone, (hover.count_dropDevice hd).trans ?_⟩
      simp only [true_and]
  | half a =>
      obtain ⟨hall, hstrong, hval⟩ := hshape.of_half hhold
      rw [Hold.drop]
      by_cases hl : l = []
      · subst hl
        rw [World.dropArc_of_strong_eq_one hstrong]
        refine ⟨.gone, ?_⟩
        show (w.closes ++ a.val.drop.toList).count d = _
        rw [List.count_append, hval, count_drop hd]
        simp only [true_and]
      · have hlength : l.length ≠ 0 := fun h ↦ hl (List.length_eq_zero_iff.1 h)
        rw [World.dropArc_of_strong_ne_one (by omega), if_neg fun h ↦ hl h.1]
        refine ⟨.halves hall hl ?_ hval, rfl⟩
        rw [Heap.strong_intoInner, hstrong, Nat.add_sub_cancel]
  | shared a =>
      obtain ⟨hall, hstrong, hover, hcell⟩ := hshape.of_shared hhold
      have hover' : a.val.Over d close (w.heap.intoInner a).2 :=
        hover.congr_heap (Heap.strong_intoInner_of_ne _ hcell.symm) (Nat.le_refl _)
      rw [Hold.drop]
      by_cases hl : l = []
      · subst hl
        rw [World.dropHandle_of_strong_eq_one _ hstrong]
        refine ⟨.gone, (Device.Over.count_dropDevice hd hover').trans ?_⟩
        simp only [true_and]
      · have hlength : l.length ≠ 0 := fun h ↦ hl (List.length_eq_zero_iff.1 h)
        rw [World.dropHandle_of_strong_ne_one _ (by omega), if_neg fun h ↦ hl h.1]
        refine ⟨.shared hall hl ?_ hover' hcell, rfl⟩
        rw [Heap.strong_intoInner, hstrong, Nat.add_sub_cancel]

/-- Splitting a device leaves two halves of its `Fd`, and closes no more than the control
socket. -/
theorem Device.Over.split {dev : Device} {r : Reader} {x : Writer} {w w' : World}
    (hover : dev.Over d close w.heap) (hsplit : dev.split w = ((r, x), w')) :
    Shape d close [.reader r, .writer x] w'.heap ∧ w'.closes.count d = w.closes.count d := by
  cases hsplit
  have hthree : w.heap.strong dev.tun.fd.cell ≠ 1 := by rw [hover.owned.strong]; decide
  rw [count_dropCtl hover.ctl, heap_dropCtl, World.dropArc_of_strong_ne_one hthree]
  refine ⟨.halves (a := dev.tun.fd) ?_ (List.cons_ne_nil _ _) ?_ hover.fd, rfl⟩
  · intro p hp
    rw [List.mem_cons, List.mem_singleton] at hp
    rcases hp with rfl | rfl
    · exact congrArg Hold.half hover.owned.reader
    · exact congrArg Hold.half hover.owned.writer
  · rw [Heap.strong_intoInner, hover.owned.strong]
    rfl

/-- Splitting an asynchronous device leaves two handles of it, and closes nothing. -/
theorem Device.Over.splitAsync {dev : Device} {r x : Arc Device} {w w' : World}
    (hover : dev.Over d close w.heap) (hsplit : dev.splitAsync w = ((r, x), w')) :
    Shape d close [.asyncReader r, .asyncWriter x] w'.heap ∧
      w'.closes.count d = w.closes.count d := by
  let a := (w.heap.new dev).1
  let h₁ := (w.heap.new dev).2
  let h₃ := ((h₁.clone a).2.clone a).2
  have hcell : a.cell ≠ dev.tun.fd.cell := Nat.ne_of_gt hover.used
  have hthree : h₃.strong a.cell = 3 := by
    rw [Heap.strong_clone, Heap.strong_clone, Heap.strong_new]
  have hne : h₃.strong a.cell ≠ 1 := by rw [hthree]; decide
  have hothers : (h₃.intoInner a).2.strong dev.tun.fd.cell = w.heap.strong dev.tun.fd.cell := by
    rw [Heap.strong_intoInner_of_ne _ hcell.symm, Heap.strong_clone_of_ne _ hcell.symm,
      Heap.strong_clone_of_ne _ hcell.symm, Heap.strong_new_of_lt dev hover.used]
  have hworld : dev.splitAsync w = ((a, a), { w with heap := (h₃.intoInner a).2 }) :=
    congrArg (Prod.mk (a, a)) <|
      World.dropHandle_of_strong_ne_one World.dropDevice (w := { w with heap := h₃ }) hne
  rw [hworld, Prod.mk.injEq, Prod.mk.injEq] at hsplit
  obtain ⟨⟨rfl, rfl⟩, rfl⟩ := hsplit
  refine ⟨.shared (a := a) ?_ (List.cons_ne_nil _ _) ?_ ?_ hcell, rfl⟩
  · exact List.forall_mem_cons.2 ⟨rfl, List.forall_mem_cons.2 ⟨rfl, fun q hq ↦ nomatch hq⟩⟩
  · rw [Heap.strong_intoInner, hthree]
    rfl
  · exact hover.congr_heap hothers (Nat.le_succ _)

/-- Cloning a handle of a device adds one. -/
theorem Shape.clone {a a' : Arc Device} {heap : Heap} (hshape : Shape d close (p :: l) h)
    (hp : p = .asyncWriter a) (hclone : h.clone a = (a', heap)) :
    Shape d close (.asyncWriter a :: .asyncWriter a' :: l) heap := by
  subst hp
  cases hclone
  obtain ⟨hall, hstrong, hover, hcell⟩ := hshape.of_shared rfl
  refine .shared (a := a) ?_ (List.cons_ne_nil _ _) ?_ ?_ hcell
  · exact List.forall_mem_cons.2 ⟨rfl, List.forall_mem_cons.2 ⟨rfl, hall⟩⟩
  · exact (Heap.strong_clone a h).trans (congrArg (· + 1) hstrong)
  · exact hover.congr_heap (Heap.strong_clone_of_ne _ hcell.symm) (Nat.le_refl _)

end Steps

/-! ## Runs -/

namespace Sharing

variable {d : RawFd} {close : Bool} {n : Nat}

/-- What was just built is one whole device, and `d` is a descriptor. -/
theorem Built.inv {s : Sharing} (hs : Built d close s) : 0 ≤ d ∧ Inv d close (s.closed d) s := by
  have hover {fd : Fd} (h : Fd.new d close = .ok fd) {ctl : Option Fd}
      (hctl : ∀ fd ∈ ctl, fd.inner ≠ d) (mtu : UInt16) (pi : Bool) (w : World) :
      Device.Over d close { tun := (Tun.new fd mtu pi w.heap).1, ctl }
        (Tun.new fd mtu pi w.heap).2 := by
    obtain ⟨-, rfl⟩ := Fd.new_eq_ok_iff.1 h
    exact ⟨Tun.owned_new _ mtu pi w.heap, rfl, Nat.lt_succ_self _, hctl⟩
  cases hs with
  | tun h mtu pi w f =>
      refine ⟨(Fd.new_eq_ok_iff.1 h).1, .whole rfl (hover h ?_ mtu pi w), ?_⟩
      · exact fun fd hfd ↦ nomatch hfd
      · rw [if_neg fun h ↦ List.cons_ne_nil _ _ h.1, Nat.add_zero]
  | device h hctl mtu pi w f =>
      refine ⟨(Fd.new_eq_ok_iff.1 h).1, .whole rfl (hover h hctl mtu pi w), ?_⟩
      rw [if_neg fun h ↦ List.cons_ne_nil _ _ h.1, Nat.add_zero]

/-- A step that leaves a part closes nothing. -/
theorem Inv.of_ne_nil {s t : Sharing} (hs : Inv d close n s) (hparts : s.parts ≠ [])
    (hshape : Shape d close t.parts t.world.heap)
    (hclosed : t.closed d = s.closed d + if t.parts = [] ∧ close then 1 else 0) :
    Inv d close n t where
  shape := hshape
  closed := by rw [hclosed, hs.closed, if_neg fun h ↦ hparts h.1, Nat.add_zero]

/-- **One step.**  It leaves parts of one of the possible shapes, and closes `d` if there are
none. -/
theorem Step.shape {os : TargetOs} (hd : 0 ≤ d) {s t : Sharing} {a : Action}
    (hstep : Step os s a t) (hshape : Shape d close s.parts s.world.heap) :
    s.parts ≠ [] ∧ Shape d close t.parts t.world.heap ∧
      t.closed d = s.closed d + if t.parts = [] ∧ close then 1 else 0 := by
  have hne {l₁ l₂ : List Part} {p : Part} : l₁ ++ p :: l₂ ≠ [] :=
    List.append_ne_nil_of_right_ne_nil _ (List.cons_ne_nil _ _)
  -- A step that leaves a part must leave the count as it was.
  have hleft {l : List Part} {m k : Nat} (hl : l ≠ []) (heq : m = k) :
      m = k + if l = [] ∧ close then 1 else 0 := by
    rw [if_neg fun h ↦ hl h.1, Nat.add_zero, heq]
  cases hstep with
  | perform hp =>
      have hshape' := (hshape.perm List.perm_middle).perform hp
      exact ⟨hne, hshape'.perm List.perm_middle.symm, hleft hne rfl⟩
  | split hsplit =>
      obtain ⟨rfl, rfl, hover⟩ := hshape.of_whole_append rfl
      obtain ⟨hshape', hcount⟩ := hover.split hsplit
      exact ⟨hne, hshape', hleft hne hcount⟩
  | asyncNew hset =>
      obtain ⟨rfl, rfl, hover⟩ := hshape.of_whole_append rfl
      exact ⟨hne, .whole rfl hover, hleft hne rfl⟩
  | asyncNewFails hset => exact ⟨hne, (hshape.perm List.perm_middle).drop hd⟩
  | asyncSplit hsplit =>
      obtain ⟨rfl, rfl, hover⟩ := hshape.of_whole_append rfl
      obtain ⟨hshape', hcount⟩ := hover.splitAsync hsplit
      exact ⟨hne, hshape', hleft hne hcount⟩
  | clone hclone =>
      have hperm {l₁ l₂ : List Part} {p q : Part} :
          (p :: q :: (l₁ ++ l₂)).Perm (l₁ ++ p :: q :: l₂) :=
        (List.perm_middle.symm.cons p).trans List.perm_middle.symm
      have hshape' := (hshape.perm List.perm_middle).clone rfl hclone
      exact ⟨hne, hshape'.perm hperm, hleft hne rfl⟩
  | drop => exact ⟨hne, (hshape.perm List.perm_middle).drop hd⟩

/-- What the invariant says of a step. -/
theorem Step.sound {os : TargetOs} (hd : 0 ≤ d) {s t : Sharing} {a : Action}
    (hstep : Step os s a t) (hs : Inv d close n s) :
    Inv d close n t ∧ Sound d close n s t := by
  obtain ⟨hparts, hshape, hclosed⟩ := hstep.shape hd hs.shape
  have ht : Inv d close n t := hs.of_ne_nil hparts hshape hclosed
  refine ⟨ht, ⟨hshape.inner, fun hne ↦ ?_, fun hnil ↦ ?_, ?_⟩⟩
  · rw [ht.closed, if_neg fun h ↦ hne h.1, Nat.add_zero]
  · rw [ht.closed]
    simp only [hnil, true_and]
  · rw [hclosed]
    simp only [ne_eq, hparts, not_false_eq_true, true_and]

end Sharing

/-- **The lifetime of a descriptor.**  Whatever a program does with a `Tun` or a `Device` over
the descriptor `d`, and in whatever order: `d` is open as long as some part is left, and is closed
once, by the step that leaves none, or never if it is not to be closed. -/
theorem lifetime (os : TargetOs) (d : RawFd) (close : Bool) (s : Sharing)
    (l : List (Sharing.Action × Sharing)) (hinit : (sharings os d close).init s)
    (hrun : (sharings os d close).Run s l) :
    AllSteps (fun s' _ t ↦ Sharing.Sound d close (s.closed d) s' t) s l := by
  obtain ⟨hd, hinv⟩ := hinit.inv
  exact hrun.allSteps_mono (I := Sharing.Inv d close (s.closed d)) (Q := fun _ _ _ ↦ True)
    (fun _ _ _ hs hstep _ ↦ (hstep.sound hd hs).2) (fun _ _ _ hs hstep _ ↦ (hstep.sound hd hs).1)
    hinv (allSteps_target.2 fun _ _ ↦ trivial)

/-- A device over the descriptor 3 becomes an asynchronous one, which is split; the writer is
cloned, and the three halves are dropped. -/
theorem lifetime_three : ∃ s l, (sharings .linux 3 true).Run s l ∧
    l.map Prod.fst = [.asyncNew, .asyncSplit, .clone, .drop, .drop, .drop] ∧
    AllSteps (fun s' _ t ↦ Sharing.Sound 3 true (s.closed 3) s' t) s l := by
  let built := Tun.new { inner := 3, closeFdOnDrop := true } 1500 false World.initial.heap
  let dev : Device := { tun := built.1, ctl := some { inner := 4, closeFdOnDrop := true } }
  let w : World := { World.initial with heap := built.2 }
  let f : File := { inbound := [], outbound := [], refusals := [], nonblock := true }
  let a := (dev.splitAsync w).1.1
  let w₁ := (dev.splitAsync w).2
  let w₂ : World := { w₁ with heap := (w₁.heap.clone a).2 }
  have hbuilt : Sharing.Built 3 true ⟨[.device dev], w, { f with nonblock := false }⟩ :=
    .device rfl (by rintro _ ⟨⟩; decide) 1500 false World.initial _
  have hnew : Sharing.Step .linux ⟨[] ++ [.device dev], w, { f with nonblock := false }⟩ .asyncNew
      ⟨[] ++ [.asyncDevice dev], w, f⟩ := .asyncNew rfl
  have hsplit : Sharing.Step .linux ⟨[] ++ [.asyncDevice dev], w, f⟩ .asyncSplit
      ⟨[] ++ [.asyncReader a, .asyncWriter a], w₁, f⟩ := .asyncSplit rfl
  have hclone : Sharing.Step .linux ⟨[.asyncReader a] ++ [.asyncWriter a], w₁, f⟩ .clone
      ⟨[.asyncReader a] ++ [.asyncWriter a, .asyncWriter a], w₂, f⟩ := .clone rfl
  have hreader (v : World) : Sharing.Step .linux
      ⟨[] ++ .asyncReader a :: [.asyncWriter a, .asyncWriter a], v, f⟩ .drop
      ⟨[] ++ [.asyncWriter a, .asyncWriter a], (Part.asyncReader a).drop v, f⟩ := .drop
  have hwriter (v : World) (rest : List Part) : Sharing.Step .linux
      ⟨[] ++ .asyncWriter a :: rest, v, f⟩ .drop
      ⟨[] ++ rest, (Part.asyncWriter a).drop v, f⟩ := .drop
  have hrun := System.Run.cons (S := sharings .linux 3 true) hnew <| .cons hsplit <| .cons hclone <|
    .cons (hreader _) <| .cons (hwriter _ _) <| .cons (hwriter _ []) <| .nil _
  exact ⟨_, _, hrun, rfl, lifetime .linux 3 true _ _ hbuilt hrun⟩

end RustTun
