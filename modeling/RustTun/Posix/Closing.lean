import RustTun.Posix.Lifetime

/-!
# What a program closes, and in what order

`Sharing.Sound` counts how often one descriptor is closed.  A device can have a second one, its
control socket, and there the order matters: splitting the device drops the control socket at once,
while the halves keep the other descriptor, whereas an asynchronous split keeps the device as it is
until the last half is gone, which then closes the control socket last.

`Device.Over.closed_final` says what all the calls of `close(2)` are that a program makes, in order:
it depends only on whether the device was split and on whether a part of it is left.
-/

namespace RustTun

open Shared Transition

/-! ## What is closed -/

/-- What dropping an `Fd` closes. -/
def Fd.closes (fd : Fd) : List RawFd := fd.drop.toList

theorem Fd.closes_of_nonneg {d : RawFd} (hd : 0 ≤ d) (close : Bool) :
    Fd.closes ⟨d, close⟩ = if close then [d] else [] := by
  cases close with
  | false => rfl
  | true =>
      rw [Fd.closes, Fd.drop_of_nonneg hd]
      rfl

/-- What dropping a control socket closes, if there is one. -/
def ctlCloses : Option Fd → List RawFd
  | some ctl => ctl.closes
  | none => []

/-- What a program has closed of a device, given what the descriptor of the `Tun` and the control
socket amount to, by the time that the device was split into halves, or was not, and that some part
of it is left, or none is. -/
def closings (ofTun ofCtl : List RawFd) : Bool → Bool → List RawFd
  | false, true => []
  | true, true => ofCtl
  | false, false => ofTun ++ ofCtl
  | true, false => ofCtl ++ ofTun

/-- What the last part closes when it is dropped. -/
def lastClosings (ofTun ofCtl : List RawFd) (halved : Bool) : List RawFd :=
  if halved then ofTun else ofTun ++ ofCtl

/-- Without a control socket it does not matter whether the device was split. -/
theorem closings_nil (ofTun : List RawFd) (halved left : Bool) :
    closings ofTun [] halved left = if left then [] else ofTun := by
  cases halved with
  | false =>
      cases left with
      | false => exact List.append_nil _
      | true => rfl
  | true => cases left <;> rfl

theorem closings_append_last (ofTun ofCtl : List RawFd) (halved : Bool) :
    closings ofTun ofCtl halved true ++ lastClosings ofTun ofCtl halved =
      closings ofTun ofCtl halved false := by
  cases halved with
  | false => exact List.nil_append _
  | true => rfl

/-- What a part keeps of the device besides the descriptor: the halves of a device that was split
have no control socket, every other part has the one that the device was built with. -/
def Hold.Keeps (ctl : Option Fd) (halved : Bool) : Hold → Prop
  | .whole dev => halved = false ∧ dev.ctl = ctl
  | .half _ => halved = true
  | .shared dev => halved = false ∧ dev.val.ctl = ctl

/-- The parts are of one of the possible shapes, and what was closed since the device was built is
what goes with it. -/
structure Sharing.Closed (d : RawFd) (close : Bool) (ctl : Option Fd) (before : List RawFd)
    (halved : Bool) (s : Sharing) : Prop where
  shape : Shape d close s.parts s.world.heap
  keeps : ∀ p ∈ s.parts, p.hold.Keeps ctl halved
  closes : s.world.closes = before ++
    closings (Fd.closes ⟨d, close⟩) (ctlCloses ctl) halved (!s.parts.isEmpty)

/-! ## One step -/

namespace World

theorem closes_dropCtl (ctl : Option Fd) (w : World) :
    (w.dropCtl ctl).closes = w.closes ++ ctlCloses ctl := by
  cases ctl with
  | none => exact (List.append_nil _).symm
  | some ctl => rfl

end World

variable {d : RawFd} {close halved : Bool} {ctl : Option Fd} {before : List RawFd}
  {l : List Part} {p : Part} {h : Heap} {w : World}

/-- Dropping a device closes the descriptor and then the control socket. -/
theorem Device.Over.closes_dropDevice {dev : Device} (hover : dev.Over d close w.heap) :
    (w.dropDevice dev).closes = w.closes ++ (Fd.closes ⟨d, close⟩ ++ ctlCloses dev.ctl) := by
  rw [World.dropDevice, World.closes_dropCtl, hover.owned.closes_dropTun, hover.fd,
    List.append_assoc]
  rfl

/-- Splitting it closes the control socket. -/
theorem Device.Over.closes_split {dev : Device} (hover : dev.Over d close w.heap) :
    (dev.split w).2.closes = w.closes ++ ctlCloses dev.ctl := by
  have hthree : w.heap.strong dev.tun.fd.cell ≠ 1 := by
    rw [hover.owned.strong]
    decide
  rw [Device.split, World.closes_dropCtl, World.dropArc_of_strong_ne_one hthree]

/-- The asynchronous split closes nothing. -/
theorem Device.closes_splitAsync (dev : Device) (w : World) :
    (dev.splitAsync w).2.closes = w.closes := by
  have hne : (((w.heap.new dev).2.clone (w.heap.new dev).1).2.clone
      (w.heap.new dev).1).2.strong (w.heap.new dev).1.cell ≠ 1 := by
    rw [Heap.strong_clone, Heap.strong_clone, Heap.strong_new]
    decide
  show (World.dropHandle World.dropDevice _ { w with heap := _ }).closes = _
  rw [World.dropHandle_of_strong_ne_one _ hne]

/-- **Dropping a part** closes nothing if another is left, and else what the last one closes. -/
theorem Shape.closes_drop (hshape : Shape d close (p :: l) w.heap)
    (hkeeps : p.hold.Keeps ctl halved) :
    (p.drop w).closes = w.closes ++
      if l = [] then lastClosings (Fd.closes ⟨d, close⟩) (ctlCloses ctl) halved else [] := by
  rw [Part.drop_eq]
  cases hhold : p.hold with
  | whole dev =>
      rw [hhold] at hkeeps
      obtain ⟨rfl, rfl⟩ := hkeeps
      obtain ⟨rfl, hover⟩ := hshape.of_whole hhold
      exact hover.closes_dropDevice
  | half a =>
      rw [hhold] at hkeeps
      obtain rfl : halved = true := hkeeps
      obtain ⟨-, hstrong, hval⟩ := hshape.of_half hhold
      rw [Hold.drop]
      by_cases hl : l = []
      · subst hl
        rw [World.dropArc_of_strong_eq_one hstrong, if_pos rfl, hval]
        rfl
      · have hlength : l.length ≠ 0 := fun h ↦ hl (List.length_eq_zero_iff.1 h)
        rw [World.dropArc_of_strong_ne_one (by omega), if_neg hl, List.append_nil]
  | shared a =>
      rw [hhold] at hkeeps
      obtain ⟨rfl, rfl⟩ := hkeeps
      obtain ⟨-, hstrong, hover, hcell⟩ := hshape.of_shared hhold
      rw [Hold.drop]
      by_cases hl : l = []
      · subst hl
        have hover' : a.val.Over d close (w.heap.intoInner a).2 :=
          hover.congr_heap (Heap.strong_intoInner_of_ne _ hcell.symm) (Nat.le_refl _)
        rw [World.dropHandle_of_strong_eq_one _ hstrong]
        exact Device.Over.closes_dropDevice hover'
      · have hlength : l.length ≠ 0 := fun h ↦ hl (List.length_eq_zero_iff.1 h)
        rw [World.dropHandle_of_strong_ne_one _ (by omega), if_neg hl, List.append_nil]

/-- I/O leaves what a part keeps as it is. -/
theorem Part.keeps_perform {os : TargetOs} {p' : Part} {f f' : File} {c : TunCall} {x : Reply}
    (h : p.perform os f c = some (x, p', f')) (hkeeps : p.hold.Keeps ctl halved) :
    p'.hold.Keeps ctl halved := by
  rcases Part.hold_perform h with heq | ⟨dev, dev', hdev, hdev', hsame⟩
  · rw [heq]
    exact hkeeps
  · rw [hdev] at hkeeps
    rw [hdev']
    exact ⟨hkeeps.1, hsame.ctl.trans hkeeps.2⟩

namespace Sharing

/-- Whether a program has split its device after this action. -/
def Action.halves (halved : Bool) : Action → Bool
  | .split => true
  | _ => halved

theorem Action.halves_eq (halved : Bool) (a : Action) :
    a.halves halved = (halved || decide (.split = a)) := by
  cases a with
  | split => exact (Bool.or_true halved).symm
  | perform c => exact (Bool.or_false halved).symm
  | asyncNew | asyncSplit | clone | drop => exact (Bool.or_false halved).symm

/-- A step that leaves parts and closes nothing. -/
theorem Closed.of_eq {s t : Sharing} (hs : Closed d close ctl before halved s)
    (hparts : s.parts ≠ []) (hshape : Shape d close t.parts t.world.heap) (hnil : t.parts ≠ [])
    (hkeeps : ∀ p ∈ t.parts, p.hold.Keeps ctl halved) (hcloses : t.world.closes = s.world.closes) :
    Closed d close ctl before halved t where
  shape := hshape
  keeps := hkeeps
  closes := by
    rw [hcloses, hs.closes, List.isEmpty_eq_false_iff.2 hparts, List.isEmpty_eq_false_iff.2 hnil]

/-- A step that drops a part. -/
theorem Closed.drop {s : Sharing} {l₁ l₂ : List Part} {p : Part} {w : World} {f : File}
    (hd : 0 ≤ d) (hs : Closed d close ctl before halved s) (hparts : s.parts = l₁ ++ p :: l₂)
    (hworld : s.world = w) : Closed d close ctl before halved ⟨l₁ ++ l₂, p.drop w, f⟩ := by
  subst hworld
  have hperm : s.parts.Perm (p :: (l₁ ++ l₂)) := hparts ▸ List.perm_middle
  have hshape := hs.shape.perm hperm
  have hkeeps := hs.keeps p (hperm.mem_iff.2 List.mem_cons_self)
  refine ⟨(hshape.drop hd).1, fun q hq ↦ hs.keeps q (hperm.mem_iff.2 (.tail _ hq)), ?_⟩
  have hcloses := hs.closes
  rw [List.isEmpty_eq_false_iff.2 (by rw [hparts]; simp)] at hcloses
  show (p.drop s.world).closes = _
  rw [hshape.closes_drop hkeeps, hcloses, List.append_assoc]
  by_cases hl : l₁ ++ l₂ = []
  · rw [if_pos hl, List.isEmpty_iff.2 hl]
    exact congrArg (before ++ ·) (closings_append_last _ _ _)
  · rw [if_neg hl, List.isEmpty_eq_false_iff.2 hl, List.append_nil]

/-- **One step.**  Whatever it is, what was closed stays what goes with the parts that there
are. -/
theorem Closed.step {os : TargetOs} {s t : Sharing} {a : Action} (hd : 0 ≤ d)
    (hs : Closed d close ctl before halved s) (hstep : Step os s a t) :
    Closed d close ctl before (a.halves halved) t := by
  obtain ⟨hne, hshape, -⟩ := hstep.shape hd hs.shape
  have hnil {l₁ l₂ : List Part} {p : Part} : l₁ ++ p :: l₂ ≠ [] :=
    List.append_ne_nil_of_right_ne_nil _ (List.cons_ne_nil _ _)
  have hkeeps := hs.keeps
  cases hstep with
  | perform hp =>
      refine hs.of_eq hne hshape hnil ?_ rfl
      simp only [List.forall_mem_append, List.forall_mem_cons] at hkeeps ⊢
      exact ⟨hkeeps.1, Part.keeps_perform hp hkeeps.2.1, hkeeps.2.2⟩
  | @split l₁ l₂ dev r x w w' f hsplit =>
      obtain ⟨rfl, rfl, hover⟩ := hs.shape.of_whole_append rfl
      obtain ⟨rfl, rfl⟩ : halved = false ∧ dev.ctl = ctl := hkeeps _ List.mem_cons_self
      refine ⟨hshape, ?_, ?_⟩
      · exact List.forall_mem_cons.2 ⟨rfl, List.forall_mem_singleton.2 rfl⟩
      · obtain rfl : (dev.split w).2 = w' := congrArg Prod.snd hsplit
        have hcloses : w.closes = before ++ [] := hs.closes
        show (dev.split w).2.closes = before ++ ctlCloses dev.ctl
        rw [hover.closes_split, hcloses, List.append_nil]
  | @asyncNew l₁ l₂ dev w f f' hset =>
      obtain ⟨rfl, rfl, -⟩ := hs.shape.of_whole_append rfl
      have hdev : halved = false ∧ dev.ctl = ctl := hkeeps _ List.mem_cons_self
      exact hs.of_eq hne hshape hnil (List.forall_mem_singleton.2 hdev) rfl
  | asyncNewFails hset =>
      exact hs.drop hd rfl rfl
  | @asyncSplit l₁ l₂ dev r x w w' f hsplit =>
      obtain ⟨rfl, rfl, -⟩ := hs.shape.of_whole_append rfl
      have hdev : halved = false ∧ dev.ctl = ctl := hkeeps _ List.mem_cons_self
      obtain rfl : (dev.splitAsync w).2 = w' := congrArg Prod.snd hsplit
      refine hs.of_eq hne hshape hnil ?_ (dev.closes_splitAsync w)
      have hhalves : r.val = dev ∧ x.val = dev := by
        cases hsplit
        exact ⟨rfl, rfl⟩
      refine List.forall_mem_cons.2 ⟨?_, List.forall_mem_singleton.2 ?_⟩
      · exact ⟨hdev.1, (congrArg Device.ctl hhalves.1).trans hdev.2⟩
      · exact ⟨hdev.1, (congrArg Device.ctl hhalves.2).trans hdev.2⟩
  | clone hclone =>
      refine hs.of_eq hne hshape hnil ?_ rfl
      cases hclone
      simp only [List.forall_mem_append, List.forall_mem_cons] at hkeeps ⊢
      exact ⟨hkeeps.1, hkeeps.2.1, hkeeps.2.1, hkeeps.2.2⟩
  | drop =>
      exact hs.drop hd rfl rfl

/-- **A run.**  As long as a part is left, nothing was closed but the control socket, and that only
if the device was split; and by the time that nothing is left, the descriptor was closed, if it is
to be closed, and the control socket, the socket first if the device was split, and nothing
else. -/
theorem Closed.final {os : TargetOs} {s : Sharing} {l : List (Action × Sharing)} (hd : 0 ≤ d)
    (hrun : (sharings os d close).Run s l) (hs : Closed d close ctl before halved s) :
    Closed d close ctl before (halved || decide (.split ∈ l.map Prod.fst)) (final s l) := by
  induction hrun generalizing halved with
  | nil s =>
      rw [List.map_nil, decide_eq_false List.not_mem_nil, Bool.or_false]
      exact hs
  | @cons s t a l ht _ ih =>
      have hrest := ih (hs.step hd ht)
      rw [Action.halves_eq, Bool.or_assoc, ← Bool.decide_or] at hrest
      rw [List.map_cons, final_cons]
      simpa only [List.mem_cons] using hrest

end Sharing

/-- A run with a device over `d`. -/
theorem Device.Over.closed_final {os : TargetOs} {dev : Device} {f : File}
    {l : List (Sharing.Action × Sharing)} (hover : dev.Over d close w.heap) (hd : 0 ≤ d)
    (hrun : (sharings os d close).Run ⟨[.device dev], w, f⟩ l) :
    Sharing.Closed d close dev.ctl w.closes (.split ∈ l.map Prod.fst)
      (final ⟨[.device dev], w, f⟩ l) := by
  have hbuilt : Sharing.Closed d close dev.ctl w.closes false ⟨[.device dev], w, f⟩ :=
    ⟨.whole rfl hover, List.forall_mem_singleton.2 ⟨rfl, rfl⟩, (List.append_nil _).symm⟩
  exact hbuilt.final hd hrun

/-- A device around a `Tun` that was just built is over its descriptor. -/
theorem Device.over_new (mtu : UInt16) (pi : Bool) (h : Heap) {ctl : Option Fd}
    (hctl : ∀ fd ∈ ctl, fd.inner ≠ d) :
    Device.Over d close { tun := (Tun.new ⟨d, close⟩ mtu pi h).1, ctl }
      (Tun.new ⟨d, close⟩ mtu pi h).2 where
  owned := Tun.owned_new _ mtu pi h
  fd := rfl
  used := Nat.lt_succ_self _
  ctl := hctl

/-! ## Devices that own two descriptors -/

/-- The device is over the descriptor `n` and has the control socket `m`, both of which it closes,
and nothing has been closed since `w`. -/
structure Device.OwnsBoth (w : World) (n m : RawFd) (dev : Device) (w' : World) : Prop where
  tun_nonneg : 0 ≤ n
  ctl_nonneg : 0 ≤ m
  tun : dev.tun.fd.val = ⟨n, true⟩
  ctl : dev.ctl = some ⟨m, true⟩
  owned : dev.tun.Owned w'.heap
  used : dev.tun.fd.cell < w'.heap.next
  closes : w'.closes = w.closes

/-- What a program closes of a device over `n` with the control socket `m`, since `w`.  As long as a
part is left that is nothing, or the control socket if the device was split; and once nothing is
left it is both, each once, the control socket first if the device was split, and nothing else. -/
def ClosesBoth (os : TargetOs) (w : World) (n m : RawFd) (dev : Device) (w' : World) : Prop :=
  ∀ (f : File) (l : List (Sharing.Action × Sharing)),
    (sharings os n true).Run ⟨[.device dev], w', f⟩ l →
      (final ⟨[.device dev], w', f⟩ l).world.closes = w.closes ++
        closings [n] [m] (.split ∈ l.map Prod.fst)
          (!(final ⟨[.device dev], w', f⟩ l).parts.isEmpty)

namespace Device.OwnsBoth

variable {w w' : World} {n m : RawFd} {dev : Device}

/-- A device that was just built. -/
theorem new (hn : 0 ≤ n) (hm : 0 ≤ m) (mtu : UInt16) (pi : Bool) (w : World) :
    OwnsBoth w n m { tun := (Tun.new ⟨n, true⟩ mtu pi w.heap).1, ctl := some ⟨m, true⟩ }
      { w with heap := (Tun.new ⟨n, true⟩ mtu pi w.heap).2 } :=
  ⟨hn, hm, rfl, rfl, Tun.owned_new _ mtu pi w.heap, Nat.lt_succ_self _, rfl⟩

/-- Setting the MTU leaves the descriptors alone. -/
theorem setMtu (h : dev.OwnsBoth w n m w') (value : UInt16) :
    OwnsBoth w n m { dev with tun := dev.tun.setMtu value } w' :=
  { h with owned := ⟨h.owned.reader, h.owned.writer, h.owned.strong⟩ }

/-- **What a program closes** of it. -/
theorem closesBoth (h : dev.OwnsBoth w n m w') (hne : n ≠ m) (os : TargetOs) :
    ClosesBoth os w n m dev w' := by
  intro f l hrun
  have hctl : ∀ fd ∈ dev.ctl, fd.inner ≠ n := by
    rw [h.ctl]
    rintro _ ⟨⟩
    exact hne.symm
  have hover : dev.Over n true w'.heap := ⟨h.owned, h.tun, h.used, hctl⟩
  rw [(hover.closed_final h.tun_nonneg hrun).closes, h.closes, h.ctl, ctlCloses,
    Fd.closes_of_nonneg h.tun_nonneg, Fd.closes_of_nonneg h.ctl_nonneg, if_pos rfl, if_pos rfl]

end Device.OwnsBoth

end RustTun
