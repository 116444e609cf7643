import RustTun.Base.Search
import RustTun.FreeBsd.Name

/-!
# Probing for a free FreeBSD device

Without a configured name, `Device::new` opens the nodes `/dev/tun0` to `/dev/tun255` until it
gets a descriptor.  A descriptor is any number that is not negative, for `Fd::new` as for the
kernel, but the loop goes on until it is given a positive one.  Where the descriptor 0 is not in
use, it is the number that the first free node is given; the loop takes that for a failure, so
that it opens another node and never closes this one.

`probe_iff` says that this is the only thing wrong with it.
-/

namespace RustTun.FreeBsd

open Search

namespace Host

/-- The candidate `i` can be opened. -/
def free (h : Host) (i : Nat) : Bool := 0 ≤ h.nodes (Device.nodePath (Device.deviceName i))

/-- The loop takes the candidate `i`. -/
def taken (h : Host) (i : Nat) : Bool := 0 < h.nodes (Device.nodePath (Device.deviceName i))

/-- The first candidate that can be opened. -/
def firstFree (h : Host) : Option Nat := (List.range 256).find? h.free

/-- The candidates up to the first that can be opened. -/
def attempts (h : Host) : List Nat := List.range (h.firstFree.elim 256 (· + 1))

theorem free_of_taken {h : Host} {i : Nat} (hi : h.taken i = true) : h.free i = true :=
  decide_eq_true (of_decide_eq_true hi).le

/-- A candidate that can be opened is taken unless it is given the number 0. -/
theorem taken_iff {h : Host} {i : Nat} (hi : h.free i = true) :
    h.taken i = true ↔ h.nodes (Device.nodePath (Device.deviceName i)) ≠ 0 := by
  have hle : 0 ≤ h.nodes (Device.nodePath (Device.deviceName i)) := of_decide_eq_true hi
  rw [taken, decide_eq_true_iff]
  exact ⟨fun hlt ↦ hlt.ne', fun hne ↦ lt_of_le_of_ne hle hne.symm⟩

end Host

namespace Device

/-- "There is no free device." -/
def noFreeDevice : Error := .io (.new .alreadyExists "no avaiable file descriptor")

/-- The descriptor that opening the candidate `i` gives. -/
def nodeFd (h : Host) (i : Nat) : Fd :=
  { inner := h.nodes (nodePath (deviceName i)), closeFdOnDrop := true }

/-- The device is over the node of the candidate `i`, and its three handles are the only ones of
the descriptor. -/
structure IsOver (h : Host) (i : Nat) (dev : Device) (w : World) : Prop where
  tunName : dev.tunName = deviceName i
  fd : dev.tun.fd.val = nodeFd h i
  owned : dev.tun.Owned w.heap

/-- What a descriptor that was obtained must have become by the time the call ends in `r`: the
device owns it, or it was closed. -/
def Accounted (fd : RawFd) (closed : List RawFd) (w : World) (r : Except (Stop Error) Device) :
    Prop :=
  fd ∈ closed ∨ fd ∉ closed ∧ ∃ dev, r = .ok dev ∧ dev.tun.fd.val.inner = fd ∧ dev.tun.Owned w.heap

/-- `Device::new` without a configured name uses the first node that is free, and leaks
nothing. -/
structure ProbesFirstFree (ipnet : Ipnet) (config : Configuration PlatformConfig)
    (s : Process Host) : Prop where
  /-- The candidates are opened in order, up to the first that is free. -/
  opened : Reaches config s.host → (new ipnet config s).2.host.opened =
    s.host.opened ++ s.host.attempts.map fun i ↦ nodePath (deviceName i)
  /-- A device is made of that one, and then finished. -/
  made : Reaches config s.host → ∀ i ∈ s.host.firstFree, ∃ dev t,
    dev.IsOver s.host i t.world ∧ new ipnet config s = orDrop drop (setUp ipnet config) dev t
  /-- So it is what the device that is returned is over. -/
  returned : ∀ dev t, new ipnet config s = (.ok dev, t) →
    ∃ i ∈ s.host.firstFree, dev.IsOver s.host i t.world
  /-- The call fails with `AlreadyExists` exactly if there is no free one. -/
  exhausted : Reaches config s.host →
    ((new ipnet config s).1 = .error (.err noFreeDevice) ↔ s.host.firstFree = none)
  /-- Every descriptor that was obtained is owned by the device or was closed. -/
  leaksNothing : ∃ opened closed,
    (new ipnet config s).2.host.opened = s.host.opened ++ opened ∧
    (new ipnet config s).2.world.closes = s.world.closes ++ closed ∧
    ∀ path ∈ opened, 0 ≤ s.host.nodes path →
      Accounted (s.host.nodes path) closed (new ipnet config s).2.world (new ipnet config s).1

/-! ## The loop -/

/-- The process after it went through the candidates `l`. -/
def probed (l : List Nat) (s : Process Host) : Process Host :=
  { s with host :=
    { s.host with opened :=
      s.host.opened ++ (tried s.host.taken l).map fun i ↦ nodePath (deviceName i) } }

/-- One candidate that is taken ends the search. -/
theorem probed_cons_of_taken {i : Nat} {s : Process Host} (h : s.host.taken i = true)
    (l : List Nat) : probed (i :: l) s = attempted (deviceName i) s := by
  rw [probed, tried_cons_of_pos h]
  rfl

/-- One that is not is the first of those that are tried. -/
theorem probed_cons_of_not_taken {i : Nat} {s : Process Host} (h : ¬ s.host.taken i = true)
    (l : List Nat) : probed (i :: l) s = probed l (attempted (deviceName i) s) := by
  have hopened : s.host.opened ++ nodePath (deviceName i) ::
      (tried s.host.taken l).map (fun i ↦ nodePath (deviceName i)) =
      (s.host.opened ++ [nodePath (deviceName i)]) ++
        (tried s.host.taken l).map fun i ↦ nodePath (deviceName i) := by
    rw [List.append_assoc, List.singleton_append]
  rw [probed, tried_cons_of_neg h, List.map_cons, hopened]
  rfl

/-- **The loop ends with the first candidate that is taken.** -/
theorem probe_apply (l : List Nat) (s : Process Host) :
    probe l s = ((l.find? s.host.taken).elim (.error (.err noFreeDevice)) fun i ↦
      .ok (nodeFd s.host i, deviceName i), probed l s) := by
  induction l generalizing s with
  | nil =>
      rw [probed]
      simp only [tried, List.map_nil, List.append_nil]
      rfl
  | cons i l ih =>
      rw [probe, Call.bind_of_ok (openNode_apply (deviceName i) s)]
      by_cases h : s.host.taken i = true
      · have hpos : 0 < s.host.nodes (nodePath (deviceName i)) := of_decide_eq_true h
        have hfd : Fd.new (s.host.nodes (nodePath (deviceName i))) true = .ok (nodeFd s.host i) :=
          if_neg (Int.not_lt.2 hpos.le)
        rw [if_pos hpos, hfd, List.find?_cons_of_pos h, probed_cons_of_taken h]
        rfl
      · have hpos : ¬ 0 < s.host.nodes (nodePath (deviceName i)) := fun hpos ↦
          h (decide_eq_true hpos)
        rw [if_neg hpos, ih, List.find?_cons_of_neg h, probed_cons_of_not_taken h]
        rfl

/-- The candidate that the loop takes, if there is one. -/
def firstTaken (h : Host) : Option Nat := (List.range 256).find? h.taken

/-- A device is made of the candidate that is taken. -/
theorem createFrom_of_taken {config : Configuration PlatformConfig} (ctl : Fd)
    (hname : config.tunName = none) {s : Process Host} {i : Nat}
    (h : firstTaken s.host = some i) :
    ∃ dev t, createFrom ctl config s = (.ok dev, t) ∧ dev.IsOver s.host i t.world ∧
      t.host = (probed (List.range 256) s).host ∧ t.world.closes = s.world.closes := by
  have hopen : Call.guarded (Process.dropFd ctl) (openTun config.tunName) s =
      (.ok (nodeFd s.host i, deviceName i), probed (List.range 256) s) := by
    have hfind : (List.range 256).find? s.host.taken = some i := h
    rw [hname, Call.guarded, openTun, probe_apply, hfind]
    rfl
  refine ⟨_, _, Call.bind_of_ok hopen _, ⟨rfl, rfl, Tun.owned_new _ _ _ _⟩, rfl, rfl⟩

/-- Without one, the control socket is closed again. -/
theorem createFrom_of_not_taken {config : Configuration PlatformConfig} (ctl : Fd)
    (hname : config.tunName = none) {s : Process Host} (h : firstTaken s.host = none) :
    createFrom ctl config s =
      (.error (.err noFreeDevice), Process.dropFd ctl (probed (List.range 256) s)) := by
  have hopen : Call.guarded (Process.dropFd ctl) (openTun config.tunName) s =
      (.error (.err noFreeDevice), Process.dropFd ctl (probed (List.range 256) s)) := by
    have hfind : (List.range 256).find? s.host.taken = none := h
    rw [hname, Call.guarded, openTun, probe_apply, hfind]
    rfl
  exact Call.bind_of_error hopen _

/-! ## Finishing the device -/

/-- The device has the handles and the name it was made with, and nothing was closed since. -/
structure Untouched (dev : Device) (w : World) (s : Device × Process Host) : Prop where
  tunName : s.1.tunName = dev.tunName
  fd : s.1.tun.fd = dev.tun.fd
  reader : s.1.tun.reader.fd = dev.tun.reader.fd
  writer : s.1.tun.writer.fd = dev.tun.writer.fd
  world : s.2.world = w

theorem stable_untouched (dev : Device) (w : World) : Stable (Untouched dev w) where
  host _ hs := ⟨hs.tunName, hs.fd, hs.reader, hs.writer, hs.world⟩
  route _ hs := ⟨hs.tunName, hs.fd, hs.reader, hs.writer, hs.world⟩
  mtu _ hs := ⟨hs.tunName, hs.fd, hs.reader, hs.writer, hs.world⟩

/-- It is over the same node then. -/
theorem Untouched.isOver {dev dev' : Device} {w : World} {t : Process Host}
    (h : Untouched dev w (dev', t)) {host : Host} {i : Nat} (hover : dev.IsOver host i w) :
    dev'.IsOver host i t.world where
  tunName := h.tunName.trans hover.tunName
  fd := (congrArg Shared.Arc.val h.fd).trans hover.fd
  owned :=
    { reader := (h.reader.trans hover.owned.reader).trans h.fd.symm
      writer := (h.writer.trans hover.owned.writer).trans h.fd.symm
      strong := by
        have hstrong := hover.owned.strong
        rw [← h.fd, ← h.world] at hstrong
        exact hstrong }

/-- Dropping the device closes its descriptor. -/
theorem IsOver.closes_drop {dev : Device} {host : Host} {i : Nat} {t : Process Host}
    (h : dev.IsOver host i t.world) (hfree : host.free i = true) :
    ∃ closed, (drop dev t).world.closes = t.world.closes ++ closed ∧
      (nodeFd host i).inner ∈ closed := by
  have hfd : dev.tun.fd.val.drop = some (nodeFd host i).inner := by
    rw [h.fd]
    exact if_pos ⟨rfl, of_decide_eq_true hfree⟩
  refine ⟨dev.tun.fd.val.drop.toList ++ dev.ctl.drop.toList, ?_, ?_⟩
  · show (t.world.dropTun dev.tun).closes ++ dev.ctl.drop.toList = _
    rw [h.owned.closes_dropTun, List.append_assoc]
  · rw [hfd]
    exact List.mem_append_left _ (List.mem_singleton_self _)

/-- The error of the kernel and the missing route are not "there is no free device". -/
theorem usual_ne_noFreeDevice : Usual (· ≠ .err noFreeDevice) where
  os errno h := by cases h
  invalidConfig h := by cases h

/-- Finishing a device over a candidate ended in `r`: the device that is returned is still over
it, or its descriptor was closed. -/
def Finished (host : Host) (i : Nat) (t : Process Host)
    (r : Except (Stop Error) Device × Process Host) : Prop :=
  (∃ dev, r.1 = .ok dev ∧ dev.IsOver host i r.2.world ∧ r.2.world.closes = t.world.closes) ∨
    (∃ stop, r.1 = .error stop ∧ stop ≠ .err noFreeDevice) ∧
      ∃ closed, r.2.world.closes = t.world.closes ++ closed ∧ (nodeFd host i).inner ∈ closed

theorem finished_orDrop (ipnet : Ipnet) (config : Configuration PlatformConfig) {dev : Device}
    {host : Host} {i : Nat} {t : Process Host} (hover : dev.IsOver host i t.world)
    (hfree : host.free i = true) :
    Finished host i t (orDrop drop (setUp ipnet config) dev t) := by
  have huntouched : Untouched dev t.world (setUp ipnet config (dev, t)).2 :=
    (stable_untouched dev t.world).preserves_setUp config (dev, t) ⟨rfl, rfl, rfl, rfl, rfl⟩
  have hstops : (setUp ipnet config).StopsIn (· ≠ .err noFreeDevice) :=
    .bind (stopsIn_setAlias usual_ne_noFreeDevice (.inl (nomatch ·))) fun _ ↦
      stopsIn_configure usual_ne_noFreeDevice (.inl (nomatch ·))
  have hstop := hstops (dev, t)
  rw [orDrop]
  rcases hsetUp : setUp ipnet config (dev, t) with ⟨stop | ⟨⟩, dev', v⟩
  · rw [hsetUp] at huntouched hstop
    have hworld : v.world = t.world := huntouched.world
    have hover' : dev'.IsOver host i v.world := huntouched.isOver hover
    obtain ⟨closed, hcloses, hmem⟩ := hover'.closes_drop hfree
    rw [hworld] at hcloses
    exact .inr ⟨⟨stop, rfl, hstop stop rfl⟩, closed, hcloses, hmem⟩
  · rw [hsetUp] at huntouched
    have hworld : v.world = t.world := huntouched.world
    exact .inl ⟨dev', rfl, huntouched.isOver hover, congrArg World.closes hworld⟩

/-! ## `Device::new` -/

variable {ipnet : Ipnet} {config : Configuration PlatformConfig} {s : Process Host}

/-- A configuration without a name that gets to the loop. -/
theorem create_of_none (hname : config.tunName = none) (h : Reaches config s.host) :
    create config s = createFrom (ctlFd s.host) config s := by
  refine create_of_reaches (fun name hmem ↦ ?_) h
  rw [hname] at hmem
  cases hmem

/-- What is tried is what is tried of the numbers up to the one that is taken. -/
theorem opened_probed (s : Process Host) : (probed (List.range 256) s).host.opened =
    s.host.opened ++ (List.range ((firstTaken s.host).elim 256 (· + 1))).map
      fun i ↦ nodePath (deviceName i) := by
  rw [probed, tried_range]
  rfl

/-- The loop takes the first candidate that is free exactly if that is not given the
number 0. -/
theorem firstTaken_eq_firstFree_iff {h : Host} : firstTaken h = h.firstFree ↔
    ∀ i ∈ h.firstFree, h.nodes (nodePath (deviceName i)) ≠ 0 := by
  rw [firstTaken, Host.firstFree, find?_eq_find?_iff fun _ ↦ Host.free_of_taken]
  constructor
  · intro htaken i hi
    exact (Host.taken_iff (List.find?_some hi)).1 (htaken i hi)
  · intro hne i hi
    exact (Host.taken_iff (List.find?_some hi)).2 (hne i hi)

/-- Only the last of the candidates that are tried can be free. -/
theorem firstFree_of_mem_attempts {h : Host} {i : Nat} (hmem : i ∈ h.attempts)
    (hfree : h.free i = true) : h.firstFree = some i := by
  rw [Host.attempts, Host.firstFree, ← tried_range] at hmem
  exact mem_tried_of_pos hmem hfree

/-- Without a free candidate, the call fails and has closed the control socket. -/
theorem new_of_not_taken (ipnet : Ipnet) (hname : config.tunName = none)
    (hreaches : Reaches config s.host) (h : firstTaken s.host = none) :
    new ipnet config s = (.error (.err noFreeDevice),
      Process.dropFd (ctlFd s.host) (probed (List.range 256) s)) := by
  have hcreate := createFrom_of_not_taken (ctlFd s.host) hname h
  rw [← create_of_none hname hreaches] at hcreate
  exact Call.bind_of_error hcreate _

/-- With one, a device is made of it and finished. -/
theorem new_of_taken (ipnet : Ipnet) (hname : config.tunName = none)
    (hreaches : Reaches config s.host) {i : Nat} (h : firstTaken s.host = some i) :
    ∃ dev t, dev.IsOver s.host i t.world ∧
      new ipnet config s = orDrop drop (setUp ipnet config) dev t ∧
      t.host = (probed (List.range 256) s).host ∧ t.world.closes = s.world.closes := by
  obtain ⟨dev, t, hcreate, hover, hhost, hcloses⟩ := createFrom_of_taken (ctlFd s.host) hname h
  rw [← create_of_none hname hreaches] at hcreate
  exact ⟨dev, t, hover, Call.bind_of_ok hcreate _, hhost, hcloses⟩

/-- A call that does not get to the loop has nothing to leak. -/
theorem probesFirstFree_of_not_reaches (hreaches : ¬ Reaches config s.host) :
    ProbesFirstFree ipnet config s := by
  obtain ⟨e, hcreate⟩ := create_of_not_reaches (.inr hreaches)
  have hnew : new ipnet config s = (.error (.err e), s) := Call.bind_of_error hcreate _
  refine ⟨fun h ↦ absurd h hreaches, fun h ↦ absurd h hreaches, fun dev t h ↦ ?_,
    fun h ↦ absurd h hreaches, [], [], ?_, ?_, fun path hpath ↦ nomatch hpath⟩
  · rw [hnew] at h
    cases h
  · rw [hnew, List.append_nil]
  · rw [hnew, List.append_nil]

/-- What is opened is opened in order, up to the candidate that is taken. -/
theorem opened_new (ipnet : Ipnet) (hname : config.tunName = none)
    (hreaches : Reaches config s.host) : (new ipnet config s).2.host.opened =
      s.host.opened ++ (List.range ((firstTaken s.host).elim 256 (· + 1))).map
        fun i ↦ nodePath (deviceName i) := by
  rw [← opened_probed]
  cases h : firstTaken s.host with
  | none =>
      rw [new_of_not_taken ipnet hname hreaches h]
      rfl
  | some i =>
      obtain ⟨dev, t, -, hnew, hhost, -⟩ := new_of_taken ipnet hname hreaches h
      have hnames := names_orDrop_setUp ipnet config dev t
      have hopened : (orDrop drop (setUp ipnet config) dev t).2.host.opened = t.host.opened :=
        congrArg (fun names ↦ names.2.1) hnames
      rw [hnew, hopened, hhost]

/-- Where the first free candidate is not the one that is taken, something else is opened, or
nothing is found. -/
theorem firstTaken_eq_of_probesFirstFree (hname : config.tunName = none)
    (hreaches : Reaches config s.host) (h : ProbesFirstFree ipnet config s) :
    firstTaken s.host = s.host.firstFree := by
  cases htaken : firstTaken s.host with
  | none =>
      have hnew : (new ipnet config s).1 = .error (.err noFreeDevice) := by
        rw [new_of_not_taken ipnet hname hreaches htaken]
      exact ((h.exhausted hreaches).1 hnew).symm
  | some i =>
      have hopened := h.opened hreaches
      rw [opened_new ipnet hname hreaches, htaken, Option.elim_some, Host.attempts] at hopened
      have hlength := congrArg List.length (List.append_cancel_left hopened)
      rw [List.length_map, List.length_map, List.length_range, List.length_range] at hlength
      have hi : i < 256 := List.mem_range.1 (List.mem_of_find?_eq_some htaken)
      cases hfree : s.host.firstFree with
      | none =>
          rw [hfree, Option.elim_none] at hlength
          have hmem : ∀ j ∈ List.range 256, ¬ s.host.free j = true := List.find?_eq_none.1 hfree
          exact absurd (Host.free_of_taken (List.find?_some htaken))
            (hmem i (List.mem_range.2 hi))
      | some j =>
          rw [hfree, Option.elim_some] at hlength
          rw [Nat.succ.inj hlength]

/-- A candidate that is tried and free is the first free one. -/
theorem node_of_mem_attempts {h : Host} {path : Name}
    (hmem : path ∈ h.attempts.map fun i ↦ nodePath (deviceName i)) (hpath : 0 ≤ h.nodes path) :
    ∃ i, h.firstFree = some i ∧ h.nodes path = (nodeFd h i).inner := by
  obtain ⟨i, hi, rfl⟩ := List.mem_map.1 hmem
  exact ⟨i, firstFree_of_mem_attempts hi (decide_eq_true hpath), rfl⟩

/-- Where nothing is free, and so nothing is taken, nothing is obtained. -/
theorem probesFirstFree_of_eq_none (ipnet : Ipnet) (hname : config.tunName = none)
    (hreaches : Reaches config s.host) (htaken : firstTaken s.host = none)
    (hfree : s.host.firstFree = none) : ProbesFirstFree ipnet config s := by
  have hopened := opened_new ipnet hname hreaches
  rw [htaken, ← hfree] at hopened
  have hnew := new_of_not_taken ipnet hname hreaches htaken
  refine ⟨fun _ ↦ hopened, fun _ i hi ↦ ?_, fun dev t h ↦ ?_, fun _ ↦ ?_, _,
    (ctlFd s.host).drop.toList, hopened, ?_, fun path hmem hpath ↦ ?_⟩
  · rw [hfree] at hi
    cases hi
  · rw [hnew] at h
    cases h
  · rw [hnew]
    exact ⟨fun _ ↦ hfree, fun _ ↦ rfl⟩
  · rw [hnew]
    rfl
  · obtain ⟨i, hi, -⟩ := node_of_mem_attempts hmem hpath
    rw [hfree] at hi
    cases hi

/-- Where the first free candidate is taken, the only descriptor that is obtained is the one
that the device was made of. -/
theorem probesFirstFree_of_eq_some (ipnet : Ipnet) (hname : config.tunName = none)
    (hreaches : Reaches config s.host) {i : Nat} (htaken : firstTaken s.host = some i)
    (hfree : s.host.firstFree = some i) : ProbesFirstFree ipnet config s := by
  have hopened := opened_new ipnet hname hreaches
  rw [htaken, ← hfree] at hopened
  obtain ⟨dev, t, hover, hnew, -, hcloses⟩ := new_of_taken ipnet hname hreaches htaken
  have hfinish := finished_orDrop ipnet config hover (List.find?_some hfree)
  rw [← hnew, Finished] at hfinish
  have hnode {path : Name} (hmem : path ∈ s.host.attempts.map fun i ↦ nodePath (deviceName i))
      (hpath : 0 ≤ s.host.nodes path) : s.host.nodes path = (nodeFd s.host i).inner := by
    obtain ⟨j, hj, hnode⟩ := node_of_mem_attempts hmem hpath
    obtain rfl : i = j := Option.some.inj (hfree.symm.trans hj)
    exact hnode
  refine ⟨fun _ ↦ hopened, fun _ j hj ↦ ?_, fun dev' u h ↦ ?_, fun _ ↦ ?_, ?_⟩
  · obtain rfl : i = j := Option.some.inj (hfree.symm.trans hj)
    exact ⟨dev, t, hover, hnew⟩
  · rw [h] at hfinish
    rcases hfinish with ⟨_, ⟨⟩, hover', -⟩ | ⟨⟨_, ⟨⟩, -⟩, -⟩
    exact ⟨i, hfree, hover'⟩
  · rw [hfree]
    constructor
    · intro herror
      rcases hfinish with ⟨_, hok, -⟩ | ⟨⟨stop, hstop, hne⟩, -⟩
      · rw [hok] at herror
        cases herror
      · rw [hstop] at herror
        cases herror
        exact absurd rfl hne
    · intro hnone
      cases hnone
  · rcases hfinish with ⟨dev', hok, hover', hcloses'⟩ | ⟨-, closed, hcloses', hclosed⟩
    · refine ⟨_, [], hopened, ?_, fun path hmem hpath ↦
        .inr ⟨List.not_mem_nil, dev', hok, ?_, hover'.owned⟩⟩
      · rw [hcloses', hcloses, List.append_nil]
      · rw [hover'.fd, hnode hmem hpath]
    · refine ⟨_, closed, hopened, ?_, fun path hmem hpath ↦ .inl ?_⟩
      · rw [hcloses', hcloses]
      · rw [hnode hmem hpath]
        exact hclosed

/-- Where it is, all is well. -/
theorem probesFirstFree_of_eq (ipnet : Ipnet) (hname : config.tunName = none)
    (hreaches : Reaches config s.host) (heq : firstTaken s.host = s.host.firstFree) :
    ProbesFirstFree ipnet config s := by
  cases hfree : s.host.firstFree with
  | none => exact probesFirstFree_of_eq_none ipnet hname hreaches (heq.trans hfree) hfree
  | some i => exact probesFirstFree_of_eq_some ipnet hname hreaches (heq.trans hfree) hfree

end Device

/-- **Probing finds the first free device, and leaks nothing, exactly if it is not the number 0
that this one is given.** -/
theorem probe_iff (ipnet : Ipnet) (config : Configuration PlatformConfig) (s : Process Host)
    (hname : config.tunName = none) :
    Device.ProbesFirstFree ipnet config s ↔ (Device.Reaches config s.host →
      ∀ i ∈ s.host.firstFree, s.host.nodes (Device.nodePath (Device.deviceName i)) ≠ 0) := by
  by_cases hreaches : Device.Reaches config s.host
  · constructor
    · intro h _
      exact Device.firstTaken_eq_firstFree_iff.1
        (Device.firstTaken_eq_of_probesFirstFree hname hreaches h)
    · intro h
      exact Device.probesFirstFree_of_eq ipnet hname hreaches
        (Device.firstTaken_eq_firstFree_iff.2 (h hreaches))
  · exact ⟨fun _ h ↦ absurd h hreaches, fun _ ↦ Device.probesFirstFree_of_not_reaches hreaches⟩

/-- A host on which opening the first candidate gives `fd`, and all others can be opened. -/
def firstNodeHost (fd : RawFd) : Host :=
  { flakyHost with
    nodes := fun path ↦ if path = Device.nodePath (Device.deviceName 0) then fd else 5 }

/-- Where `/dev/tun0` is in use, the device is `tun1`. -/
theorem probe_tun1 : (firstNodeHost (-1)).firstFree = some 1 ∧
    Device.ProbesFirstFree .std { platformConfig := {} } ⟨.initial, firstNodeHost (-1)⟩ := by
  have hfree : (firstNodeHost (-1)).firstFree = some 1 := by decide +kernel
  refine ⟨hfree, (probe_iff .std _ _ rfl).2 fun _ i hi ↦ ?_⟩
  dsimp only at hi ⊢
  rw [hfree] at hi
  cases hi
  decide +kernel

/-- Where opening `/dev/tun0` gives the number 0, the device is `tun1` as well, and 0 stays
open. -/
theorem probe_leaks_zero :
    let r := Device.new .std { platformConfig := {} } ⟨.initial, firstNodeHost 0⟩
    (firstNodeHost 0).firstFree = some 0 ∧
      r.2.host.opened =
        [Device.nodePath (Device.deviceName 0), Device.nodePath (Device.deviceName 1)] ∧
      r.1.toOption.map (fun dev ↦ (dev.tunName, dev.tun.fd.val.inner)) =
        some (Device.deviceName 1, 5) ∧
      r.2.world.closes = [] ∧
      ¬ Device.ProbesFirstFree .std { platformConfig := {} } ⟨.initial, firstNodeHost 0⟩ := by
  have hfree : (firstNodeHost 0).firstFree = some 0 := by decide +kernel
  have htaken : Device.firstTaken (firstNodeHost 0) = some 1 := by decide +kernel
  have hreaches : Device.Reaches { platformConfig := {} } (firstNodeHost 0) :=
    { layer := by decide, queues := rfl, socket := by decide }
  refine ⟨hfree, by decide +kernel, by decide +kernel, by decide +kernel, fun h ↦ ?_⟩
  have heq := Device.firstTaken_eq_of_probesFirstFree rfl hreaches h
  rw [hfree, htaken] at heq
  cases heq

end RustTun.FreeBsd
