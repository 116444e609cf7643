import RustTun.FreeBsd.Atomic
import RustTun.Posix.IfName

/-!
# The name of a FreeBSD device

A FreeBSD device is found by its name: `Device::new` opens the node `/dev/name`, and all
later requests have the name in an array of `IFNAMSIZ` bytes.  Both `Device::new` and
`Device::set_tun_name` refuse a name of more than `IFNAMSIZ` bytes; one of exactly that many
leaves no room for the NUL behind it.  Only `set_tun_name` refuses a name with a NUL in it;
the node that `Device::new` opens for one is that of what is in front of the NUL.

`names_iff` says that these are the only two ways in which a device gets a name that its
requests do not have.
-/

namespace RustTun.FreeBsd

open Transition

namespace Host

/-- The paths that were opened: those for which `open` returned a descriptor. -/
def opens (h : Host) : List Name := h.opened.filter fun path ↦ 0 ≤ h.nodes path

/-- What a host knows about names. -/
def names (h : Host) : (Name → RawFd) × List Name × Option Name := (h.nodes, h.opened, h.renamed)

/-- What was opened is part of what a host knows about names. -/
theorem opens_congr {h h' : Host} (heq : h.names = h'.names) : h.opens = h'.opens := by
  obtain ⟨hnodes, hopened⟩ := Prod.mk.inj heq
  rw [opens, opens, hnodes, (Prod.mk.inj hopened).1]

/-- The interface is the one called `name`: the name it was last given, or that of the node
that was opened. -/
def Bears (h : Host) (name : Name) : Prop :=
  match h.renamed with
  | some new => name = new
  | none => h.opens.getLast? = some (Device.bytes "/dev/" ++ name)

end Host

/-- Both kinds of requests of the device have its name, which is that of its interface. -/
structure Device.Named (dev : Device) (h : Host) : Prop where
  request : Names dev.request.ifrName dev.tunName
  aliasRequest (addr dest mask : Ipv4Addr) :
    Names (dev.aliasRequest addr dest mask).ifran dev.tunName
  bears : h.Bears dev.tunName

/-- The requests have the name of a device exactly if it fits. -/
theorem Device.named_iff_fitsField {dev : Device} {h : Host} :
    dev.Named h ↔ FitsField dev.tunName ∧ h.Bears dev.tunName := by
  constructor
  · intro hnamed
    exact ⟨hnamed.request.fitsField, hnamed.bears⟩
  · rintro ⟨hfits, hbears⟩
    have hnames := names_nameField_iff.2 hfits
    exact ⟨hnames, fun _ _ _ ↦ hnames, hbears⟩

namespace Device

variable {ipnet : Ipnet}

/-! ## Calls that leave names alone -/

/-- The device is called `name`, and the host knows `names`. -/
def Keeping (name : Name) (names : (Name → RawFd) × List Name × Option Name)
    (s : Device × Process Host) : Prop :=
  s.1.tunName = name ∧ s.2.host.names = names

/-- An invariant that no call but `set_tun_name` has to do with: it allows for anything to
happen to a host that does not concern names, and to the cached route and the MTU of a
device. -/
structure Stable (I : Device × Process Host → Prop) : Prop where
  host {dev : Device} {s : Process Host} {h : Host} :
    h.names = s.host.names → I (dev, s) → I (dev, { s with host := h })
  route {dev : Device} {s : Process Host} (route : Option Route) :
    I (dev, s) → I ({ dev with route }, s)
  mtu {dev : Device} {s : Process Host} (value : UInt16) :
    I (dev, s) → I ({ dev with tun := dev.tun.setMtu value }, s)

/-- What a device is called and what its host knows about names is such an invariant. -/
theorem stable_keeping (name : Name) (names : (Name → RawFd) × List Name × Option Name) :
    Stable (Keeping name names) where
  host heq hs := ⟨hs.1, heq.trans hs.2⟩
  route _ hs := hs
  mtu _ hs := hs

section Stable

variable {I : Device × Process Host → Prop}

/-- A call on the host that has nothing to do with names. -/
theorem Stable.preserves_host (hI : Stable I) {α : Type} {call : Device → Call Error Host α}
    (hcall : ∀ dev h, (call dev h).2.names = h.names) : (onHost call).Preserves I :=
  fun s hs ↦ hI.host (hcall s.1 s.2.host) hs

/-- A request that has nothing to do with names. -/
theorem Stable.preserves_ioctl (hI : Stable I) {α : Type} {effect : Device → Host → α × Host}
    (heffect : ∀ dev h, (effect dev h).2.names = h.names) :
    (onHost fun dev ↦ Host.ioctl (effect dev)).Preserves I := by
  refine hI.preserves_host fun dev h ↦ ?_
  rw [Host.ioctl]
  cases h.refusals.head?.join with
  | none => exact heffect dev _
  | some e => rfl

theorem Stable.preserves_setRoute (hI : Stable I) (route : Route) :
    (setRoute ipnet route).Preserves I := by
  unfold setRoute
  cases ipnet.ipMaskToPrefix route.netmask with
  | none => exact .fail _
  | some p =>
      exact .bind (hI.preserves_host fun _ _ ↦ rfl) fun _ ↦ .modify fun _ hs ↦ hI.route _ hs

theorem Stable.preserves_setAlias (hI : Stable I) (addr dest mask : IpAddr) :
    (setAlias ipnet addr dest mask).Preserves I := by
  unfold setAlias
  split
  · exact .bind (hI.preserves_ioctl fun _ _ ↦ rfl) fun _ ↦
      .catching (hI.preserves_setRoute _) fun _ ↦ .pure ()
  · exact .panic

theorem Stable.preserves_setter (hI : Stable I) (c : Component) (value : IpAddr) :
    (setter ipnet c value).Preserves I := by
  rw [setter_eq_replaceAlias]
  refine .bind (hI.preserves_ioctl fun _ _ ↦ rfl) fun _ ↦
    .bind ?_ fun r ↦ hI.preserves_setAlias _ _ _
  rintro ⟨dev, s⟩ hs
  rw [previous]
  cases dev.route with
  | none => exact hs
  | some r => exact hs

theorem Stable.preserves_setMtu (hI : Stable I) (value : UInt16) : (setMtu value).Preserves I :=
  .bind (hI.preserves_ioctl fun _ _ ↦ rfl) fun _ ↦ .modify fun _ hs ↦ hI.mtu value hs

theorem Stable.preserves_enabled (hI : Stable I) (value : Bool) : (enabled value).Preserves I :=
  .bind (hI.preserves_ioctl fun _ _ ↦ rfl) fun _ ↦ hI.preserves_ioctl fun _ _ ↦ rfl

/-- Finishing a new device leaves such an invariant alone. -/
theorem Stable.preserves_setUp (hI : Stable I) (config : Configuration PlatformConfig) :
    (setUp ipnet config).Preserves I := by
  have hsetters : (abstractDevice ipnet).Preserves I :=
    { setAddress := hI.preserves_setter .address
      setDestination := hI.preserves_setter .destination
      setBroadcast _ := .pure ()
      setNetmask := hI.preserves_setter .netmask
      setMtu := hI.preserves_setMtu
      enabled := hI.preserves_enabled }
  exact .bind (hI.preserves_setAlias _ _ _) fun _ ↦ hsetters.configure config

/-- **`set_tun_name` is the one call that changes a name.** -/
theorem Stable.preserves_call (hI : Stable I) (ipnet : Ipnet) {op : Op}
    (hop : ∀ value, op ≠ .setTunName value) : (Device.call ipnet op).Preserves I := by
  cases op with
  | set c value => exact hI.preserves_setter c value
  | setBroadcast value => exact .pure ()
  | setMtu value => exact hI.preserves_setMtu value
  | enabled value => exact hI.preserves_enabled value
  | setTunName value => exact absurd rfl (hop value)

end Stable

/-! ## Opening a node -/

/-- The path of the node of `name`, as `open` reads it. -/
def nodePath (name : Name) : Name := bytes "/dev/" ++ cStr name

/-- The NUL that is put behind a path is the end of it. -/
theorem cStr_devicePath (name : Name) : cStr (devicePath name) = nodePath name := by
  have hdev : 0 ∉ bytes "/dev/" := by decide +kernel
  rw [devicePath, cStr_append_zero, cStr_append hdev, nodePath]

/-- The names that are probed fit. -/
theorem fitsField_deviceName {i : Nat} (h : i < 256) : FitsField (deviceName i) := by
  have hall : ∀ i : Fin 256, FitsField (deviceName i) := by decide +kernel
  exact hall ⟨i, h⟩

/-- The process after an attempt to open the node of `name`. -/
def attempted (name : Name) (s : Process Host) : Process Host :=
  { s with host := { s.host with opened := s.host.opened ++ [nodePath name] } }

theorem openNode_apply (name : Name) (s : Process Host) :
    Process.ofHost (Host.openNode (devicePath name)) s =
      (.ok (s.host.nodes (nodePath name)), attempted name s) := by
  rw [Process.ofHost, Host.openNode, cStr_devicePath]
  rfl

/-- A node that there is was opened. -/
theorem opens_attempted {name : Name} {s : Process Host} (h : 0 ≤ s.host.nodes (nodePath name)) :
    (attempted name s).host.opens = s.host.opens ++ [nodePath name] := by
  refine (List.filter_append _ _).trans (congrArg (s.host.opens ++ ·) ?_)
  exact List.filter_cons_of_pos (decide_eq_true h)

/-- One that there is not was not. -/
theorem opens_attempted_of_neg {name : Name} {s : Process Host}
    (h : s.host.nodes (nodePath name) < 0) : (attempted name s).host.opens = s.host.opens := by
  have hneg : ¬ decide (0 ≤ s.host.nodes (nodePath name)) = true := by
    rw [decide_eq_true_iff]
    exact Int.not_le.2 h
  refine (List.filter_append _ _).trans ?_
  exact (congrArg (s.host.opens ++ ·) (List.filter_cons_of_neg hneg)).trans (List.append_nil _)

/-- Opening the node of a configured name. -/
theorem openTun_some_apply (name : Name) (s : Process Host) :
    openTun (some name) s =
      (match Fd.new (s.host.nodes (nodePath name)) true with
        | .ok tun => pure (tun, name)
        | .error _ => Process.ofHost Host.failLastOsError : Call Error (Process Host) (Fd × Name))
        (attempted name s) :=
  Call.bind_of_ok (openNode_apply name s) _

theorem openTun_some {name : Name} {s : Process Host} (h : 0 ≤ s.host.nodes (nodePath name)) :
    ∃ fd, openTun (some name) s = (.ok (fd, name), attempted name s) := by
  have hfd : Fd.new (s.host.nodes (nodePath name)) true =
      .ok { inner := s.host.nodes (nodePath name), closeFdOnDrop := true } :=
    if_neg (Int.not_lt.2 h)
  rw [openTun_some_apply, hfd]
  exact ⟨_, rfl⟩

theorem openTun_some_of_neg {name : Name} {s : Process Host}
    (h : s.host.nodes (nodePath name) < 0) :
    ∃ e, openTun (some name) s = (.error (.err e), attempted name s) := by
  have hfd : Fd.new (s.host.nodes (nodePath name)) true = .error .invalidDescriptor := if_pos h
  rw [openTun_some_apply, hfd]
  exact ⟨_, rfl⟩

/-- Probing ends with the node that was found. -/
theorem probe_eq_ok {l : List Nat} {s t : Process Host} {fd : Fd} {name : Name}
    (h : probe l s = (.ok (fd, name), t)) :
    t.host.renamed = s.host.renamed ∧ t.host.opens.getLast? = some (nodePath name) ∧
      ∃ i ∈ l, name = deviceName i := by
  induction l generalizing s with
  | nil => cases h
  | cons i l ih =>
      obtain ⟨value, s₁, hopen, h⟩ := Call.bind_eq_ok.1 h
      rw [openNode_apply] at hopen
      cases hopen
      split_ifs at h with hpos
      · cases hfd : Fd.new (s.host.nodes (nodePath (deviceName i))) true with
        | error e =>
            rw [hfd] at h
            cases h
        | ok tun =>
            rw [hfd] at h
            cases h
            refine ⟨rfl, ?_, i, List.mem_cons_self, rfl⟩
            rw [opens_attempted hpos.le, List.getLast?_concat]
      · obtain ⟨hrenamed, hlast, j, hj, rfl⟩ := ih h
        exact ⟨hrenamed, hlast, j, List.mem_cons_of_mem _ hj, rfl⟩

/-- The node that is opened is the one of the name of the device. -/
theorem openTun_eq_ok {config : Option Name} {s t : Process Host} {fd : Fd} {name : Name}
    (h : openTun config s = (.ok (fd, name), t)) :
    t.host.renamed = s.host.renamed ∧ t.host.opens.getLast? = some (nodePath name) ∧
      (config = some name ∨ config = none ∧ FitsField name) := by
  cases config with
  | none =>
      obtain ⟨hrenamed, hlast, i, hi, rfl⟩ := probe_eq_ok h
      exact ⟨hrenamed, hlast, .inr ⟨rfl, fitsField_deviceName (List.mem_range.1 hi)⟩⟩
  | some name' =>
      rcases lt_or_ge (s.host.nodes (nodePath name')) 0 with hneg | hpos
      · obtain ⟨e, he⟩ := openTun_some_of_neg hneg
        rw [he] at h
        cases h
      · obtain ⟨fd', hfd'⟩ := openTun_some hpos
        rw [hfd'] at h
        cases h
        refine ⟨rfl, ?_, .inl rfl⟩
        rw [opens_attempted hpos, List.getLast?_concat]

/-! ## Creation -/

/-- What has to be there for a node to be opened: `Device::new` gets to it, and has a control
socket by then. -/
structure Reaches (config : Configuration PlatformConfig) (h : Host) : Prop where
  layer : config.layer ≠ some .l2
  queues : config.queues.getD 1 = 1
  socket : 0 ≤ h.socketFd

/-- The control socket of a device. -/
def ctlFd (h : Host) : Fd := { inner := h.socketFd, closeFdOnDrop := true }

/-- `Device::new` from the point where it opens a node. -/
def createFrom (ctl : Fd) (config : Configuration PlatformConfig) :
    Call Error (Process Host) Device := do
  let (tun, tunName) ← .guarded (Process.dropFd ctl) (openTun config.tunName)
  let tun ← Process.newTun tun (config.mtu.getD defaultMtu) false
  pure { tunName, tun, ctl, route := none }

/-- A configuration that passes the checks gets to it. -/
theorem create_of_reaches {config : Configuration PlatformConfig} {s : Process Host}
    (hlength : ∀ name ∈ config.tunName, name.length ≤ IFNAMSIZ) (h : Reaches config s.host) :
    create config s = createFrom (ctlFd s.host) config s := by
  have hlong : ¬ (config.tunName.any fun name ↦ IFNAMSIZ < name.length) = true := by
    rw [Option.any_eq_true]
    rintro ⟨name, hname, hlt⟩
    exact absurd (hlength name hname) (Nat.not_le.2 (of_decide_eq_true hlt))
  have hsocket : Process.ofHost Host.socket s = (.ok s.host.socketFd, s) := rfl
  have hctl : Process.ofExcept (Fd.new s.host.socketFd true) s = (.ok (ctlFd s.host), s) := by
    rw [Fd.new, if_neg (Int.not_lt.2 h.socket)]
    rfl
  rw [create, if_neg hlong, if_neg h.layer, if_neg (not_not.2 h.queues)]
  exact (Call.bind_of_ok hsocket _).trans (Call.bind_of_ok hctl _)

/-- One that does not is refused with nothing opened. -/
theorem create_of_not_reaches {config : Configuration PlatformConfig} {s : Process Host}
    (h : (∃ name ∈ config.tunName, IFNAMSIZ < name.length) ∨ ¬ Reaches config s.host) :
    ∃ e, create config s = (.error (.err e), s) := by
  unfold create
  split_ifs with hlong hlayer hqueues
  · exact ⟨_, rfl⟩
  · exact ⟨_, rfl⟩
  · exact ⟨_, rfl⟩
  · have hsocket : s.host.socketFd < 0 := by
      rcases h with ⟨name, hname, hlt⟩ | hreaches
      · exact absurd ((Option.any_eq_true _ _).2 ⟨name, hname, decide_eq_true hlt⟩) hlong
      · refine Int.not_le.1 fun hle ↦ hreaches ⟨hlayer, not_not.1 hqueues, hle⟩
    have hctl : Process.ofExcept (Fd.new s.host.socketFd true) s =
        (.error (.err .invalidDescriptor), s) := by
      rw [Fd.new, if_pos hsocket]
      rfl
    have hopen : Process.ofHost Host.socket s = (.ok s.host.socketFd, s) := rfl
    exact ⟨_, (Call.bind_of_ok hopen _).trans (Call.bind_of_error hctl _)⟩

/-- The node that cannot be opened. -/
theorem createFrom_of_neg {config : Configuration PlatformConfig} {name : Name}
    {s : Process Host} (ctl : Fd) (hname : config.tunName = some name)
    (h : s.host.nodes (nodePath name) < 0) :
    ∃ e t, createFrom ctl config s = (.error (.err e), t) ∧ t.host.opens = s.host.opens := by
  obtain ⟨e, he⟩ := openTun_some_of_neg h
  have hguarded : Call.guarded (Process.dropFd ctl) (openTun config.tunName) s =
      (.error (.err e), Process.dropFd ctl (attempted name s)) := by
    rw [hname, Call.guarded, he]
  exact ⟨e, _, Call.bind_of_error hguarded _, opens_attempted_of_neg h⟩

/-- The node that can. -/
theorem createFrom_of_nonneg {config : Configuration PlatformConfig} {name : Name}
    {s : Process Host} (ctl : Fd) (hname : config.tunName = some name)
    (h : 0 ≤ s.host.nodes (nodePath name)) :
    ∃ dev t, createFrom ctl config s = (.ok dev, t) ∧
      t.host.opens = s.host.opens ++ [nodePath name] := by
  obtain ⟨fd, hfd⟩ := openTun_some h
  have hguarded : Call.guarded (Process.dropFd ctl) (openTun config.tunName) s =
      (.ok (fd, name), attempted name s) := by
    rw [hname, Call.guarded, hfd]
  exact ⟨_, _, Call.bind_of_ok hguarded _, opens_attempted h⟩

/-- Creating a device renames nothing. -/
theorem preserves_create (config : Configuration PlatformConfig) (renamed : Option Name) :
    (create config).Preserves fun s ↦ s.host.renamed = renamed := by
  have hprobe (l : List Nat) : (probe l).Preserves fun s ↦ s.host.renamed = renamed := by
    induction l with
    | nil => exact .fail _
    | cons i l ih =>
        refine .bind (fun _ hs ↦ hs) fun fd ↦ ?_
        split_ifs
        · cases Fd.new fd true with
          | ok tun => exact .pure _
          | error e => exact fun _ hs ↦ hs
        · exact ih
  have hopen (name : Option Name) :
      (openTun name).Preserves fun s ↦ s.host.renamed = renamed := by
    cases name with
    | none => exact hprobe _
    | some name =>
        refine .bind (fun _ hs ↦ hs) fun fd ↦ ?_
        cases Fd.new fd true with
        | ok tun => exact .pure _
        | error e => exact fun _ hs ↦ hs
  unfold create
  split_ifs
  · exact .fail _
  · exact .fail _
  · exact .fail _
  · refine .bind (fun _ hs ↦ hs) fun fd ↦
      .bind (Process.preserves_ofExcept _) fun ctl ↦
        .bind (.guarded (hopen _) fun _ hs ↦ hs) fun x ↦
          .bind (fun _ hs ↦ hs) fun tun ↦ .pure _

/-- A new device has the name of the node that was opened for it, which is the one that was
configured if there is one. -/
theorem create_eq_ok {config : Configuration PlatformConfig} {s t : Process Host} {dev : Device}
    (h : create config s = (.ok dev, t)) :
    t.host.renamed = s.host.renamed ∧ t.host.opens.getLast? = some (nodePath dev.tunName) ∧
      (config.tunName = some dev.tunName ∨ config.tunName = none ∧ FitsField dev.tunName) := by
  unfold create at h
  split_ifs at h
  · cases h
  · cases h
  · cases h
  · obtain ⟨fd, s₁, hfd, h⟩ := Call.bind_eq_ok.1 h
    obtain ⟨ctl, s₂, hctl, h⟩ := Call.bind_eq_ok.1 h
    obtain ⟨⟨tun, tunName⟩, s₃, hopen, h⟩ := Call.bind_eq_ok.1 h
    obtain ⟨tun', s₄, htun, h⟩ := Call.bind_eq_ok.1 h
    obtain ⟨rfl, rfl⟩ := Call.pure_eq_ok.1 h
    obtain ⟨-, rfl⟩ := Process.ofExcept_eq_ok hctl
    obtain ⟨hrenamed, hlast, hname⟩ := openTun_eq_ok (Call.guarded_eq_ok.1 hopen)
    cases hfd
    cases htun
    exact ⟨hrenamed, hlast, hname⟩

/-- Finishing a device does not change what the host knows about names. -/
theorem names_orDrop_setUp (ipnet : Ipnet) (config : Configuration PlatformConfig) (dev : Device)
    (s : Process Host) :
    (orDrop drop (setUp ipnet config) dev s).2.host.names = s.host.names := by
  have hhost : (orDrop drop (setUp ipnet config) dev s).2.host =
      (setUp ipnet config (dev, s)).2.2.host := orDrop_host drop (fun _ _ ↦ rfl) _ _ _
  rw [hhost]
  exact ((stable_keeping _ _).preserves_setUp config (dev, s) ⟨rfl, rfl⟩).2

/-- `Device::new` renames nothing. -/
theorem renamed_new (ipnet : Ipnet) (config : Configuration PlatformConfig) (s : Process Host) :
    (new ipnet config s).2.host.renamed = s.host.renamed := by
  have hfinish (dev : Device) : (orDrop drop (setUp ipnet config) dev).Preserves
      fun t ↦ t.host.renamed = s.host.renamed := by
    intro t ht
    have hnames := names_orDrop_setUp ipnet config dev t
    exact (congrArg (fun x ↦ x.2.2) hnames).trans ht
  exact Call.Preserves.bind (preserves_create config s.host.renamed) hfinish s rfl

/-- What a device is called once it is finished. -/
theorem new_eq_ok {config : Configuration PlatformConfig} {s t : Process Host} {dev : Device}
    (h : new ipnet config s = (.ok dev, t)) :
    t.host.opens.getLast? = some (nodePath dev.tunName) ∧
      (config.tunName = some dev.tunName ∨ config.tunName = none ∧ FitsField dev.tunName) := by
  obtain ⟨dev₀, s₀, hcreate, hfinish⟩ := Call.bind_eq_ok.1 h
  obtain ⟨-, hlast, hname⟩ := create_eq_ok hcreate
  obtain ⟨hdev, hnames⟩ := ((stable_keeping _ _).preserves_setUp config).keeps _ _ _ ⟨rfl, rfl⟩
    (orDrop_eq_ok.1 hfinish)
  have hopens : t.host.opens = s₀.host.opens := Host.opens_congr hnames
  dsimp only at hdev
  rw [hdev, hopens]
  exact ⟨hlast, hname⟩

/-! ## Renaming -/

/-- A name that is refused is not even asked for. -/
theorem setTunName_of_refused {value : Name} (h : IFNAMSIZ < value.length ∨ 0 ∈ value)
    (dev : Device) (s : Process Host) :
    ∃ e, setTunName value (dev, s) = (.error (.err e), dev, s) := by
  unfold setTunName
  split_ifs with hlong hzero
  · exact ⟨_, rfl⟩
  · exact ⟨_, rfl⟩
  · exact absurd h (not_or.2 ⟨hlong, hzero⟩)

/-- The process after its interface was given a name. -/
def renamed (value : Name) (s : Process Host) : Process Host :=
  { s with host := { s.host.skip with renamed := some value } }

/-- A name that is not refused is asked for. -/
theorem setTunName_apply {value : Name} (h : ¬ (IFNAMSIZ < value.length ∨ 0 ∈ value))
    (dev : Device) (s : Process Host) :
    (s.host.Refuses ∧ ∃ e, setTunName value (dev, s) =
        (.error (.err e), dev, { s with host := s.host.skip })) ∨
      ¬ s.host.Refuses ∧
        setTunName value (dev, s) = (.ok (), { dev with tunName := value }, renamed value s) := by
  rw [not_or] at h
  rw [setTunName, if_neg h.1, if_neg h.2]
  rcases hr : s.host.refusals.head?.join with _ | e
  · have hgranted : onHost (fun dev : Device ↦ Host.siocsifname dev.request value) (dev, s) =
        (.ok (), dev, renamed value s) := by
      rw [onHost_apply, Host.siocsifname, Host.ioctl, hr]
      rfl
    exact .inr ⟨fun hrefuses ↦ hrefuses hr, Call.bind_of_ok hgranted _⟩
  · have hrefused : onHost (fun dev : Device ↦ Host.siocsifname dev.request value) (dev, s) =
        (.error (.err (.io (.os e))), dev, { s with host := s.host.skip }) := by
      rw [onHost_apply, Host.siocsifname, Host.ioctl, hr]
      rfl
    refine .inl ⟨fun hgranted ↦ ?_, _, Call.bind_of_error hrefused _⟩
    rw [hr] at hgranted
    cases hgranted

end Device

/-! ## Runs -/

namespace Life

/-- A name that a request has no room for is refused with an error, and nothing is opened or
renamed. -/
def RefusesMisfits (ipnet : Ipnet) : Life → Action → Prop
  | (none, s), .new config => ∀ name ∈ config.tunName, ¬ FitsField name →
    ∃ e t, Device.new ipnet config s = (.error (.err e), t) ∧ t.host.opens = s.host.opens
  | (some dev, s), .call (.setTunName value) => ¬ FitsField value →
    ∃ e dev' t, Device.setTunName value (dev, s) = (.error (.err e), dev', t) ∧
      t.host.renamed = s.host.renamed
  | _, _ => True

/-- The action refuses names that do not fit, and leaves the device, if there is one, with the
name of its interface in all its requests. -/
structure KeepsNames (ipnet : Ipnet) (s : Life) (a : Action) (t : Life) : Prop where
  named : ∀ dev ∈ t.1, dev.Named t.2.host
  refusesMisfits : RefusesMisfits ipnet s a

/-- Where a name does not fit, this is noticed: by the library, which refuses all names of more
than `IFNAMSIZ` bytes and new names with a NUL, or by a system call that fails. -/
def Noticed : Life → Action → Prop
  | (none, s), .new config => ∀ name ∈ config.tunName, FitsField name ∨ IFNAMSIZ < name.length ∨
    ¬ Device.Reaches config s.host ∨ s.host.nodes (Device.nodePath name) < 0
  | (some _, s), .call (.setTunName value) =>
    FitsField value ∨ (IFNAMSIZ < value.length ∨ 0 ∈ value) ∨ s.host.Refuses
  | _, _ => True

/-- Without a device nothing was renamed, and with one it has the name of its interface. -/
def NameInv : Life → Prop
  | (none, s) => s.host.renamed = none
  | (some dev, s) => dev.Named s.host

variable {ipnet : Ipnet}

/-- A configured name that does not fit is refused with nothing opened exactly if that is
noticed. -/
theorem refusesMisfits_new_iff (ipnet : Ipnet) {config : Configuration PlatformConfig}
    {s : Process Host} :
    RefusesMisfits ipnet (none, s) (.new config) ↔ Noticed (none, s) (.new config) := by
  constructor
  · intro h name hname
    by_contra hnot
    simp only [not_or, not_not, Nat.not_lt, Int.not_lt] at hnot
    obtain ⟨hfits, hlength, hreaches, hnode⟩ := hnot
    have hlengths : ∀ name' ∈ config.tunName, name'.length ≤ IFNAMSIZ := by
      intro name' hname'
      rw [Option.mem_unique hname' hname]
      exact hlength
    obtain ⟨dev, u, hcreate, hopens⟩ :=
      Device.createFrom_of_nonneg (Device.ctlFd s.host) hname hnode
    rw [← Device.create_of_reaches hlengths hreaches] at hcreate
    have hnames := Device.names_orDrop_setUp ipnet config dev u
    obtain ⟨e, t, hnew, hsame⟩ := h name hname hfits
    rw [Device.new, Call.bind_of_ok hcreate] at hnew
    rw [hnew] at hnames
    have hmore := (Host.opens_congr hnames).symm.trans hsame
    rw [hopens] at hmore
    simp at hmore
  · intro h name hname hfits
    rcases h name hname with hfits' | hlong | hreaches | hnode
    · exact absurd hfits' hfits
    · obtain ⟨e, he⟩ := Device.create_of_not_reaches (.inl ⟨name, hname, hlong⟩)
      exact ⟨e, s, Call.bind_of_error he _, rfl⟩
    · obtain ⟨e, he⟩ := Device.create_of_not_reaches (.inr hreaches)
      exact ⟨e, s, Call.bind_of_error he _, rfl⟩
    · by_cases hlong : IFNAMSIZ < name.length ∨ ¬ Device.Reaches config s.host
      · obtain ⟨e, he⟩ := Device.create_of_not_reaches (hlong.imp_left fun hlt ↦ ⟨name, hname, hlt⟩)
        exact ⟨e, s, Call.bind_of_error he _, rfl⟩
      · simp only [not_or, not_not, Nat.not_lt] at hlong
        obtain ⟨e, t, hcreate, hopens⟩ :=
          Device.createFrom_of_neg (Device.ctlFd s.host) hname hnode
        rw [← Device.create_of_reaches _ hlong.2] at hcreate
        · exact ⟨e, t, Call.bind_of_error hcreate _, hopens⟩
        · intro name' hname'
          rw [Option.mem_unique hname' hname]
          exact hlong.1

/-- A device that was created with no name but one that fits is called as its interface is. -/
theorem named_of_new {config : Configuration PlatformConfig} {s t : Process Host} {dev : Device}
    (hs : s.host.renamed = none) (hnoticed : RefusesMisfits ipnet (none, s) (.new config))
    (h : Device.new ipnet config s = (.ok dev, t)) : dev.Named t.host := by
  obtain ⟨hlast, hname⟩ := Device.new_eq_ok h
  have hrenamed : t.host.renamed = none := by
    have := Device.renamed_new ipnet config s
    rw [h] at this
    exact this.trans hs
  have hfits : FitsField dev.tunName := by
    rcases hname with hname | ⟨-, hfits⟩
    · by_contra hfits
      obtain ⟨e, u, hnew, -⟩ := hnoticed _ hname hfits
      rw [h] at hnew
      cases hnew
    · exact hfits
  refine Device.named_iff_fitsField.2 ⟨hfits, ?_⟩
  rw [Host.Bears, hrenamed]
  rw [Device.nodePath, cStr_eq_self_iff.2 hfits.zero_not_mem] at hlast
  exact hlast

/-- A call that does not change names leaves the device with its own. -/
theorem named_of_keeping {dev dev' : Device} {h h' : Host} (hs : dev.Named h)
    (hname : dev'.tunName = dev.tunName) (hnames : h'.names = h.names) : dev'.Named h' := by
  obtain ⟨hfits, hbears⟩ := Device.named_iff_fitsField.1 hs
  have hrenamed : h'.renamed = h.renamed := congrArg (fun x ↦ x.2.2) hnames
  refine Device.named_iff_fitsField.2 ⟨hname ▸ hfits, ?_⟩
  rw [Host.Bears, hname, hrenamed, Host.opens_congr hnames]
  exact hbears

/-- A new name that does not fit is refused, and others are taken over, exactly if that is
noticed. -/
theorem keepsNames_setTunName_iff {value : Name} {dev dev' : Device} {s t : Process Host}
    {r : Except (Stop Error) Unit} (hs : dev.Named s.host)
    (h : Device.setTunName value (dev, s) = (r, dev', t)) :
    KeepsNames ipnet (some dev, s) (.call (.setTunName value)) (some dev', t) ↔
      Noticed (some dev, s) (.call (.setTunName value)) := by
  by_cases hrefused : IFNAMSIZ < value.length ∨ 0 ∈ value
  · obtain ⟨e, he⟩ := Device.setTunName_of_refused hrefused dev s
    refine ⟨fun _ ↦ .inr (.inl hrefused), fun _ ↦ ⟨?_, fun _ ↦ ⟨e, dev, s, he, rfl⟩⟩⟩
    rintro _ ⟨⟩
    rw [h] at he
    cases he
    exact hs
  rcases Device.setTunName_apply hrefused dev s with ⟨hrefuses, e, he⟩ | ⟨hgranted, hset⟩
  · refine ⟨fun _ ↦ .inr (.inr hrefuses), fun _ ↦ ⟨?_, fun _ ↦ ⟨e, dev, _, he, rfl⟩⟩⟩
    rintro _ ⟨⟩
    rw [h] at he
    cases he
    exact named_of_keeping hs rfl rfl
  · have hnoticed : Noticed (some dev, s) (.call (.setTunName value)) ↔ FitsField value := by
      simp only [Noticed, hrefused, hgranted, or_false]
    rw [hnoticed]
    constructor
    · intro hkeeps
      by_contra hfits
      obtain ⟨e, dev₁, t₁, he, -⟩ := hkeeps.refusesMisfits hfits
      rw [hset] at he
      cases he
    · intro hfits
      refine ⟨?_, fun hmisfits ↦ absurd hfits hmisfits⟩
      rintro _ ⟨⟩
      rw [h] at hset
      cases hset
      exact Device.named_iff_fitsField.2 ⟨hfits, rfl⟩

/-- **One action.**  It keeps names in order exactly if a name that does not fit is noticed. -/
theorem keepsNames_iff {s t : Life} {a : Action} (hs : NameInv s)
    (hstep : (lives ipnet).step s a t) : KeepsNames ipnet s a t ↔ Noticed s a := by
  cases hstep with
  | new h =>
      rw [← refusesMisfits_new_iff ipnet]
      refine ⟨KeepsNames.refusesMisfits, fun hrefuses ↦ ⟨?_, hrefuses⟩⟩
      rintro dev' ⟨⟩
      exact named_of_new hs hrefuses h
  | newStops h =>
      rw [← refusesMisfits_new_iff ipnet]
      exact ⟨KeepsNames.refusesMisfits, fun hrefuses ↦ ⟨fun dev' hdev' ↦ (nomatch hdev'), hrefuses⟩⟩
  | @call op dev dev' s t r h =>
      by_cases hop : ∃ value, op = .setTunName value
      · obtain ⟨value, rfl⟩ := hop
        exact keepsNames_setTunName_iff hs h
      · have hother : ∀ value, op ≠ .setTunName value := fun value hvalue ↦ hop ⟨value, hvalue⟩
        have hkeeping :=
          (Device.stable_keeping _ _).preserves_call ipnet hother (dev, s) ⟨rfl, rfl⟩
        rw [h] at hkeeping
        have hnamed : dev'.Named t.host := named_of_keeping hs hkeeping.1 hkeeping.2
        cases op with
        | setTunName value => exact absurd rfl (hother value)
        | _ => exact ⟨fun _ ↦ trivial, fun _ ↦ ⟨by rintro _ ⟨⟩; exact hnamed, trivial⟩⟩

/-- Names that are in order stay so. -/
theorem nameInv_of_keepsNames (ipnet : Ipnet) {s t : Life} {a : Action} (hs : NameInv s)
    (hstep : (lives ipnet).step s a t) (h : KeepsNames ipnet s a t) : NameInv t := by
  cases hstep with
  | new _ => exact h.named _ rfl
  | @newStops config s t e hnew =>
      have hrenamed := Device.renamed_new ipnet config s
      rw [hnew] at hrenamed
      exact hrenamed.trans hs
  | call _ => exact h.named _ rfl

end Life

/-- **The names of FreeBSD devices are in order exactly while each that does not fit a request
is noticed.** -/
theorem names_iff (ipnet : Ipnet) (s : Life) (l : List (Action × Life))
    (hinit : (lives ipnet).init s) (hrun : (lives ipnet).Run s l) :
    AllSteps (Life.KeepsNames ipnet) s l ↔ AllSteps (fun s a _ ↦ s.Noticed a) s l := by
  have hinv : Life.NameInv s := by
    obtain ⟨dev, proc⟩ := s
    obtain ⟨rfl, hrenamed⟩ := hinit
    exact hrenamed
  exact hrun.allSteps_iff (I := Life.NameInv) (fun _ _ _ hs hstep ↦ Life.keepsNames_iff hs hstep)
    (fun _ _ _ hs hstep h ↦ Life.nameInv_of_keepsNames ipnet hs hstep h) hinv

/-- A configuration that asks for a name and for nothing else. -/
def named (name : Name) : Configuration PlatformConfig :=
  { tunName := some name, platformConfig := {} }

/-- A device `tun0` that is renamed `tun1` has its name in order. -/
theorem names_tun0_tun1 :
    ∃ l, (lives .std).Run (none, ⟨.initial, flakyHost⟩) l ∧
      l.map Prod.fst =
        [.new (named [116, 117, 110, 48]), .call (.setTunName [116, 117, 110, 49])] ∧
      AllSteps (Life.KeepsNames .std) (none, ⟨.initial, flakyHost⟩) l := by
  have hrun : ∃ dev t dev' u, (lives .std).Run (none, ⟨.initial, flakyHost⟩)
      [(.new (named [116, 117, 110, 48]), some dev, t),
        (.call (.setTunName [116, 117, 110, 49]), some dev', u)] :=
    ⟨_, _, _, _, .cons (.new rfl) (.cons (.call rfl) (.nil _))⟩
  obtain ⟨dev, t, dev', u, hrun⟩ := hrun
  have hnew : Life.Noticed (none, ⟨.initial, flakyHost⟩) (.new (named [116, 117, 110, 48])) := by
    rintro _ ⟨⟩
    exact .inl (by decide)
  have hset : Life.Noticed (some dev, t) (.call (.setTunName [116, 117, 110, 49])) :=
    .inl (by decide)
  exact ⟨_, hrun, rfl, (names_iff .std _ _ ⟨rfl, rfl⟩ hrun).2 ⟨hnew, hset, trivial⟩⟩

/-- The name `tun0␀x` is accepted, the node `/dev/tun0` opened for it, and no request has it;
the device `tun0` can be given a name of 16 bytes, and then no request has that. -/
theorem new_accepts_nul :
    (∃ dev t, Device.new .std (named [116, 117, 110, 48, 0, 120]) ⟨.initial, flakyHost⟩ =
        (.ok dev, t) ∧
      t.host.opens.getLast? = some (Device.bytes "/dev/" ++ [116, 117, 110, 48]) ∧
      dev.tunName = [116, 117, 110, 48, 0, 120] ∧ ¬ dev.Named t.host) ∧
    ∃ dev t dev' u, Device.new .std (named [116, 117, 110, 48]) ⟨.initial, flakyHost⟩ =
        (.ok dev, t) ∧
      Device.setTunName (List.replicate 16 97) (dev, t) = (.ok (), dev', u) ∧
      ¬ dev'.Named u.host := by
  have hnul : ∃ dev t, Device.new .std (named [116, 117, 110, 48, 0, 120])
      ⟨.initial, flakyHost⟩ = (.ok dev, t) ∧ dev.tunName = [116, 117, 110, 48, 0, 120] :=
    ⟨_, _, rfl, rfl⟩
  have hlong : ∃ dev t dev' u, Device.new .std (named [116, 117, 110, 48])
      ⟨.initial, flakyHost⟩ = (.ok dev, t) ∧
      Device.setTunName (List.replicate 16 97) (dev, t) = (.ok (), dev', u) ∧
      dev'.tunName = List.replicate 16 97 :=
    ⟨_, _, _, _, rfl, rfl, rfl⟩
  constructor
  · obtain ⟨dev, t, hnew, hname⟩ := hnul
    have hlast := (Device.new_eq_ok hnew).1
    rw [hname] at hlast
    refine ⟨dev, t, hnew, hlast, hname, fun h ↦ ?_⟩
    have hfits := h.request.fitsField
    rw [hname] at hfits
    exact absurd hfits (by decide)
  · obtain ⟨dev, t, dev', u, hnew, hset, hname⟩ := hlong
    refine ⟨dev, t, dev', u, hnew, hset, fun h ↦ ?_⟩
    have hfits := h.request.fitsField
    rw [hname] at hfits
    exact absurd hfits (by decide)

end RustTun.FreeBsd
