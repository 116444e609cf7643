import RustTun.Base.Triple
import RustTun.FreeBsd.Name
import RustTun.MacOs.Name
import RustTun.Posix.Closing

/-!
# Devices over descriptors of their own

On macOS, without a given descriptor, and on FreeBSD `Device::new` opens the descriptor of the
device and a control socket, and finishes the device with requests that neither descriptor is
touched by.  `new_closesBoth` follows both to the end of the program.
-/

namespace RustTun

open Call Transition

/-! ## macOS -/

namespace MacOs.Device

/-- The device as far as descriptors go. -/
def posix (dev : Device) : RustTun.Device := { tun := dev.tun, ctl := dev.ctl }

variable {w : World} {n m : RawFd} {ipnet : Ipnet}

/-- A property of descriptors alone. -/
def OwnsBoth (w : World) (n m : RawFd) (x : Device × Process Host) : Prop :=
  x.1.posix.OwnsBoth w n m x.2.world

/-- Requests do not touch descriptors. -/
theorem ownsBoth_control {α : Type} (call : Ifreq → Call Error Host α) :
    (control call).Preserves (OwnsBoth w n m) := fun _ hs ↦ hs

theorem ownsBoth_setRoute (route : Route) :
    (setRoute ipnet route).Preserves (OwnsBoth w n m) := fun _ hs ↦ hs

theorem ownsBoth_setComponent (ifru : IpAddr → UInt16 → IfrIfru) (c : Component) (ip : IpAddr) :
    (setComponent ipnet ifru c ip).Preserves (OwnsBoth w n m) := by
  cases ip with
  | v6 addr => exact .panic
  | v4 addr =>
      refine .bind (ownsBoth_control _) fun _ ↦ .bind .get fun s ↦ ?_
      cases s.1.route with
      | some route => exact ownsBoth_setRoute _
      | none => exact .pure ()

theorem ownsBoth_setAlias (addr dest mask : IpAddr) :
    (setAlias ipnet addr dest mask).Preserves (OwnsBoth w n m) := by
  unfold setAlias
  split
  · exact .bind (ownsBoth_control _) fun _ ↦
      .catching (ownsBoth_setRoute _) fun _ ↦ .pure ()
  · exact .panic

/-- Nor does finishing the device. -/
theorem ownsBoth_setUp (config : Configuration PlatformConfig) :
    (setUp ipnet config).Preserves (OwnsBoth w n m) := by
  have hsetters : (abstractDevice ipnet).Preserves (OwnsBoth w n m) :=
    { setAddress := ownsBoth_setComponent _ _
      setDestination := ownsBoth_setComponent _ _
      setBroadcast ip := by
        cases ip with
        | v6 addr => exact .panic
        | v4 addr => exact ownsBoth_control _
      setNetmask := ownsBoth_setComponent _ _
      setMtu value := .bind (ownsBoth_control _) fun _ ↦ .modify fun _ hs ↦ hs.setMtu value
      enabled _ := .bind (ownsBoth_control _) fun _ ↦ ownsBoth_control _ }
  exact .bind (hsetters.configure config) fun _ ↦ ownsBoth_setAlias _ _ _

/-- What the sockets of the host are is not changed by what is asked of it. -/
def Sockets (w : World) (n m : RawFd) (s : Process Host) : Prop :=
  s.world = w ∧ s.host.systemSocket = n ∧ s.host.inetSocket = m

theorem sockets_ioctl {α : Type} {effect : Host → α × Host}
    (heffect : ∀ h, (effect h).2.systemSocket = h.systemSocket ∧
      (effect h).2.inetSocket = h.inetSocket) :
    (Process.ofHost (Host.ioctl effect)).Preserves (Sockets w n m) := by
  intro s hs
  cases href : s.host.refusals.head?.join with
  | none =>
      have hx : (Process.ofHost (Host.ioctl effect) s).2 =
          { s with host := (effect { s.host with refusals := s.host.refusals.tail }).2 } := by
        rw [Process.ofHost, Host.ioctl_of_granted effect href]
      obtain ⟨hsystem, hinet⟩ := heffect { s.host with refusals := s.host.refusals.tail }
      rw [hx]
      exact ⟨hs.1, hsystem.trans hs.2.1, hinet.trans hs.2.2⟩
  | some e =>
      have hx : (Process.ofHost (Host.ioctl effect) s).2 =
          { s with host := { s.host with refusals := s.host.refusals.tail } } := by
        rw [Process.ofHost, Host.ioctl_of_refused effect href]
      rw [hx]
      exact hs

/-- The socket of the control is opened and connected, and the control socket is opened. -/
theorem triple_openUtun (id : UInt32) :
    Triple (Sockets w n m) (openUtun id)
      (fun x s ↦ 0 ≤ n ∧ 0 ≤ m ∧ x.2.1 = ⟨n, true⟩ ∧ x.2.2 = ⟨m, true⟩ ∧ s.world = w)
      (fun _ ↦ True) := by
  have hsocket {which : Host → RawFd} {k : RawFd} (hk : ∀ s, Sockets w n m s → which s.host = k) :
      Triple (Sockets w n m) (Process.ofHost (Host.socket which))
        (fun fd s ↦ fd = k ∧ Sockets w n m s) (fun _ ↦ True) := fun s hs ↦ ⟨hk s hs, hs⟩
  have hioctl {α : Type} {effect : Host → α × Host} (h : ∀ h, (effect h).2.systemSocket =
      h.systemSocket ∧ (effect h).2.inetSocket = h.inetSocket) :
      Triple (Sockets w n m) (Process.ofHost (Host.ioctl effect)) (fun _ ↦ Sockets w n m)
        (fun _ ↦ True) := .of_preserves (sockets_ioctl h) fun _ _ ↦ trivial
  refine (hsocket fun s hs ↦ hs.2.1).bind fun fd ↦ .of_imp fun hfd ↦ ?_
  subst hfd
  by_cases hn : fd < 0
  · have hfd : Fd.new fd true = .error .invalidDescriptor := if_pos hn
    rw [newFd, hfd]
    exact fun _ _ ↦ trivial
  · have hfd : Fd.new fd true = .ok ⟨fd, true⟩ := if_neg hn
    rw [newFd, hfd]
    refine .guarded (E := fun _ ↦ True) ?_ fun _ _ ↦ trivial
    refine (hioctl fun _ ↦ ⟨rfl, rfl⟩).bind fun _ ↦ (hioctl fun _ ↦ ⟨rfl, rfl⟩).bind fun _ ↦
      (hioctl fun _ ↦ ⟨rfl, rfl⟩).bind fun name ↦ ?_
    refine (hsocket fun s hs ↦ hs.2.2).bind fun ctl ↦ .of_imp fun hctl ↦ ?_
    subst hctl
    by_cases hm : ctl < 0
    · have hctl : Fd.new ctl true = .error .invalidDescriptor := if_pos hm
      rw [hctl]
      exact .fail fun _ _ ↦ trivial
    · have hctl : Fd.new ctl true = .ok ⟨ctl, true⟩ := if_neg hm
      rw [hctl]
      exact .pure fun s hs ↦ ⟨Int.not_lt.1 hn, Int.not_lt.1 hm, rfl, rfl, hs.1⟩

/-- Reading the unit off the name asks nothing of the host. -/
theorem host_utunId (name : Option Name) (h : Host) : (utunId name h).2 = h := by
  unfold utunId
  split
  · rfl
  · split_ifs
    · rfl
    · cases parseU32 (List.drop 4 _) with
      | none => rfl
      | some id =>
          dsimp only
          split_ifs
          · rfl
          · rfl
    · rfl

/-- **What is created** owns both. -/
theorem triple_create (config : Configuration PlatformConfig) :
    Triple (Sockets w n m) (create config) (fun dev s ↦ OwnsBoth w n m (dev, s))
      (fun _ ↦ True) := by
  have hid : Triple (Sockets w n m) (Process.ofHost (utunId config.tunName))
      (fun _ ↦ Sockets w n m) (fun _ ↦ True) := by
    refine .of_preserves (fun s hs ↦ ?_) fun _ _ ↦ trivial
    have hx : (Process.ofHost (utunId config.tunName) s).2 =
        { s with host := (utunId config.tunName s.host).2 } := rfl
    rw [hx, host_utunId]
    exact hs
  refine hid.bind fun id ↦ ?_
  split_ifs
  · exact .fail fun _ _ ↦ trivial
  · exact .fail fun _ _ ↦ trivial
  · refine (triple_openUtun id).bind fun x ↦ ?_
    obtain ⟨name, fd, ctl⟩ := x
    refine .of_imp fun hn ↦ .of_imp fun hm ↦ .of_imp fun hfd ↦ .of_imp fun hctl ↦ ?_
    obtain rfl : fd = ⟨n, true⟩ := hfd
    obtain rfl : ctl = ⟨m, true⟩ := hctl
    intro s hs
    have hw : s.world = w := hs
    subst hw
    exact Device.OwnsBoth.new hn hm _ _ s.world

/-- **A new device** owns both sockets that the host gave it. -/
theorem ownsBoth_new {config : Configuration PlatformConfig} (hraw : config.rawFd = none)
    {s t : Process Host} {dev : Device} (h : new ipnet config s = (.ok dev, t)) :
    OwnsBoth s.world s.host.systemSocket s.host.inetSocket (dev, t) := by
  simp only [new, hraw] at h
  obtain ⟨dev₀, s₀, hcreate, hfinish⟩ := Call.bind_eq_ok.1 h
  have hcreated := (triple_create config).of_ok ⟨rfl, rfl, rfl⟩ hcreate
  have hfinished : OwnsBoth s.world s.host.systemSocket s.host.inetSocket
      (setUp ipnet config (dev₀, s₀)).2 := ownsBoth_setUp config (dev₀, s₀) hcreated
  rw [orDrop_eq_ok.1 hfinish] at hfinished
  exact hfinished

end MacOs.Device

/-! ## FreeBSD -/

namespace FreeBsd.Device

/-- The device as far as descriptors go. -/
def posix (dev : Device) : RustTun.Device := { tun := dev.tun, ctl := some dev.ctl }

variable {w : World} {n m : RawFd} {ipnet : Ipnet}

/-- A property of descriptors alone. -/
theorem stable_ownsBoth (w : World) (n m : RawFd) :
    Stable fun x ↦ x.1.posix.OwnsBoth w n m x.2.world where
  host _ hs := hs
  route _ hs := hs
  mtu value hs := hs.setMtu value

/-- What the descriptors are that the host has to give. -/
def Gives (w : World) (nodes : Name → RawFd) (s : Process Host) : Prop :=
  s.world = w ∧ s.host.nodes = nodes

/-- The descriptor that was opened is that of the node of the name, and closes it. -/
def Opened (w : World) (nodes : Name → RawFd) (x : Fd × Name) (s : Process Host) : Prop :=
  0 ≤ nodes (nodePath x.2) ∧ x.1 = ⟨nodes (nodePath x.2), true⟩ ∧ s.world = w

variable {nodes : Name → RawFd}

theorem triple_openNode (name : Name) :
    Triple (Gives w nodes) (Process.ofHost (Host.openNode (devicePath name)))
      (fun fd s ↦ fd = nodes (nodePath name) ∧ Gives w nodes s) (fun _ ↦ True) := by
  intro s hs
  rw [openNode_apply]
  exact ⟨congrFun hs.2 _, hs⟩

/-- A node that was opened, or was not. -/
theorem triple_new (name : Name) :
    Triple (Gives w nodes)
      (match Fd.new (nodes (nodePath name)) true with
        | .ok tun => pure (tun, name)
        | .error _ => Process.ofHost Host.failLastOsError)
      (Opened w nodes) (fun _ ↦ True) := by
  by_cases hn : nodes (nodePath name) < 0
  · have hfd : Fd.new (nodes (nodePath name)) true = .error .invalidDescriptor := if_pos hn
    rw [hfd]
    exact fun _ _ ↦ trivial
  · have hfd : Fd.new (nodes (nodePath name)) true = .ok ⟨nodes (nodePath name), true⟩ := if_neg hn
    rw [hfd]
    exact .pure fun s hs ↦ ⟨Int.not_lt.1 hn, rfl, hs.1⟩

theorem triple_probe (l : List Nat) :
    Triple (Gives w nodes) (probe l) (Opened w nodes) (fun _ ↦ True) := by
  induction l with
  | nil => exact .fail fun _ _ ↦ trivial
  | cons i l ih =>
      refine (triple_openNode _).bind fun fd ↦ .of_imp fun hfd ↦ ?_
      subst hfd
      split_ifs
      · exact triple_new _
      · exact ih

theorem triple_openTun (name : Option Name) :
    Triple (Gives w nodes) (openTun name) (Opened w nodes) (fun _ ↦ True) := by
  cases name with
  | none => exact triple_probe _
  | some name =>
      refine (triple_openNode _).bind fun fd ↦ .of_imp fun hfd ↦ ?_
      subst hfd
      exact triple_new _

/-- **What is created** owns the node of its name and the control socket. -/
theorem triple_create (config : Configuration PlatformConfig) :
    Triple (fun s ↦ s.host.socketFd = m ∧ Gives w nodes s) (create config)
      (fun dev s ↦ dev.posix.OwnsBoth w (nodes (nodePath dev.tunName)) m s.world)
      (fun _ ↦ True) := by
  unfold create
  split_ifs
  · exact .fail fun _ _ ↦ trivial
  · exact .fail fun _ _ ↦ trivial
  · exact .fail fun _ _ ↦ trivial
  · have hsocket : Triple (fun s ↦ s.host.socketFd = m ∧ Gives w nodes s)
        (Process.ofHost Host.socket) (fun fd s ↦ fd = m ∧ Gives w nodes s) (fun _ ↦ True) :=
      fun s hs ↦ hs
    refine hsocket.bind fun fd ↦ .of_imp fun hfd ↦ ?_
    subst hfd
    by_cases hm : fd < 0
    · have hctl : Fd.new fd true = .error .invalidDescriptor := if_pos hm
      rw [hctl]
      exact fun _ _ ↦ trivial
    · have hctl : Fd.new fd true = .ok ⟨fd, true⟩ := if_neg hm
      rw [hctl]
      have hopen : Triple (Gives w nodes)
          (Call.guarded (Process.dropFd ⟨fd, true⟩) (openTun config.tunName))
          (Opened w nodes) (fun _ ↦ True) :=
        (triple_openTun config.tunName).guarded fun _ _ ↦ trivial
      refine hopen.bind fun x ↦ .of_imp fun hn ↦ .of_imp fun hx ↦ ?_
      obtain ⟨tun, name⟩ := x
      obtain rfl : tun = ⟨nodes (nodePath name), true⟩ := hx
      intro s hs
      have hw : s.world = w := hs
      subst hw
      exact RustTun.Device.OwnsBoth.new hn (Int.not_lt.1 hm) _ _ s.world

/-- **A new device** owns both. -/
theorem ownsBoth_new {config : Configuration PlatformConfig} {s t : Process Host} {dev : Device}
    (h : new ipnet config s = (.ok dev, t)) :
    ∃ path, dev.posix.OwnsBoth s.world (s.host.nodes path) s.host.socketFd t.world := by
  obtain ⟨dev₀, s₀, hcreate, hfinish⟩ := Call.bind_eq_ok.1 h
  have hcreated := (triple_create config).of_ok ⟨rfl, rfl, rfl⟩ hcreate
  have hsetUp : (setUp ipnet config).Preserves fun x ↦
      x.1.posix.OwnsBoth s.world (s.host.nodes (nodePath dev₀.tunName)) s.host.socketFd x.2.world :=
    (stable_ownsBoth _ _ _).preserves_setUp config
  have hfinished := hsetUp (dev₀, s₀) hcreated
  rw [orDrop_eq_ok.1 hfinish] at hfinished
  exact ⟨_, hfinished⟩

end FreeBsd.Device

/-! ## The whole life of a device -/

/-- **From the first descriptor to the last `close`** on macOS and FreeBSD: a device that
`Device::new` returned is over the socket or the node that the host gave, and has a control socket
besides; if these are two, as the first is open still when the second is handed out, both are
closed as they should be. -/
theorem new_closesBoth (ipnet : Ipnet) :
    (∀ (config : Configuration MacOs.PlatformConfig) (s t : Process MacOs.Host)
      (dev : MacOs.Device), config.rawFd = none →
      MacOs.Device.new ipnet config s = (.ok dev, t) →
      dev.tun.fd.val.inner = s.host.systemSocket ∧ (s.host.systemSocket ≠ s.host.inetSocket →
        ClosesBoth .macos s.world s.host.systemSocket s.host.inetSocket dev.posix t.world)) ∧
    ∀ (config : Configuration FreeBsd.PlatformConfig) (s t : Process FreeBsd.Host)
      (dev : FreeBsd.Device), FreeBsd.Device.new ipnet config s = (.ok dev, t) →
      ∃ path, dev.tun.fd.val.inner = s.host.nodes path ∧ (s.host.nodes path ≠ s.host.socketFd →
        ClosesBoth .freebsd s.world (s.host.nodes path) s.host.socketFd dev.posix t.world) := by
  constructor
  · intro config s t dev hraw hnew
    have howns := MacOs.Device.ownsBoth_new hraw hnew
    have hinner : dev.tun.fd.val.inner = s.host.systemSocket := congrArg Fd.inner howns.tun
    exact ⟨hinner, fun hne ↦ howns.closesBoth hne .macos⟩
  · intro config s t dev hnew
    obtain ⟨path, howns⟩ := FreeBsd.Device.ownsBoth_new hnew
    have hinner : dev.tun.fd.val.inner = s.host.nodes path := congrArg Fd.inner howns.tun
    exact ⟨path, hinner, fun hne ↦ howns.closesBoth hne .freebsd⟩

/-- A macOS device over the descriptor 3 with the control socket 4 is split asynchronously, and its
halves are dropped: the last drop closes 3, and then 4. -/
theorem new_closesBoth_three_four : ∃ (dev : MacOs.Device) (t : Process MacOs.Host) (f : File)
      (l : List (Sharing.Action × Sharing)),
    MacOs.Device.new .std { platformConfig := {} } ⟨.initial, MacOs.Device.willingHost false⟩ =
      (.ok dev, t) ∧
    l.map Prod.fst = [.asyncNew, .asyncSplit, .drop, .drop] ∧
    (final ⟨[.device dev.posix], t.world, f⟩ l).world.closes = [3, 4] := by
  obtain ⟨dev, t, hnew⟩ : ∃ dev t, MacOs.Device.new .std { platformConfig := {} }
      ⟨.initial, MacOs.Device.willingHost false⟩ = (.ok dev, t) := ⟨_, _, rfl⟩
  let f : File := { inbound := [], outbound := [], refusals := [], nonblock := true }
  let r := (dev.posix.splitAsync t.world).1.1
  let x := (dev.posix.splitAsync t.world).1.2
  let w := (dev.posix.splitAsync t.world).2
  have hasync : Sharing.Step .macos ⟨[] ++ [.device dev.posix], t.world, f⟩ .asyncNew
      ⟨[] ++ [.asyncDevice dev.posix], t.world, f⟩ := .asyncNew rfl
  have hsplit : Sharing.Step .macos ⟨[] ++ [.asyncDevice dev.posix], t.world, f⟩ .asyncSplit
      ⟨[] ++ [.asyncReader r, .asyncWriter x], w, f⟩ := .asyncSplit rfl
  have hreader : Sharing.Step .macos ⟨[] ++ [.asyncReader r, .asyncWriter x], w, f⟩ .drop
      ⟨[] ++ [.asyncWriter x], (Part.asyncReader r).drop w, f⟩ := .drop
  have hwriter (w : World) : Sharing.Step .macos ⟨[] ++ [.asyncWriter x], w, f⟩ .drop
      ⟨[] ++ [], (Part.asyncWriter x).drop w, f⟩ := .drop
  have hrun := System.Run.cons (S := sharings .macos 3 true) hasync <| .cons hsplit <|
    .cons hreader <| .cons (hwriter _) <| .nil _
  obtain ⟨-, hcloses⟩ := (new_closesBoth .std).1 _ _ t dev rfl hnew
  exact ⟨dev, t, f, _, hnew, rfl, hcloses (by decide) f _ hrun⟩

end RustTun
