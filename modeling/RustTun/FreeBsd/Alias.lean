import RustTun.Base.Run
import RustTun.FreeBsd.Device

/-!
# The installed alias and the cached route

A setter that returns has installed the alias made of its argument and of the two other
components of the cached `route` (`Device.setter_eq_ok`).  So the interface has
the most recent value of every component as long as the cache does, and the cache does
as long as every `route add` succeeds: after one that fails it holds an earlier triple,
from which the next setter takes its two other components.

`tracking` runs a device together with the triple of the most recent values.  A call
keeps the two together exactly if the cached route is up to date on the two components
it is about to be asked for (`UpToDate`).
-/

namespace RustTun.FreeBsd

open Transition

namespace Alias

/-- An alias with one component replaced. -/
def set (a : Alias) : Component → Ipv4Addr → Alias
  | .address, value => { a with addr := value }
  | .destination, value => { a with dest := value }
  | .netmask, value => { a with mask := value }

/-- Two aliases agree on every component but `c`. -/
def AgreeOff (a b : Alias) : Component → Prop
  | .address => a.dest = b.dest ∧ a.mask = b.mask
  | .destination => a.addr = b.addr ∧ a.mask = b.mask
  | .netmask => a.addr = b.addr ∧ a.dest = b.dest

/-- Replacing a component makes two aliases equal exactly if they agreed off it. -/
theorem set_eq_set_iff {a b : Alias} {c : Component} {value : Ipv4Addr} :
    a.set c value = b.set c value ↔ a.AgreeOff b c := by
  cases c <;> simp [set, AgreeOff]

end Alias

/-- The alias a route was added for. -/
def aliasOf (r : Route) : Alias := { addr := r.addr, dest := r.dest, mask := r.netmask }

namespace Device

variable (ipnet : Ipnet)

/-- The setter of a component. -/
def setter : Component → IpAddr → Call Error (Device × Process Host) Unit
  | .address => setAddress ipnet
  | .destination => setDestination ipnet
  | .netmask => setNetmask ipnet

end Device

/-! ## What the calls do -/

/-- A request that was granted had its effect. -/
theorem Host.ioctl_eq_ok {α : Type} {effect : Host → α × Host} {h h' : Host} {a : α}
    (hok : Host.ioctl effect h = (.ok a, h')) :
    h' = (effect { h with refusals := h.refusals.tail }).2 := by
  unfold Host.ioctl at hok
  dsimp only at hok
  split at hok
  · cases hok
  · cases hok
    rfl

namespace Device

variable {ipnet : Ipnet}

/-- Adding a route does nothing to the interface, and caches the route or does not. -/
theorem setRoute_state (ipnet : Ipnet) (route : Route) (dev : Device) (s : Process Host) :
    (setRoute ipnet route (dev, s)).2.2.host.installed = s.host.installed ∧
      ((setRoute ipnet route (dev, s)).2.1.route = dev.route ∨
        (setRoute ipnet route (dev, s)).2.1.route = some route) := by
  rcases hm : ipnet.ipMaskToPrefix route.netmask with _ | p
  · simp [setRoute, hm]
  · rcases hr : Routes.runCommand (.add route.addr p route.dest) s.host.routes with ⟨_ | _, routes⟩
    · simp [setRoute, hm, Call.bind_apply, onHost, Process.ofHost, Host.runRoute, hr]
    · simp [setRoute, hm, Call.bind_apply, onHost, Process.ofHost, Host.runRoute, hr]

/-- Setting an alias that returns has installed it. -/
theorem setAliasV4_eq_ok {addr dest mask : Ipv4Addr} {dev dev' : Device} {s t : Process Host}
    (h : setAliasV4 ipnet addr dest mask (dev, s) = (.ok (), dev', t)) :
    t.host.installed = some { addr, dest, mask } ∧
      (dev'.route = dev.route ∨ dev'.route = some { addr, netmask := mask, dest }) := by
  obtain ⟨⟨⟩, ⟨dev₁, s₁⟩, hioctl, hcatch⟩ := Call.bind_eq_ok.1 h
  obtain ⟨rfl, hioctl⟩ := onHost_eq_ok hioctl
  have hs₁ : s₁.host.installed = some { addr, dest, mask } := by
    rw [Host.ioctl_eq_ok hioctl]
    rfl
  obtain ⟨hinst, hroute⟩ := setRoute_state ipnet { addr, netmask := mask, dest } dev₁ s₁
  rcases Call.catching_eq_ok.1 hcatch with ⟨a, u, hset, hpure⟩ | ⟨e, u, hset, hpure⟩
  all_goals
    rw [hset] at hinst hroute
    cases hpure
    exact ⟨hinst.trans hs₁, hroute⟩

/-- **What a setter does.**  It installs the triple made of the cached route and the new
value, and caches the route of that triple or leaves the cache as it was. -/
theorem setter_eq_ok {c : Component} {value : Ipv4Addr} {dev dev' : Device} {s t : Process Host}
    (h : setter ipnet c (.v4 value) (dev, s) = (.ok (), dev', t)) :
    ∃ r, dev.route = some r ∧ t.host.installed = some ((aliasOf r).set c value) ∧
      (dev'.route = dev.route ∨
        ∃ r', dev'.route = some r' ∧ aliasOf r' = (aliasOf r).set c value) := by
  have hreplace : ∃ replace, setter ipnet c (.v4 value) = replaceAlias ipnet replace ∧
      ∀ r, replace r = (.v4 ((aliasOf r).set c value).addr, .v4 ((aliasOf r).set c value).dest,
        .v4 ((aliasOf r).set c value).mask) := by
    cases c <;> exact ⟨_, rfl, fun _ ↦ rfl⟩
  obtain ⟨replace, heq, hreplace⟩ := hreplace
  rw [heq] at h
  obtain ⟨⟨⟩, ⟨dev₁, s₁⟩, hdif, hrest⟩ := Call.bind_eq_ok.1 h
  obtain ⟨rfl, -⟩ := onHost_eq_ok hdif
  obtain ⟨r, ⟨dev₂, s₂⟩, hprevious, halias⟩ := Call.bind_eq_ok.1 hrest
  have hroute : dev₁.route = some r ∧ dev₂ = dev₁ := by
    unfold previous at hprevious
    dsimp only at hprevious
    split at hprevious
    · rename_i r' hr'
      cases hprevious
      exact ⟨hr', rfl⟩
    · cases hprevious
  obtain ⟨hr, rfl⟩ := hroute
  simp only [hreplace, setAlias] at halias
  obtain ⟨hinst, hcache⟩ := setAliasV4_eq_ok halias
  exact ⟨r, hr, hinst, hcache.imp id fun hc ↦ ⟨_, hc, rfl⟩⟩

/-! ## A new device -/

/-- The interface has the alias `a`, and no other was ever cached. -/
structure Holds (a : Alias) (s : Device × Process Host) : Prop where
  installed : s.2.host.installed = some a
  cached : ∀ r ∈ s.1.route, aliasOf r = a

/-- Setting a component to the value it has changes nothing. -/
theorem keeps_setter {a : Alias} {c : Component} {value : Ipv4Addr} (hvalue : a.set c value = a) :
    (setter ipnet c (.v4 value)).Keeps (Holds a) := by
  rintro ⟨dev, s⟩ ⟨⟩ ⟨dev', t⟩ hs h
  obtain ⟨r, hr, hinst, hcache⟩ := setter_eq_ok h
  rw [hs.cached r hr, hvalue] at hinst hcache
  refine ⟨hinst, fun r' hr' ↦ ?_⟩
  dsimp only at hr'
  rcases hcache with hcache | ⟨r'', hcache, hr''⟩
  · exact hs.cached r' (hcache ▸ hr')
  · rw [hcache, Option.mem_some_iff] at hr'
    rw [← hr', hr'']

/-- A request that leaves the alias alone. -/
theorem keeps_ioctl {α : Type} {a : Alias} {effect : Device → Host → α × Host}
    (heffect : ∀ dev h, (effect dev h).2.installed = h.installed) :
    (onHost fun dev ↦ Host.ioctl (effect dev)).Keeps (Holds a) := by
  rintro ⟨dev, s⟩ x ⟨dev', t⟩ hs h
  obtain ⟨rfl, h⟩ := onHost_eq_ok h
  refine ⟨?_, hs.cached⟩
  rw [Host.ioctl_eq_ok h, heffect]
  exact hs.installed

/-- What a configuration asks for, component by component. -/
theorem initialAlias_eq {a : Alias} {config : Configuration PlatformConfig}
    (ha : config.initialAlias = (.v4 a.addr, .v4 a.dest, .v4 a.mask)) :
    config.address.getD (.v4 (.new 10 0 0 1)) = .v4 a.addr ∧
      config.destination.getD (.v4 (.new 10 0 0 255)) = .v4 a.dest ∧
      config.netmask.getD (.v4 (.new 255 255 255 0)) = .v4 a.mask := by
  simpa only [Configuration.initialAlias, Prod.mk.injEq] using ha

/-- Taking over a configuration that asks for the alias `a` changes nothing. -/
theorem keeps_configure {a : Alias} {config : Configuration PlatformConfig}
    (ha : config.initialAlias = (.v4 a.addr, .v4 a.dest, .v4 a.mask)) :
    ((abstractDevice ipnet).configure config).Keeps (Holds a) := by
  obtain ⟨haddr, hdest, hmask⟩ := initialAlias_eq ha
  refine AbstractDevice.Keeps.configure ⟨?_, ?_, ?_, ?_, ?_, ?_⟩
  · intro ip hip
    rw [Option.mem_def.1 hip, Option.getD_some] at haddr
    rw [haddr]
    exact keeps_setter (c := .address) rfl
  · intro ip hip
    rw [Option.mem_def.1 hip, Option.getD_some] at hdest
    rw [hdest]
    exact keeps_setter (c := .destination) rfl
  · intro ip _
    exact .pure ()
  · intro ip hip
    rw [Option.mem_def.1 hip, Option.getD_some] at hmask
    rw [hmask]
    exact keeps_setter (c := .netmask) rfl
  · intro mtu _
    exact .bind (keeps_ioctl fun _ _ ↦ rfl) fun _ ↦ .modify fun _ h ↦ ⟨h.installed, h.cached⟩
  · intro value _
    exact .bind (keeps_ioctl fun _ _ ↦ rfl) fun _ ↦ keeps_ioctl fun _ _ ↦ rfl

/-- A device starts with no route cached. -/
theorem create_route {config : Configuration PlatformConfig} {s t : Process Host} {dev : Device}
    (h : create config s = (.ok dev, t)) : dev.route = none := by
  unfold create at h
  split_ifs at h
  · cases h
  · cases h
  · cases h
  · obtain ⟨fd, s₁, -, h⟩ := Call.bind_eq_ok.1 h
    obtain ⟨ctl, s₂, -, h⟩ := Call.bind_eq_ok.1 h
    obtain ⟨⟨tun, tunName⟩, s₃, -, h⟩ := Call.bind_eq_ok.1 h
    obtain ⟨tun, s₄, -, h⟩ := Call.bind_eq_ok.1 h
    obtain ⟨rfl, -⟩ := Call.pure_eq_ok.1 h
    rfl

/-- **A new device has the alias its configuration asks for**, and has cached no other. -/
theorem new_holds {config : Configuration PlatformConfig} {a : Alias} {s t : Process Host}
    {dev : Device} (ha : config.initialAlias = (.v4 a.addr, .v4 a.dest, .v4 a.mask))
    (h : new ipnet config s = (.ok dev, t)) : Holds a (dev, t) := by
  obtain ⟨dev₀, s₀, hcreate, hfinish⟩ := Call.bind_eq_ok.1 h
  have hnone := create_route hcreate
  have hsetUp := orDrop_eq_ok.1 hfinish
  obtain ⟨⟨⟩, ⟨dev₁, s₁⟩, halias, hconfigure⟩ := Call.bind_eq_ok.1 hsetUp
  obtain ⟨haddr, hdest, hmask⟩ := initialAlias_eq ha
  simp only [haddr, hdest, hmask, setAlias] at halias
  obtain ⟨hinst, hcache⟩ := setAliasV4_eq_ok halias
  refine keeps_configure ha _ _ _ ⟨hinst, fun r hr ↦ ?_⟩ hconfigure
  dsimp only at hr
  rcases hcache with hcache | hcache
  · rw [hcache, hnone] at hr
    cases hr
  · rw [hcache, Option.mem_some_iff] at hr
    rw [← hr]
    rfl

end Device

/-! ## Sequences of setters -/

/-- A device and the most recent value of every component. -/
structure Tracked where
  dev : Device
  proc : Process Host
  latest : Alias

namespace Tracked

/-- `Device::new`, if it returns. -/
def start (ipnet : Ipnet) (config : Configuration PlatformConfig) (proc : Process Host) :
    Option Tracked :=
  match Device.new ipnet config proc, config.initialAlias with
  | (.ok dev, proc), (.v4 addr, .v4 dest, .v4 mask) =>
    some { dev, proc, latest := { addr, dest, mask } }
  | _, _ => none

/-- A call of the setter of `c`, if it returns. -/
def set (ipnet : Ipnet) (s : Tracked) (c : Component) (value : Ipv4Addr) : Option Tracked :=
  match Device.setter ipnet c (.v4 value) (s.dev, s.proc) with
  | (.ok _, dev, proc) => some { dev, proc, latest := s.latest.set c value }
  | _ => none

/-- The interface has the most recent value of every component. -/
def NoneLost (s : Tracked) : Prop := s.proc.host.installed = some s.latest

/-- The cached route agrees with the installed alias on the two components that a call
of the setter of `c` will take from it. -/
def UpToDate (s : Tracked) (c : Component) : Prop :=
  ∀ r ∈ s.dev.route, ∀ a ∈ s.proc.host.installed, (aliasOf r).AgreeOff a c

variable {ipnet : Ipnet}

/-- A new device has lost nothing. -/
theorem noneLost_start {config : Configuration PlatformConfig} {proc : Process Host} {s : Tracked}
    (h : start ipnet config proc = some s) : s.NoneLost := by
  unfold start at h
  split at h
  · rename_i dev proc' addr dest mask hnew ha
    cases h
    exact (Device.new_holds (a := { addr, dest, mask }) ha hnew).installed
  · cases h

/-- **One call.**  It loses nothing exactly if the cache was up to date. -/
theorem noneLost_set_iff {s t : Tracked} {c : Component} {value : Ipv4Addr} (hs : s.NoneLost)
    (h : s.set ipnet c value = some t) : t.NoneLost ↔ s.UpToDate c := by
  unfold set at h
  split at h
  · rename_i dev proc hcall
    cases h
    obtain ⟨r, hr, hinst, -⟩ := Device.setter_eq_ok hcall
    unfold NoneLost at hs ⊢
    rw [hinst, Option.some.injEq, Alias.set_eq_set_iff, UpToDate, hr, hs]
    simp
  · cases h

end Tracked

/-- Devices from `Device::new`, and calls of the setters that return. -/
def tracking (ipnet : Ipnet) : System Tracked (Component × Ipv4Addr) where
  init s := ∃ config proc, Tracked.start ipnet config proc = some s
  step s x t := s.set ipnet x.1 x.2 = some t

/-- **The setters lose no update exactly while the cache is up to date.**  After
`Device::new` the interface has the alias the configuration asks for, and a sequence of
calls that return keeps it at the most recent values throughout exactly if the cached
route agrees at each call with what is installed, on the components the call does not
set. -/
theorem noneLost_iff (ipnet : Ipnet) (s : Tracked) (l : List ((Component × Ipv4Addr) × Tracked))
    (hinit : (tracking ipnet).init s) (hrun : (tracking ipnet).Run s l) :
    s.NoneLost ∧
      ((∀ x ∈ l, x.2.NoneLost) ↔ AllSteps (fun s x _ ↦ s.UpToDate x.1) s l) := by
  obtain ⟨config, proc, hstart⟩ := hinit
  have hs := Tracked.noneLost_start hstart
  refine ⟨hs, ?_⟩
  rw [← allSteps_target (s := s) (P := Tracked.NoneLost)]
  refine hrun.allSteps_iff (I := Tracked.NoneLost) (fun s x t hs h ↦ ?_) (fun _ _ _ _ _ ht ↦ ht) hs
  exact Tracked.noneLost_set_iff hs h

/-- A host on which the second `route` command fails and all else succeeds. -/
def flakyHost : Host where
  nodes _ := 3
  opened := []
  socketFd := 4
  errno := 0
  installed := none
  flags := 0
  mtu := 1500
  renamed := none
  refusals := []
  routes := { table := [], failures := [none, some (.status "network is unreachable")] }

/-- The address of a new device can be set, although its route cannot be added. -/
theorem noneLost_set_address :
    ∃ s t, Tracked.start .std { platformConfig := {} } ⟨.initial, flakyHost⟩ = some s ∧
      s.set .std .address (.new 10 9 9 9) = some t ∧ t.NoneLost := by
  refine ⟨_, _, rfl, rfl, ?_⟩
  have h := noneLost_iff .std _ [((.address, .new 10 9 9 9), _)]
    ⟨{ platformConfig := {} }, ⟨.initial, flakyHost⟩, rfl⟩ (.cons rfl (.nil _))
  refine h.2.2 ⟨fun r hr a ha ↦ ?_, trivial⟩ _ (List.mem_singleton_self _)
  cases hr
  cases ha
  exact ⟨rfl, rfl⟩

/-- The route of the second alias could not be added, so that the setter of the
destination takes the address from the first: the address `10.9.9.9`, whose setter
returned, is gone. -/
theorem set_destination_loses_address :
    ∃ s t u, Tracked.start .std { platformConfig := {} } ⟨.initial, flakyHost⟩ = some s ∧
      s.set .std .address (.new 10 9 9 9) = some t ∧
      t.set .std .destination (.new 10 8 8 8) = some u ∧
      u.latest = ⟨.new 10 9 9 9, .new 10 8 8 8, .new 255 255 255 0⟩ ∧
      u.proc.host.installed = some ⟨.new 10 0 0 1, .new 10 8 8 8, .new 255 255 255 0⟩ :=
  ⟨_, _, _, rfl, rfl, rfl, rfl, rfl⟩

end RustTun.FreeBsd
