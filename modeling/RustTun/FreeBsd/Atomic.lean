import RustTun.FreeBsd.Alias

/-!
# Programs that use a FreeBSD device, and setters that fail

`lives` are the runs of a program that creates a device and makes any calls on it, however
each of them ends.

The three setters of the alias remove it before anything else.  Whatever stops them then
leaves the interface without an address: that no route was cached, that the argument is not
an IPv4 address, or that the kernel refuses the new alias.  Of these only the last is the
kernel's doing, and `setters_atomic_iff` says when the other two do not come up.
-/

namespace RustTun.FreeBsd

open Transition

/-! ## Programs -/

/-- The calls on a device that change it or its interface. -/
inductive Op where
  | set (c : Component) (value : IpAddr)
  | setBroadcast (value : IpAddr)
  | setMtu (value : UInt16)
  | enabled (value : Bool)
  | setTunName (value : Name)
deriving DecidableEq, Repr

/-- The call on the device. -/
def Device.call (ipnet : Ipnet) : Op → Call Error (Device × Process Host) Unit
  | .set c value => setter ipnet c value
  | .setBroadcast value => Device.setBroadcast value
  | .setMtu value => Device.setMtu value
  | .enabled value => Device.enabled value
  | .setTunName value => Device.setTunName value

/-- What a program does. -/
inductive Action where
  | /-- Create the device. -/ new (config : Configuration PlatformConfig)
  | /-- Make a call on it. -/ call (op : Op)

/-- A process, with its device if it has one. -/
abbrev Life := Option Device × Process Host

/-- One action of a program. -/
inductive Life.Step (ipnet : Ipnet) : Life → Action → Life → Prop
  | /-- `Device::new` returns a device. -/
    new {config : Configuration PlatformConfig} {s t : Process Host} {dev : Device} :
      Device.new ipnet config s = (.ok dev, t) →
        Step ipnet (none, s) (.new config) (some dev, t)
  | /-- `Device::new` returns an error or panics. -/
    newStops {config : Configuration PlatformConfig} {s t : Process Host} {e : Stop Error} :
      Device.new ipnet config s = (.error e, t) →
        Step ipnet (none, s) (.new config) (none, t)
  | /-- A call ends, in whatever way. -/
    call {op : Op} {dev dev' : Device} {s t : Process Host} {r : Except (Stop Error) Unit} :
      Device.call ipnet op (dev, s) = (r, dev', t) →
        Step ipnet (some dev, s) (.call op) (some dev', t)

/-- Programs that start without a device, on a host on which no interface was renamed. -/
def lives (ipnet : Ipnet) : System Life Action where
  init s := s.1 = none ∧ s.2.host.renamed = none
  step := Life.Step ipnet

/-! ## How calls stop -/

theorem Host.stopsIn_runRoute (command : RouteCommand) :
    (Host.runRoute command).StopsIn (· ≠ .panic) :=
  fun h ↦ Routes.stopsIn_runCommand command h.routes

/-- Adding a route does not panic. -/
theorem Device.stopsIn_setRoute {ipnet : Ipnet} (route : Route) :
    (setRoute ipnet route).StopsIn (· ≠ .panic) := by
  unfold setRoute
  cases ipnet.ipMaskToPrefix route.netmask with
  | none => exact .fail (nomatch ·)
  | some p => exact .bind (stopsIn_onHost fun _ ↦ Host.stopsIn_runRoute _) fun _ ↦ .modify _

section StopsIn

variable {E : Stop Error → Prop}

/-- `E` has what the kernel refuses requests with, and that there is no cached route. -/
structure Usual (E : Stop Error → Prop) : Prop where
  os (errno : Errno) : E (.err (.io (.os errno)))
  invalidConfig : E (.err .invalidConfig)

theorem Usual.ioctl (hE : Usual E) {α : Type} (effect : Host → α × Host) :
    (Host.ioctl effect).StopsIn E := by
  intro h stop hstop
  rw [Host.ioctl] at hstop
  split at hstop
  · cases hstop
    exact hE.os _
  · cases hstop

namespace Device

variable {ipnet : Ipnet}

/-- A setter only panics on an address that is not an IPv4 address. -/
theorem stopsIn_setAlias (hE : Usual E) {addr dest mask : IpAddr}
    (h : E .panic ∨ addr.IsIpv4 ∧ dest.IsIpv4 ∧ mask.IsIpv4) :
    (setAlias ipnet addr dest mask).StopsIn E := by
  unfold setAlias
  split
  · exact .bind (stopsIn_onHost fun _ ↦ hE.ioctl _) fun _ ↦
      .catching (stopsIn_setRoute _) fun _ ↦ .pure ()
  · rename_i hv4
    rcases h with hpanic | ⟨haddr, hdest, hmask⟩
    · exact .panic hpanic
    · obtain ⟨a, rfl⟩ := haddr.eq_v4
      obtain ⟨d, rfl⟩ := hdest.eq_v4
      obtain ⟨m, rfl⟩ := hmask.eq_v4
      exact absurd rfl (hv4 a d m rfl rfl)

theorem stopsIn_setter (hE : Usual E) (c : Component) {value : IpAddr}
    (h : E .panic ∨ value.IsIpv4) : (setter ipnet c value).StopsIn E := by
  have hprevious : previous.StopsIn E := by
    rintro ⟨dev, s⟩ stop hstop
    rw [previous] at hstop
    split at hstop
    · cases hstop
    · cases hstop
      exact hE.invalidConfig
  cases c with
  | address =>
      exact .bind (stopsIn_onHost fun _ ↦ hE.ioctl _) fun _ ↦ .bind hprevious fun _ ↦
        stopsIn_setAlias hE (h.imp_right fun hv4 ↦ ⟨hv4, trivial, trivial⟩)
  | destination =>
      exact .bind (stopsIn_onHost fun _ ↦ hE.ioctl _) fun _ ↦ .bind hprevious fun _ ↦
        stopsIn_setAlias hE (h.imp_right fun hv4 ↦ ⟨trivial, hv4, trivial⟩)
  | netmask =>
      exact .bind (stopsIn_onHost fun _ ↦ hE.ioctl _) fun _ ↦ .bind hprevious fun _ ↦
        stopsIn_setAlias hE (h.imp_right fun hv4 ↦ ⟨trivial, trivial, hv4⟩)

/-- Taking a configuration over only panics on an address that is not an IPv4 address. -/
theorem stopsIn_configure (hE : Usual E) {P : Type} {config : Configuration P}
    (h : E .panic ∨ config.Ipv4Only) : ((abstractDevice ipnet).configure config).StopsIn E := by
  refine AbstractDevice.configure_induction (.pure ()) (fun _ _ hx hy ↦ hx.bind fun _ ↦ hy)
    ?_ ?_ ?_ ?_ ?_ ?_
  · exact fun value hvalue ↦ stopsIn_setter hE .address (h.imp_right (·.address value hvalue))
  · exact fun value hvalue ↦
      stopsIn_setter hE .destination (h.imp_right (·.destination value hvalue))
  · exact fun value _ ↦ .pure ()
  · exact fun value hvalue ↦ stopsIn_setter hE .netmask (h.imp_right (·.netmask value hvalue))
  · exact fun value _ ↦ .bind (stopsIn_onHost fun _ ↦ hE.ioctl _) fun _ ↦ .modify _
  · exact fun value _ ↦ .bind (stopsIn_onHost fun _ ↦ hE.ioctl _) fun _ ↦
      stopsIn_onHost fun _ ↦ hE.ioctl _

end Device

end StopsIn

/-! ## Setters -/

/-- The kernel refuses the next request. -/
def Host.Refuses (h : Host) : Prop := h.refusals.head?.join ≠ none

instance (h : Host) : Decidable h.Refuses :=
  inferInstanceAs (Decidable (h.refusals.head?.join ≠ none))

/-- The host after one more request that did nothing. -/
def Host.skip (h : Host) : Host := { h with refusals := h.refusals.tail }

namespace Device

variable {ipnet : Ipnet} {dev : Device} {s : Process Host} {c : Component} {value : IpAddr}

/-- The setter of `c` stopped with `stop` because the kernel, after it had removed the alias,
refused the new one. -/
def RefusedAlias (s : Process Host) (stop : Stop Error) : Prop :=
  ¬ s.host.Refuses ∧ ∃ e, s.host.skip.refusals.head?.join = some e ∧ stop = .err (.io (.os e))

/-- The setter of `c` leaves the alias as it was if it does not return, unless the kernel
refused the new one. -/
def Atomic (ipnet : Ipnet) (c : Component) (value : IpAddr) (dev : Device) (s : Process Host) :
    Prop :=
  ∀ stop, (setter ipnet c value (dev, s)).1 = .error stop →
    (setter ipnet c value (dev, s)).2.2.host.installed = s.host.installed ∨ RefusedAlias s stop

/-- The kernel refuses to remove the alias, or there is none, or there is all that the new one
is made of. -/
def Replaceable (value : IpAddr) (dev : Device) (s : Process Host) : Prop :=
  s.host.Refuses ∨ s.host.installed = none ∨ dev.route ≠ none ∧ ∃ ip, value = .v4 ip

/-- The triple a setter asks for. -/
def replaced (c : Component) (value : IpAddr) (r : Route) : IpAddr × IpAddr × IpAddr :=
  match c with
  | .address => (value, .v4 r.dest, .v4 r.netmask)
  | .destination => (.v4 r.addr, value, .v4 r.netmask)
  | .netmask => (.v4 r.addr, .v4 r.dest, value)

theorem setter_eq_replaceAlias : setter ipnet c value = replaceAlias ipnet (replaced c value) := by
  cases c <;> rfl

/-- The process after the alias was removed. -/
def removed (s : Process Host) : Process Host :=
  { s with host := { s.host.skip with installed := none } }

/-- A setter whose first request is refused does nothing. -/
theorem setter_of_refuses (h : s.host.Refuses) :
    ∃ e, setter ipnet c value (dev, s) =
      (.error (.err (.io (.os e))), dev, { s with host := s.host.skip }) := by
  rcases hr : s.host.refusals.head?.join with _ | e
  · exact absurd hr h
  · refine ⟨e, ?_⟩
    rw [setter_eq_replaceAlias]
    refine Call.bind_of_error ?_ _
    rw [onHost_apply, Host.siocdifaddr, Host.ioctl, hr]
    rfl

/-- A setter whose first request is granted goes on without the alias. -/
theorem setter_of_granted (h : ¬ s.host.Refuses) :
    setter ipnet c value (dev, s) =
      (previous >>= fun r ↦ setAlias ipnet (replaced c value r).1 (replaced c value r).2.1
        (replaced c value r).2.2) (dev, removed s) := by
  have hgranted : onHost (fun dev ↦ Host.siocdifaddr dev.request) (dev, s) =
      (.ok (), dev, removed s) := by
    rw [onHost_apply, Host.siocdifaddr, Host.ioctl, Decidable.not_not.1 h]
    rfl
  rw [setter_eq_replaceAlias]
  exact Call.bind_of_ok hgranted _

/-- Without a cached route that is the end of it. -/
theorem setter_of_no_route (h : ¬ s.host.Refuses) (hroute : dev.route = none) :
    setter ipnet c value (dev, s) = (.error (.err .invalidConfig), dev, removed s) := by
  rw [setter_of_granted h]
  refine Call.bind_of_error ?_ _
  rw [previous, hroute]

/-- With a cached route the alias is set. -/
theorem setter_of_route {r : Route} (h : ¬ s.host.Refuses) (hroute : dev.route = some r) :
    setter ipnet c value (dev, s) = setAlias ipnet (replaced c value r).1 (replaced c value r).2.1
      (replaced c value r).2.2 (dev, removed s) := by
  rw [setter_of_granted h]
  refine Call.bind_of_ok ?_ _
  rw [previous, hroute]

/-- With an argument that is not an IPv4 address that panics. -/
theorem setAlias_replaced_v6 {r : Route} (ip : BitVec 128) :
    setAlias ipnet (replaced c (.v6 ip) r).1 (replaced c (.v6 ip) r).2.1
      (replaced c (.v6 ip) r).2.2 = .panic := by
  cases c <;> rfl

/-- With one that is, it is the alias on IPv4 addresses. -/
theorem setAlias_replaced_v4 (ipnet : Ipnet) (c : Component) (r : Route) (ip : Ipv4Addr) :
    ∃ addr dest mask, setAlias ipnet (replaced c (.v4 ip) r).1 (replaced c (.v4 ip) r).2.1
      (replaced c (.v4 ip) r).2.2 = setAliasV4 ipnet addr dest mask := by
  cases c <;> exact ⟨_, _, _, rfl⟩

/-- Setting an alias returns unless the kernel refuses it. -/
theorem setAliasV4_error {addr dest mask : Ipv4Addr} {stop : Stop Error}
    (h : (setAliasV4 ipnet addr dest mask (dev, s)).1 = .error stop) :
    ∃ e, s.host.refusals.head?.join = some e ∧ stop = .err (.io (.os e)) ∧
      (setAliasV4 ipnet addr dest mask (dev, s)).2.2.host.installed = s.host.installed := by
  rcases hr : s.host.refusals.head?.join with _ | e
  · have hgranted : (onHost (fun dev ↦ Host.siocaifaddr (aliasRequest dev addr dest mask))
        (dev, s)).1 = .ok () := by
      rw [onHost_apply, Host.siocaifaddr, Host.ioctl, hr]
    rw [setAliasV4, Call.bind_of_ok (Prod.ext hgranted rfl),
      Call.catching_pure_of_ne_panic fun h ↦ stopsIn_setRoute _ _ _ h rfl] at h
    cases h
  · have hrefused : onHost (fun dev ↦ Host.siocaifaddr (aliasRequest dev addr dest mask)) (dev, s) =
        (.error (.err (.io (.os e))), dev, { s with host := s.host.skip }) := by
      rw [onHost_apply, Host.siocaifaddr, Host.ioctl, hr]
      rfl
    rw [setAliasV4, Call.bind_of_error hrefused] at h ⊢
    cases h
    exact ⟨e, rfl, rfl, rfl⟩

/-- **One call.**  A setter is atomic exactly if all that the new alias is made of is there,
or there is none to lose. -/
theorem atomic_iff_replaceable : Atomic ipnet c value dev s ↔ Replaceable value dev s := by
  by_cases hrefuses : s.host.Refuses
  · obtain ⟨e, he⟩ : ∃ e, setter ipnet c value (dev, s) =
        (.error (.err (.io (.os e))), dev, { s with host := s.host.skip }) :=
      setter_of_refuses hrefuses
    refine ⟨fun _ ↦ .inl hrefuses, fun _ stop _ ↦ .inl ?_⟩
    rw [he]
    rfl
  -- A setter that stops before it asks for the new alias is atomic if there was none.
  have hstops (stop : Stop Error) (hnot : ∀ e, stop ≠ .err (.io (.os e)))
      (hsetter : setter ipnet c value (dev, s) = (.error stop, dev, removed s)) :
      Atomic ipnet c value dev s ↔ s.host.installed = none := by
    rw [Atomic, hsetter]
    constructor
    · intro h
      rcases h stop rfl with h | ⟨-, e, -, he⟩
      · exact h.symm
      · exact absurd he (hnot e)
    · intro h _ _
      exact .inl h.symm
  rcases hroute : dev.route with _ | r
  · rw [hstops (.err .invalidConfig) (fun _ ↦ (nomatch ·)) (setter_of_no_route hrefuses hroute)]
    simp [Replaceable, hrefuses, hroute]
  · cases value with
    | v4 ip =>
        refine ⟨fun _ ↦ .inr (.inr ⟨by simp [hroute], ip, rfl⟩), fun _ stop hstop ↦ .inr ?_⟩
        obtain ⟨addr, dest, mask, halias⟩ := setAlias_replaced_v4 ipnet c r ip
        rw [setter_of_route hrefuses hroute, halias] at hstop
        obtain ⟨e, he, hstop, -⟩ := setAliasV4_error hstop
        exact ⟨hrefuses, e, he, hstop⟩
    | v6 ip =>
        have hpanic : setter ipnet c (.v6 ip) (dev, s) = (.error .panic, dev, removed s) := by
          rw [setter_of_route hrefuses hroute, setAlias_replaced_v6]
          rfl
        rw [hstops .panic (fun _ ↦ (nomatch ·)) hpanic]
        simp [Replaceable, hrefuses, hroute]

end Device

/-! ## Runs -/

/-- The action does not lose the alias if it fails. -/
def Life.Atomic (ipnet : Ipnet) : Life → Action → Prop
  | (some dev, s), .call (.set c value) => Device.Atomic ipnet c value dev s
  | _, _ => True

/-- A setter is only called if it can do what it is asked for, or has nothing to lose. -/
def Life.Replaceable : Life → Action → Prop
  | (some dev, s), .call (.set _ value) => Device.Replaceable value dev s
  | _, _ => True

/-- **The setters of a FreeBSD device are atomic exactly while each is called with an IPv4
address and a cached route, or has nothing to lose**: in every run of a program, whatever the
kernel and the `route` command answer, and however the calls end. -/
theorem setters_atomic_iff (ipnet : Ipnet) (s : Life) (l : List (Action × Life))
    (hrun : (lives ipnet).Run s l) :
    AllSteps (fun s x _ ↦ s.Atomic ipnet x) s l ↔ AllSteps (fun s x _ ↦ s.Replaceable x) s l := by
  refine hrun.allSteps_iff (I := fun _ ↦ True) ?_ (fun _ _ _ _ _ _ ↦ trivial) trivial
  intro s x t _ hstep
  cases hstep with
  | new h => exact Iff.rfl
  | newStops h => exact Iff.rfl
  | @call op dev dev' s t r h =>
      cases op with
      | set c value => exact Device.atomic_iff_replaceable
      | setBroadcast value => exact Iff.rfl
      | setMtu value => exact Iff.rfl
      | enabled value => exact Iff.rfl
      | setTunName value => exact Iff.rfl

/-- A host on which only the first `route` command fails. -/
def unroutedHost : Host :=
  { flakyHost with
    routes := { table := [], failures := [some (.status "network is unreachable")] } }

/-- The address of a new device whose route was added can be set. -/
theorem setters_atomic_set_address :
    ∃ l, (lives .std).Run (none, ⟨.initial, flakyHost⟩) l ∧
      l.map Prod.fst =
        [.new { platformConfig := {} }, .call (.set .address (.v4 (.new 10 9 9 9)))] ∧
      AllSteps (fun s x _ ↦ Life.Atomic .std s x) (none, ⟨.initial, flakyHost⟩) l := by
  have hrun : ∃ dev t dev' u, dev.route ≠ none ∧
      (lives .std).Run (none, ⟨.initial, flakyHost⟩)
        [(.new { platformConfig := {} }, some dev, t),
          (.call (.set .address (.v4 (.new 10 9 9 9))), some dev', u)] :=
    ⟨_, _, _, _, Option.some_ne_none _, .cons (.new rfl) (.cons (.call rfl) (.nil _))⟩
  obtain ⟨dev, t, dev', u, hroute, hrun⟩ := hrun
  have hreplaceable : Device.Replaceable (.v4 (.new 10 9 9 9)) dev t := .inr (.inr ⟨hroute, _, rfl⟩)
  exact ⟨_, hrun, rfl, (setters_atomic_iff .std _ _ hrun).2 ⟨trivial, hreplaceable, trivial⟩⟩

/-- The address of a new device whose route could not be added cannot be set, and is gone
after the attempt; and so it is after an attempt to set an IPv6 address. -/
theorem set_address_removes_alias :
    (∃ dev t dev' u,
        Device.new .std { platformConfig := {} } ⟨.initial, unroutedHost⟩ = (.ok dev, t) ∧
        t.host.installed = some ⟨.new 10 0 0 1, .new 10 0 0 255, .new 255 255 255 0⟩ ∧
        Device.setAddress .std (.v4 (.new 10 9 9 9)) (dev, t) =
          (.error (.err .invalidConfig), dev', u) ∧
        u.host.installed = none) ∧
      ∃ dev t dev' u,
        Device.new .std { platformConfig := {} } ⟨.initial, flakyHost⟩ = (.ok dev, t) ∧
        t.host.installed = some ⟨.new 10 0 0 1, .new 10 0 0 255, .new 255 255 255 0⟩ ∧
        Device.setAddress .std (.v6 1) (dev, t) = (.error .panic, dev', u) ∧
        u.host.installed = none :=
  ⟨⟨_, _, _, _, rfl, rfl, rfl, rfl⟩, _, _, _, _, rfl, rfl, rfl, rfl⟩

end RustTun.FreeBsd
