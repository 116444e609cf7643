import RustTun.Builder
import RustTun.FreeBsd.Atomic
import RustTun.MacOs.Routes
import RustTun.Windows.Device

/-!
# Configurations without IPv6 addresses

The setters of the macOS, FreeBSD and Windows devices are not implemented for IPv6 addresses and
panic on them; there is no other way in which taking over a configuration, or setting the alias
that a device starts with, panics.  So it is the builder that has to keep IPv6 addresses out.

`builder_iff` says when it does: the conversion of a text does not care which kind of address it
is, and so an IPv6 address gets in as a text.
-/

namespace RustTun

/-! ## macOS -/

namespace MacOs

/-- A request does not panic. -/
theorem Host.stopsIn_ioctl {α : Type} (effect : Host → α × Host) :
    (Host.ioctl effect).StopsIn (· ≠ .panic) := by
  intro h stop hstop
  rw [Host.ioctl] at hstop
  split at hstop
  · cases hstop
    intro hpanic
    cases hpanic
  · cases hstop

namespace RouteBook

variable {ipnet : Ipnet}

theorem stopsIn_orInvalidConfig {α : Type} (a : Option α) :
    (orInvalidConfig a).StopsIn (· ≠ .panic) := by
  cases a with
  | none => exact .fail (nomatch ·)
  | some a => exact .pure a

theorem stopsIn_run (command : RouteCommand) : (run command).StopsIn (· ≠ .panic) :=
  fun b ↦ Routes.stopsIn_runCommand command b.routes

/-- Replacing the route does not panic. -/
theorem stopsIn_setRoute (route : Route) : (setRoute ipnet route).StopsIn (· ≠ .panic) := by
  have hadd : (addRoute ipnet route).StopsIn (· ≠ .panic) :=
    .bind (stopsIn_orInvalidConfig _) fun _ ↦ .bind (stopsIn_run _) fun _ ↦ .modify _
  refine .bind .get fun b ↦ ?_
  cases b.cached with
  | none => exact hadd
  | some v =>
      exact .bind (.bind (stopsIn_orInvalidConfig _) fun _ ↦
        .bind (stopsIn_orInvalidConfig _) fun _ ↦ stopsIn_run _) fun _ ↦ hadd

end RouteBook

namespace Device

variable {ipnet : Ipnet}

theorem stopsIn_setRoute (route : Route) : (setRoute ipnet route).StopsIn (· ≠ .panic) :=
  fun s ↦ RouteBook.stopsIn_setRoute route (book s)

/-- Neither does a request on the control socket. -/
theorem stopsIn_control {α : Type} (effect : Ifreq → Host → α × Host) :
    (control fun req ↦ Host.ioctl (effect req)).StopsIn (· ≠ .panic) := by
  refine stopsIn_onHost fun dev ↦ ?_
  cases hreq : dev.request with
  | ok req =>
      rw [withRequest_of_ok _ hreq]
      exact Host.stopsIn_ioctl _
  | error e =>
      rw [withRequest_of_error _ hreq]
      exact .fail (nomatch ·)

/-- A setter only panics on an address that is not an IPv4 address. -/
theorem stopsIn_setAlias {addr broadaddr mask : IpAddr}
    (h : addr.IsIpv4 ∧ broadaddr.IsIpv4 ∧ mask.IsIpv4) :
    (setAlias ipnet addr broadaddr mask).StopsIn (· ≠ .panic) := by
  obtain ⟨haddr, hbroadaddr, hmask⟩ := h
  obtain ⟨a, rfl⟩ := haddr.eq_v4
  obtain ⟨b, rfl⟩ := hbroadaddr.eq_v4
  obtain ⟨m, rfl⟩ := hmask.eq_v4
  exact .bind (stopsIn_control _) fun _ ↦ .catching (stopsIn_setRoute _) fun _ ↦ .pure ()

theorem stopsIn_setComponent (ifru : IpAddr → UInt16 → IfrIfru) (c : Component) {value : IpAddr}
    (h : value.IsIpv4) : (setComponent ipnet ifru c value).StopsIn (· ≠ .panic) := by
  obtain ⟨ip, rfl⟩ := h.eq_v4
  refine .bind (stopsIn_control _) fun _ ↦ .bind .get fun s ↦ ?_
  cases s.1.route with
  | none => exact Call.StopsIn.pure ()
  | some route => exact stopsIn_setRoute _

/-- Taking a configuration over only panics on an address that is not an IPv4 address. -/
theorem stopsIn_configure {P : Type} {config : Configuration P} (h : config.Ipv4Only) :
    ((abstractDevice ipnet).configure config).StopsIn (· ≠ .panic) := by
  refine AbstractDevice.configure_induction (.pure ()) (fun _ _ hx hy ↦ hx.bind fun _ ↦ hy)
    ?_ ?_ ?_ ?_ ?_ ?_
  · exact fun value hvalue ↦ stopsIn_setComponent _ _ (h.address value hvalue)
  · exact fun value hvalue ↦ stopsIn_setComponent _ _ (h.destination value hvalue)
  · intro value hvalue
    obtain ⟨ip, rfl⟩ := (h.broadcast value hvalue).eq_v4
    exact stopsIn_control _
  · exact fun value hvalue ↦ stopsIn_setComponent _ _ (h.netmask value hvalue)
  · exact fun value _ ↦ .bind (stopsIn_control _) fun _ ↦ .modify _
  · exact fun value _ ↦ .bind (stopsIn_control _) fun _ ↦ stopsIn_control _

end Device

end MacOs

/-! ## All of them -/

/-- Each address of the configuration is an IPv4 address if there is one, and neither taking it
over nor setting the alias that a device starts with panics on any of the platforms. -/
structure Configuration.Harmless {P : Type} (config : Configuration P) : Prop where
  ipv4Only : config.Ipv4Only
  macOsConfigure (ipnet : Ipnet) (s : MacOs.Device × Process MacOs.Host) :
    ((MacOs.Device.abstractDevice ipnet).configure config s).1 ≠ .error .panic
  macOsSetAlias (ipnet : Ipnet) (s : MacOs.Device × Process MacOs.Host) :
    (MacOs.Device.setAlias ipnet config.initialAlias.1 config.initialAlias.2.1
      config.initialAlias.2.2 s).1 ≠ .error .panic
  freeBsdConfigure (ipnet : Ipnet) (s : FreeBsd.Device × Process FreeBsd.Host) :
    ((FreeBsd.Device.abstractDevice ipnet).configure config s).1 ≠ .error .panic
  freeBsdSetAlias (ipnet : Ipnet) (s : FreeBsd.Device × Process FreeBsd.Host) :
    (FreeBsd.Device.setAlias ipnet config.initialAlias.1 config.initialAlias.2.1
      config.initialAlias.2.2 s).1 ≠ .error .panic
  windowsConfigure {κ : Type} (adapter : Windows.Adapter κ) (s : κ) :
    ((Windows.Device.abstractDevice adapter).configure config s).1 ≠ .error .panic

/-- IPv4 addresses are all it takes. -/
theorem Configuration.harmless_iff {P : Type} {config : Configuration P} :
    config.Harmless ↔ config.Ipv4Only := by
  have husual : FreeBsd.Usual (· ≠ .panic) :=
    { os := fun _ h ↦ by cases h
      invalidConfig := fun h ↦ by cases h }
  constructor
  · exact Harmless.ipv4Only
  · intro h
    exact
      { ipv4Only := h
        macOsConfigure := fun _ s hs ↦ MacOs.Device.stopsIn_configure h s _ hs rfl
        macOsSetAlias := fun _ s hs ↦ MacOs.Device.stopsIn_setAlias h.initialAlias s _ hs rfl
        freeBsdConfigure := fun _ s hs ↦
          FreeBsd.Device.stopsIn_configure husual (.inr h) s _ hs rfl
        freeBsdSetAlias := fun _ s hs ↦
          FreeBsd.Device.stopsIn_setAlias husual (.inr h.initialAlias) s _ hs rfl
        windowsConfigure := fun _ s hs ↦ Windows.Device.stopsIn_configure _ h s _ hs rfl }

/-- **The builder only makes configurations that no device panics on, exactly if the last call
about each address is given no text with a colon and nothing that another crate converts into an
IPv6 address.** -/
theorem builder_iff {P : Type} (unix : Bool) (p : P) (calls : List (BuilderCall P))
    (config : Configuration P) (h : build unix calls (.default p) = (.ok (), config)) :
    config.Harmless ↔ ∀ field, ∀ arg ∈ lastArgument field calls, ¬ arg.Ipv6 := by
  rw [Configuration.harmless_iff]
  exact ipv4Only_build_iff h

/-- The address `"10.0.0.1"` after `"::1"`, and a mask of four octets. -/
theorem builder_ten :
    let calls : List (BuilderCall MacOs.PlatformConfig) :=
      [.address (.text [58, 58, 49]), .address (.text [49, 48, 46, 48, 46, 48, 46, 49]),
        .netmask (.octets (255, 255, 255, 0)), .up]
    let config : Configuration MacOs.PlatformConfig :=
      { platformConfig := {}, address := some (.v4 (.new 10 0 0 1))
        netmask := some (.v4 (.new 255 255 255 0)), enabled := some true }
    build true calls (.default {}) = (.ok (), config) ∧ config.Harmless := by
  intro calls config
  have hbuild : build true calls (.default {}) = (.ok (), config) := rfl
  refine ⟨hbuild, (builder_iff true {} calls config hbuild).2 fun field arg harg ↦ ?_⟩
  cases field with
  | address =>
      cases harg
      show IpText.colon ∉ [49, 48, 46, 48, 46, 48, 46, 49]
      decide
  | netmask =>
      cases harg
      exact id
  | destination | broadcast => cases harg

/-- The address `"::1"` gets in as a text, and a macOS device of that configuration panics after
its interface was opened. -/
theorem ipv6_text_gets_in :
    let config : Configuration MacOs.PlatformConfig :=
      { platformConfig := {}, address := some (.v6 1) }
    build true [.address (.text [58, 58, 49])] (.default {}) = (.ok (), config) ∧
      ¬ config.Harmless ∧
      ∃ t, MacOs.Device.new .std config MacOs.startProcess = (.error .panic, t) ∧
        t.host.unit = some 0 := by
  intro config
  refine ⟨rfl, fun h ↦ ?_, _, rfl, rfl⟩
  exact h.ipv4Only.address (.v6 1) rfl

end RustTun
