import RustTun.Configuration

/-!
# The Windows device

Addresses are set through the adapter of the wintun session, which only takes IPv4 addresses.
There is nothing to do about the broadcast address, the MTU, and whether the interface is up.
-/

namespace RustTun.Windows

/-- `wintun::Adapter`, on a host `κ`. -/
structure Adapter (κ : Type) where
  /-- `Adapter::set_address`. -/
  setAddress : Ipv4Addr → κ → Except WintunError Unit × κ
  /-- `Adapter::set_gateway`. -/
  setGateway : Option Ipv4Addr → κ → Except WintunError Unit × κ
  /-- `Adapter::set_netmask`. -/
  setNetmask : Ipv4Addr → κ → Except WintunError Unit × κ

namespace Device

variable {κ : Type} (adapter : Adapter κ)

/-- The `?` on a call of the adapter. -/
def onAdapter (call : κ → Except WintunError Unit × κ) : Call Error κ Unit := fun s ↦
  match call s with
  | (.ok (), s) => (.ok (), s)
  | (.error e, s) => (.error (.err (.wintunError e)), s)

/-- `Device::set_address`. -/
def setAddress : IpAddr → Call Error κ Unit
  | .v6 _ => .panic
  | .v4 value => onAdapter (adapter.setAddress value)

/-- `Device::set_destination`, which sets the default gateway. -/
def setDestination : IpAddr → Call Error κ Unit
  | .v6 _ => .panic
  | .v4 value => onAdapter (adapter.setGateway (some value))

/-- `Device::set_broadcast`. -/
def setBroadcast (_ : IpAddr) : Call Error κ Unit := pure ()

/-- `Device::set_netmask`. -/
def setNetmask : IpAddr → Call Error κ Unit
  | .v6 _ => .panic
  | .v4 value => onAdapter (adapter.setNetmask value)

/-- `Device::set_mtu`. -/
def setMtu (_ : UInt16) : Call Error κ Unit := pure ()

/-- `Device::enabled`. -/
def enabled (_ : Bool) : Call Error κ Unit := pure ()

/-- `impl AbstractDevice for Device`. -/
def abstractDevice : AbstractDevice κ where
  setAddress := setAddress adapter
  setDestination := setDestination adapter
  setBroadcast := setBroadcast
  setNetmask := setNetmask adapter
  setMtu := setMtu
  enabled := enabled

theorem stopsIn_onAdapter (call : κ → Except WintunError Unit × κ) :
    (onAdapter call).StopsIn (· ≠ .panic) := by
  intro s stop h
  rw [onAdapter] at h
  split at h
  · cases h
  · cases h
    intro hpanic
    cases hpanic

/-- Taking a configuration over only panics on an address that is not an IPv4 address. -/
theorem stopsIn_configure {P : Type} {config : Configuration P} (h : config.Ipv4Only) :
    ((abstractDevice adapter).configure config).StopsIn (· ≠ .panic) := by
  refine AbstractDevice.configure_induction (.pure ()) (fun _ _ hx hy ↦ hx.bind fun _ ↦ hy)
    ?_ ?_ ?_ ?_ ?_ ?_
  · intro value hvalue
    obtain ⟨ip, rfl⟩ := (h.address value hvalue).eq_v4
    exact stopsIn_onAdapter _
  · intro value hvalue
    obtain ⟨ip, rfl⟩ := (h.destination value hvalue).eq_v4
    exact stopsIn_onAdapter _
  · exact fun value _ ↦ .pure ()
  · intro value hvalue
    obtain ⟨ip, rfl⟩ := (h.netmask value hvalue).eq_v4
    exact stopsIn_onAdapter _
  · exact fun value _ ↦ .pure ()
  · exact fun value _ ↦ .pure ()

end Device

end RustTun.Windows
