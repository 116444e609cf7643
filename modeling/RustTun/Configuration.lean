import RustTun.Base.Call
import RustTun.Error
import RustTun.Net
import RustTun.Posix.Fd

/-!
# Configurations and how a device takes one over

`Configuration` is what the builder produced: every field a caller may leave out is an
`Option`.  `configure` is the provided method of `AbstractDevice`, which hands each
field that was given to the setter of the platform and stops at the first one that
fails.  `P` is the part of the configuration that differs from platform to platform.
-/

namespace RustTun

/-- The bytes of a `String`. -/
abbrev Name := List UInt8

/-- The `Layer` of a configuration. -/
inductive Layer where
  | l2
  | l3
deriving DecidableEq, Repr

/-- `DEFAULT_MTU` of the platforms other than Windows. -/
def defaultMtu : UInt16 := 1500

/-- `Configuration`. -/
structure Configuration (P : Type) where
  tunName : Option Name := none
  platformConfig : P
  address : Option IpAddr := none
  destination : Option IpAddr := none
  broadcast : Option IpAddr := none
  netmask : Option IpAddr := none
  mtu : Option UInt16 := none
  enabled : Option Bool := none
  layer : Option Layer := none
  queues : Option Nat := none
  rawFd : Option RawFd := none
  closeFdOnDrop : Option Bool := none

/-- The address, destination and netmask that the macOS and FreeBSD devices start with. -/
def Configuration.initialAlias {P : Type} (config : Configuration P) : IpAddr × IpAddr × IpAddr :=
  (config.address.getD (.v4 (.new 10 0 0 1)),
    config.destination.getD (.v4 (.new 10 0 0 255)),
    config.netmask.getD (.v4 (.new 255 255 255 0)))

/-- Every address that was given is an IPv4 address. -/
structure Configuration.Ipv4Only {P : Type} (config : Configuration P) : Prop where
  address : ∀ value ∈ config.address, value.IsIpv4
  destination : ∀ value ∈ config.destination, value.IsIpv4
  broadcast : ∀ value ∈ config.broadcast, value.IsIpv4
  netmask : ∀ value ∈ config.netmask, value.IsIpv4

/-- So is then what a device starts with. -/
theorem Configuration.Ipv4Only.initialAlias {P : Type} {config : Configuration P}
    (h : config.Ipv4Only) : config.initialAlias.1.IsIpv4 ∧ config.initialAlias.2.1.IsIpv4 ∧
      config.initialAlias.2.2.IsIpv4 := by
  have hgetD {field : Option IpAddr} {default : Ipv4Addr} (hfield : ∀ value ∈ field, value.IsIpv4) :
      (field.getD (.v4 default)).IsIpv4 := by
    cases field with
    | none => trivial
    | some value => exact hfield value rfl
  exact ⟨hgetD h.address, hgetD h.destination, hgetD h.netmask⟩

/-- The setters of `AbstractDevice`, as calls on a state `σ` that includes the device. -/
structure AbstractDevice (σ : Type) where
  setAddress : IpAddr → Call Error σ Unit
  setDestination : IpAddr → Call Error σ Unit
  setBroadcast : IpAddr → Call Error σ Unit
  setNetmask : IpAddr → Call Error σ Unit
  setMtu : UInt16 → Call Error σ Unit
  enabled : Bool → Call Error σ Unit

namespace AbstractDevice

variable {P σ : Type}

/-- `if let Some(value) = field { set(value)?; }`. -/
def whenGiven {α : Type} (field : Option α) (set : α → Call Error σ Unit) : Call Error σ Unit :=
  match field with
  | some value => set value
  | none => pure ()

/-- `AbstractDevice::configure`. -/
def configure (d : AbstractDevice σ) (config : Configuration P) : Call Error σ Unit := do
  whenGiven config.address d.setAddress
  whenGiven config.destination d.setDestination
  whenGiven config.broadcast d.setBroadcast
  whenGiven config.netmask d.setNetmask
  whenGiven config.mtu d.setMtu
  whenGiven config.enabled d.enabled

/-- What holds of doing nothing and of each setter on the value it is given, and of two calls
in sequence if of both, holds of taking the configuration over. -/
theorem configure_induction {C : Call Error σ Unit → Prop} (hpure : C (pure ()))
    (hbind : ∀ x y : Call Error σ Unit, C x → C y → C (x >>= fun _ ↦ y))
    {d : AbstractDevice σ} {config : Configuration P}
    (haddress : ∀ value ∈ config.address, C (d.setAddress value))
    (hdestination : ∀ value ∈ config.destination, C (d.setDestination value))
    (hbroadcast : ∀ value ∈ config.broadcast, C (d.setBroadcast value))
    (hnetmask : ∀ value ∈ config.netmask, C (d.setNetmask value))
    (hmtu : ∀ value ∈ config.mtu, C (d.setMtu value))
    (henabled : ∀ value ∈ config.enabled, C (d.enabled value)) : C (d.configure config) := by
  have hgiven {α : Type} {field : Option α} {set : α → Call Error σ Unit}
      (h : ∀ value ∈ field, C (set value)) : C (whenGiven field set) := by
    cases field with
    | none => exact hpure
    | some value => exact h value rfl
  exact hbind _ _ (hgiven haddress) <| hbind _ _ (hgiven hdestination) <|
    hbind _ _ (hgiven hbroadcast) <| hbind _ _ (hgiven hnetmask) <|
    hbind _ _ (hgiven hmtu) (hgiven henabled)

/-- The setters keep the invariant `I` when they are given the values of `config`. -/
structure Keeps (I : σ → Prop) (config : Configuration P) (d : AbstractDevice σ) : Prop where
  setAddress : ∀ value ∈ config.address, (d.setAddress value).Keeps I
  setDestination : ∀ value ∈ config.destination, (d.setDestination value).Keeps I
  setBroadcast : ∀ value ∈ config.broadcast, (d.setBroadcast value).Keeps I
  setNetmask : ∀ value ∈ config.netmask, (d.setNetmask value).Keeps I
  setMtu : ∀ value ∈ config.mtu, (d.setMtu value).Keeps I
  enabled : ∀ value ∈ config.enabled, (d.enabled value).Keeps I

/-- What the setters keep, taking the configuration over keeps. -/
theorem Keeps.configure {I : σ → Prop} {config : Configuration P} {d : AbstractDevice σ}
    (h : d.Keeps I config) : (d.configure config).Keeps I :=
  configure_induction (.pure ()) (fun _ _ hx hy ↦ hx.bind fun _ ↦ hy) h.setAddress
    h.setDestination h.setBroadcast h.setNetmask h.setMtu h.enabled

/-- The setters preserve the invariant `I`, however they end. -/
structure Preserves (I : σ → Prop) (d : AbstractDevice σ) : Prop where
  setAddress (value : IpAddr) : (d.setAddress value).Preserves I
  setDestination (value : IpAddr) : (d.setDestination value).Preserves I
  setBroadcast (value : IpAddr) : (d.setBroadcast value).Preserves I
  setNetmask (value : IpAddr) : (d.setNetmask value).Preserves I
  setMtu (value : UInt16) : (d.setMtu value).Preserves I
  enabled (value : Bool) : (d.enabled value).Preserves I

/-- What the setters preserve, taking a configuration over preserves. -/
theorem Preserves.configure {I : σ → Prop} {d : AbstractDevice σ} (h : d.Preserves I)
    (config : Configuration P) : (d.configure config).Preserves I :=
  configure_induction (.pure ()) (fun _ _ hx hy ↦ hx.bind fun _ ↦ hy)
    (fun value _ ↦ h.setAddress value) (fun value _ ↦ h.setDestination value)
    (fun value _ ↦ h.setBroadcast value) (fun value _ ↦ h.setNetmask value)
    (fun value _ ↦ h.setMtu value) (fun value _ ↦ h.enabled value)

end AbstractDevice

end RustTun
