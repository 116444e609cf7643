import RustTun.Address

/-!
# The configuration builder

The methods of `Configuration` change one field each.  The four that take an address convert
what they are given and `unwrap` the result, so that they panic where the conversion fails.
`raw_handle`, which only Windows has, is left out: nothing reads what it stores.

A `BuilderCall` is a call of one of the methods.  A sequence of calls returns if all that is to be
an address can be converted into one, and each field is then what the last call about it gave
(`build_eq_ok_iff`), for an address what it was converted into (`build_field`).
-/

namespace RustTun

open IntoAddress

universe u

variable {P : Type}

/-- `Configuration::default` with the platform configuration `p`. -/
def Configuration.default (p : P) : Configuration P := { platformConfig := p }

namespace Builder

/-- What the four methods that take an address have in common: `unwrap` the converted value
and store it. -/
def storeAddress {A : Type u} [IntoAddress A] (value : A)
    (store : IpAddr → Configuration P → Configuration P) : Call Error (Configuration P) Unit :=
  match intoAddress value with
  | .ok ip => .modify (store ip)
  | .error _ => .panic

/-- `Configuration::address`. -/
def address {A : Type u} [IntoAddress A] (value : A) : Call Error (Configuration P) Unit :=
  storeAddress value fun ip config ↦ { config with address := some ip }

/-- `Configuration::destination`. -/
def destination {A : Type u} [IntoAddress A] (value : A) : Call Error (Configuration P) Unit :=
  storeAddress value fun ip config ↦ { config with destination := some ip }

/-- `Configuration::broadcast`. -/
def broadcast {A : Type u} [IntoAddress A] (value : A) : Call Error (Configuration P) Unit :=
  storeAddress value fun ip config ↦ { config with broadcast := some ip }

/-- `Configuration::netmask`. -/
def netmask {A : Type u} [IntoAddress A] (value : A) : Call Error (Configuration P) Unit :=
  storeAddress value fun ip config ↦ { config with netmask := some ip }

/-- `Configuration::platform_config`. -/
def platformConfig (f : P → P) : Call Error (Configuration P) Unit :=
  .modify fun config ↦ { config with platformConfig := f config.platformConfig }

/-- `Configuration::tun_name`, and `Configuration::name`. -/
def tunName (tunName : Name) : Call Error (Configuration P) Unit :=
  .modify fun config ↦ { config with tunName := some tunName }

/-- `Configuration::mtu`, which only does something on unix. -/
def mtu (unix : Bool) (value : UInt16) : Call Error (Configuration P) Unit :=
  if unix then .modify fun config ↦ { config with mtu := some value } else pure ()

/-- `Configuration::up`. -/
def up : Call Error (Configuration P) Unit :=
  .modify fun config ↦ { config with enabled := some true }

/-- `Configuration::down`. -/
def down : Call Error (Configuration P) Unit :=
  .modify fun config ↦ { config with enabled := some false }

/-- `Configuration::layer`. -/
def layer (value : Layer) : Call Error (Configuration P) Unit :=
  .modify fun config ↦ { config with layer := some value }

/-- `Configuration::queues`. -/
def queues (value : Nat) : Call Error (Configuration P) Unit :=
  .modify fun config ↦ { config with queues := some value }

/-- `Configuration::raw_fd`. -/
def rawFd (fd : RawFd) : Call Error (Configuration P) Unit :=
  .modify fun config ↦ { config with rawFd := some fd }

/-- `Configuration::close_fd_on_drop`. -/
def closeFdOnDrop (value : Bool) : Call Error (Configuration P) Unit :=
  .modify fun config ↦ { config with closeFdOnDrop := some value }

end Builder

/-! ## Calls -/

/-- A call of a method of the builder. -/
inductive BuilderCall (P : Type) : Type 1
  | address (value : Argument)
  | destination (value : Argument)
  | broadcast (value : Argument)
  | netmask (value : Argument)
  | platformConfig (f : P → P)
  | tunName (value : Name)
  | mtu (value : UInt16)
  | up
  | down
  | layer (value : Layer)
  | queues (value : Nat)
  | rawFd (fd : RawFd)
  | closeFdOnDrop (value : Bool)

/-- The method that is called. -/
def BuilderCall.run (unix : Bool) : BuilderCall P → Call Error (Configuration P) Unit
  | .address value => Builder.address value
  | .destination value => Builder.destination value
  | .broadcast value => Builder.broadcast value
  | .netmask value => Builder.netmask value
  | .platformConfig f => Builder.platformConfig f
  | .tunName value => Builder.tunName value
  | .mtu value => Builder.mtu unix value
  | .up => Builder.up
  | .down => Builder.down
  | .layer value => Builder.layer value
  | .queues value => Builder.queues value
  | .rawFd fd => Builder.rawFd fd
  | .closeFdOnDrop value => Builder.closeFdOnDrop value

/-- The calls one after the other. -/
def build (unix : Bool) : List (BuilderCall P) → Call Error (Configuration P) Unit
  | [] => pure ()
  | call :: calls => do
    call.run unix
    build unix calls

/-! ## What is built -/

/-- The fields that hold addresses. -/
inductive AddressField where
  | address
  | destination
  | broadcast
  | netmask
deriving DecidableEq, Repr

/-- What is stored in a field. -/
def Configuration.get (config : Configuration P) : AddressField → Option IpAddr
  | .address => config.address
  | .destination => config.destination
  | .broadcast => config.broadcast
  | .netmask => config.netmask

/-- The value of the last call that has one. -/
def lastOf {α : Type u} (f : BuilderCall P → Option α) (calls : List (BuilderCall P)) : Option α :=
  (calls.filterMap f).getLast?

theorem lastOf_cons {α : Type u} (f : BuilderCall P → Option α) (call : BuilderCall P)
    (calls : List (BuilderCall P)) : lastOf f (call :: calls) = (lastOf f calls).or (f call) := by
  rw [lastOf, List.filterMap_cons, lastOf]
  cases f call with
  | none => exact (Option.or_none).symm
  | some value => rw [List.getLast?_cons, Option.or_some]

/-- What a call is given for a field. -/
def BuilderCall.argument : AddressField → BuilderCall P → Option Argument
  | .address, .address value => some value
  | .destination, .destination value => some value
  | .broadcast, .broadcast value => some value
  | .netmask, .netmask value => some value
  | _, _ => none

namespace BuilderCall

/-- The address that a call is about, converted. -/
def converted (field : AddressField) (call : BuilderCall P) : Option IpAddr :=
  (call.argument field).bind fun arg ↦ (intoAddress arg).toOption

def givenTunName : BuilderCall P → Option Name
  | .tunName value => some value
  | _ => none

/-- Only unix has an MTU to be given. -/
def givenMtu (unix : Bool) : BuilderCall P → Option UInt16
  | .mtu value => if unix then some value else none
  | _ => none

def givenEnabled : BuilderCall P → Option Bool
  | .up => some true
  | .down => some false
  | _ => none

def givenLayer : BuilderCall P → Option Layer
  | .layer value => some value
  | _ => none

def givenQueues : BuilderCall P → Option Nat
  | .queues value => some value
  | _ => none

def givenRawFd : BuilderCall P → Option RawFd
  | .rawFd fd => some fd
  | _ => none

def givenCloseFdOnDrop : BuilderCall P → Option Bool
  | .closeFdOnDrop value => some value
  | _ => none

def givenPlatformConfig : BuilderCall P → Option (P → P)
  | .platformConfig f => some f
  | _ => none

/-- What a call is given can be converted into an address, if it is to be. -/
def Converts (call : BuilderCall P) : Prop :=
  ∀ field, ∀ arg ∈ call.argument field, ∃ ip, intoAddress arg = .ok ip

end BuilderCall

/-- The configuration that some calls make of another: each field is what the last call about it
gives, and the changes of the platform configuration are made one after the other. -/
def built (unix : Bool) (calls : List (BuilderCall P)) (config : Configuration P) :
    Configuration P where
  tunName := (lastOf BuilderCall.givenTunName calls).or config.tunName
  platformConfig :=
    (calls.filterMap BuilderCall.givenPlatformConfig).foldl (fun p f ↦ f p) config.platformConfig
  address := (lastOf (BuilderCall.converted .address) calls).or config.address
  destination := (lastOf (BuilderCall.converted .destination) calls).or config.destination
  broadcast := (lastOf (BuilderCall.converted .broadcast) calls).or config.broadcast
  netmask := (lastOf (BuilderCall.converted .netmask) calls).or config.netmask
  mtu := (lastOf (BuilderCall.givenMtu unix) calls).or config.mtu
  enabled := (lastOf BuilderCall.givenEnabled calls).or config.enabled
  layer := (lastOf BuilderCall.givenLayer calls).or config.layer
  queues := (lastOf BuilderCall.givenQueues calls).or config.queues
  rawFd := (lastOf BuilderCall.givenRawFd calls).or config.rawFd
  closeFdOnDrop := (lastOf BuilderCall.givenCloseFdOnDrop calls).or config.closeFdOnDrop

/-- The first call comes first. -/
theorem built_cons (unix : Bool) (call : BuilderCall P) (calls : List (BuilderCall P))
    (config : Configuration P) :
    built unix (call :: calls) config = built unix calls (built unix [call] config) := by
  have hfold : ((call :: calls).filterMap BuilderCall.givenPlatformConfig).foldl
      (fun p f ↦ f p) config.platformConfig =
      (calls.filterMap BuilderCall.givenPlatformConfig).foldl (fun p f ↦ f p)
        (([call].filterMap BuilderCall.givenPlatformConfig).foldl (fun p f ↦ f p)
          config.platformConfig) := by
    rw [← List.foldl_append, ← List.filterMap_append, List.singleton_append]
  have hnil {α : Type} (f : BuilderCall P → Option α) (old : Option α) :
      (lastOf f (call :: calls)).or old = (lastOf f calls).or ((lastOf f [call]).or old) := by
    rw [lastOf_cons, lastOf_cons, Option.or_assoc]
    rfl
  rw [built, hfold, hnil, hnil, hnil, hnil, hnil, hnil, hnil, hnil, hnil, hnil, hnil]
  rfl

/-- An address that is stored is the converted one. -/
theorem Builder.storeAddress_eq_ok_iff {arg : Argument}
    {store : IpAddr → Configuration P → Configuration P} {config config' : Configuration P} :
    storeAddress arg store config = (.ok (), config') ↔
      ∃ ip, intoAddress arg = .ok ip ∧ config' = store ip config := by
  rw [storeAddress]
  cases hip : intoAddress arg with
  | ok ip =>
      constructor
      · intro h
        cases h
        exact ⟨ip, rfl, rfl⟩
      · rintro ⟨_, h, rfl⟩
        cases h
        rfl
  | error e =>
      constructor
      · intro h
        cases h
      · rintro ⟨_, h, -⟩
        cases h

namespace BuilderCall

variable {unix : Bool} {call : BuilderCall P} {config config' : Configuration P}

theorem lastOf_converted (field : AddressField) {arg : Argument} {ip : IpAddr}
    (harg : call.argument field = some arg) (hip : intoAddress arg = .ok ip) :
    lastOf (converted field) [call] = some ip := by
  have hconverted : call.converted field = some ip := by
    rw [converted, harg, Option.bind_some, hip]
    rfl
  rw [lastOf, List.filterMap_cons_some hconverted]
  rfl

/-- A call that stores an address. -/
theorem run_iff_of_argument (field : AddressField) {arg : Argument}
    {store : IpAddr → Configuration P → Configuration P}
    (hrun : call.run unix = Builder.storeAddress arg store)
    (harg : ∀ field', call.argument field' = if field' = field then some arg else none)
    (hbuilt : ∀ ip, intoAddress arg = .ok ip → built unix [call] config = store ip config) :
    call.run unix config = (.ok (), config') ↔
      call.Converts ∧ config' = built unix [call] config := by
  have hconverts : call.Converts ↔ ∃ ip, intoAddress arg = .ok ip := by
    constructor
    · exact fun h ↦ h field arg ((harg field).trans (if_pos rfl))
    · rintro h field' arg' harg'
      rw [harg] at harg'
      split at harg'
      · cases harg'
        exact h
      · cases harg'
  rw [hrun, Builder.storeAddress_eq_ok_iff, hconverts]
  constructor
  · rintro ⟨ip, hip, rfl⟩
    exact ⟨⟨ip, hip⟩, (hbuilt ip hip).symm⟩
  · rintro ⟨⟨ip, hip⟩, rfl⟩
    exact ⟨ip, hip, hbuilt ip hip⟩

/-- A call that stores no address always returns. -/
theorem run_iff_of_none (hrun : call.run unix config = (.ok (), built unix [call] config))
    (harg : ∀ field, call.argument field = none) :
    call.run unix config = (.ok (), config') ↔
      call.Converts ∧ config' = built unix [call] config := by
  have hconverts : call.Converts := by
    intro field arg h
    rw [harg] at h
    cases h
  rw [hrun, Prod.mk.injEq]
  constructor
  · intro h
    exact ⟨hconverts, h.2.symm⟩
  · intro h
    exact ⟨rfl, h.2.symm⟩

/-- **One call** returns exactly if what it is given can be converted, and then makes its change. -/
theorem run_eq_ok_iff : call.run unix config = (.ok (), config') ↔
    call.Converts ∧ config' = built unix [call] config := by
  cases call with
  | address value =>
      refine run_iff_of_argument .address rfl (fun field ↦ ?_) fun ip hip ↦ ?_
      · cases field <;> rfl
      · rw [built, lastOf_converted .address rfl hip]
        rfl
  | destination value =>
      refine run_iff_of_argument .destination rfl (fun field ↦ ?_) fun ip hip ↦ ?_
      · cases field <;> rfl
      · rw [built, lastOf_converted .destination rfl hip]
        rfl
  | broadcast value =>
      refine run_iff_of_argument .broadcast rfl (fun field ↦ ?_) fun ip hip ↦ ?_
      · cases field <;> rfl
      · rw [built, lastOf_converted .broadcast rfl hip]
        rfl
  | netmask value =>
      refine run_iff_of_argument .netmask rfl (fun field ↦ ?_) fun ip hip ↦ ?_
      · cases field <;> rfl
      · rw [built, lastOf_converted .netmask rfl hip]
        rfl
  | mtu value =>
      refine run_iff_of_none ?_ fun field ↦ ?_
      · cases unix <;> rfl
      · cases field <;> rfl
  | platformConfig value | tunName value | layer value | queues value | rawFd value =>
      refine run_iff_of_none rfl fun field ↦ ?_
      cases field <;> rfl
  | closeFdOnDrop value | up | down =>
      refine run_iff_of_none rfl fun field ↦ ?_
      cases field <;> rfl

end BuilderCall

/-- **What is built.**  A sequence of calls returns exactly if everything that is to be an address
can be converted into one, and the configuration has in each field what the last call about it
gave, whatever the order of the calls about different fields. -/
theorem build_eq_ok_iff {unix : Bool} {calls : List (BuilderCall P)}
    {config config' : Configuration P} :
    build unix calls config = (.ok (), config') ↔
      (∀ call ∈ calls, call.Converts) ∧ config' = built unix calls config := by
  induction calls generalizing config with
  | nil =>
      constructor
      · intro h
        cases h
        exact ⟨List.forall_mem_nil _, rfl⟩
      · rintro ⟨-, rfl⟩
        rfl
  | cons call calls ih =>
      rw [build, Call.bind_eq_ok, List.forall_mem_cons, built_cons]
      constructor
      · rintro ⟨⟨⟩, middle, hcall, hcalls⟩
        obtain ⟨hconverts, rfl⟩ := BuilderCall.run_eq_ok_iff.1 hcall
        obtain ⟨hrest, rfl⟩ := ih.1 hcalls
        exact ⟨⟨hconverts, hrest⟩, rfl⟩
      · rintro ⟨⟨hconverts, hrest⟩, rfl⟩
        exact ⟨(), _, BuilderCall.run_eq_ok_iff.2 ⟨hconverts, rfl⟩, ih.2 ⟨hrest, rfl⟩⟩

/-! ## What is stored -/

theorem Configuration.ipv4Only_iff {config : Configuration P} :
    config.Ipv4Only ↔ ∀ field, ∀ value ∈ config.get field, value.IsIpv4 := by
  constructor
  · rintro ⟨haddress, hdestination, hbroadcast, hnetmask⟩ field
    cases field with
    | address => exact haddress
    | destination => exact hdestination
    | broadcast => exact hbroadcast
    | netmask => exact hnetmask
  · intro h
    exact ⟨h .address, h .destination, h .broadcast, h .netmask⟩

/-- What the last call about a field is given for it. -/
def lastArgument (field : AddressField) (calls : List (BuilderCall P)) : Option Argument :=
  (calls.filterMap (BuilderCall.argument field)).getLast?

/-- The field holds what `arg` was converted into if there is one, and otherwise what it did. -/
def Stored (field : AddressField) (arg : Option Argument) (config config' : Configuration P) :
    Prop :=
  match arg with
  | some arg => ∃ ip, intoAddress arg = .ok ip ∧ config'.get field = some ip
  | none => config'.get field = config.get field

/-- The last argument is among those that are converted. -/
theorem exists_of_lastArgument {field : AddressField} {calls : List (BuilderCall P)}
    {arg : Argument} (h : ∀ call ∈ calls, call.Converts)
    (harg : lastArgument field calls = some arg) : ∃ ip, intoAddress arg = .ok ip := by
  obtain ⟨call, hcall, hargument⟩ := List.mem_filterMap.1 (List.mem_of_getLast? harg)
  exact h call hcall field arg hargument

/-- What is converted last is what the last argument is converted into. -/
theorem lastOf_converted_eq {field : AddressField} {calls : List (BuilderCall P)}
    (h : ∀ call ∈ calls, call.Converts) : lastOf (BuilderCall.converted field) calls =
      (lastArgument field calls).bind fun arg ↦ (intoAddress arg).toOption := by
  induction calls with
  | nil => rfl
  | cons call calls ih =>
      obtain ⟨-, hrest⟩ := List.forall_mem_cons.1 h
      have hlast : lastArgument field (call :: calls) =
          (lastArgument field calls).or (call.argument field) := lastOf_cons _ call calls
      rw [lastOf_cons, ih hrest, hlast]
      cases harg : lastArgument field calls with
      | none => rfl
      | some arg =>
          obtain ⟨ip, hip⟩ := exists_of_lastArgument hrest harg
          rw [Option.bind_some, Option.some_or, Option.bind_some, hip]
          rfl

/-- **Each address is what the last call about it was given.** -/
theorem build_field {unix : Bool} {calls : List (BuilderCall P)} {config config' : Configuration P}
    (h : build unix calls config = (.ok (), config')) (field : AddressField) :
    Stored field (lastArgument field calls) config config' := by
  obtain ⟨hconverts, rfl⟩ := build_eq_ok_iff.1 h
  have hget : (built unix calls config).get field =
      (lastOf (BuilderCall.converted field) calls).or (config.get field) := by
    cases field <;> rfl
  rw [lastOf_converted_eq hconverts] at hget
  cases harg : lastArgument field calls with
  | none =>
      rw [harg] at hget
      exact hget
  | some arg =>
      obtain ⟨ip, hip⟩ := exists_of_lastArgument hconverts harg
      rw [harg, Option.bind_some, hip] at hget
      exact ⟨ip, hip, hget⟩

/-- **The builder lets in nothing but IPv4 addresses exactly if the last call about each address
is given nothing else.** -/
theorem ipv4Only_build_iff {unix : Bool} {p : P} {calls : List (BuilderCall P)}
    {config : Configuration P} (h : build unix calls (.default p) = (.ok (), config)) :
    config.Ipv4Only ↔ ∀ field, ∀ arg ∈ lastArgument field calls, ¬ arg.Ipv6 := by
  rw [Configuration.ipv4Only_iff]
  refine forall_congr' fun field ↦ ?_
  have hstored := build_field h field
  cases hlast : lastArgument field calls with
  | some arg =>
      rw [hlast] at hstored
      obtain ⟨ip, hip, hget⟩ := hstored
      rw [hget]
      simp only [Option.mem_some_iff, forall_eq']
      exact Argument.isIpv4_iff hip
  | none =>
      rw [hlast] at hstored
      have hget : config.get field = none := hstored.trans (by cases field <;> rfl)
      rw [hget]
      exact iff_of_true (fun value hvalue ↦ nomatch hvalue) fun arg harg ↦ nomatch harg

end RustTun
