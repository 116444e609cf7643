import RustTun.Posix.Process
import RustTun.Posix.RouteTool

/-!
# The macOS device

A `utun` device is a kernel control connected to a unit; a control socket carries all
later requests about its interface.  A device built from a raw descriptor has neither a
name nor a control socket, and its setters fail.

The device keeps one route in the routing table, and `route` is the triple it was added
for.  Every setter that changes the triple replaces the route, which `RouteBook.setRoute`
does in two commands: delete the old one, add the new one.
-/

namespace RustTun.MacOs

/-- `macos::PlatformConfig`. -/
structure PlatformConfig where
  packetInformation : Bool := true
deriving DecidableEq, Repr

/-! ## The host -/

/-- `ifaliasreq`. -/
structure Ifaliasreq where
  ifraName : List UInt8
  addr : Ipv4Addr
  broadaddr : Ipv4Addr
  mask : Ipv4Addr
deriving DecidableEq, Repr

/-- The kernel's side of the device, and the routing table. -/
structure Host where
  /-- What `socket(PF_SYSTEM, SOCK_DGRAM, SYSPROTO_CONTROL)` returns. -/
  systemSocket : RawFd
  /-- What `socket(AF_INET, SOCK_DGRAM, 0)` returns. -/
  inetSocket : RawFd
  /-- `errno` after a failure. -/
  errno : Errno
  /-- The unit the control was connected to. -/
  unit : Option UInt32
  /-- The name the kernel gives to the interface of a unit. -/
  nameOf : UInt32 → Name
  /-- `IFF_*` flags of the interface. -/
  flags : UInt16
  /-- What the kernel answers to the coming requests; `none` is "granted". -/
  refusals : List (Option Errno)
  routes : Routes
  /-- The library was built with overflow checks. -/
  overflowChecks : Bool

namespace Host

/-- `socket`. -/
def socket (which : Host → RawFd) : Call Error Host RawFd := fun h ↦ (.ok (which h), h)

/-- `Err(io::Error::last_os_error())`. -/
def failLastOsError {α : Type} : Call Error Host α := fun h ↦
  (.error (.err (.io (.os h.errno))), h)

/-- A request: `effect` is what it does if it is granted. -/
def ioctl {α : Type} (effect : Host → α × Host) : Call Error Host α := fun h ↦
  let rest := { h with refusals := h.refusals.tail }
  match h.refusals.head?.join with
  | some e => (.error (.err (.io (.os e))), rest)
  | none => (.ok (effect rest).1, (effect rest).2)

theorem ioctl_of_granted {α : Type} (effect : Host → α × Host) {h : Host}
    (hr : h.refusals.head?.join = none) :
    ioctl effect h = (.ok (effect { h with refusals := h.refusals.tail }).1,
      (effect { h with refusals := h.refusals.tail }).2) := by
  rw [ioctl, hr]

theorem ioctl_of_refused {α : Type} (effect : Host → α × Host) {h : Host} {e : Errno}
    (hr : h.refusals.head?.join = some e) :
    ioctl effect h = (.error (.err (.io (.os e))), { h with refusals := h.refusals.tail }) := by
  rw [ioctl, hr]

/-- `connect` to a unit of the control. -/
def connect (unit : UInt32) : Call Error Host Unit :=
  ioctl fun h ↦ ((), { h with unit := some unit })

/-- `getsockopt(.., UTUN_OPT_IFNAME, ..)`. -/
def ifName : Call Error Host Name := ioctl fun h ↦ (h.nameOf (h.unit.getD 0), h)

/-- A request that sets something the device never reads again. -/
def siocset (_ : Ifreq) : Call Error Host Unit := ioctl fun h ↦ ((), h)

/-- `SIOCAIFADDR`. -/
def siocaifaddr (_ : Ifaliasreq) : Call Error Host Unit := ioctl fun h ↦ ((), h)

/-- `SIOCGIFFLAGS`. -/
def siocgifflags (_ : Ifreq) : Call Error Host UInt16 := ioctl fun h ↦ (h.flags, h)

/-- `SIOCSIFFLAGS`. -/
def siocsifflags (_ : Ifreq) (flags : UInt16) : Call Error Host Unit := ioctl fun h ↦
  ((), { h with flags })

end Host

/-! ## The route of the device -/

/-- The cached route and the routing table. -/
structure RouteBook where
  cached : Option Route
  routes : Routes
deriving DecidableEq, Repr

namespace RouteBook

variable (ipnet : Ipnet)

/-- A value that may be missing. -/
def orInvalidConfig {α : Type} : Option α → Call Error RouteBook α
  | some a => pure a
  | none => .fail .invalidConfig

/-- `run_command("route", ..)`. -/
def run (command : RouteCommand) : Call Error RouteBook Unit := fun b ↦
  let (r, routes) := Routes.runCommand command b.routes
  (r, { b with routes })

/-- Delete the route that was added for `v`. -/
def deleteRoute (v : Route) : Call Error RouteBook Unit := do
  let prefixLen ← orInvalidConfig (ipnet.ipMaskToPrefix v.netmask)
  let network ← orInvalidConfig (ipnet.network v.addr prefixLen)
  run (.delete network prefixLen v.dest)

/-- Add a route and cache it. -/
def addRoute (route : Route) : Call Error RouteBook Unit := do
  let prefixLen ← orInvalidConfig (ipnet.ipMaskToPrefix route.netmask)
  run (.add route.addr prefixLen route.dest)
  .modify fun b ↦ { b with cached := some route }

/-- `Device::set_route`. -/
def setRoute (route : Route) : Call Error RouteBook Unit := do
  match (← .get).cached with
  | some v => deleteRoute ipnet v
  | none => pure ()
  addRoute ipnet route

end RouteBook

/-! ## The device -/

/-- `macos::Device`. -/
structure Device where
  tunName : Option Name
  tun : Tun
  ctl : Option Fd
  route : Option Route

namespace Device

variable (ipnet : Ipnet)

/-- The cached route of a device and the routing table of its host. -/
def book (s : Device × Process Host) : RouteBook :=
  { cached := s.1.route, routes := s.2.host.routes }

/-- A call on the route of the device. -/
def onBook {α : Type} (call : Call Error RouteBook α) : Call Error (Device × Process Host) α :=
  fun s ↦
    let (r, b) := call (book s)
    (r, { s.1 with route := b.cached }, { s.2 with host := { s.2.host with routes := b.routes } })

/-- `Device::set_route`. -/
def setRoute (route : Route) : Call Error (Device × Process Host) Unit :=
  onBook (RouteBook.setRoute ipnet route)

/-- `self.ctl.as_ref().ok_or(Error::InvalidConfig)?` and `self.request()?`. -/
def request (dev : Device) : Except Error Ifreq :=
  match dev.ctl, dev.tunName with
  | some _, some name => .ok (.named name)
  | _, _ => .error .invalidConfig

/-- Go on with the request of a device if there is one. -/
def withRequest {α : Type} (call : Ifreq → Call Error Host α) (dev : Device) : Call Error Host α :=
  match dev.request with
  | .ok req => call req
  | .error e => .fail e

theorem withRequest_of_ok {α : Type} (call : Ifreq → Call Error Host α) {dev : Device} {req : Ifreq}
    (h : dev.request = .ok req) : withRequest call dev = call req := by
  rw [withRequest, h]

theorem withRequest_of_error {α : Type} (call : Ifreq → Call Error Host α) {dev : Device}
    {e : Error} (h : dev.request = .error e) : withRequest call dev = .fail e := by
  rw [withRequest, h]

/-- Make a request on the control socket of the device. -/
def control {α : Type} (call : Ifreq → Call Error Host α) :
    Call Error (Device × Process Host) α :=
  onHost (withRequest call)

/-- `Device::set_alias` on IPv4 addresses. -/
def setAliasV4 (addr broadaddr mask : Ipv4Addr) : Call Error (Device × Process Host) Unit := do
  control fun req ↦ Host.siocaifaddr { ifraName := req.ifrName, addr, broadaddr, mask }
  .catching (setRoute ipnet { addr, netmask := mask, dest := broadaddr }) fun _ ↦ pure ()

/-- `Device::set_alias`. -/
def setAlias : IpAddr → IpAddr → IpAddr → Call Error (Device × Process Host) Unit
  | .v4 addr, .v4 broadaddr, .v4 mask => setAliasV4 ipnet addr broadaddr mask
  | _, _, _ => .panic

/-- What the setters of the three components have in common: make the request, and if
there is a route, replace it by one with the new value. -/
def setComponent (ifru : IpAddr → UInt16 → IfrIfru) (c : Component) :
    IpAddr → Call Error (Device × Process Host) Unit
  | .v6 _ => .panic
  | .v4 value => do
    control fun req ↦ Host.siocset { req with ifrIfru := ifru (.v4 value) 0 }
    match (← .get).1.route with
    | some route => setRoute ipnet (route.set c value)
    | none => pure ()

/-- `Device::set_address`. -/
def setAddress : IpAddr → Call Error (Device × Process Host) Unit :=
  setComponent ipnet .addr .address

/-- `Device::set_destination`. -/
def setDestination : IpAddr → Call Error (Device × Process Host) Unit :=
  setComponent ipnet .dstaddr .destination

/-- `Device::set_netmask`; `ifreq` has no field of its own for a netmask. -/
def setNetmask : IpAddr → Call Error (Device × Process Host) Unit :=
  setComponent ipnet .addr .netmask

/-- `Device::set_broadcast`. -/
def setBroadcast : IpAddr → Call Error (Device × Process Host) Unit
  | .v6 _ => .panic
  | .v4 value => control fun req ↦ Host.siocset { req with ifrIfru := .broadaddr (.v4 value) 0 }

/-- `Device::enabled`. -/
def enabled (value : Bool) : Call Error (Device × Process Host) Unit := do
  let flags ← control Host.siocgifflags
  control fun req ↦ Host.siocsifflags req (enabledFlags value flags)

/-- `Device::set_mtu`. -/
def setMtu (value : UInt16) : Call Error (Device × Process Host) Unit := do
  control fun req ↦ Host.siocset { req with ifrIfru := .mtu value.toNat }
  .modify fun (dev, s) ↦ ({ dev with tun := dev.tun.setMtu value }, s)

/-- `impl AbstractDevice for Device`. -/
def abstractDevice : AbstractDevice (Device × Process Host) where
  setAddress := setAddress ipnet
  setDestination := setDestination ipnet
  setBroadcast := setBroadcast
  setNetmask := setNetmask ipnet
  setMtu := setMtu
  enabled := enabled

/-! ## Creation -/

/-- The value of a decimal numeral; `none` if it is none or too large. -/
def parseDigits : List UInt8 → Nat → Option Nat
  | [], value => some value
  | c :: cs, value =>
    if 48 ≤ c ∧ c ≤ 57 then
      let value := 10 * value + (c.toNat - 48)
      if value < 2 ^ 32 then parseDigits cs value else none
    else none

/-- `str::parse::<u32>`: an optional sign and at least one digit. -/
def parseU32 (text : List UInt8) : Option UInt32 :=
  let digits := match text with
    | 43 :: digits => digits
    | digits => digits
  if digits = [] then none else (parseDigits digits 0).map UInt32.ofNat

/-- `"utun"`. -/
def utun : Name := [117, 116, 117, 110]

/-- The unit to ask for; `0` asks for any. -/
def utunId : Option Name → Call Error Host UInt32
  | none => pure 0
  | some name =>
    if IFNAMSIZ < name.length then .fail .nameTooLong
    else if ¬ utun <+: name then .fail .invalidName
    else match parseU32 (name.drop 4) with
      | none => .fail .parseNum
      | some n => fun h ↦
        if n.toNat + 1 = 2 ^ 32 ∧ h.overflowChecks then (.error .panic, h) else (.ok (n + 1), h)

/-- `Fd::new(..).map_err(|_| io::Error::last_os_error())?`. -/
def newFd (fd : RawFd) (close : Bool) : Call Error (Process Host) Fd :=
  match Fd.new fd close with
  | .ok fd => pure fd
  | .error _ => Process.ofHost Host.failLastOsError

/-- A device over a raw descriptor. -/
def ofRawFd (config : Configuration PlatformConfig) (fd : RawFd) :
    Call Error (Process Host) Device := do
  let fd ← newFd fd (config.closeFdOnDrop.getD true)
  let tun ← Process.newTun fd (config.mtu.getD defaultMtu) config.platformConfig.packetInformation
  pure { tunName := none, tun, ctl := none, route := none }

/-- Connect a new control to a unit and open the control socket of its interface. -/
def openUtun (id : UInt32) : Call Error (Process Host) (Name × Fd × Fd) := do
  let fd ← newFd (← Process.ofHost (Host.socket (·.systemSocket))) true
  .guarded (Process.dropFd fd) do
    -- `ctliocginfo` looks up the number of the control by its name.
    Process.ofHost (Host.ioctl fun h ↦ ((), h))
    Process.ofHost (Host.connect id)
    let name ← Process.ofHost Host.ifName
    let ctl ← Process.ofExcept <| Fd.new (← Process.ofHost (Host.socket (·.inetSocket))) true
    pure (name, fd, ctl)

/-- `Device::new` without a raw descriptor, up to the point where the device exists. -/
def create (config : Configuration PlatformConfig) : Call Error (Process Host) Device := do
  let id ← Process.ofHost (utunId config.tunName)
  if config.layer = some .l2 then
    .fail .unsupportedLayer
  else if config.queues.getD 1 ≠ 1 then
    .fail .invalidQueuesNumber
  else
    let (name, fd, ctl) ← openUtun id
    let tun ← Process.newTun fd (config.mtu.getD defaultMtu) config.platformConfig.packetInformation
    pure { tunName := some name, tun, ctl := some ctl, route := none }

/-- The calls `Device::new` makes on the new device. -/
def setUp (config : Configuration PlatformConfig) : Call Error (Device × Process Host) Unit := do
  (abstractDevice ipnet).configure config
  let (addr, dest, mask) := config.initialAlias
  setAlias ipnet addr dest mask

/-- Drop a `Device`. -/
def drop (dev : Device) (s : Process Host) : Process Host :=
  let s := s.dropTun dev.tun
  match dev.ctl with
  | some ctl => s.dropFd ctl
  | none => s

/-- `Device::new`. -/
def new (config : Configuration PlatformConfig) : Call Error (Process Host) Device :=
  match config.rawFd with
  | some fd => ofRawFd config fd
  | none => do
    let dev ← create config
    orDrop drop (setUp ipnet config) dev

/-- `Device::split`. -/
def split (dev : Device) (w : World) : (Reader × Writer) × World :=
  RustTun.Device.split { tun := dev.tun, ctl := dev.ctl } w

/-- `Device::into_raw_fd`. -/
def intoRawFd (dev : Device) : Call Error World RawFd :=
  RustTun.Device.intoRawFd { tun := dev.tun, ctl := dev.ctl }

end Device

end RustTun.MacOs
