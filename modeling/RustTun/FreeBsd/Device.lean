import RustTun.Posix.Process
import RustTun.Posix.RouteTool

/-!
# The FreeBSD device

The interface has one IPv4 alias, the triple of address, destination and netmask.  The
kernel has no request that changes one component of it: a setter removes the alias and
installs a new one, for which it takes the two components it was not given from the
`route` of the device, the triple of the last route that was added.

`setAlias` installs an alias and then adds its route.  A failure to add the route is
logged and otherwise ignored, and leaves the triple in `route` as it was.
-/

namespace RustTun.FreeBsd

/-- `freebsd::PlatformConfig`. -/
structure PlatformConfig where
deriving DecidableEq, Repr

/-! ## The host -/

/-- The alias of an interface. -/
structure Alias where
  addr : Ipv4Addr
  dest : Ipv4Addr
  mask : Ipv4Addr
deriving DecidableEq, Repr

/-- `ifaliasreq`. -/
structure Ifaliasreq where
  ifran : List UInt8
  addr : Ipv4Addr
  dstaddr : Ipv4Addr
  mask : Ipv4Addr
deriving DecidableEq, Repr

/-- The kernel's side of the interface, and the nodes it can be reached by. -/
structure Host where
  /-- What `open` of a path returns. -/
  nodes : Name → RawFd
  /-- The paths opened so far. -/
  opened : List Name
  /-- What `socket` returns. -/
  socketFd : RawFd
  /-- `errno` after a failure. -/
  errno : Errno
  /-- The alias installed on the interface. -/
  installed : Option Alias
  /-- `IFF_*` flags of the interface. -/
  flags : UInt16
  mtu : Nat
  /-- The name the interface was last given. -/
  renamed : Option Name
  /-- What the kernel answers to the coming requests; `none` is "granted". -/
  refusals : List (Option Errno)
  routes : Routes

namespace Host

/-- `open(path, O_RDWR)`; the path ends at its first NUL. -/
def openNode (path : List UInt8) : Call Error Host RawFd := fun h ↦
  (.ok (h.nodes (cStr path)), { h with opened := h.opened ++ [cStr path] })

/-- `socket(AF_INET, SOCK_DGRAM, 0)`. -/
def socket : Call Error Host RawFd := fun h ↦ (.ok h.socketFd, h)

/-- `Err(io::Error::last_os_error())`. -/
def failLastOsError {α : Type} : Call Error Host α := fun h ↦
  (.error (.err (.io (.os h.errno))), h)

/-- A request: `effect` is what it does if it is granted. -/
def ioctl {α : Type} (effect : Host → α × Host) : Call Error Host α := fun h ↦
  let rest := { h with refusals := h.refusals.tail }
  match h.refusals.head?.join with
  | some e => (.error (.err (.io (.os e))), rest)
  | none => (.ok (effect rest).1, (effect rest).2)

/-- `SIOCDIFADDR` removes the alias. -/
def siocdifaddr (_ : Ifreq) : Call Error Host Unit :=
  ioctl fun h ↦ ((), { h with installed := none })

/-- `SIOCAIFADDR` installs an alias. -/
def siocaifaddr (req : Ifaliasreq) : Call Error Host Unit := ioctl fun h ↦
  ((), { h with installed := some { addr := req.addr, dest := req.dstaddr, mask := req.mask } })

/-- `SIOCSIFNAME`. -/
def siocsifname (_ : Ifreq) (name : Name) : Call Error Host Unit := ioctl fun h ↦
  ((), { h with renamed := some name })

/-- `SIOCGIFFLAGS`. -/
def siocgifflags (_ : Ifreq) : Call Error Host UInt16 := ioctl fun h ↦ (h.flags, h)

/-- `SIOCSIFFLAGS`. -/
def siocsifflags (_ : Ifreq) (flags : UInt16) : Call Error Host Unit := ioctl fun h ↦
  ((), { h with flags })

/-- `SIOCSIFMTU`. -/
def siocsifmtu (_ : Ifreq) (mtu : Nat) : Call Error Host Unit := ioctl fun h ↦ ((), { h with mtu })

/-- `run_command("route", ..)`. -/
def runRoute (command : RouteCommand) : Call Error Host Unit := fun h ↦
  let (r, routes) := Routes.runCommand command h.routes
  (r, { h with routes })

end Host

/-! ## The device -/

/-- `freebsd::Device`. -/
structure Device where
  tunName : Name
  tun : Tun
  ctl : Fd
  route : Option Route

namespace Device

variable (ipnet : Ipnet)

/-- `Device::request`. -/
def request (dev : Device) : Ifreq := Ifreq.named dev.tunName

/-- `Device::set_route`. -/
def setRoute (route : Route) : Call Error (Device × Process Host) Unit :=
  match ipnet.ipMaskToPrefix route.netmask with
  | none => .fail .invalidConfig
  | some prefixLen => do
    onHost fun _ ↦ Host.runRoute (.add route.addr prefixLen route.dest)
    .modify fun (dev, s) ↦ ({ dev with route := some route }, s)

/-- The alias request of a device. -/
def aliasRequest (dev : Device) (addr dest mask : Ipv4Addr) : Ifaliasreq :=
  { ifran := nameField dev.tunName, addr, dstaddr := dest, mask }

/-- `Device::set_alias` on IPv4 addresses. -/
def setAliasV4 (addr dest mask : Ipv4Addr) : Call Error (Device × Process Host) Unit := do
  onHost fun dev ↦ Host.siocaifaddr (dev.aliasRequest addr dest mask)
  .catching (setRoute ipnet { addr, netmask := mask, dest }) fun _ ↦ pure ()

/-- `Device::set_alias`. -/
def setAlias : IpAddr → IpAddr → IpAddr → Call Error (Device × Process Host) Unit
  | .v4 addr, .v4 dest, .v4 mask => setAliasV4 ipnet addr dest mask
  | _, _, _ => .panic

/-- `self.route.as_ref().ok_or(Error::InvalidConfig)?`. -/
def previous : Call Error (Device × Process Host) Route := fun (dev, s) ↦
  match dev.route with
  | some route => (.ok route, dev, s)
  | none => (.error (.err .invalidConfig), dev, s)

/-- What the three setters have in common: remove the alias, and install the one that
`replace` makes of the cached triple. -/
def replaceAlias (replace : Route → IpAddr × IpAddr × IpAddr) :
    Call Error (Device × Process Host) Unit := do
  onHost fun dev ↦ Host.siocdifaddr dev.request
  let previous ← previous
  let (addr, dest, mask) := replace previous
  setAlias ipnet addr dest mask

/-- `Device::set_address`. -/
def setAddress (value : IpAddr) : Call Error (Device × Process Host) Unit :=
  replaceAlias ipnet fun previous ↦ (value, .v4 previous.dest, .v4 previous.netmask)

/-- `Device::set_destination`. -/
def setDestination (value : IpAddr) : Call Error (Device × Process Host) Unit :=
  replaceAlias ipnet fun previous ↦ (.v4 previous.addr, value, .v4 previous.netmask)

/-- `Device::set_netmask`. -/
def setNetmask (value : IpAddr) : Call Error (Device × Process Host) Unit :=
  replaceAlias ipnet fun previous ↦ (.v4 previous.addr, .v4 previous.dest, value)

/-- `Device::set_broadcast`. -/
def setBroadcast (_ : IpAddr) : Call Error (Device × Process Host) Unit := pure ()

/-- `Device::enabled`. -/
def enabled (value : Bool) : Call Error (Device × Process Host) Unit := do
  let flags ← onHost fun dev ↦ Host.siocgifflags dev.request
  onHost fun dev ↦ Host.siocsifflags dev.request (enabledFlags value flags)

/-- `Device::set_mtu`. -/
def setMtu (value : UInt16) : Call Error (Device × Process Host) Unit := do
  onHost fun dev ↦ Host.siocsifmtu dev.request value.toNat
  .modify fun (dev, s) ↦ ({ dev with tun := dev.tun.setMtu value }, s)

/-- `Device::set_tun_name`. -/
def setTunName (value : Name) : Call Error (Device × Process Host) Unit := do
  if IFNAMSIZ < value.length then
    .fail .nameTooLong
  else if 0 ∈ value then
    .fail .nul
  else
    onHost fun dev ↦ Host.siocsifname dev.request value
    .modify fun (dev, s) ↦ ({ dev with tunName := value }, s)

/-- `impl AbstractDevice for Device`. -/
def abstractDevice : AbstractDevice (Device × Process Host) where
  setAddress := setAddress ipnet
  setDestination := setDestination ipnet
  setBroadcast := setBroadcast
  setNetmask := setNetmask ipnet
  setMtu := setMtu
  enabled := enabled

/-! ## Creation -/

/-- The bytes of a text. -/
def bytes (text : String) : Name := text.toUTF8.toList

/-- `format!("/dev/{name}\0")`. -/
def devicePath (name : Name) : List UInt8 := bytes "/dev/" ++ name ++ [0]

/-- `format!("tun{i}")`. -/
def deviceName (i : Nat) : Name := bytes ("tun" ++ toString i)

/-- The loop over the candidates that are left. -/
def probe : List Nat → Call Error (Process Host) (Fd × Name)
  | [] => .fail (.io (.new .alreadyExists "no avaiable file descriptor"))
  | i :: candidates => do
    let fd ← Process.ofHost (Host.openNode (devicePath (deviceName i)))
    if 0 < fd then
      match Fd.new fd true with
      | .ok tun => pure (tun, deviceName i)
      | .error _ => Process.ofHost Host.failLastOsError
    else
      probe candidates

/-- Open the node of the configured name, or the first one that can be opened. -/
def openTun : Option Name → Call Error (Process Host) (Fd × Name)
  | some name => do
    let fd ← Process.ofHost (Host.openNode (devicePath name))
    match Fd.new fd true with
    | .ok tun => pure (tun, name)
    | .error _ => Process.ofHost Host.failLastOsError
  | none => probe (List.range 256)

/-- `Device::new` up to the point where the device exists. -/
def create (config : Configuration PlatformConfig) : Call Error (Process Host) Device :=
  if (config.tunName.any fun name ↦ IFNAMSIZ < name.length) then
    .fail .nameTooLong
  else if config.layer = some .l2 then
    .fail .unsupportedLayer
  else if config.queues.getD 1 ≠ 1 then
    .fail .invalidQueuesNumber
  else do
    let ctl ← Process.ofExcept <| Fd.new (← Process.ofHost Host.socket) true
    let (tun, tunName) ← .guarded (Process.dropFd ctl) (openTun config.tunName)
    let tun ← Process.newTun tun (config.mtu.getD defaultMtu) false
    pure { tunName, tun, ctl, route := none }

/-- The calls `Device::new` makes on the new device. -/
def setUp (config : Configuration PlatformConfig) : Call Error (Device × Process Host) Unit := do
  let (addr, dest, mask) := config.initialAlias
  setAlias ipnet addr dest mask
  (abstractDevice ipnet).configure config

/-- Drop a `Device`. -/
def drop (dev : Device) (s : Process Host) : Process Host := (s.dropTun dev.tun).dropFd dev.ctl

/-- `Device::new`. -/
def new (config : Configuration PlatformConfig) : Call Error (Process Host) Device := do
  let dev ← create config
  orDrop drop (setUp ipnet config) dev

/-- `Device::split`. -/
def split (dev : Device) (w : World) : (Reader × Writer) × World :=
  RustTun.Device.split { tun := dev.tun, ctl := some dev.ctl } w

/-- `Device::into_raw_fd`. -/
def intoRawFd (dev : Device) : Call Error World RawFd :=
  RustTun.Device.intoRawFd { tun := dev.tun, ctl := some dev.ctl }

end Device

end RustTun.FreeBsd
