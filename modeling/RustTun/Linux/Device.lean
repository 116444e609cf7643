import RustTun.Base.Utf8
import RustTun.Posix.Process

/-!
# The Linux device

`Device::new` and the setters of the Linux implementation.  A device is created by
opening the driver, registering the descriptor with the flags the configuration asks
for (`ifruFlags`) and reading back the name the kernel chose, as text; a control socket
carries all later requests.

The kernel is a parameter.  `Kernel κ` are the calls the implementation makes on it, as
functions of a state `κ` of which nothing is assumed: what is proved about a device
holds whatever the kernel answers.
-/

namespace RustTun.Linux

open Scatter

/-- `linux::PlatformConfig`. -/
structure PlatformConfig where
  packetInformation : Bool := false
  ensureRootPrivileges : Bool := true
  napi : Bool := false
  vnetHdr : Bool := false
deriving DecidableEq, Repr

/-! ## Requests -/

def IFF_TUN : UInt16 := 0x0001
def IFF_TAP : UInt16 := 0x0002
def IFF_NAPI : UInt16 := 0x0010
def IFF_MULTI_QUEUE : UInt16 := 0x0100
def IFF_NO_PI : UInt16 := 0x1000
def IFF_VNET_HDR : UInt16 := 0x4000

/-- The requests made of the driver and of the network stack. -/
inductive Ioctl where
  | tunsetiff
  | siocsifname
  | siocgifflags
  | siocsifflags
  | siocsifaddr
  | siocsifdstaddr
  | siocsifbrdaddr
  | siocsifnetmask
  | siocsifmtu
deriving DecidableEq, Repr

/-- The calls made on the kernel. -/
structure Kernel (κ : Type) where
  /-- `open("/dev/net/tun", O_RDWR)`. -/
  open_ : κ → RawFd × κ
  /-- `socket(AF_INET, SOCK_DGRAM, 0)`. -/
  socket : κ → RawFd × κ
  /-- `errno`. -/
  lastOsError : κ → Errno
  /-- `ioctl` on a descriptor, and the request as it is afterwards. -/
  ioctl : Ioctl → RawFd → Ifreq → κ → Except Errno Ifreq × κ
  /-- The exchange on the route netlink socket that `set_qdisc` makes. -/
  replaceQdisc : Name → String → κ → Except IoError Unit × κ

/-- `linux::Device`. -/
structure Device where
  tunName : Name
  tun : Tun
  ctl : Fd

variable {κ : Type} (K : Kernel κ)

/-! ## System calls -/

namespace Kernel

/-- `open`. -/
def openTun : Call Error κ RawFd := fun k ↦ (.ok (K.open_ k).1, (K.open_ k).2)

/-- `socket`. -/
def openSocket : Call Error κ RawFd := fun k ↦ (.ok (K.socket k).1, (K.socket k).2)

/-- `ioctl`; a failure is `io::Error::from(err).into()`. -/
def request (op : Ioctl) (fd : RawFd) (req : Ifreq) : Call Error κ Ifreq := fun k ↦
  match K.ioctl op fd req k with
  | (.ok req, k) => (.ok req, k)
  | (.error e, k) => (.error (.err (.io (.os e))), k)

/-- A request the kernel granted. -/
theorem request_of_ok {K : Kernel κ} {op : Ioctl} {fd : RawFd} {req req' : Ifreq} {k k' : κ}
    (h : K.ioctl op fd req k = (.ok req', k')) : K.request op fd req k = (.ok req', k') := by
  rw [request, h]

/-- A request the kernel refused. -/
theorem request_of_error {K : Kernel κ} {op : Ioctl} {fd : RawFd} {req : Ifreq} {e : Errno}
    {k k' : κ} (h : K.ioctl op fd req k = (.error e, k')) :
    K.request op fd req k = (.error (.err (.io (.os e))), k') := by
  rw [request, h]

/-- `Err(io::Error::last_os_error())`. -/
def failLastOsError {α : Type} : Call Error κ α := fun k ↦
  (.error (.err (.io (.os (K.lastOsError k)))), k)

end Kernel

/-! ## Setters -/

namespace Device

/-- `Device::request`. -/
def request (dev : Device) : Ifreq := Ifreq.named dev.tunName

/-- Make a request on the control socket of the device. -/
def control (op : Ioctl) (ifru : IfrIfru) : Call Error (Device × Process κ) Ifreq :=
  onHost fun dev ↦ K.request op dev.ctl.inner { dev.request with ifrIfru := ifru }

theorem control_of_ok {K : Kernel κ} {op : Ioctl} {ifru : IfrIfru} {dev : Device} {s : Process κ}
    {req : Ifreq} {k : κ}
    (h : K.ioctl op dev.ctl.inner { dev.request with ifrIfru := ifru } s.host = (.ok req, k)) :
    control K op ifru (dev, s) = (.ok req, dev, { s with host := k }) := by
  rw [control, onHost_apply, Kernel.request_of_ok h]

theorem control_of_error {K : Kernel κ} {op : Ioctl} {ifru : IfrIfru} {dev : Device}
    {s : Process κ} {e : Errno} {k : κ}
    (h : K.ioctl op dev.ctl.inner { dev.request with ifrIfru := ifru } s.host = (.error e, k)) :
    control K op ifru (dev, s) = (.error (.err (.io (.os e))), dev, { s with host := k }) := by
  rw [control, onHost_apply, Kernel.request_of_error h]

/-- `Device::set_tun_name`. -/
def setTunName (value : Name) : Call Error (Device × Process κ) Unit := do
  if 0 ∈ value then
    .fail .nul
  else if IFNAMSIZ < value.length + 1 then
    .fail .nameTooLong
  else
    let _ ← control K .siocsifname (.newname value)
    .modify fun (dev, s) ↦ ({ dev with tunName := value }, s)

/-- `Device::enabled`. -/
def enabled (value : Bool) : Call Error (Device × Process κ) Unit := do
  let req ← control K .siocgifflags (.flags 0)
  let flags := match req.ifrIfru with
    | .flags flags => flags
    | _ => 0
  let _ ← control K .siocsifflags (.flags (enabledFlags value flags))

/-- `Device::set_address`. -/
def setAddress (value : IpAddr) : Call Error (Device × Process κ) Unit := do
  let _ ← control K .siocsifaddr (.addr value 0)

/-- `Device::set_destination`. -/
def setDestination (value : IpAddr) : Call Error (Device × Process κ) Unit := do
  let _ ← control K .siocsifdstaddr (.dstaddr value 0)

/-- `Device::set_broadcast`. -/
def setBroadcast (value : IpAddr) : Call Error (Device × Process κ) Unit := do
  let _ ← control K .siocsifbrdaddr (.broadaddr value 0)

/-- `Device::set_netmask`. -/
def setNetmask (value : IpAddr) : Call Error (Device × Process κ) Unit := do
  let _ ← control K .siocsifnetmask (.netmask value 0)

/-- `Device::set_mtu`. -/
def setMtu (value : UInt16) : Call Error (Device × Process κ) Unit := do
  let _ ← control K .siocsifmtu (.mtu value.toNat)
  .modify fun (dev, s) ↦ ({ dev with tun := dev.tun.setMtu value }, s)

/-- `impl AbstractDevice for Device`. -/
def abstractDevice : AbstractDevice (Device × Process κ) where
  setAddress := setAddress K
  setDestination := setDestination K
  setBroadcast := setBroadcast K
  setNetmask := setNetmask K
  setMtu := setMtu K
  enabled := enabled K

end Device

/-! ## Creation -/

/-- `c_short::from(config.layer.unwrap_or(Layer::L3))`. -/
def deviceType : Option Layer → UInt16
  | some .l2 => IFF_TAP
  | some .l3 | none => IFF_TUN

/-- The flags a configuration asks for. -/
def ifruFlags (config : Configuration PlatformConfig) : UInt16 :=
  deviceType config.layer
    ||| (if config.platformConfig.packetInformation then 0 else IFF_NO_PI)
    ||| (if config.platformConfig.napi then IFF_NAPI else 0)
    ||| (if config.platformConfig.vnetHdr then IFF_VNET_HDR else 0)
    ||| (if 1 < config.queues.getD 1 then IFF_MULTI_QUEUE else 0)

/-- The name to ask for: the one configured, if it fits. -/
def devName : Option Name → Except Error (Option Name)
  | none => .ok none
  | some name =>
    if 0 ∈ name then .error .nul
    else if IFNAMSIZ < name.length + 1 then .error .nameTooLong
    else .ok (some name)

namespace Device

/-- Open the driver and register the descriptor. -/
def openDriver (req : Ifreq) : Call Error (Process κ) (Fd × Ifreq) := do
  let fd ← Process.ofHost K.openTun
  match Fd.new fd true with
  | .error _ => Process.ofHost K.failLastOsError
  | .ok tunFd =>
    .guarded (Process.dropFd tunFd) do
      let req ← Process.ofHost (K.request .tunsetiff tunFd.inner req)
      pure (tunFd, req)

/-- `Device::new` up to the point where the device exists. -/
def create (config : Configuration PlatformConfig) : Call Error (Process κ) Device := do
  if config.rawFd.isSome then
    .fail .notImplemented
  else
    let devName ← Process.ofExcept (devName config.tunName)
    if config.queues.getD 1 ≠ 1 then
      .fail .invalidQueuesNumber
    else
      let req := { Ifreq.named (devName.getD []) with ifrIfru := .flags (ifruFlags config) }
      let (tunFd, req) ← openDriver K req
      let mtu := config.mtu.getD defaultMtu
      let ctl ← .guarded (Process.dropFd tunFd) do
        let fd ← Process.ofHost K.openSocket
        Process.ofExcept (Fd.new fd true)
      let tun ← Process.newTun tunFd mtu config.platformConfig.packetInformation
      pure { tunName := Utf8.lossy (cStr req.ifrName), tun, ctl }

/-- Take the configuration over; a failure to replace the queueing discipline is only
logged. -/
def setUp (config : Configuration PlatformConfig) : Call Error (Device × Process κ) Unit := do
  (abstractDevice K).configure config
  .modify fun (dev, s) ↦
    (dev, { s with host := (K.replaceQdisc dev.tunName "pfifo_fast" s.host).2 })

/-- Drop a `Device`. -/
def drop (dev : Device) (s : Process κ) : Process κ := (s.dropTun dev.tun).dropFd dev.ctl

/-- `Device::new`. -/
def new (config : Configuration PlatformConfig) : Call Error (Process κ) Device := do
  let dev ← create K config
  if config.platformConfig.ensureRootPrivileges then
    orDrop drop (setUp K config) dev
  else
    pure dev

/-- `Device::split`. -/
def split (dev : Device) (w : World) : (Reader × Writer) × World :=
  RustTun.Device.split { tun := dev.tun, ctl := some dev.ctl } w

/-- `Device::into_raw_fd`. -/
def intoRawFd (dev : Device) : Call Error World RawFd :=
  RustTun.Device.intoRawFd { tun := dev.tun, ctl := some dev.ctl }

end Device

end RustTun.Linux
