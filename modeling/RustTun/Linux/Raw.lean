import RustTun.Linux.Device
import RustTun.Linux.Ifreq
import RustTun.Posix.IfName

/-!
# The Linux device over memory

The same program as in `Linux.Device`, one level down.  A request is a piece of memory here: it
is zeroed, the name and the rest of what it says are copied to their places in it, the kernel
answers it in place, and what is read of the answer is read from where it is in memory.  A copy
that would leave the request has no defined behaviour, for which `orOverrun` stops.

`Kernel.values` is the kernel as it is to a program whose requests are values.
-/

namespace RustTun.Linux.Raw

open Memory

/-- The calls made on the kernel.  A request is answered in place. -/
structure Kernel (κ : Type) where
  /-- `open("/dev/net/tun", O_RDWR)`. -/
  open_ : κ → RawFd × κ
  /-- `socket(AF_INET, SOCK_DGRAM, 0)`. -/
  socket : κ → RawFd × κ
  /-- `errno`. -/
  lastOsError : κ → Errno
  /-- `ioctl` on a descriptor, and the memory of the request afterwards. -/
  ioctl : Ioctl → RawFd → IfreqBytes → κ → Except Errno IfreqBytes × κ
  /-- The exchange on the route netlink socket that `set_qdisc` makes. -/
  replaceQdisc : Name → String → κ → Except IoError Unit × κ

/-! ## Requests in memory -/

/-- `ifru_flags`; a field of a union begins where the union does. -/
def ifruFlagsField : Field 40 2 := ⟨ifrIfru.offset, by decide⟩

/-- `ifru_mtu`. -/
def ifruMtu : Field 40 4 := ⟨ifrIfru.offset, by decide⟩

/-- `ifru_newname`. -/
def ifruNewname : Field 40 16 := ⟨ifrIfru.offset, by decide⟩

variable (e : Endian)

/-- The flags in a request. -/
def getFlags (req : IfreqBytes) : UInt16 := .ofNat (ofNeBytes e (req.get ifruFlagsField))

/-- A request with other flags in it. -/
def putFlags (flags : UInt16) (req : IfreqBytes) : IfreqBytes :=
  req.set ifruFlagsField (neBytes e 2 flags.toNat)

/-- The bytes of a text, copied to a place in a request. -/
def copyText (text : Name) (req : IfreqBytes) (dst : Nat) : Option IfreqBytes :=
  (Block.ofList text.length text).copyNonoverlapping req dst text.length

/-- `CStr::from_ptr` on the start of a request: the bytes in front of the first NUL, if there is
one. -/
def cStrAt (req : IfreqBytes) : Option Name :=
  if 0 ∈ List.ofFn req then some (cStr (List.ofFn req)) else none

/-- `Device::request`. -/
def request (dev : Device) : Option IfreqBytes :=
  copyText dev.tunName (.zeroed 40) ifrName.offset

/-- What stays within its object, or nothing that is defined. -/
def orOverrun {σ α : Type} : Option α → Call Error σ α
  | some a => pure a
  | none => .panic

variable {κ : Type} (K : Kernel κ)

/-! ## System calls -/

namespace Kernel

/-- `ioctl`; a failure is `io::Error::from(err).into()`. -/
def request (op : Ioctl) (fd : RawFd) (req : IfreqBytes) : Call Error κ IfreqBytes := fun k ↦
  match K.ioctl op fd req k with
  | (.ok req, k) => (.ok req, k)
  | (.error e, k) => (.error (.err (.io (.os e))), k)

/-- `open`. -/
def openTun : Call Error κ RawFd := fun k ↦ (.ok (K.open_ k).1, (K.open_ k).2)

/-- `socket`. -/
def openSocket : Call Error κ RawFd := fun k ↦ (.ok (K.socket k).1, (K.socket k).2)

/-- `Err(io::Error::last_os_error())`. -/
def failLastOsError {α : Type} : Call Error κ α := fun k ↦
  (.error (.err (.io (.os (K.lastOsError k)))), k)

end Kernel

/-! ## Setters -/

/-- Make a request of the device, and fill it in. -/
def prepare (fill : IfreqBytes → Option IfreqBytes) :
    Call Error (Device × Process κ) IfreqBytes := fun s ↦
  orOverrun ((request s.1).bind fill) s

/-- Make a request on the control socket of the device. -/
def control (op : Ioctl) (req : IfreqBytes) : Call Error (Device × Process κ) IfreqBytes :=
  onHost fun dev ↦ K.request op dev.ctl.inner req

/-- `Device::set_tun_name`. -/
def setTunName (value : Name) : Call Error (Device × Process κ) Unit := do
  if 0 ∈ value then
    .fail .nul
  else if IFNAMSIZ < value.length + 1 then
    .fail .nameTooLong
  else
    let req ← prepare (copyText value · ifruNewname.offset)
    let _ ← control K .siocsifname req
    .modify fun (dev, s) ↦ ({ dev with tunName := value }, s)

/-- `Device::enabled`: the request whose answer has the flags is the one that sets them. -/
def enabled (value : Bool) : Call Error (Device × Process κ) Unit := do
  let req ← prepare some
  let req ← control K .siocgifflags req
  let req := putFlags e (enabledFlags value (getFlags e req)) req
  let _ ← control K .siocsifflags req

/-- `Device::set_address`. -/
def setAddress (value : IpAddr) : Call Error (Device × Process κ) Unit := do
  let req ← prepare (putAddr e .ifruAddr · value)
  let _ ← control K .siocsifaddr req

/-- `Device::set_destination`. -/
def setDestination (value : IpAddr) : Call Error (Device × Process κ) Unit := do
  let req ← prepare (putAddr e .ifruDstaddr · value)
  let _ ← control K .siocsifdstaddr req

/-- `Device::set_broadcast`. -/
def setBroadcast (value : IpAddr) : Call Error (Device × Process κ) Unit := do
  let req ← prepare (putAddr e .ifruBroadaddr · value)
  let _ ← control K .siocsifbrdaddr req

/-- `Device::set_netmask`. -/
def setNetmask (value : IpAddr) : Call Error (Device × Process κ) Unit := do
  let req ← prepare (putAddr e .ifruNetmask · value)
  let _ ← control K .siocsifnetmask req

/-- `Device::set_mtu`. -/
def setMtu (value : UInt16) : Call Error (Device × Process κ) Unit := do
  let req ← prepare fun req ↦ some (req.set ifruMtu (neBytes e 4 value.toNat))
  let _ ← control K .siocsifmtu req
  .modify fun (dev, s) ↦ ({ dev with tun := dev.tun.setMtu value }, s)

/-- `impl AbstractDevice for Device`. -/
def abstractDevice : AbstractDevice (Device × Process κ) where
  setAddress := setAddress e K
  setDestination := setDestination e K
  setBroadcast := setBroadcast e K
  setNetmask := setNetmask e K
  setMtu := setMtu e K
  enabled := enabled e K

/-! ## Creation -/

/-- The name to ask for, in a request: it is copied with its NUL. -/
def nameRequest : Option Name → Option IfreqBytes
  | some name => copyText (name ++ [0]) (.zeroed 40) ifrName.offset
  | none => some (.zeroed 40)

/-- Open the driver and register the descriptor. -/
def openDriver (req : IfreqBytes) : Call Error (Process κ) (Fd × IfreqBytes) := do
  let fd ← Process.ofHost K.openTun
  match Fd.new fd true with
  | .error _ => Process.ofHost K.failLastOsError
  | .ok tunFd =>
    .guarded (Process.dropFd tunFd) do
      let req ← Process.ofHost (K.request .tunsetiff tunFd.inner req)
      pure (tunFd, req)

/-- `Device::new` up to the point where the device exists. -/
def create (config : Configuration PlatformConfig) : Call Error (Process κ) Device := do
  if config.rawFd.isSome then
    .fail .notImplemented
  else
    let devName ← Process.ofExcept (devName config.tunName)
    let req ← orOverrun (nameRequest devName)
    if config.queues.getD 1 ≠ 1 then
      .fail .invalidQueuesNumber
    else
      let req := putFlags e (ifruFlags config) req
      let (tunFd, req) ← openDriver K req
      let mtu := config.mtu.getD defaultMtu
      let ctl ← .guarded (Process.dropFd tunFd) do
        let fd ← Process.ofHost K.openSocket
        Process.ofExcept (Fd.new fd true)
      let tunName ← orOverrun (cStrAt req)
      let tun ← Process.newTun tunFd mtu config.platformConfig.packetInformation
      pure { tunName := Utf8.lossy tunName, tun, ctl }

/-- Take the configuration over; a failure to replace the queueing discipline is only
logged. -/
def setUp (config : Configuration PlatformConfig) : Call Error (Device × Process κ) Unit := do
  (abstractDevice e K).configure config
  .modify fun (dev, s) ↦
    (dev, { s with host := (K.replaceQdisc dev.tunName "pfifo_fast" s.host).2 })

/-- `Device::new`. -/
def new (config : Configuration PlatformConfig) : Call Error (Process κ) Device := do
  let dev ← create e K config
  if config.platformConfig.ensureRootPrivileges then
    orDrop Device.drop (setUp e K config) dev
  else
    pure dev

/-! ## Requests as values -/

/-- What is in the memory of a request. -/
def encode (req : Ifreq) : IfreqBytes :=
  let named : IfreqBytes := (Block.zeroed 40).set ifrName (.ofList 16 req.ifrName)
  match req.ifrIfru with
  | .flags value => putFlags e value named
  | .addr ip port | .dstaddr ip port | .broadaddr ip port | .netmask ip port =>
    named.set ifrIfru ((rsAddrToSockaddr .linux e (.new ip port)).get copied)
  | .mtu value => named.set ifruMtu (neBytes e 4 value)
  | .newname name => named.set ifruNewname (.ofList 16 name)

/-- What is read of an answer: the name in its field, and the flags. -/
def decode (req : IfreqBytes) : Ifreq :=
  { ifrName := List.ofFn (req.get ifrName), ifrIfru := .flags (getFlags e req) }

/-- The kernel as it is to a program whose requests are values. -/
def Kernel.values : Linux.Kernel κ where
  open_ := K.open_
  socket := K.socket
  lastOsError := K.lastOsError
  ioctl op fd req k :=
    match K.ioctl op fd (encode e req) k with
    | (.ok req, k) => (.ok (decode e req), k)
    | (.error errno, k) => (.error errno, k)
  replaceQdisc := K.replaceQdisc

/-- What is documented of the two answers that are read. -/
structure Kernel.Answers : Prop where
  /-- The name that an interface is given ends in its field. -/
  name {fd : RawFd} {req req' : IfreqBytes} {k k' : κ} :
    K.ioctl .tunsetiff fd req k = (.ok req', k') → 0 ∈ List.ofFn (req'.get ifrName)
  /-- When the flags of an interface are asked for by a name that ends in its field, nothing else
  is written. -/
  flags {fd : RawFd} {req req' : IfreqBytes} {k k' : κ} : 0 ∈ List.ofFn (req.get ifrName) →
    K.ioctl .siocgifflags fd req k = (.ok req', k') → ∃ value, req' = putFlags e value req

end RustTun.Linux.Raw
