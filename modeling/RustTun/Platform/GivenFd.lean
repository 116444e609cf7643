import RustTun.MacOs.Device
import RustTun.Platform.Vectored
import RustTun.Posix.Closing

/-!
# Devices over a given descriptor

On iOS, Android and OpenHarmony it is the system that opens the descriptor, and `Device::new` takes
it over; on macOS it does so if the configuration has one.  The configuration also says whether the
descriptor is to be closed, which it is unless it says otherwise.

`new_takesOver` follows such a descriptor from the configuration to the end of the program.
-/

namespace RustTun

open Transition

/-! ## Creation -/

section Creation

variable {P : Type}

/-- `Fd::new(..).map_err(|_| io::Error::last_os_error())?`; the host is the last error. -/
def takeOver (fd : RawFd) (close : Bool) : Call Error (Process Errno) Fd :=
  match Fd.new fd close with
  | .ok fd => pure fd
  | .error _ => fun s ↦ (.error (.err (.io (.os s.host))), s)

/-- What `Device::new` makes of a configuration, up to the `Device` around the `Tun`. -/
def givenTun (packetInformation : Bool) (config : Configuration P) :
    Call Error (Process Errno) Tun :=
  match config.rawFd with
  | none => .fail .invalidConfig
  | some fd => do
    let fd ← takeOver fd (config.closeFdOnDrop.getD true)
    Process.newTun fd (config.mtu.getD defaultMtu) packetInformation

end Creation

namespace Ios

/-- `ios::PlatformConfig`. -/
structure PlatformConfig where
  packetInformation : Bool := true
deriving DecidableEq, Repr

/-- `Device::new`. -/
def Device.new (config : Configuration PlatformConfig) : Call Error (Process Errno) Device := do
  let tun ← givenTun config.platformConfig.packetInformation config
  pure { tun }

end Ios

namespace Android

/-- `android::PlatformConfig`. -/
structure PlatformConfig where
deriving DecidableEq, Repr

/-- `Device::new`. -/
def Device.new (config : Configuration PlatformConfig) : Call Error (Process Errno) Device := do
  let tun ← givenTun false config
  pure { tun }

end Android

namespace Ohos

/-- `ohos::PlatformConfig`. -/
structure PlatformConfig where
deriving DecidableEq, Repr

/-- `Device::new`. -/
def Device.new (config : Configuration PlatformConfig) : Call Error (Process Errno) Device := do
  let tun ← givenTun false config
  pure { tun }

end Ohos

/-! ## What becomes of the descriptor -/

variable {P : Type}

/-- What must become of the descriptor that a configuration gives, on the target `os`: either
nothing is closed, because there is no descriptor or it is none; or there is a device now, and
whatever a program does with it, all I/O is on that descriptor, and what is closed is nothing as
long as a part of the device is left, and the descriptor, if it is to be closed, once nothing is. -/
def TakesOver (os : TargetOs) (config : Configuration P) (w : World) :
    Except (Stop Error) Device × World → Prop
  | (.error e, w') => w' = w ∧ (config.rawFd = none ∧ e = .err .invalidConfig ∨
      (∃ d < 0, config.rawFd = some d) ∧ ∃ errno, e = .err (.io (.os errno)))
  | (.ok dev, w') => ∃ d ≥ 0, config.rawFd = some d ∧
      ∀ f l, (sharings os d (config.closeFdOnDrop.getD true)).Run ⟨[.device dev], w', f⟩ l →
        (∀ p ∈ (final ⟨[.device dev], w', f⟩ l).parts, ∀ fd ∈ p.handles, fd.val.inner = d) ∧
        (final ⟨[.device dev], w', f⟩ l).world.closes = w.closes ++
          if (final ⟨[.device dev], w', f⟩ l).parts = [] ∧ config.closeFdOnDrop.getD true then [d]
          else []

section Results

variable {config : Configuration P} {w : World} (os : TargetOs)

/-- There is no descriptor. -/
theorem takesOver_none (hraw : config.rawFd = none) :
    TakesOver os config w (.error (.err .invalidConfig), w) :=
  ⟨rfl, .inl ⟨hraw, rfl⟩⟩

/-- What was given is no descriptor. -/
theorem takesOver_neg {d : RawFd} (hraw : config.rawFd = some d) (hd : d < 0) (errno : Errno) :
    TakesOver os config w (.error (.err (.io (.os errno))), w) :=
  ⟨rfl, .inr ⟨⟨d, hd, hraw⟩, errno, rfl⟩⟩

/-- There is a device now. -/
theorem takesOver_some {d : RawFd} (hraw : config.rawFd = some d) (hd : 0 ≤ d) (mtu : UInt16)
    (pi : Bool) :
    let built := Tun.new ⟨d, config.closeFdOnDrop.getD true⟩ mtu pi w.heap
    TakesOver os config w (.ok { tun := built.1, ctl := none }, { w with heap := built.2 }) := by
  intro built
  refine ⟨d, hd, hraw, fun f l hrun ↦ ?_⟩
  have hctl : ∀ fd ∈ (none : Option Fd), fd.inner ≠ d := fun fd hfd ↦ by cases hfd
  have hover : Device.Over d (config.closeFdOnDrop.getD true) { tun := built.1, ctl := none }
      { w with heap := built.2 }.heap := Device.over_new mtu pi w.heap hctl
  have hclosed := hover.closed_final hd hrun
  refine ⟨hclosed.shape.inner, ?_⟩
  rw [hclosed.closes, ctlCloses, closings_nil, Fd.closes_of_nonneg hd]
  by_cases hnil : (final ⟨[.device { tun := built.1, ctl := none }], { w with heap := built.2 }, f⟩
      l).parts = []
  · simp [hnil]
  · simp [hnil]

end Results

/-- What a call left behind, as far as descriptors go. -/
def devices {δ κ : Type} (device : δ → Device) (r : Except (Stop Error) δ × Process κ) :
    Except (Stop Error) Device × World :=
  (r.1.map device, r.2.world)

/-- A `Tun` that was made of a configuration, with a `Device` around it. -/
theorem takesOver_givenTun {δ : Type} (os : TargetOs) (pi : Bool) (config : Configuration P)
    (s : Process Errno) (make : Tun → δ) {device : δ → Device}
    (hdevice : ∀ tun, device (make tun) = { tun, ctl := none }) :
    TakesOver os config s.world (devices device
      ((givenTun pi config >>= fun tun ↦ (pure (make tun) : Call Error (Process Errno) δ)) s)) := by
  rw [givenTun]
  cases hraw : config.rawFd with
  | none => exact takesOver_none os hraw
  | some d =>
      by_cases hd : d < 0
      · have hfd : Fd.new d (config.closeFdOnDrop.getD true) = .error .invalidDescriptor :=
          if_pos hd
        simp only [takeOver, hfd]
        exact takesOver_neg os hraw hd s.host
      · have hfd : Fd.new d (config.closeFdOnDrop.getD true) =
            .ok ⟨d, config.closeFdOnDrop.getD true⟩ := if_neg hd
        simp only [takeOver, hfd]
        have hsome := takesOver_some (w := s.world) os hraw (Int.not_lt.1 hd)
          (config.mtu.getD defaultMtu) pi
        simp only [← hdevice] at hsome
        exact hsome

/-- macOS likewise, if the configuration has a descriptor. -/
theorem MacOs.Device.takesOver_new (ipnet : Ipnet) (config : Configuration PlatformConfig)
    (s : Process Host) {d : RawFd} (hraw : config.rawFd = some d) :
    TakesOver .macos config s.world
      (devices (fun dev ↦ { tun := dev.tun, ctl := dev.ctl }) (new ipnet config s)) := by
  rw [new, hraw]
  by_cases hd : d < 0
  · have hfd : Fd.new d (config.closeFdOnDrop.getD true) = .error .invalidDescriptor := if_pos hd
    simp only [ofRawFd, newFd, hfd]
    exact takesOver_neg .macos hraw hd s.host.errno
  · have hfd : Fd.new d (config.closeFdOnDrop.getD true) =
        .ok ⟨d, config.closeFdOnDrop.getD true⟩ := if_neg hd
    simp only [ofRawFd, newFd, hfd]
    exact takesOver_some .macos hraw (Int.not_lt.1 hd) (config.mtu.getD defaultMtu)
      config.platformConfig.packetInformation

/-- **A given descriptor** is taken over as the configuration says, on every platform. -/
theorem new_takesOver :
    (∀ (config : Configuration Ios.PlatformConfig) (s : Process Errno),
      TakesOver .ios config s.world
        (devices (fun dev ↦ { tun := dev.tun, ctl := none }) (Ios.Device.new config s))) ∧
    (∀ (config : Configuration Android.PlatformConfig) (s : Process Errno),
      TakesOver .android config s.world
        (devices (fun dev ↦ { tun := dev.tun, ctl := none }) (Android.Device.new config s))) ∧
    (∀ (config : Configuration Ohos.PlatformConfig) (s : Process Errno),
      TakesOver .linux config s.world
        (devices (fun dev ↦ { tun := dev.tun, ctl := none }) (Ohos.Device.new config s))) ∧
    ∀ (ipnet : Ipnet) (config : Configuration MacOs.PlatformConfig) (d : RawFd)
      (s : Process MacOs.Host),
      TakesOver .macos { config with rawFd := some d } s.world
        (devices (fun dev ↦ { tun := dev.tun, ctl := dev.ctl })
          (MacOs.Device.new ipnet { config with rawFd := some d } s)) := by
  refine ⟨fun config s ↦ ?_, fun config s ↦ ?_, fun config s ↦ ?_, fun ipnet config d s ↦ ?_⟩
  · exact takesOver_givenTun .ios _ config s Ios.Device.mk fun _ ↦ rfl
  · exact takesOver_givenTun .android false config s Android.Device.mk fun _ ↦ rfl
  · exact takesOver_givenTun .linux false config s Ohos.Device.mk fun _ ↦ rfl
  · exact MacOs.Device.takesOver_new ipnet { config with rawFd := some d } s rfl

end RustTun
