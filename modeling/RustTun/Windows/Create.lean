import RustTun.Windows.Device
import RustTun.Windows.Lifetime
import RustTun.Windows.VerifyDllFile

/-!
# Creating the Windows device

`Device::new` checks the wintun library and loads it, opens the adapter or creates one, gives it
its addresses and starts a session on it; the device takes over the configuration at last.

What the `wintun` crate does is a parameter (`Wintun`), as the system is.  Two things are said
about all ways in which this can go.  `libloading::Library::new` is only called after the file has
passed the check (`Device.new_checks`), although the check itself lets the system load the file.
And a session that was started is the one of the device that is returned, or is shut down and has
ended when the call stops, be it that it panics on an address that is not an IPv4 address
(`Device.new_session`).
-/

namespace RustTun.Windows

open Shared

/-- `windows::PlatformConfig`. -/
structure PlatformConfig where
  deviceGuid : Option Nat := none
  wintunFile : List UInt16 := Utf16.encode "wintun.dll".toList
  /-- There if the feature `wintun-dns` is. -/
  dnsServers : Option (List IpAddr) := none
  ringCap : Option UInt32 := none
  skipConfig : Bool := false

/-- `DEFAULT_MTU`. -/
def defaultMtu : UInt16 := 0xFFFF

/-- `crate::error::Error`, with the variant that only Windows has and only creation makes. -/
inductive Failure where
  | error (err : Error)
  | libloadingError (text : String)

/-- `wintun::Adapter`, with what is called of it when a device is created. -/
structure OpenAdapter (κ σ : Type) extends Adapter κ where
  /-- `Adapter::get_name`. -/
  getName : κ → Except WintunError Name × κ
  /-- `Adapter::set_network_addresses_tuple`. -/
  setNetworkAddressesTuple : IpAddr → IpAddr → Option IpAddr → κ → Except WintunError Unit × κ
  /-- `Adapter::set_dns_servers`. -/
  setDnsServers : List IpAddr → κ → Except WintunError Unit × κ
  /-- `Adapter::start_session`. -/
  startSession : UInt32 → κ → Except WintunError σ × κ

/-- `libloading` and `wintun`. -/
structure Wintun (κ σ : Type) where
  /-- `libloading::Library::new`. -/
  libraryNew : List UInt16 → κ → Except String Handle × κ
  /-- `wintun::load_from_library`, with its error as `?` converts it. -/
  loadFromLibrary : Handle → κ → Except Failure Unit × κ
  /-- `Adapter::open`. -/
  openAdapter : Name → κ → Except WintunError (OpenAdapter κ σ) × κ
  /-- `Adapter::create`. -/
  createAdapter : Name → Name → Option Nat → κ → Except WintunError (OpenAdapter κ σ) × κ
  /-- `wintun::MAX_RING_CAPACITY`. -/
  maxRingCapacity : UInt32

/-- What a device is created in. -/
structure Creation (κ : Type) where
  host : Host κ
  world : World

/-- `windows::Device`. -/
structure Device (σ : Type) where
  tun : Tun σ
  mtu : UInt16
  name : Name

variable {κ σ : Type}

namespace Creation

/-- The `?` on a call that only concerns the system. -/
def onHost {α : Type} (x : Call Error (Host κ) α) : Call Failure (Creation κ) α := fun s ↦
  match x s.host with
  | (.ok a, host) => (.ok a, { s with host })
  | (.error (.err e), host) => (.error (.err (.error e)), { s with host })
  | (.error .panic, host) => (.error .panic, { s with host })

/-- A call on the state of the system alone. -/
def onSystem {α : Type} (x : Call Error κ α) : Call Error (Host κ) α := fun host ↦
  ((x host.system).1, { host with system := (x host.system).2 })

/-- A call of `wintun`, and its result. -/
def attempt {ε α : Type} (call : κ → Except ε α × κ) : Call Failure (Creation κ) (Except ε α) :=
  fun s ↦ (.ok (call s.host.system).1,
    { s with host := { s.host with system := (call s.host.system).2 } })

/-- The `?` on a result. -/
def unwrap {ε α : Type} (from_ : ε → Failure) : Except ε α → Call Failure (Creation κ) α
  | .ok a => pure a
  | .error e => .fail (from_ e)

/-- The `?` on a call of `wintun`. -/
def onWintun {α : Type} (call : κ → Except WintunError α × κ) : Call Failure (Creation κ) α := do
  let r ← attempt call
  unwrap (fun e ↦ .error (.wintunError e)) r

/-- Load the library: `Library::new`, and `load_from_library`. -/
def load (L : Wintun κ σ) (file : List UInt16) : Call Failure (Creation κ) Unit := do
  .modify fun s ↦ { s with host := { s.host with calls := s.host.calls ++ [.libraryNew file] } }
  let r ← attempt (L.libraryNew file)
  let library ← unwrap .libloadingError r
  let r ← attempt (L.loadFromLibrary library)
  unwrap id r

/-- `if condition { x?; }`. -/
def onlyIf (condition : Bool) (x : Call Failure (Creation κ) Unit) :
    Call Failure (Creation κ) Unit :=
  if condition then x else pure ()

/-- `adapter.start_session(..)?`; that a session was started is noted. -/
def startSession (call : κ → Except WintunError σ × κ) : Call Failure (Creation κ) σ := do
  let session ← onWintun call
  .modify fun s ↦ { s with world := s.world.note .started }
  pure session

/-- `Arc::new(session)`. -/
def newTun (session : σ) : Call Failure (Creation κ) (Tun σ) := fun s ↦
  (.ok ⟨(s.world.heap.new session).1⟩,
    { s with world := { s.world with heap := (s.world.heap.new session).2 } })

end Creation

namespace Device

variable (W : Win32 κ) (L : Wintun κ σ)

/-- The adapter of that name: the one there is, or a new one. -/
def adapter (tunName : Name) (guid : Option Nat) : Call Failure (Creation κ) (OpenAdapter κ σ) := do
  match ← Creation.attempt (L.openAdapter tunName) with
  | .ok a => pure a
  | .error _ => Creation.onWintun (L.createAdapter tunName tunName guid)

/-- `!skip_config && adapter.get_name().is_ok()`. -/
def configures (skipConfig : Bool) (adapter : OpenAdapter κ σ) :
    Call Failure (Creation κ) Bool := do
  if skipConfig then
    pure false
  else
    let r ← Creation.attempt adapter.getName
    pure r.isOk

/-- What the adapter is given before the session is started. -/
def setAddresses (adapter : OpenAdapter κ σ) (config : Configuration PlatformConfig) :
    Call Failure (Creation κ) Unit := do
  let address := config.address.getD (.v4 (.new 10 1 0 2))
  let mask := config.netmask.getD (.v4 (.new 255 255 255 0))
  Creation.onWintun (adapter.setNetworkAddressesTuple address mask config.destination)
  match config.platformConfig.dnsServers with
  | some servers => Creation.onWintun (adapter.setDnsServers servers)
  | none => pure ()

/-- Take the configuration over; the device is dropped if that stops. -/
def takeOver (adapter : OpenAdapter κ σ) (config : Configuration PlatformConfig)
    (dev : Device σ) : Call Failure (Creation κ) Unit :=
  .guarded (fun s ↦ { s with world := s.world.dropTun dev.tun }) <|
    Creation.onHost (Creation.onSystem ((abstractDevice adapter.toAdapter).configure config))

/-- `Device::new` from the point where the library is loaded. -/
def start (config : Configuration PlatformConfig) : Call Failure (Creation κ) (Device σ) := do
  let tunName := config.tunName.getD "wintun".toUTF8.toList
  let adapter ← adapter L tunName config.platformConfig.deviceGuid
  let given ← configures config.platformConfig.skipConfig adapter
  Creation.onlyIf given (setAddresses adapter config)
  let mtu := config.mtu.getD defaultMtu
  let session ← Creation.startSession
    (adapter.startSession (config.platformConfig.ringCap.getD L.maxRingCapacity))
  let tun ← Creation.newTun session
  let dev : Device σ := { tun, mtu, name := tunName }
  -- from here on the device is there to be dropped
  let given ← configures config.platformConfig.skipConfig adapter
  Creation.onlyIf given (takeOver adapter config dev)
  pure dev

/-- `Device::new`. -/
def new (config : Configuration PlatformConfig) : Call Failure (Creation κ) (Device σ) := do
  Creation.onHost (check W config.platformConfig.wintunFile)
  Creation.load L config.platformConfig.wintunFile
  start L config

end Device

/-! ## What stays -/

namespace Creation

/-- Nothing is said about the state of the system. -/
def Stable (I : Creation κ → Prop) : Prop :=
  ∀ s system, I s → I { s with host := { s.host with system } }

variable {I E : Creation κ → Prop}

theorem triple_attempt (hI : Stable I) {ε α : Type} (call : κ → Except ε α × κ) :
    Call.Triple I (attempt call) (fun _ ↦ I) E := fun s hs ↦ hI s _ hs

theorem triple_unwrap (hE : ∀ s, I s → E s) {ε α : Type} (from_ : ε → Failure) (r : Except ε α) :
    Call.Triple I (unwrap from_ r) (fun _ ↦ I) E := by
  cases r with
  | ok a => exact .pure fun _ hs ↦ hs
  | error e => exact .fail hE

theorem triple_onWintun (hI : Stable I) (hE : ∀ s, I s → E s) {α : Type}
    (call : κ → Except WintunError α × κ) : Call.Triple I (onWintun call) (fun _ ↦ I) E :=
  (triple_attempt hI call).bind fun r ↦ triple_unwrap hE _ r

theorem triple_onlyIf (condition : Bool) {x : Call Failure (Creation κ) Unit}
    (hx : Call.Triple I x (fun _ ↦ I) E) : Call.Triple I (onlyIf condition x) (fun _ ↦ I) E := by
  cases condition with
  | true => exact hx
  | false => exact .pure fun _ hs ↦ hs

/-- Starting a session is noted behind it. -/
theorem triple_startSession {P : Creation κ → Prop} (hP : Stable P) (hE : ∀ s, P s → E s)
    (hI : ∀ s, P s → I { s with world := s.world.note .started })
    (call : κ → Except WintunError σ × κ) :
    Call.Triple P (startSession call) (fun _ ↦ I) E :=
  (triple_onWintun hP hE call).bind fun _ ↦ .bind (R := fun _ ↦ I) hI fun _ ↦ .pure fun _ hs ↦ hs

/-- `Library::new` is noted before anything else. -/
theorem triple_load {P : Creation κ → Prop} (L : Wintun κ σ) (file : List UInt16) (hI : Stable I)
    (hE : ∀ s, I s → E s) (hP : ∀ s, P s →
      I { s with host := { s.host with calls := s.host.calls ++ [.libraryNew file] } }) :
    Call.Triple P (load L file) (fun _ ↦ I) E := by
  refine .bind (R := fun _ ↦ I) hP fun _ ↦ ?_
  refine (triple_attempt hI _).bind fun r ↦ (triple_unwrap hE _ r).bind fun library ↦ ?_
  exact (triple_attempt hI _).bind fun r ↦ triple_unwrap hE _ r

/-- A call that only concerns the system leaves the rest alone. -/
theorem world_onHost {α : Type} (x : Call Error (Host κ) α) (s : Creation κ) :
    (onHost x s).2.world = s.world := by
  rw [onHost]
  split
  · rfl
  · rfl
  · rfl

theorem host_onHost {α : Type} (x : Call Error (Host κ) α) (s : Creation κ) :
    (onHost x s).2.host = (x s.host).2 := by
  rw [onHost]
  split
  · rename_i h
    rw [h]
  · rename_i h
    rw [h]
  · rename_i h
    rw [h]

/-- What a call on the system does, it does to that part of the state. -/
theorem triple_onHost {α : Type} {P : Host κ → Prop} {Q : α → Host κ → Prop} {F : Host κ → Prop}
    {x : Call Error (Host κ) α} (h : Call.Triple P x Q F) :
    Call.Triple (fun s : Creation κ ↦ P s.host) (onHost x) (fun a s ↦ Q a s.host)
      fun s ↦ F s.host := by
  intro s hs
  have ht := h s.host hs
  rw [onHost]
  rcases hx : x s.host with ⟨(e | _) | a, t⟩
  · rw [hx] at ht
    exact ht
  · rw [hx] at ht
    exact ht
  · rw [hx] at ht
    exact ht

end Creation

namespace Device

open Creation

variable {W : Win32 κ} {L : Wintun κ σ} {I E : Creation κ → Prop}

theorem triple_adapter (hI : Stable I) (hE : ∀ s, I s → E s) (tunName : Name)
    (guid : Option Nat) : Call.Triple I (adapter L tunName guid) (fun _ ↦ I) E := by
  refine (triple_attempt hI _).bind fun r ↦ ?_
  cases r with
  | ok a => exact .pure fun _ hs ↦ hs
  | error e => exact triple_onWintun hI hE _

/-- Asking whether to configure the device does not stop. -/
theorem triple_configures (hI : Stable I) (skipConfig : Bool) (a : OpenAdapter κ σ) :
    Call.Triple I (configures skipConfig a) (fun _ ↦ I) E := by
  rw [configures]
  split_ifs
  · exact .pure fun _ hs ↦ hs
  · exact (triple_attempt hI _).bind fun r ↦ .pure fun _ hs ↦ hs

theorem triple_setAddresses (hI : Stable I) (hE : ∀ s, I s → E s) (a : OpenAdapter κ σ)
    (config : Configuration PlatformConfig) :
    Call.Triple I (setAddresses a config) (fun _ ↦ I) E := by
  refine (triple_onWintun hI hE _).bind fun _ ↦ ?_
  split
  · exact triple_onWintun hI hE _
  · exact .pure fun _ hs ↦ hs

/-! ## The session -/

/-- The world with a new session in it. -/
def withSession (w : World) (session : σ) : World :=
  { w.note .started with heap := (w.heap.new session).2 }

/-- The `Tun` that has the new session. -/
def sessionTun (w : World) (session : σ) : Tun σ := ⟨(w.heap.new session).1⟩

/-- Dropping the `Tun` shuts the session down, and ends it. -/
theorem log_dropTun_sessionTun (w : World) (session : σ) :
    ((withSession w session).dropTun (sessionTun w session)).log =
      w.log ++ [.started, .shutdown, .ended] := by
  have hstrong : ((withSession w session).note .shutdown).heap.strong
      (sessionTun w session).session.cell = 1 := Heap.strong_new session w.heap
  rw [World.dropTun, World.dropSession, Heap.release_of_strong_eq_one _ _ hstrong]
  show ((w.log ++ [.started]) ++ [.shutdown]) ++ [.ended] = _
  rw [List.append_assoc, List.append_assoc]
  rfl

/-- No session was started since the world was `w`, or it was shut down and has ended. -/
def NoSession (w : World) (s : Creation κ) : Prop :=
  s.world = w ∨ s.world.log = w.log ++ [.started, .shutdown, .ended]

theorem stable_world (w : World) : Stable fun s : Creation κ ↦ s.world = w := fun _ _ hs ↦ hs

/-- If the configuration is not taken over, the session ends with the device. -/
theorem triple_takeOver (w : World) (session : σ) (a : OpenAdapter κ σ)
    (config : Configuration PlatformConfig) {dev : Device σ}
    (hdev : dev.tun = sessionTun w session) :
    Call.Triple (fun s ↦ s.world = withSession w session) (takeOver a config dev)
      (fun _ s ↦ s.world = withSession w session) (NoSession w) := by
  refine .guarded (E := fun s ↦ s.world = withSession w session) ?_ fun s hs ↦ .inr ?_
  · exact .of_preserves (fun s hs ↦ (world_onHost _ s).trans hs) fun _ hs ↦ hs
  · show (s.world.dropTun dev.tun).log = _
    rw [hs, hdev, log_dropTun_sessionTun]

/-- **The session of a new device.** -/
theorem triple_start (L : Wintun κ σ) (w : World) (config : Configuration PlatformConfig) :
    Call.Triple (fun s ↦ s.world = w) (start L config)
      (fun dev s ↦ ∃ session, dev.tun = sessionTun w session ∧ s.world = withSession w session)
      (NoSession w) := by
  have hw := stable_world (κ := κ) w
  have hnone (s : Creation κ) (hs : s.world = w) : NoSession w s := .inl hs
  refine (triple_adapter hw hnone _ _).bind fun a ↦ ?_
  refine (triple_configures hw _ _).bind fun given ↦ ?_
  refine (triple_onlyIf given (triple_setAddresses hw hnone a config)).bind fun _ ↦ ?_
  have hstarted (s : Creation κ) (hs : s.world = w) : s.world.note .started = w.note .started :=
    congrArg (World.note .started) hs
  refine (triple_startSession (I := fun s ↦ s.world = w.note .started) hw hnone hstarted _).bind
    fun session ↦ ?_
  have htun : Call.Triple (fun s : Creation κ ↦ s.world = w.note .started) (newTun session)
      (fun tun s ↦ tun = sessionTun w session ∧ s.world = withSession w session)
      (NoSession w) := by
    rintro ⟨host, _⟩ rfl
    exact ⟨rfl, rfl⟩
  refine htun.bind fun tun ↦ .of_imp fun htun ↦ ?_
  refine (triple_configures (stable_world _) _ _).bind fun given ↦ ?_
  refine (triple_onlyIf given (triple_takeOver w session a config htun)).bind fun _ ↦ ?_
  exact .pure fun s hs ↦ ⟨session, htun, hs⟩

/-- What is done before does not concern the session. -/
theorem triple_new (W : Win32 κ) (L : Wintun κ σ) (w : World)
    (config : Configuration PlatformConfig) :
    Call.Triple (fun s ↦ s.world = w) (new W L config)
      (fun dev s ↦ ∃ session, dev.tun = sessionTun w session ∧ s.world = withSession w session)
      (NoSession w) := by
  have hw := stable_world (κ := κ) w
  have hnone (s : Creation κ) (hs : s.world = w) : NoSession w s := .inl hs
  refine .bind (.of_preserves (fun s hs ↦ (world_onHost _ s).trans hs) hnone) fun _ ↦ ?_
  exact (triple_load L _ hw hnone fun _ hs ↦ hs).bind fun _ ↦ triple_start L w config

/-- **The session of a device.**  Whatever a program does with a device that was returned and its
parts, its session is in the state that it has to be in; and if none was returned, then the session
was not started, or it was shut down and has ended. -/
theorem new_session (W : Win32 κ) (L : Wintun κ σ) (config : Configuration PlatformConfig)
    (host : Host κ) (heap : Heap) :
    match new W L config ⟨host, ⟨heap, []⟩⟩ with
    | (.ok dev, s) => ∀ l, (sharings σ).Run ⟨[.device dev.tun], s.world⟩ l → ∀ x ∈ l,
        x.2.world.log = record (x.2.parts.any Part.hasTun) (x.2.parts.any Part.hasSession)
    | (.error _, s) => s.world.log = [] ∨ s.world.log = [.started, .shutdown, .ended] := by
  have h := triple_new W L ⟨heap, []⟩ config ⟨host, ⟨heap, []⟩⟩ rfl
  rcases hnew : new W L config ⟨host, ⟨heap, []⟩⟩ with ⟨e | dev, s⟩
  · rw [hnew] at h
    exact h.imp (congrArg World.log) id
  · rw [hnew] at h
    obtain ⟨session, htun, hworld⟩ := h
    intro l hrun x hx
    have hbuilt : Sharing.Built ⟨[.device dev.tun], s.world⟩ := by
      rw [htun, hworld]
      exact .device session heap
    have hinv := hrun.invariant (I := fun s : Sharing σ ↦ ∃ S, s.Inv S)
      (fun s a t hs hstep ↦ hs.imp fun S hs ↦ Sharing.Step.inv hstep hs) hbuilt.inv x hx
    obtain ⟨S, hs⟩ := hinv
    exact hs.log_eq_record

/-! ## The record -/

theorem stable_calls (l : List SystemCall) : Stable fun s : Creation κ ↦ s.host.calls = l :=
  fun _ _ hs ↦ hs

/-- Nothing that is recorded is called behind `Library::new`. -/
theorem triple_start_calls (L : Wintun κ σ) (l : List SystemCall)
    (config : Configuration PlatformConfig) :
    Call.Triple (fun s ↦ s.host.calls = l) (start L config) (fun _ s ↦ s.host.calls = l)
      (fun s ↦ s.host.calls = l) := by
  have hl := stable_calls (κ := κ) l
  have hid (s : Creation κ) (hs : s.host.calls = l) : s.host.calls = l := hs
  refine (triple_adapter hl hid _ _).bind fun a ↦ ?_
  refine (triple_configures hl _ _).bind fun given ↦ ?_
  refine (triple_onlyIf given (triple_setAddresses hl hid a config)).bind fun _ ↦ ?_
  refine (triple_startSession (I := fun s ↦ s.host.calls = l) hl hid hid _).bind fun session ↦ ?_
  have htun : Call.Triple (fun s : Creation κ ↦ s.host.calls = l) (newTun session)
      (fun _ s ↦ s.host.calls = l) (fun s ↦ s.host.calls = l) := fun s hs ↦ hs
  refine htun.bind fun tun ↦ ?_
  refine (triple_configures hl _ _).bind fun given ↦ ?_
  refine (triple_onlyIf given (.guarded (.of_preserves (fun s hs ↦ ?_) hid) hid)).bind fun _ ↦ ?_
  · rw [host_onHost]
    exact hs
  · exact .pure fun _ hs ↦ hs

/-- From the check on, it is `Library::new`. -/
theorem triple_load_calls (L : Wintun κ σ) (l : List SystemCall)
    (config : Configuration PlatformConfig) :
    Call.Triple (fun s ↦ s.host.calls = l)
      (do load L config.platformConfig.wintunFile; start L config)
      (fun _ s ↦ s.host.calls = l ++ [.libraryNew config.platformConfig.wintunFile])
      (fun s ↦ s.host.calls = l ++ [.libraryNew config.platformConfig.wintunFile]) := by
  refine (triple_load L _ (stable_calls _) (fun _ hs ↦ hs) fun s hs ↦ ?_).bind fun _ ↦
    triple_start_calls L _ config
  show s.host.calls ++ _ = _
  rw [hs]

/-- What was asked is a whole inspection with good answers, and then `Library::new`. -/
def Checked (W : Win32 κ) (l : List SystemCall) (file : List UInt16) (s : Creation κ) : Prop :=
  ∃ i : Inspection, (∀ c ∈ i.calls file, c.Good W.sizeOfSignerInfo) ∧
    s.host.calls = l ++ i.calls file ++ [.libraryNew file]

theorem triple_new_calls (W : Win32 κ) (L : Wintun κ σ) (l : List SystemCall)
    (config : Configuration PlatformConfig) :
    Call.Triple (fun s ↦ s.host.calls = l) (new W L config)
      (fun _ ↦ Checked W l config.platformConfig.wintunFile)
      (fun s ↦ Checked W l config.platformConfig.wintunFile s ∨
        Refused W l s.host ∧ Preloaded l config.platformConfig.wintunFile s.host) := by
  have hboth := (triple_check (W := W) (l := l) config.platformConfig.wintunFile).and
    (triple_check_preloads config.platformConfig.wintunFile)
  have hcheck := (triple_onHost hboth).weaken (fun _ hs ↦ hs) (fun _ _ hs ↦ hs.1)
    fun s hs ↦ (.inr hs : Checked W l config.platformConfig.wintunFile s ∨ _)
  refine hcheck.bind fun _ ↦ .of_exists fun i s hs ↦ ?_
  obtain ⟨hcalls, hgood⟩ := hs
  have hrest := triple_load_calls L (l ++ i.calls config.platformConfig.wintunFile) config
  exact hrest.weaken (fun _ ht ↦ ht) (fun _ t ht ↦ ⟨i, hgood, ht⟩)
    (fun t ht ↦ .inl ⟨i, hgood, ht⟩) s hcalls

/-- **`Library::new` is called only after the file has passed the check.**  Either all answers of
the system were good, and what was asked is the whole inspection of one file, then `Library::new`,
and nothing else; or one was not, and `Library::new` is not called.  The system has loaded the file
all the same: the inspection begins with that. -/
theorem new_checks (W : Win32 κ) (L : Wintun κ σ) (config : Configuration PlatformConfig)
    (s : Creation κ) :
    Checked W s.host.calls config.platformConfig.wintunFile (new W L config s).2 ∨
      Refused W s.host.calls (new W L config s).2.host ∧
        Preloaded s.host.calls config.platformConfig.wintunFile (new W L config s).2.host ∧
        ∃ e, (new W L config s).1 = .error e := by
  have h := triple_new_calls W L s.host.calls config s rfl
  rcases hnew : new W L config s with ⟨e | dev, t⟩
  · rw [hnew] at h
    exact h.imp id fun ⟨hrefused, hloaded⟩ ↦ ⟨hrefused, hloaded, e, rfl⟩
  · rw [hnew] at h
    exact .inl h

end Device

end RustTun.Windows
