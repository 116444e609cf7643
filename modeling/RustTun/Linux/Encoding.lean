import RustTun.Base.Agreement
import RustTun.Base.Run
import RustTun.Linux.Name
import RustTun.Linux.Raw

/-!
# Requests as values and as memory

The model of the Linux device in which requests are values says of the program over memory all
there is to say: `same_runs`.  Two things have to be seen for it.  The bytes that the program puts
together are those that `encode` makes of the request, since the pieces are copied to places that
are zeroed and have room for them, as long as the name of the device fits.  And nothing is read of
an answer that `decode` does not have, which for the name takes that it ends in its field, and for
the flags, whose answer becomes the next request, that nothing else was written.
-/

namespace RustTun.Linux.Raw

open Memory Transition Call

/-! ## Filling in requests -/

/-- A zeroed request with a name in its field. -/
def named (name : Name) : IfreqBytes := (Block.zeroed 40).set ifrName (.ofList 16 name)

/-- A name that has room is copied into its field. -/
theorem copyText_ifrName {name : Name} (h : name.length ≤ IFNAMSIZ) :
    copyText name (.zeroed 40) ifrName.offset = some (named name) :=
  Block.copyNonoverlapping_ofList (b := Block.zeroed 40) rfl h

theorem request_eq {dev : Device} (h : FitsField dev.tunName) :
    request dev = some (named dev.tunName) := copyText_ifrName h.lt.le

/-- The field says the name and nothing else. -/
theorem ofList_nameField {name : Name} (h : name.length ≤ IFNAMSIZ) :
    Block.ofList 16 (nameField name) = .ofList 16 name := by
  rw [nameField_eq h, Block.ofList_append_replicate]

/-- The request of a name that fits is about that name. -/
theorem names_named {name : Name} (h : FitsField name) :
    Names (List.ofFn ((named name).get ifrName)) name := by
  have hfield := names_nameField_iff.2 h
  have hlist : List.ofFn (Block.ofList 16 (nameField name)) = nameField name :=
    Block.ofFn_ofList hfield.length_eq
  rw [named, Block.get_set, ← ofList_nameField h.lt.le, hlist]
  exact hfield

/-- What is behind the name is still zero. -/
theorem get_named {w : Nat} {f : Field 40 w} (h : ifrName.Disjoint f) (name : Name) :
    (named name).get f = .zeroed w := by
  rw [named, Block.get_set_of_disjoint _ h]
  rfl

variable {e : Endian} {name : Name}

theorem encode_flags (h : name.length ≤ IFNAMSIZ) (value : UInt16) :
    encode e { Ifreq.named name with ifrIfru := .flags value } = putFlags e value (named name) := by
  rw [named, ← ofList_nameField h]
  rfl

/-- Flags that are zero are there already. -/
theorem encode_named (h : name.length ≤ IFNAMSIZ) : encode e (Ifreq.named name) = named name := by
  have hzero : (named name).get ifruFlagsField = neBytes e 2 0 := by
    rw [get_named (by decide), neBytes_zero]
  exact (encode_flags h 0).trans (Block.set_of_get_eq hzero)

/-- The address of each kind. -/
theorem putAddr_named (h : name.length ≤ IFNAMSIZ) (f : IfruSockaddr) (value : IpAddr) :
    putAddr e f (named name) value = some (encode e { Ifreq.named name with
      ifrIfru := match f with
        | .ifruAddr => .addr value 0
        | .ifruDstaddr => .dstaddr value 0
        | .ifruBroadaddr => .broadaddr value 0
        | .ifruNetmask => .netmask value 0 }) := by
  rw [putAddr_eq, named, ← ofList_nameField h]
  cases f <;> rfl

theorem set_ifruMtu_named (h : name.length ≤ IFNAMSIZ) (value : Nat) :
    (named name).set ifruMtu (neBytes e 4 value) =
      encode e { Ifreq.named name with ifrIfru := .mtu value } := by
  rw [named, ← ofList_nameField h]
  rfl

theorem copyText_ifruNewname (h : name.length ≤ IFNAMSIZ) {value : Name}
    (hvalue : value.length ≤ IFNAMSIZ) :
    copyText value (named name) ifruNewname.offset =
      some (encode e { Ifreq.named name with ifrIfru := .newname value }) := by
  have hzero : (named name).get ifruNewname = .zeroed 16 := get_named (by decide) name
  have hcopy : copyText value (named name) ifruNewname.offset =
      some ((named name).set ifruNewname (.ofList 16 value)) :=
    Block.copyNonoverlapping_ofList hzero hvalue
  rw [hcopy, named, ← ofList_nameField h]
  rfl

/-! ## Setters -/

variable {κ : Type} {K : Kernel κ}

/-- What is to be known of a device for its requests to be made. -/
def Fits (s : Device × Process κ) : Prop := FitsField s.1.tunName

/-- A request of a device whose name fits is made. -/
theorem prepare_eq {dev : Device} {s : Process κ} {fill : IfreqBytes → Option IfreqBytes}
    {req : IfreqBytes} (hs : Fits (dev, s)) (hfill : fill (named dev.tunName) = some req) :
    prepare fill (dev, s) = (.ok req, dev, s) := by
  rw [prepare, request_eq hs, Option.bind_some, hfill]
  rfl

/-- A request on the control socket is the same as a value, and so is its answer. -/
theorem control_values (op : Ioctl) (dev : Device) (s : Process κ) (ifru : IfrIfru) :
    Device.control (K.values e) op ifru (dev, s) =
      match control K op (encode e { dev.request with ifrIfru := ifru }) (dev, s) with
      | (.ok req, t) => (.ok (decode e req), t)
      | (.error stop, t) => (.error stop, t) := by
  rw [control, Device.control, onHost_apply, onHost_apply, Kernel.request, Linux.Kernel.request,
    Kernel.values]
  dsimp only
  rcases K.ioctl op dev.ctl.inner (encode e { dev.request with ifrIfru := ifru }) s.host with
    ⟨errno | req, k⟩
  · rfl
  · rfl

/-- A request that was granted, and did nothing to the device. -/
theorem control_eq_ok {op : Ioctl} {req req' : IfreqBytes} {dev dev' : Device} {s t : Process κ}
    (h : control K op req (dev, s) = (.ok req', dev', t)) :
    dev' = dev ∧ K.ioctl op dev.ctl.inner req s.host = (.ok req', t.host) := by
  obtain ⟨hdev, hrequest⟩ := onHost_eq_ok h
  rw [Kernel.request] at hrequest
  rcases hioctl : K.ioctl op dev.ctl.inner req s.host with ⟨errno | req, k⟩
  · rw [hioctl] at hrequest
    cases hrequest
  · rw [hioctl] at hrequest
    cases hrequest
    exact ⟨hdev, rfl⟩

/-- What is done after a request is the same if it is for each of the answers. -/
theorem agree_control {op : Ioctl} {ifru : IfrIfru} {dev : Device} {s : Process κ}
    {f : IfreqBytes → Call Error (Device × Process κ) Unit}
    {g : Ifreq → Call Error (Device × Process κ) Unit} (hs : Fits (dev, s))
    (h : ∀ req t, control K op (encode e { dev.request with ifrIfru := ifru }) (dev, s) =
      (.ok req, dev, t) → f req (dev, t) = g (decode e req) (dev, t) ∧ Fits (f req (dev, t)).2) :
    (control K op (encode e { dev.request with ifrIfru := ifru }) >>= f) (dev, s) =
        (Device.control (K.values e) op ifru >>= g) (dev, s) ∧
      Fits ((control K op (encode e { dev.request with ifrIfru := ifru }) >>= f) (dev, s)).2 := by
  rw [bind_apply, bind_apply, control_values]
  rcases hcontrol : control K op (encode e { dev.request with ifrIfru := ifru }) (dev, s) with
    ⟨stop | req, dev', t⟩
  · obtain rfl : dev = dev' := congrArg (fun x ↦ x.2.1) hcontrol
    exact ⟨rfl, hs⟩
  · obtain ⟨rfl, -⟩ := control_eq_ok hcontrol
    exact h req t hcontrol

/-- A setter that makes one request, which is the one that `encode` makes of the value. -/
theorem agreesOn_control {op : Ioctl} {ifru : IfrIfru} {fill : IfreqBytes → Option IfreqBytes}
    (hfill : ∀ name : Name, name.length ≤ IFNAMSIZ →
      fill (named name) = some (encode e { Ifreq.named name with ifrIfru := ifru }))
    {x y : Call Error (Device × Process κ) Unit} (h : AgreesOn Fits x y) :
    AgreesOn Fits (prepare fill >>= fun req ↦ control K op req >>= fun _ ↦ x)
      (Device.control (K.values e) op ifru >>= fun _ ↦ y) := by
  rintro ⟨dev, s⟩ hs
  rw [bind_of_ok (prepare_eq hs (hfill _ hs.lt.le))]
  exact agree_control hs fun _ t _ ↦ h (dev, t) hs

theorem agreesOn_setTunName (value : Name) :
    AgreesOn Fits (setTunName K value) (Device.setTunName (K.values e) value) := by
  unfold setTunName Device.setTunName
  split_ifs with hzero hlong
  · exact .fail _
  · exact .fail _
  · have hvalue : FitsField value := ⟨Nat.lt_of_succ_le (Nat.not_lt.1 hlong), hzero⟩
    exact agreesOn_control (fun name h ↦ copyText_ifruNewname h hvalue.lt.le)
      (.of_preserves (.modify fun _ _ ↦ hvalue))

theorem agreesOn_setMtu (value : UInt16) :
    AgreesOn Fits (setMtu e K value) (Device.setMtu (K.values e) value) := by
  have hfill (name : Name) (h : name.length ≤ IFNAMSIZ) :
      (fun req : IfreqBytes ↦ some (req.set ifruMtu (neBytes e 4 value.toNat))) (named name) =
        some (encode e { Ifreq.named name with ifrIfru := .mtu value.toNat }) :=
    congrArg some (set_ifruMtu_named h value.toNat)
  exact agreesOn_control hfill (.of_preserves (.modify fun _ hs ↦ hs))

/-- The address setters, of which `f` says which one it is. -/
theorem agreesOn_setter (op : Ioctl) (f : IfruSockaddr) (value : IpAddr) :
    AgreesOn Fits
      (prepare (putAddr e f · value) >>= fun req ↦ control K op req >>= fun _ ↦ pure ())
      (Device.control (K.values e) op (match f with
        | .ifruAddr => .addr value 0
        | .ifruDstaddr => .dstaddr value 0
        | .ifruBroadaddr => .broadaddr value 0
        | .ifruNetmask => .netmask value 0) >>= fun _ ↦ pure ()) :=
  agreesOn_control (fun _ h ↦ putAddr_named h f value) (.pure ())

/-- The request that sets the flags is the one that asked for them, with what the kernel wrote
into it; that is a new request, since the kernel writes the flags only. -/
theorem agreesOn_enabled (hK : K.Answers e) (value : Bool) :
    AgreesOn Fits (enabled e K value) (Device.enabled (K.values e) value) := by
  rintro ⟨dev, s⟩ hs
  have hprepare : prepare some (dev, s) = (.ok (named dev.tunName), dev, s) := prepare_eq hs rfl
  have hfirst : encode e { dev.request with ifrIfru := .flags 0 } = named dev.tunName :=
    encode_named hs.lt.le
  have hsecond (old new : UInt16) : putFlags e new (putFlags e old (named dev.tunName)) =
      encode e { dev.request with ifrIfru := .flags new } :=
    (Block.set_set _ _ _ _).trans (encode_flags hs.lt.le new).symm
  rw [enabled, Device.enabled, bind_of_ok hprepare, ← hfirst]
  refine agree_control hs fun req t hcontrol ↦ ?_
  rw [hfirst] at hcontrol
  obtain ⟨old, rfl⟩ := hK.flags (names_named hs).terminated (control_eq_ok hcontrol).2
  rw [hsecond]
  exact agree_control hs fun _ _ _ ↦ ⟨rfl, hs⟩

/-- Setters that agree, in a device that is configured. -/
theorem agreesOn_configure (hK : K.Answers e) (config : Configuration PlatformConfig) :
    AgreesOn Fits ((abstractDevice e K).configure config)
      ((Device.abstractDevice (K.values e)).configure config) := by
  have hgiven {α : Type} {field : Option α} {x y : α → Call Error (Device × Process κ) Unit}
      (h : ∀ value, AgreesOn Fits (x value) (y value)) :
      AgreesOn Fits (AbstractDevice.whenGiven field x) (AbstractDevice.whenGiven field y) := by
    cases field with
    | none => exact .pure ()
    | some value => exact h value
  exact (hgiven (agreesOn_setter .siocsifaddr .ifruAddr)).bind fun _ ↦
    (hgiven (agreesOn_setter .siocsifdstaddr .ifruDstaddr)).bind fun _ ↦
    (hgiven (agreesOn_setter .siocsifbrdaddr .ifruBroadaddr)).bind fun _ ↦
    (hgiven (agreesOn_setter .siocsifnetmask .ifruNetmask)).bind fun _ ↦
    (hgiven agreesOn_setMtu).bind fun _ ↦ hgiven (agreesOn_enabled hK)

theorem agreesOn_setUp (hK : K.Answers e) (config : Configuration PlatformConfig) :
    AgreesOn Fits (setUp e K config) (Device.setUp (K.values e) config) :=
  (agreesOn_configure hK config).bind fun _ ↦ .of_preserves (.modify fun _ hs ↦ hs)

/-! ## Creation -/

/-- The name that is asked for is copied with its NUL, which is what is behind it anyway. -/
theorem nameRequest_eq {name : Option Name} (h : FitsField (name.getD [])) :
    nameRequest name = some (named (name.getD [])) := by
  cases name with
  | none =>
      have hzero : (Block.zeroed 40).get ifrName = .ofList 16 [] := rfl
      exact congrArg some (Block.set_of_get_eq hzero).symm
  | some name =>
      have hle : (name ++ [0]).length ≤ IFNAMSIZ := by
        rw [List.length_append]
        exact h.lt
      have hzero : Block.ofList 16 (name ++ [0]) = .ofList 16 name :=
        Block.ofList_append_replicate 16 1 name
      rw [nameRequest, copyText_ifrName hle, named, hzero]
      rfl

/-- A name that ends in its field is what is read from the start of the field. -/
theorem cStrAt_eq {req : IfreqBytes} (h : 0 ∈ List.ofFn (req.get ifrName)) :
    cStrAt req = some (cStr (decode e req).ifrName) := by
  have hsplit : List.ofFn req = List.ofFn (req.get ifrName) ++ List.ofFn (req.get ifrIfru) := by
    have hfront : req.get ifrName = fun i : Fin 16 ↦ req (i.castLE (Nat.le_add_right 16 24)) :=
      funext fun i ↦ congrArg req (Fin.ext (Nat.zero_add _))
    rw [hfront]
    exact @List.ofFn_add _ 16 24 req
  obtain ⟨front, back, hfront⟩ := List.append_of_mem h
  rw [cStrAt, if_pos (hsplit ▸ List.mem_append_left _ h), hsplit, decode, hfront,
    List.append_assoc, List.cons_append, cStr_append_zero, cStr_append_zero]

/-- The driver is opened and asked in the same way, and answers with a name that ends. -/
theorem openDriver_values (hK : K.Answers e) (req : Ifreq) (s : Process κ) :
    (∃ stop t, openDriver K (encode e req) s = (.error stop, t) ∧
        Device.openDriver (K.values e) req s = (.error stop, t)) ∨
      ∃ fd req' t, openDriver K (encode e req) s = (.ok (fd, req'), t) ∧
        Device.openDriver (K.values e) req s = (.ok (fd, decode e req'), t) ∧
          0 ∈ List.ofFn (req'.get ifrName) := by
  have hopen : Process.ofHost K.openTun s = (.ok (K.open_ s.host).1,
      { s with host := (K.open_ s.host).2 }) := rfl
  have hopen' : Process.ofHost (K.values e).openTun s = (.ok (K.open_ s.host).1,
      { s with host := (K.open_ s.host).2 }) := rfl
  rw [openDriver, Device.openDriver, bind_of_ok hopen, bind_of_ok hopen']
  rcases Fd.new (K.open_ s.host).1 true with err | fd
  · exact .inl ⟨_, _, rfl, rfl⟩
  · dsimp only
    rw [guarded, guarded, bind_apply, bind_apply, Process.ofHost, Process.ofHost, Kernel.request,
      Linux.Kernel.request, Kernel.values]
    dsimp only
    rcases hioctl : K.ioctl .tunsetiff fd.inner (encode e req) (K.open_ s.host).2 with
      ⟨errno | req', k⟩
    · exact .inl ⟨_, _, rfl, rfl⟩
    · exact .inr ⟨fd, req', _, rfl, rfl, hK.name hioctl⟩

/-- **The device that is created is the same.** -/
theorem create_values (hK : K.Answers e) (config : Configuration PlatformConfig) :
    create e K config = Device.create (K.values e) config := by
  unfold create Device.create
  split
  · rfl
  · rcases hname : devName config.tunName with err | name
    · rfl
    · obtain ⟨rfl, hfits⟩ := Device.devName_eq_ok hname
      have hreq : putFlags e (ifruFlags config) (named (config.tunName.getD [])) =
          encode e { Ifreq.named (config.tunName.getD []) with
            ifrIfru := .flags (ifruFlags config) } := (encode_flags hfits.lt.le _).symm
      have hcopy (s : Process κ) : (orOverrun (nameRequest config.tunName) : Call Error _ _) s =
          (.ok (named (config.tunName.getD [])), s) := by
        rw [nameRequest_eq hfits]
        rfl
      funext s
      have hname' : Process.ofExcept (.ok config.tunName) s = (.ok config.tunName, s) := rfl
      rw [bind_of_ok hname', bind_of_ok hname', bind_of_ok (hcopy s)]
      split
      · rfl
      · rw [hreq]
        rcases openDriver_values hK { Ifreq.named (config.tunName.getD []) with
            ifrIfru := .flags (ifruFlags config) } s with
          ⟨stop, t, hraw, hvalue⟩ | ⟨fd, req, t, hraw, hvalue, hends⟩
        · rw [bind_of_error hraw, bind_of_error hvalue]
        · rw [bind_of_ok hraw, bind_of_ok hvalue]
          have hread : (orOverrun (cStrAt req) : Call Error (Process κ) _) =
              pure (cStr (decode e req).ifrName) := by
            rw [cStrAt_eq hends]
            rfl
          dsimp only
          rw [hread]
          rfl

/-- **A device that is finished** is so in the same way, if its name fits. -/
theorem new_values (hK : K.Answers e) {config : Configuration PlatformConfig}
    (hname : ∀ s dev, (Device.create (K.values e) config s).1 = .ok dev →
      FitsField dev.tunName) : new e K config = Device.new (K.values e) config := by
  funext s
  rw [new, Device.new, create_values hK, bind_apply, bind_apply]
  rcases hcreate : Device.create (K.values e) config s with ⟨stop | dev, t⟩
  · rfl
  · have hfits : Fits (dev, t) := hname s dev (congrArg Prod.fst hcreate)
    obtain ⟨heq, -⟩ := agreesOn_setUp hK config (dev, t) hfits
    dsimp only
    split
    · rw [orDrop, orDrop, heq]
    · rfl

/-- The name of a device that was returned fits. -/
theorem fits_new (hK : K.Answers e) {config : Configuration PlatformConfig}
    (hname : ∀ s dev, (Device.create (K.values e) config s).1 = .ok dev → FitsField dev.tunName)
    {s t : Process κ} {dev : Device} (h : new e K config s = (.ok dev, t)) : Fits (dev, t) := by
  obtain ⟨dev₀, s₀, hcreate, hfinish⟩ := bind_eq_ok.1 h
  rw [create_values hK] at hcreate
  have hfits : Fits (dev₀, s₀) := hname s dev₀ (congrArg Prod.fst hcreate)
  split at hfinish
  · obtain ⟨-, hfits'⟩ := agreesOn_setUp hK config (dev₀, s₀) hfits
    rw [orDrop_eq_ok.1 hfinish] at hfits'
    exact hfits'
  · obtain ⟨rfl, rfl⟩ := pure_eq_ok.1 hfinish
    exact hfits

/-! ## Programs -/

/-- The calls on a device that make requests. -/
inductive Op where
  | setTunName (value : Name)
  | setAddress (value : IpAddr)
  | setDestination (value : IpAddr)
  | setBroadcast (value : IpAddr)
  | setNetmask (value : IpAddr)
  | setMtu (value : UInt16)
  | enabled (value : Bool)
  | configure (config : Configuration PlatformConfig)

/-- A call on a device that has the setters `d`. -/
def Op.call {σ : Type} (setTunName : Name → Call Error σ Unit) (d : AbstractDevice σ) :
    Op → Call Error σ Unit
  | .setTunName value => setTunName value
  | .setAddress value => d.setAddress value
  | .setDestination value => d.setDestination value
  | .setBroadcast value => d.setBroadcast value
  | .setNetmask value => d.setNetmask value
  | .setMtu value => d.setMtu value
  | .enabled value => d.enabled value
  | .configure config => d.configure config

/-- What happens to a device and its process. -/
inductive Action (κ : Type) where
  | /-- A call, and how it ended. -/ call (op : Op) (result : Except (Stop Error) Unit)
  | /-- Something else, in the process or in the kernel. -/ meanwhile (s : Process κ)

/-- One of them. -/
inductive Step (call : Op → Call Error (Device × Process κ) Unit) :
    Device × Process κ → Action κ → Device × Process κ → Prop
  | /-- The call ends, in whatever way. -/
    call {op : Op} {result : Except (Stop Error) Unit} {s t : Device × Process κ} :
      call op s = (result, t) → Step call s (.call op result) t
  | /-- Something else happens. -/
    meanwhile {dev : Device} {s : Process κ} (t : Process κ) :
      Step call (dev, s) (.meanwhile t) (dev, t)

/-- Programs that make calls on a device that is new. -/
def programs (new : Call Error (Process κ) Device)
    (call : Op → Call Error (Device × Process κ) Unit) :
    System (Device × Process κ) (Action κ) where
  init s := ∃ s₀, new s₀ = (.ok s.1, s.2)
  step := Step call

/-- The calls, over memory. -/
def rawCall (e : Endian) (K : Kernel κ) : Op → Call Error (Device × Process κ) Unit :=
  Op.call (setTunName K) (abstractDevice e K)

/-- The calls, on values. -/
def valueCall (K : Linux.Kernel κ) : Op → Call Error (Device × Process κ) Unit :=
  Op.call (Device.setTunName K) (Device.abstractDevice K)

theorem agreesOn_call (hK : K.Answers e) (op : Op) :
    AgreesOn Fits (rawCall e K op) (valueCall (K.values e) op) := by
  cases op with
  | setTunName value => exact agreesOn_setTunName value
  | setAddress value => exact agreesOn_setter .siocsifaddr .ifruAddr value
  | setDestination value => exact agreesOn_setter .siocsifdstaddr .ifruDstaddr value
  | setBroadcast value => exact agreesOn_setter .siocsifbrdaddr .ifruBroadaddr value
  | setNetmask value => exact agreesOn_setter .siocsifnetmask .ifruNetmask value
  | setMtu value => exact agreesOn_setMtu value
  | enabled value => exact agreesOn_enabled hK value
  | configure config => exact agreesOn_configure hK config

/-- One step on a device whose name fits is the same, and its name fits after that. -/
theorem step_iff (hK : K.Answers e) {s t : Device × Process κ} {a : Action κ} (hs : Fits s) :
    Step (rawCall e K) s a t ↔ Step (valueCall (K.values e)) s a t := by
  constructor
  · intro h
    cases h with
    | @call op _ _ _ h => exact .call ((agreesOn_call hK op s hs).1.symm.trans h)
    | meanwhile t => exact .meanwhile t
  · intro h
    cases h with
    | @call op _ _ _ h => exact .call ((agreesOn_call hK op s hs).1.trans h)
    | meanwhile t => exact .meanwhile t

theorem fits_step (hK : K.Answers e) {s t : Device × Process κ} {a : Action κ} (hs : Fits s)
    (h : Step (rawCall e K) s a t) : Fits t := by
  cases h with
  | @call op _ _ _ h =>
      have hfits := (agreesOn_call hK op s hs).2
      rw [h] at hfits
      exact hfits
  | meanwhile t => exact hs

/-! ## Nothing is overrun -/

section Stops

variable {V : Linux.Kernel κ}

/-- A request fails with the number of an error. -/
theorem stopsIn_request (op : Ioctl) (fd : RawFd) (req : Ifreq) :
    (V.request op fd req).StopsIn (· ≠ .panic) := by
  intro k stop h
  rcases hioctl : V.ioctl op fd req k with ⟨errno | req', k'⟩
  · rw [Linux.Kernel.request_of_error hioctl] at h
    cases h
    exact err_ne_panic _
  · rw [Linux.Kernel.request_of_ok hioctl] at h
    cases h

theorem stopsIn_control (op : Ioctl) (ifru : IfrIfru) :
    (Device.control V op ifru).StopsIn (· ≠ .panic) :=
  stopsIn_onHost fun _ ↦ stopsIn_request op _ _

theorem stopsIn_configure (config : Configuration PlatformConfig) :
    ((Device.abstractDevice V).configure config).StopsIn (· ≠ .panic) :=
  AbstractDevice.configure_induction (.pure ()) (fun _ _ hx hy ↦ hx.bind fun _ ↦ hy)
    (fun _ _ ↦ (stopsIn_control _ _).bind fun _ ↦ .pure ())
    (fun _ _ ↦ (stopsIn_control _ _).bind fun _ ↦ .pure ())
    (fun _ _ ↦ (stopsIn_control _ _).bind fun _ ↦ .pure ())
    (fun _ _ ↦ (stopsIn_control _ _).bind fun _ ↦ .pure ())
    (fun _ _ ↦ (stopsIn_control _ _).bind fun _ ↦ .modify _)
    (fun _ _ ↦ (stopsIn_control _ _).bind fun _ ↦ (stopsIn_control _ _).bind fun _ ↦ .pure ())

/-- On values no call panics. -/
theorem stopsIn_valueCall (op : Op) : (valueCall V op).StopsIn (· ≠ .panic) := by
  cases op with
  | setTunName value =>
      show (Device.setTunName V value).StopsIn _
      unfold Device.setTunName
      split_ifs
      · exact .fail (err_ne_panic _)
      · exact .fail (err_ne_panic _)
      · exact (stopsIn_control _ _).bind fun _ ↦ .modify _
  | setMtu value => exact (stopsIn_control _ _).bind fun _ ↦ .modify _
  | enabled value =>
      exact (stopsIn_control _ _).bind fun _ ↦ (stopsIn_control _ _).bind fun _ ↦ .pure ()
  | configure config => exact stopsIn_configure config
  | _ => exact (stopsIn_control _ _).bind fun _ ↦ .pure ()

/-- A result that is a call on nothing is no panic. -/
theorem stopsIn_ofExcept {α : Type} (r : Except Error α) :
    (Process.ofExcept r : Call Error (Process κ) α).StopsIn (· ≠ .panic) := by
  cases r with
  | ok a => exact .pure a
  | error err => exact .fail (err_ne_panic err)

theorem stopsIn_openDriver (req : Ifreq) : (Device.openDriver V req).StopsIn (· ≠ .panic) := by
  have hopen : (Process.ofHost V.openTun).StopsIn (· ≠ .panic) := by
    intro s stop h
    cases h
  refine hopen.bind fun fd ↦ ?_
  split
  · intro s stop h
    cases h
    exact err_ne_panic _
  · exact .guarded (.bind (fun s ↦ stopsIn_request _ _ _ s.host) fun _ ↦ .pure _)

theorem stopsIn_create (config : Configuration PlatformConfig) :
    (Device.create V config).StopsIn (· ≠ .panic) := by
  have hsocket : (Process.ofHost V.openSocket).StopsIn (· ≠ .panic) := by
    intro s stop h
    cases h
  have htun (fd : Fd) (mtu : UInt16) (pi : Bool) :
      (Process.newTun fd mtu pi : Call Error (Process κ) _).StopsIn (· ≠ .panic) := by
    intro s stop h
    cases h
  unfold Device.create
  split
  · exact .fail (err_ne_panic _)
  · refine (stopsIn_ofExcept _).bind fun _ ↦ ?_
    split
    · exact .fail (err_ne_panic _)
    · refine (stopsIn_openDriver _).bind fun _ ↦ ?_
      exact (StopsIn.guarded (hsocket.bind fun _ ↦ stopsIn_ofExcept _)).bind fun _ ↦
        (htun _ _ _).bind fun _ ↦ .pure _

/-- On values a device is created, or is not, without a panic. -/
theorem stopsIn_new (config : Configuration PlatformConfig) :
    (Device.new V config).StopsIn (· ≠ .panic) := by
  refine (stopsIn_create config).bind fun dev ↦ ?_
  split
  · intro s stop h
    have hsetUp : (Device.setUp V config).StopsIn (· ≠ .panic) :=
      (stopsIn_configure config).bind fun _ ↦ .modify _
    rw [orDrop] at h
    rcases hx : Device.setUp V config (dev, s) with ⟨stop' | ⟨⟩, dev', t⟩
    · rw [hx] at h
      cases h
      exact hsetUp (dev, s) stop (congrArg Prod.fst hx)
    · rw [hx] at h
      cases h
  · exact .pure dev

end Stops

/-- The call did not stop for want of a defined behaviour. -/
def Action.Defined : Action κ → Prop
  | .call _ result => result ≠ .error .panic
  | .meanwhile _ => True

theorem defined_step {V : Linux.Kernel κ} {s t : Device × Process κ} {a : Action κ}
    (h : Step (valueCall V) s a t) : a.Defined := by
  cases h with
  | @call op result s t h =>
      rintro rfl
      exact stopsIn_valueCall op s .panic (congrArg Prod.fst h) rfl
  | meanwhile t => trivial

/-- **The model of the Linux device says of the program over memory all there is to say.**  However
the kernel reads the bytes of the requests and whatever it answers, and on machines of either byte
order: where the name of a new device fits, `Device::new` does with requests in memory what it does
with requests that are values, and after it so does every program, whatever calls it makes and
whatever else happens meanwhile.  No call, the first included, writes past the place that is
meant. -/
theorem same_runs (hK : K.Answers e) {config : Configuration PlatformConfig}
    (hname : ∀ s dev, (Device.create (K.values e) config s).1 = .ok dev → FitsField dev.tunName) :
    new e K config = Device.new (K.values e) config ∧
      (∀ s, (new e K config s).1 ≠ .error .panic) ∧
      ∀ s l, (programs (new e K config) (rawCall e K)).init s →
        ((programs (new e K config) (rawCall e K)).Run s l ↔
          (programs (Device.new (K.values e) config) (valueCall (K.values e))).Run s l) ∧
        ((programs (new e K config) (rawCall e K)).Run s l → ∀ x ∈ l, x.1.Defined) := by
  have hnew := new_values hK hname
  refine ⟨hnew, fun s hpanic ↦ ?_, ?_⟩
  · rw [hnew] at hpanic
    exact stopsIn_new config s .panic hpanic rfl
  rintro ⟨dev, s⟩ l ⟨s₀, hnew⟩
  have hruns : (programs (new e K config) (rawCall e K)).Run (dev, s) l ↔
      (programs (Device.new (K.values e) config) (valueCall (K.values e))).Run (dev, s) l :=
    System.Run.congr (I := Fits) (fun _ _ _ hs ↦ step_iff hK hs)
      (fun _ _ _ hs ↦ fits_step hK hs) (fits_new hK hname hnew)
  exact ⟨hruns, fun hrun ↦ (hruns.1 hrun).forall_action fun _ _ _ ↦ defined_step⟩

/-- A kernel that grants everything, calls the interface `tun0` and has all flags cleared. -/
def granting : Kernel Unit where
  open_ k := (3, k)
  socket k := (4, k)
  lastOsError _ := 0
  ioctl op _ req k :=
    match op with
    | .tunsetiff => (.ok (named tun0), k)
    | .siocgifflags => (.ok (putFlags .little 0 req), k)
    | _ => (.ok req, k)
  replaceQdisc _ _ k := (.ok (), k)

theorem answers_granting : granting.Answers .little where
  name h := by
    cases h
    decide
  flags _ h := by
    cases h
    exact ⟨0, rfl⟩

/-- The name that is read of its answer. -/
theorem lossy_named_tun0 : Utf8.lossy (cStr (decode .little (named tun0)).ifrName) = tun0 := by
  have hname : cStr (decode .little (named tun0)).ifrName = tun0 := by decide
  rw [hname, valid_tun0.lossy_eq]

theorem fitsField_named_tun0 :
    FitsField (Utf8.lossy (cStr (decode .little (named tun0)).ifrName)) := by
  rw [lossy_named_tun0]
  decide

/-- Over that kernel a device is created, given an address and enabled. -/
theorem same_runs_granting :
    let V := granting.values .little
    let config : Configuration PlatformConfig :=
      { platformConfig := { ensureRootPrivileges := false } }
    ∃ s t u, (programs (Device.new V config) (valueCall V)).Run s
      [(.call (.setAddress (.v4 1)) (.ok ()), t), (.call (.enabled true) (.ok ()), u)] := by
  intro V config
  have hname (s : Process Unit) (dev : Device)
      (h : (Device.create (granting.values .little) config s).1 = .ok dev) :
      FitsField dev.tunName := by
    cases h
    exact fitsField_named_tun0
  obtain ⟨-, -, hruns⟩ := same_runs answers_granting hname
  obtain ⟨tun, ctl, s, hnew⟩ : ∃ tun ctl s, new .little granting config ⟨.initial, ()⟩ =
      (.ok ⟨Utf8.lossy (cStr (decode .little (named tun0)).ifrName), tun, ctl⟩, s) :=
    ⟨_, _, _, rfl⟩
  rw [lossy_named_tun0] at hnew
  let dev : Device := ⟨tun0, tun, ctl⟩
  have haddress : rawCall .little granting (.setAddress (.v4 1)) (dev, s) = (.ok (), dev, s) := rfl
  have henabled : rawCall .little granting (.enabled true) (dev, s) = (.ok (), dev, s) := rfl
  obtain ⟨hrun, -⟩ := hruns (dev, s)
    [(.call (.setAddress (.v4 1)) (.ok ()), dev, s), (.call (.enabled true) (.ok ()), dev, s)]
    ⟨_, hnew⟩
  exact ⟨_, _, _, hrun.1 (.cons (.call haddress) (.cons (.call henabled) (.nil _)))⟩

end RustTun.Linux.Raw
