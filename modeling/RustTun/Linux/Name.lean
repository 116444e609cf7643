import RustTun.Base.Run
import RustTun.Linux.Interfaces
import RustTun.Linux.RoundTrip

/-!
# The name of a Linux device

A Linux device keeps the name of its interface, and every request it makes is about whatever
interface has that name.  The name comes from two places: from the kernel, which writes it
into the request that registers the device, and from the argument of `set_tun_name`.  The
first is made text on the way, the second is kept as it is although the kernel may read it as
a pattern.

`named_iff` says that these are the only two ways in which a device and its interface come to
have different names.
-/

namespace RustTun.Linux

open Transition

/-- The device has the name of its interface, all its requests have that name, and no other
interface has. -/
structure Device.Named (dev : Device) (net : Net) : Prop where
  current : net.own = some dev.tunName
  request : Names dev.request.ifrName dev.tunName
  finds : net.find (cStr dev.request.ifrName) = some .this
  unique : dev.tunName ∉ net.others

/-- No interface of this kernel is called by a pattern. -/
def Net.Plain (net : Net) : Prop := ∀ name, net.own = some name → percent ∉ name

/-- The kernel gives an interface that is to be called `value` a new name. -/
def Net.Grants (net : Net) (value : Name) : Prop :=
  ¬ net.Refuses ∧ ∃ name, net.alloc value = .ok name

/-- The library asks the kernel for the name `value`, and the kernel reads it as a pattern and
chooses a name by it. -/
structure Net.Expands (net : Net) (value : Name) : Prop where
  pattern : percent ∈ value
  fits : FitsField value
  grants : net.Grants value

/-- The requests of a device have its name exactly if that fits. -/
theorem Device.named_iff_fitsField {dev : Device} {net : Net} : dev.Named net ↔
    net.own = some dev.tunName ∧ FitsField dev.tunName ∧ dev.tunName ∉ net.others := by
  constructor
  · intro h
    exact ⟨h.current, h.request.fitsField, h.unique⟩
  · rintro ⟨hown, hfits, hunique⟩
    have hnames := names_nameField_iff.2 hfits
    have hfind : net.find (cStr (nameField dev.tunName)) = some .this := by
      rw [hnames.cStr_eq]
      exact if_pos hown
    exact ⟨hown, hnames, hfind, hunique⟩

/-- A device keeps the name of its interface if both keep their names. -/
theorem Device.Named.congr {dev dev' : Device} {net net' : Net} (h : dev.Named net)
    (hdev : dev'.tunName = dev.tunName) (hnames : net'.names = net.names) : dev'.Named net' := by
  obtain ⟨hown, hothers⟩ := Prod.mk.inj hnames
  rw [named_iff_fitsField, hdev, hown, hothers]
  exact named_iff_fitsField.1 h

/-- A request that returned was made and not refused. -/
theorem Net.request_eq_ok {op : Ioctl} {fd : RawFd} {req req' : Ifreq} {net net' : Net}
    (h : Net.kernel.request op fd req net = (.ok req', net')) :
    net.skip.perform op req = (.ok req', net') := by
  rcases hioctl : Net.kernel.ioctl op fd req net with ⟨e | r, net₁⟩
  · rw [Kernel.request_of_error hioctl] at h
    cases h
  · rw [Kernel.request_of_ok hioctl] at h
    cases h
    cases hr : net.refusals.head?.join with
    | none => exact (Net.ioctl_of_granted hr op fd req).symm.trans hioctl
    | some e =>
        have hrefused := (Net.ioctl_of_refused hr op fd req).symm.trans hioctl
        cases hrefused

namespace Device

/-! ## Creation -/

/-- The name a configuration makes the kernel choose from. -/
def requestedName (config : Configuration PlatformConfig) : Name :=
  match config.tunName.getD [] with
  | [] => Net.defaultName (ifruFlags config)
  | name => name

/-- A descriptor that was registered: the interface has the name that was chosen for it, and
so does the request. -/
theorem attach_eq_ok {req req' : Ifreq} {net net' : Net} (h : net.attach req = (.ok req', net')) :
    ∃ name, net.alloc (Net.requested req) = .ok name ∧ req'.ifrName = nameField name ∧
      net'.own = some name ∧ net'.others = net.others := by
  unfold Net.attach at h
  split at h
  · rename_i name _ halloc
    cases h
    exact ⟨name, halloc, rfl, rfl, rfl⟩
  · cases h
  · cases h

theorem openDriver_eq_ok {req req' : Ifreq} {s t : Process Net} {fd : Fd}
    (h : openDriver Net.kernel req s = (.ok (fd, req'), t)) :
    ∃ name, s.host.alloc (Net.requested req) = .ok name ∧ req'.ifrName = nameField name ∧
      t.host.own = some name ∧ t.host.others = s.host.others := by
  obtain ⟨value, s₁, hopen, h⟩ := Call.bind_eq_ok.1 h
  cases hopen
  rcases hfd : Fd.new s.host.driverFd true with e | tunFd
  · have hfail : Process.ofHost Net.kernel.failLastOsError s = (.ok (fd, req'), t) := by
      simpa only [Net.kernel, hfd] using h
    cases hfail
  · have hguarded : Call.guarded (Process.dropFd tunFd) (do
        let req ← Process.ofHost (Net.kernel.request .tunsetiff tunFd.inner req)
        pure (tunFd, req)) s = (.ok (fd, req'), t) := by
      simpa only [Net.kernel, hfd] using h
    obtain ⟨req₁, s₂, hrequest, hpure⟩ := Call.bind_eq_ok.1 (Call.guarded_eq_ok.1 hguarded)
    obtain ⟨heq, rfl⟩ := Call.pure_eq_ok.1 hpure
    cases heq
    obtain ⟨name, halloc, hrest⟩ :=
      attach_eq_ok (Net.request_eq_ok (Process.ofHost_eq_ok hrequest).1)
    exact ⟨name, halloc, hrest⟩

/-- The name a configuration asks for, if it passes. -/
theorem devName_eq_ok {name : Option Name} {name' : Option Name} (h : devName name = .ok name') :
    name' = name ∧ FitsField (name.getD []) := by
  unfold devName at h
  split at h
  · cases h
    exact ⟨rfl, by decide, by decide⟩
  · split at h
    · cases h
    · split at h
      · cases h
      · rename_i hzero hlong
        cases h
        exact ⟨rfl, Nat.lt_of_succ_le (Nat.not_lt.1 hlong), hzero⟩

/-- No name that is asked for has a NUL in it. -/
theorem zero_not_mem_requestedName {config : Configuration PlatformConfig}
    (h : FitsField (config.tunName.getD [])) : 0 ∉ requestedName config := by
  rw [requestedName]
  split
  · rw [Net.defaultName]
    split <;> decide
  · exact h.zero_not_mem

/-- **A new device** has the name that was chosen for its interface, as text. -/
theorem create_eq_ok {config : Configuration PlatformConfig} {s t : Process Net} {dev : Device}
    (h : create Net.kernel config s = (.ok dev, t)) :
    ∃ name, s.host.alloc (requestedName config) = .ok name ∧ 0 ∉ requestedName config ∧
      dev.tunName = Utf8.lossy name ∧ t.host.names = (some name, s.host.others) := by
  unfold create at h
  split at h
  · cases h
  obtain ⟨name', s₁, hdevName, hrest⟩ := Call.bind_eq_ok.1 h
  obtain ⟨hresult, rfl⟩ := Process.ofExcept_eq_ok hdevName
  obtain ⟨rfl, hfits⟩ := devName_eq_ok hresult
  split at hrest
  · cases hrest
  obtain ⟨⟨fd, req⟩, s₂, hopen, hrest⟩ := Call.bind_eq_ok.1 hrest
  obtain ⟨ctl, s₃, hctl, hrest⟩ := Call.bind_eq_ok.1 hrest
  obtain ⟨tun, s₄, htun, hrest⟩ := Call.bind_eq_ok.1 hrest
  obtain ⟨rfl, rfl⟩ := Call.pure_eq_ok.1 hrest
  obtain ⟨name, halloc, hname, hown, hothers⟩ := openDriver_eq_ok hopen
  have hrequested : Net.requested { Ifreq.named (config.tunName.getD []) with
      ifrIfru := .flags (ifruFlags config) } = requestedName config := by
    have hcStr : cStr (Ifreq.named (config.tunName.getD [])).ifrName = config.tunName.getD [] :=
      (names_nameField_iff.2 hfits).cStr_eq
    rw [Net.requested, hcStr, requestedName]
    cases config.tunName.getD [] <;> rfl
  rw [hrequested] at halloc
  have hzero := zero_not_mem_requestedName hfits
  have hcStr : cStr req.ifrName = name := by
    rw [hname]
    exact (names_nameField_iff.2 (Net.alloc_eq_ok hzero halloc).1).cStr_eq
  have hhost : s₄.host = s₂.host := by
    obtain ⟨value, s₅, hsocket, hctl⟩ := Call.bind_eq_ok.1 (Call.guarded_eq_ok.1 hctl)
    obtain ⟨-, rfl⟩ := Process.ofExcept_eq_ok hctl
    cases hsocket
    cases htun
    rfl
  refine ⟨name, halloc, hzero, by rw [hcStr], ?_⟩
  rw [Net.names, hhost, hown, hothers]

/-! ## Calls that leave names alone -/

/-- The device is called `name`, and the interfaces have the names `names`. -/
def Keeping (name : Name) (names : Option Name × List Name) (s : Device × Process Net) : Prop :=
  s.1.tunName = name ∧ s.2.host.names = names

variable {name : Name} {names : Option Name × List Name}

/-- A request on the control socket that does not give a name. -/
theorem preserves_control {op : Ioctl} (hop : op ≠ .tunsetiff ∧ op ≠ .siocsifname)
    (ifru : IfrIfru) : (control Net.kernel op ifru).Preserves (Keeping name names) := by
  refine preserves_onHost (I := fun dev : Device ↦ dev.tunName = name)
    (J := fun net : Net ↦ net.names = names) fun dev net hnet ↦ ?_
  have hnames := Net.names_ioctl hop dev.ctl.inner { dev.request with ifrIfru := ifru } net
  rcases hioctl : Net.kernel.ioctl op dev.ctl.inner { dev.request with ifrIfru := ifru } net with
    ⟨e | req, net'⟩
  · rw [Kernel.request_of_error hioctl]
    exact ((congrArg (fun x ↦ x.2.names) hioctl).symm.trans hnames).trans hnet
  · rw [Kernel.request_of_ok hioctl]
    exact ((congrArg (fun x ↦ x.2.names) hioctl).symm.trans hnames).trans hnet

/-- Finishing a new device leaves its name alone. -/
theorem preserves_setUp (config : Configuration PlatformConfig) :
    (setUp Net.kernel config).Preserves (Keeping name names) := by
  have hsetters : (abstractDevice Net.kernel).Preserves (Keeping name names) :=
    { setAddress _ := .bind (preserves_control (by decide) _) fun _ ↦ .pure _
      setDestination _ := .bind (preserves_control (by decide) _) fun _ ↦ .pure _
      setBroadcast _ := .bind (preserves_control (by decide) _) fun _ ↦ .pure _
      setNetmask _ := .bind (preserves_control (by decide) _) fun _ ↦ .pure _
      setMtu _ := .bind (preserves_control (by decide) _) fun _ ↦ .modify fun _ hs ↦ hs
      enabled _ := .bind (preserves_control (by decide) _) fun _ ↦
        .bind (preserves_control (by decide) _) fun _ ↦ .pure _ }
  exact .bind (hsetters.configure config) fun _ ↦ .modify fun _ hs ↦ hs

/-- What a device is called once it is finished. -/
theorem new_eq_ok {config : Configuration PlatformConfig} {s t : Process Net} {dev : Device}
    (h : new Net.kernel config s = (.ok dev, t)) :
    ∃ name, s.host.alloc (requestedName config) = .ok name ∧ 0 ∉ requestedName config ∧
      dev.tunName = Utf8.lossy name ∧ t.host.names = (some name, s.host.others) := by
  obtain ⟨dev₀, s₀, hcreate, hfinish⟩ := Call.bind_eq_ok.1 h
  obtain ⟨name, halloc, hzero, hdev, hnames⟩ := create_eq_ok hcreate
  split at hfinish
  · obtain ⟨hdev', hnames'⟩ :=
      (preserves_setUp config).keeps _ _ _ ⟨hdev, hnames⟩ (orDrop_eq_ok.1 hfinish)
    exact ⟨name, halloc, hzero, hdev', hnames'⟩
  · obtain ⟨rfl, rfl⟩ := Call.pure_eq_ok.1 hfinish
    exact ⟨name, halloc, hzero, hdev, hnames⟩

/-- The device and its interface have one name exactly if the name that was chosen is text. -/
theorem named_new_iff {config : Configuration PlatformConfig} {s t : Process Net} {dev : Device}
    (h : new Net.kernel config s = (.ok dev, t)) :
    dev.Named t.host ↔
      ∀ name, s.host.alloc (requestedName config) = .ok name → Utf8.Valid name := by
  obtain ⟨name, halloc, hzero, hdev, hnames⟩ := new_eq_ok h
  obtain ⟨hfits, hfree, -, -⟩ := Net.alloc_eq_ok hzero halloc
  obtain ⟨hown, hothers⟩ := Prod.mk.inj hnames
  have hunique : name ∉ s.host.others := fun hmem ↦ hfree (List.mem_append_right _ hmem)
  have hvalid : Utf8.Valid name ↔ dev.tunName = name := by
    rw [hdev, Utf8.lossy_eq_self_iff]
  constructor
  · intro hnamed name' halloc'
    rw [halloc, Except.ok.injEq] at halloc'
    rw [← halloc', hvalid]
    exact Option.some.inj (hnamed.current.symm.trans hown)
  · intro hvalids
    have heq := hvalid.1 (hvalids name halloc)
    rw [named_iff_fitsField, hown, hothers, heq]
    exact ⟨rfl, hfits, hunique⟩

/-- The interface of a new device is not called by a pattern. -/
theorem plain_new {config : Configuration PlatformConfig} {s t : Process Net} {dev : Device}
    (h : new Net.kernel config s = (.ok dev, t)) : t.host.Plain := by
  obtain ⟨name, halloc, hzero, -, hnames⟩ := new_eq_ok h
  obtain ⟨-, -, hplain, -⟩ := Net.alloc_eq_ok hzero halloc
  intro name' hname'
  rw [(Prod.mk.inj hnames).1] at hname'
  rw [← Option.some.inj hname']
  exact hplain

/-! ## Renaming -/

/-- A name that is refused is not even asked for. -/
theorem setTunName_of_not_fitsField {value : Name} (h : ¬ FitsField value) (dev : Device)
    (s : Process Net) : ∃ e, setTunName Net.kernel value (dev, s) = (.error (.err e), dev, s) := by
  unfold setTunName
  split_ifs with hzero hlong
  · exact ⟨_, rfl⟩
  · exact ⟨_, rfl⟩
  · exact absurd ⟨Nat.lt_of_succ_le (Nat.not_lt.1 hlong), hzero⟩ h

/-- The request to give the interface of a device a name. -/
def renameRequest (dev : Device) (value : Name) : Ifreq :=
  { dev.request with ifrIfru := .newname value }

/-- A name that is not refused is asked for, and kept after that. -/
theorem setTunName_of_fitsField {value : Name} (h : FitsField value) :
    setTunName Net.kernel value = control Net.kernel .siocsifname (.newname value) >>= fun _ ↦
      .modify fun (dev, s) ↦ ({ dev with tunName := value }, s) := by
  have hlong : ¬ IFNAMSIZ < value.length + 1 := Nat.not_lt.2 h.lt
  rw [setTunName, if_neg h.zero_not_mem, if_neg hlong]

/-- It becomes the name of the device if it is granted. -/
theorem setTunName_of_ioctl_ok {value : Name} (h : FitsField value) {dev : Device}
    {s : Process Net} {req : Ifreq} {net : Net}
    (hioctl : Net.kernel.ioctl .siocsifname dev.ctl.inner (dev.renameRequest value) s.host =
      (.ok req, net)) :
    setTunName Net.kernel value (dev, s) =
      (.ok (), { dev with tunName := value }, { s with host := net }) := by
  rw [setTunName_of_fitsField h, Call.bind_of_ok (control_of_ok hioctl)]
  rfl

/-- If it is not, the device keeps the name it has. -/
theorem setTunName_of_ioctl_error {value : Name} (h : FitsField value) {dev : Device}
    {s : Process Net} {e : Errno} {net : Net}
    (hioctl : Net.kernel.ioctl .siocsifname dev.ctl.inner (dev.renameRequest value) s.host =
      (.error e, net)) :
    setTunName Net.kernel value (dev, s) =
      (.error (.err (.io (.os e))), dev, { s with host := net }) := by
  rw [setTunName_of_fitsField h, Call.bind_of_error (control_of_error hioctl)]

/-- What `SIOCSIFNAME` does to a device that has the name of its interface: nothing, if it
fails or if the interface has the name already; else the interface gets a name of its own. -/
theorem ioctl_rename_cases {dev : Device} {net : Net} (h : dev.Named net) (value : Name) :
    (∃ e net', Net.kernel.ioctl .siocsifname dev.ctl.inner (dev.renameRequest value) net =
        (.error e, net') ∧ net'.names = net.names ∧ ¬ net.Grants value) ∨
      ∃ req net', Net.kernel.ioctl .siocsifname dev.ctl.inner (dev.renameRequest value) net =
        (.ok req, net') ∧ (value = dev.tunName ∧ net'.names = net.names ∨
          ∃ name, ¬ net.Refuses ∧ net.alloc value = .ok name ∧
            net'.names = (some name, net.others)) := by
  rcases hr : net.refusals.head?.join with _ | e
  · have hrename : Net.kernel.ioctl .siocsifname dev.ctl.inner (dev.renameRequest value) net =
        net.skip.rename (dev.renameRequest value) value := Net.ioctl_of_granted hr _ dev.ctl.inner _
    rw [hrename]
    have hgoes : ¬ net.Refuses := fun hrefuses ↦ hrefuses hr
    have hfind : net.skip.find (cStr (dev.renameRequest value).ifrName) = some .this := h.finds
    have hcStr : cStr (dev.renameRequest value).ifrName = dev.tunName := h.request.cStr_eq
    by_cases heq : cStr (dev.renameRequest value).ifrName = value
    · have hself := Net.rename_self hfind
      rw [heq] at hself
      exact .inr ⟨_, _, hself, .inl ⟨heq.symm.trans hcStr, rfl⟩⟩
    · have hthis := Net.rename_this hfind heq
      rcases halloc : net.alloc value with e | name
      · have halloc' : net.skip.alloc value = .error e := halloc
        rw [halloc'] at hthis
        refine .inl ⟨e, _, hthis, rfl, fun hgrants ↦ ?_⟩
        obtain ⟨-, name, hname⟩ := hgrants
        cases halloc.symm.trans hname
      · have halloc' : net.skip.alloc value = .ok name := halloc
        rw [halloc'] at hthis
        exact .inr ⟨_, _, hthis, .inr ⟨name, hgoes, rfl, rfl⟩⟩
  · have hrefused : Net.kernel.ioctl .siocsifname dev.ctl.inner (dev.renameRequest value) net =
        (.error e, net.skip) := Net.ioctl_of_refused hr _ dev.ctl.inner _
    refine .inl ⟨e, _, hrefused, rfl, fun hgrants ↦ hgrants.1 fun hgoes ↦ ?_⟩
    cases hr.symm.trans hgoes

/-- A renaming that leaves the device and its interface as they were called, or gives the
device the name it was asked for and its interface the one the kernel chose. -/
theorem setTunName_cases {dev dev' : Device} {s t : Process Net} {value : Name}
    (h : dev.Named s.host) (hstep : (setTunName Net.kernel value (dev, s)).2 = (dev', t)) :
    (dev'.tunName = dev.tunName ∧ t.host.names = s.host.names ∧
        (value = dev.tunName ∨ ¬ s.host.Expands value)) ∨
      ∃ name, dev'.tunName = value ∧ FitsField value ∧ ¬ s.host.Refuses ∧
        s.host.alloc value = .ok name ∧ t.host.names = (some name, s.host.others) := by
  by_cases hfits : FitsField value
  swap
  · obtain ⟨e, he⟩ := setTunName_of_not_fitsField hfits dev s
    rw [he] at hstep
    cases hstep
    exact .inl ⟨rfl, rfl, .inr fun hexpands ↦ hfits hexpands.fits⟩
  rcases ioctl_rename_cases h value with ⟨e, net, hioctl, hnames, hgrants⟩ | ⟨req, net, hioctl, hok⟩
  · rw [setTunName_of_ioctl_error hfits hioctl] at hstep
    cases hstep
    exact .inl ⟨rfl, hnames, .inr fun hexpands ↦ hgrants hexpands.grants⟩
  · rw [setTunName_of_ioctl_ok hfits hioctl] at hstep
    cases hstep
    rcases hok with ⟨heq, hnames⟩ | ⟨name, hgoes, halloc, hnames⟩
    · exact .inl ⟨heq, hnames, .inl heq⟩
    · exact .inr ⟨name, rfl, hfits, hgoes, halloc, hnames⟩

/-- **One renaming.**  A device that has the name of its interface has it still exactly if the
kernel does not expand a pattern. -/
theorem named_setTunName_iff {dev dev' : Device} {s t : Process Net} {value : Name}
    (h : dev.Named s.host) (hplain : s.host.Plain)
    (hstep : (setTunName Net.kernel value (dev, s)).2 = (dev', t)) :
    dev'.Named t.host ↔ ¬ s.host.Expands value := by
  rcases setTunName_cases h hstep with
    ⟨hdev, hnames, hkept⟩ | ⟨name, hdev, hfits, hgoes, halloc, hnames⟩
  · refine iff_of_true (h.congr hdev hnames) ?_
    rcases hkept with rfl | hkept
    · exact fun hexpands ↦ hplain _ h.current hexpands.pattern
    · exact hkept
  · obtain ⟨-, hfree, hname, hsame⟩ := Net.alloc_eq_ok hfits.zero_not_mem halloc
    obtain ⟨hown, hothers⟩ := Prod.mk.inj hnames
    constructor
    · intro hnamed hexpands
      have heq : name = value := by
        rw [← hdev, ← Option.some_inj, ← hown, hnamed.current]
      exact hname (heq ▸ hexpands.pattern)
    · intro hexpands
      have heq : name = value := hsame fun hpattern ↦
        hexpands ⟨hpattern, hfits, hgoes, name, halloc⟩
      rw [named_iff_fitsField, hown, hothers, hdev, heq]
      rw [heq] at hfree
      exact ⟨rfl, hfits, fun hmem ↦ hfree (List.mem_append_right _ hmem)⟩

/-- Interfaces are not called by patterns. -/
theorem plain_setTunName {dev dev' : Device} {s t : Process Net} {value : Name}
    (h : dev.Named s.host) (hplain : s.host.Plain)
    (hstep : (setTunName Net.kernel value (dev, s)).2 = (dev', t)) : t.host.Plain := by
  rcases setTunName_cases h hstep with ⟨-, hnames, -⟩ | ⟨name, -, hfits, -, halloc, hnames⟩
  · intro name hname
    exact hplain name ((Prod.mk.inj hnames).1 ▸ hname)
  · obtain ⟨-, -, hname, -⟩ := Net.alloc_eq_ok hfits.zero_not_mem halloc
    intro name' hname'
    rw [(Prod.mk.inj hnames).1] at hname'
    rw [← Option.some.inj hname']
    exact hname

/-! ## Runs -/

/-- What happens to a device and to the interfaces. -/
inductive Event where
  | /-- A call of `set_tun_name`. -/ setTunName (value : Name)
  | /-- Something that has nothing to do with the device: other interfaces come, go and are
    renamed. -/ meanwhile (net : Net)

/-- One event.  Whatever happens meanwhile, the interface of the device keeps its name, and no
other gets it. -/
inductive Step : Device × Process Net → Event → Device × Process Net → Prop
  | /-- The call ends, in whatever way. -/
    setTunName {value : Name} {dev dev' : Device} {s t : Process Net}
      {r : Except (Stop Error) Unit} : Device.setTunName Net.kernel value (dev, s) = (r, dev', t) →
        Step (dev, s) (.setTunName value) (dev', t)
  | /-- Something else happens. -/
    meanwhile {dev : Device} {s : Process Net} {net : Net} : net.own = s.host.own →
      (∀ name, net.own = some name → name ∉ net.others) →
        Step (dev, s) (.meanwhile net) (dev, { s with host := net })

/-- Devices that are new, and are renamed. -/
def renames : System (Device × Process Net) Event where
  init s := ∃ config s₀, new Net.kernel config s₀ = (.ok s.1, s.2)
  step := Step

/-- The event is not that the kernel expands a pattern. -/
def Literal (s : Device × Process Net) : Event → Prop
  | .setTunName value => ¬ s.2.host.Expands value
  | .meanwhile _ => True

/-- The device has the name of its interface, which is not a pattern. -/
structure Inv (s : Device × Process Net) : Prop where
  named : s.1.Named s.2.host
  plain : s.2.host.Plain

/-- A device that has the name of its interface loses it exactly if a pattern is expanded. -/
theorem Inv.named_step_iff {s t : Device × Process Net} {a : Event} (h : Inv s)
    (hstep : Step s a t) : t.1.Named t.2.host ↔ Literal s a := by
  cases hstep with
  | setTunName hcall => exact named_setTunName_iff h.named h.plain (congrArg Prod.snd hcall)
  | meanwhile hown hothers =>
      refine iff_of_true (named_iff_fitsField.2 ⟨?_, ?_, ?_⟩) trivial
      · exact hown.trans h.named.current
      · exact h.named.request.fitsField
      · exact hothers _ (hown.trans h.named.current)

theorem Inv.plain_step {s t : Device × Process Net} {a : Event} (h : Inv s)
    (hstep : Step s a t) : t.2.host.Plain := by
  cases hstep with
  | setTunName hcall => exact plain_setTunName h.named h.plain (congrArg Prod.snd hcall)
  | meanwhile hown hothers => exact fun name hname ↦ h.plain name (hown.symm.trans hname)

end Device

/-- **A device has the name of its interface, in all its requests, exactly while names are text
and no pattern.**  From `Device::new` on, in every state of every sequence of renamings, whether
they succeed or fail and whatever else happens to the interfaces meanwhile, the name of the
device fits its requests and is that of its interface and of no other, exactly if the name the
kernel chose for it is text and the kernel never expands a pattern given to `set_tun_name`. -/
theorem named_iff {config : Configuration PlatformConfig} {s₀ t : Process Net} {dev : Device}
    {l : List (Device.Event × (Device × Process Net))}
    (hnew : Device.new Net.kernel config s₀ = (.ok dev, t)) (hrun : Device.renames.Run (dev, t) l) :
    (dev.Named t.host ∧ ∀ x ∈ l, x.2.1.Named x.2.2.host) ↔
      (∀ name, s₀.host.alloc (Device.requestedName config) = .ok name → Utf8.Valid name) ∧
        AllSteps (fun s a _ ↦ Device.Literal s a) (dev, t) l := by
  rw [← Device.named_new_iff hnew]
  refine and_congr_right fun hnamed ↦ ?_
  have hsteps := hrun.allSteps_iff (Q := fun _ _ u ↦ u.1.Named u.2.host) (I := Device.Inv)
    (fun _ _ _ hs hstep ↦ hs.named_step_iff hstep)
    (fun _ _ _ hs hstep h ↦ ⟨h, hs.plain_step hstep⟩)
    ⟨hnamed, Device.plain_new hnew⟩
  rw [← hsteps, allSteps_target]

/-- A kernel that refuses nothing and has these interfaces. -/
def quiet (others : List Name) : Net :=
  { own := none, others, driverFd := 3, socketFd := 4, errno := 0, refusals := [] }

/-- A configuration that asks at most for a name. -/
def asksFor (tunName : Option Name) : Configuration PlatformConfig :=
  { tunName, platformConfig := { ensureRootPrivileges := false } }

/-- `tun0`. -/
def tun0 : Name := [116, 117, 110, 48]

/-- `vpn0`. -/
def vpn0 : Name := [118, 112, 110, 48]

theorem valid_tun0 : Utf8.Valid tun0 := Utf8.valid_of_ascii (by simp [tun0])

/-- The first device is `tun0`. -/
theorem new_tun0 : ∃ tun ctl t, Device.new Net.kernel (asksFor none) ⟨.initial, quiet []⟩ =
    (.ok { tunName := tun0, tun, ctl }, t) ∧ t.host = { quiet [] with own := some tun0 } := by
  have hnew : ∃ tun ctl t, Device.new Net.kernel (asksFor none) ⟨.initial, quiet []⟩ =
      (.ok { tunName := Utf8.lossy tun0, tun, ctl }, t) ∧
        t.host = { quiet [] with own := some tun0 } := ⟨_, _, _, rfl, rfl⟩
  rw [valid_tun0.lossy_eq] at hnew
  exact hnew

/-- The device `tun0` is renamed `vpn0`, another device becomes `tun0`, and `vpn0␀` is refused. -/
theorem named_tun0_vpn0 : ∃ dev t l,
    Device.new Net.kernel (asksFor none) ⟨.initial, quiet []⟩ = (.ok dev, t) ∧
      Device.renames.Run (dev, t) l ∧
      l.map Prod.fst = [.setTunName vpn0, .meanwhile { quiet [tun0] with own := some vpn0 },
        .setTunName (vpn0 ++ [0])] ∧
      dev.Named t.host ∧ ∀ x ∈ l, x.2.1.Named x.2.2.host := by
  obtain ⟨tun, ctl, ⟨world, net⟩, hnew, rfl⟩ := new_tun0
  have hgranted : Device.setTunName Net.kernel vpn0
      ({ tunName := tun0, tun, ctl }, ⟨world, { quiet [] with own := some tun0 }⟩) =
        (.ok (), { tunName := vpn0, tun, ctl }, ⟨world, { quiet [] with own := some vpn0 }⟩) := rfl
  have hfree : ∀ name, some vpn0 = some name → name ∉ [tun0] := by
    rintro _ ⟨⟩
    decide
  have hmeanwhile (dev : Device) : Device.Step (dev, ⟨world, { quiet [] with own := some vpn0 }⟩)
      (.meanwhile { quiet [tun0] with own := some vpn0 })
      (dev, ⟨world, { quiet [tun0] with own := some vpn0 }⟩) := .meanwhile rfl hfree
  have hrefused (s : Device × Process Net) :
      Device.Step s (.setTunName (vpn0 ++ [0])) s := .setTunName rfl
  have hrun := System.Run.cons (S := Device.renames) (.setTunName hgranted)
    (.cons (hmeanwhile _) (.cons (hrefused _) (.nil _)))
  refine ⟨_, _, _, hnew, hrun, rfl, (named_iff hnew hrun).2 ⟨fun name halloc ↦ ?_, ?_⟩⟩
  · have htun0 : (quiet []).alloc (Device.requestedName (asksFor none)) = .ok tun0 := rfl
    cases halloc.symm.trans htun0
    exact valid_tun0
  · exact ⟨fun h ↦ absurd h.pattern (by decide), trivial,
      fun h ↦ absurd h.pattern (by decide), trivial⟩

/-- `a` and six times `é`: with `%d` in front, a pattern that has room for two digits. -/
def longName : Name := 97 :: (List.replicate 6 [195, 169]).flatten

/-- A kernel with a hundred interfaces of that pattern. -/
def crowded : Net := quiet ((List.range 100).map (expand [] longName))

/-- The device `tun0` is renamed `tun%d`.  That succeeds and its interface is `tun1`, which the
device does not know: its next request finds no interface.  And where there are a hundred
interfaces of a long pattern, the name of the next is cut in the middle of a character, and what
the device takes for it does not even fit a request. -/
theorem setTunName_keeps_pattern :
    (∃ dev t dev' u, Device.new Net.kernel (asksFor none) ⟨.initial, quiet []⟩ = (.ok dev, t) ∧
      Device.setTunName Net.kernel [116, 117, 110, 37, 100] (dev, t) = (.ok (), dev', u) ∧
      dev'.tunName = [116, 117, 110, 37, 100] ∧ u.host.own = some [116, 117, 110, 49] ∧
      (∃ s, Device.setMtu Net.kernel 1400 (dev', u) = (.error (.err (.io (.os ENODEV))), s)) ∧
      ¬ dev'.Named u.host) ∧
    ∃ dev t, Device.new Net.kernel (asksFor (some (percent :: 100 :: longName)))
        ⟨.initial, crowded⟩ = (.ok dev, t) ∧
      dev.tunName.length = 17 ∧ ¬ dev.Named t.host := by
  constructor
  · obtain ⟨tun, ctl, ⟨world, net⟩, hnew, rfl⟩ := new_tun0
    have hne : some [116, 117, 110, 49] ≠ some ([116, 117, 110, 37, 100] : Name) := by decide
    exact ⟨_, _, _, _, hnew, rfl, rfl, rfl, ⟨_, rfl⟩, fun h ↦ hne h.current⟩
  · have hname : (Device.new Net.kernel (asksFor (some (percent :: 100 :: longName)))
        ⟨.initial, crowded⟩).1.toOption.map (fun dev ↦ dev.tunName.length) = some 17 := by
      decide +kernel
    rcases hnew : Device.new Net.kernel (asksFor (some (percent :: 100 :: longName)))
        ⟨.initial, crowded⟩ with ⟨e | dev, t⟩
    · rw [hnew] at hname
      cases hname
    · rw [hnew] at hname
      have hlength : dev.tunName.length = 17 := Option.some.inj hname
      refine ⟨dev, t, rfl, hlength, fun h ↦ ?_⟩
      have hlt := h.request.fitsField.lt
      rw [hlength] at hlt
      exact absurd hlt (by decide)

end RustTun.Linux
