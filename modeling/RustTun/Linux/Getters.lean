import RustTun.Linux.Encoding

/-!
# What a Linux device says about its interface

The getters of the Linux device ask the kernel, over memory as in `Linux.Raw`: a request is made,
answered in place, and what was asked for is read from the place in it at which a setter writes it.
The device itself remembers nothing of it.

So a getter returns what was set if the kernel does remember it, which it does of each interface
under its name: that is what `Remembers` says.  `reads_back` says that a getter asks for the
interface that the setter has set, and on the same socket: what it returns is what was set, after
any run of the program in which that stays so.
-/

namespace RustTun.Linux.Raw

open Memory Transition Call

/-! ## Attributes -/

/-- What can be asked about an interface and changed. -/
inductive Attribute where
  | /-- One of its addresses. -/ addr (f : IfruSockaddr)
  | /-- Its mtu. -/ mtu
deriving DecidableEq, Repr

/-- The request that changes it. -/
def Attribute.setter : Attribute → Ioctl
  | .addr .ifruAddr => .siocsifaddr
  | .addr .ifruDstaddr => .siocsifdstaddr
  | .addr .ifruBroadaddr => .siocsifbrdaddr
  | .addr .ifruNetmask => .siocsifnetmask
  | .mtu => .siocsifmtu

/-- The requests that ask for an attribute, `SIOCGIFADDR`, `SIOCGIFDSTADDR`, `SIOCGIFBRDADDR`,
`SIOCGIFNETMASK` and `SIOCGIFMTU`: the answer of the kernel, which is in place. -/
abbrev Queries (κ : Type) :=
  Attribute → RawFd → IfreqBytes → κ → Except Errno IfreqBytes × κ

/-! ## Getters -/

section Getters

variable {κ : Type} (e : Endian) (Q : Queries κ) (rest : SockaddrUnion)

/-- `ioctl`; a failure is `io::Error::from(err).into()`. -/
def ask (a : Attribute) (fd : RawFd) (req : IfreqBytes) : Call Error κ IfreqBytes := fun k ↦
  match Q a fd req k with
  | (.ok req, k) => (.ok req, k)
  | (.error errno, k) => (.error (.err (.io (.os errno))), k)

/-- Ask for an attribute. -/
def query (a : Attribute) : Call Error (Device × Process κ) IfreqBytes := do
  let req ← prepare some
  onHost fun dev ↦ ask Q a dev.ctl.inner req

/-- Ask for an address, and read it; `rest` is what is in the memory it is read over. -/
def getSockaddr (f : IfruSockaddr) : Call Error (Device × Process κ) IpAddr := do
  let req ← query Q (.addr f)
  match getAddr e f req rest with
  | .ok ip => pure ip
  | .error err => .fail (.io err)

/-- `Device::address`. -/
def address : Call Error (Device × Process κ) IpAddr := getSockaddr e Q rest .ifruAddr

/-- `Device::destination`. -/
def destination : Call Error (Device × Process κ) IpAddr := getSockaddr e Q rest .ifruDstaddr

/-- `Device::broadcast`. -/
def broadcast : Call Error (Device × Process κ) IpAddr := getSockaddr e Q rest .ifruBroadaddr

/-- `Device::netmask`. -/
def netmask : Call Error (Device × Process κ) IpAddr := getSockaddr e Q rest .ifruNetmask

/-- `Device::mtu`: a `c_int` that has to be a `u16`. -/
def mtu : Call Error (Device × Process κ) UInt16 := do
  let req ← query Q .mtu
  let value := ofNeBytes e (req.get ifruMtu)
  if value < 2 ^ 16 then
    pure (.ofNat value)
  else
    .fail .tryFromIntError

end Getters

/-! ## Settings -/

/-- An attribute and a value of it that can be read back. -/
inductive Setting where
  | addr (f : IfruSockaddr) (ip : Ipv4Addr)
  | mtu (value : UInt16)

/-- `sin_family`, of the addresses in a request. -/
def ifruFamily : Field 40 2 := ⟨ifrIfru.offset, ifruFlagsField.le⟩

/-- `sin_addr`. -/
def ifruSinAddr : Field 40 4 := ⟨ifrIfru.offset + 4, by decide⟩

namespace Setting

/-- What is set. -/
def target : Setting → Attribute
  | .addr f _ => .addr f
  | .mtu _ => .mtu

/-- The call that sets it. -/
def op : Setting → Op
  | .addr .ifruAddr ip => .setAddress (.v4 ip)
  | .addr .ifruDstaddr ip => .setDestination (.v4 ip)
  | .addr .ifruBroadaddr ip => .setBroadcast (.v4 ip)
  | .addr .ifruNetmask ip => .setNetmask (.v4 ip)
  | .mtu value => .setMtu value

/-- A request that says it: the family and the address, or the mtu, are where they are read. -/
def In (e : Endian) (req : IfreqBytes) : Setting → Prop
  | .addr _ ip => req.get ifruFamily = neBytes e 2 AF_INET ∧ req.get ifruSinAddr = ip.octets
  | .mtu value => req.get ifruMtu = neBytes e 4 value.toNat

end Setting

/-- What the kernel is relied on for: of the interface `name` among those that the socket `fd` has
to do with, it `holds` what it was last told, and tells it to those who ask. -/
structure Remembers {κ : Type} (e : Endian) (K : Kernel κ) (Q : Queries κ)
    (holds : κ → RawFd → Name → Setting → Prop) : Prop where
  set {x : Setting} {name : Name} {fd : RawFd} {req req' : IfreqBytes} {k k' : κ} :
    Names (List.ofFn (req.get ifrName)) name → x.In e req →
      K.ioctl x.target.setter fd req k = (.ok req', k') → holds k' fd name x
  get {x : Setting} {name : Name} {fd : RawFd} {req req' : IfreqBytes} {k k' : κ} :
    Names (List.ofFn (req.get ifrName)) name → holds k fd name x →
      Q x.target fd req k = (.ok req', k') → x.In e req'

/-- The interface of a device has a setting. -/
def Has {κ : Type} (holds : κ → RawFd → Name → Setting → Prop) (x : Setting)
    (s : Device × Process κ) : Prop :=
  holds s.2.host s.1.ctl.inner s.1.tunName x

/-- The call returns `a`, unless the kernel refuses to say the attribute `q` of the interface. -/
def Yields {κ α : Type} (Q : Queries κ) (q : Attribute) (x : Call Error (Device × Process κ) α)
    (a : α) (s : Device × Process κ) : Prop :=
  (x s).1 = .ok a ∨ ∃ errno k, Q q s.1.ctl.inner (named s.1.tunName) s.2.host = (.error errno, k) ∧
    (x s).1 = .error (.err (.io (.os errno)))

/-- The getter returns the setting. -/
def Setting.ReadBack {κ : Type} (e : Endian) (Q : Queries κ) (rest : SockaddrUnion)
    (s : Device × Process κ) : Setting → Prop
  | .addr .ifruAddr ip => Yields Q (.addr .ifruAddr) (address e Q rest) (.v4 ip) s
  | .addr .ifruDstaddr ip => Yields Q (.addr .ifruDstaddr) (destination e Q rest) (.v4 ip) s
  | .addr .ifruBroadaddr ip => Yields Q (.addr .ifruBroadaddr) (broadcast e Q rest) (.v4 ip) s
  | .addr .ifruNetmask ip => Yields Q (.addr .ifruNetmask) (netmask e Q rest) (.v4 ip) s
  | .mtu value => Yields Q .mtu (Raw.mtu e Q) value s

/-! ## What is written and read -/

section Requests

variable {e : Endian} {req : IfreqBytes}

/-- What a setter copies is in the request as far behind the name as it is in the union. -/
theorem get_set_of_offset (sa : SockaddrUnion) {w : Nat} {f : Field 128 w} {g : Field 40 w}
    (hle : f.offset + w ≤ 24) (h : g.offset = ifrIfru.offset + f.offset) :
    (req.set ifrIfru (sa.get copied)).get g = sa.get f := by
  let part : Field 24 w := ⟨f.offset, hle⟩
  have hpart : g.offset = ifrIfru.offset + part.offset := h
  have hcopied : f.offset = copied.offset + part.offset := (Nat.zero_add _).symm
  rw [Block.get_set_of_inside _ hpart, Block.get_get _ hcopied]

/-- What a getter decodes is likewise what is in the request. -/
theorem get_ofSockaddr_of_offset (rest : SockaddrUnion) (a : IfruSockaddr) {w : Nat}
    {f : Field 128 w} {g : Field 40 w} (hle : f.offset + w ≤ 16)
    (h : g.offset = ifrIfru.offset + f.offset) :
    (SockaddrUnion.ofSockaddr rest (req.get a.field)).get f = req.get g := by
  let part : Field 16 w := ⟨f.offset, hle⟩
  have hpart : g.offset = a.field.offset + part.offset := by cases a <;> exact h
  have hread : f.offset = SockaddrUnion.addr.offset + part.offset := (Nat.zero_add _).symm
  rw [SockaddrUnion.ofSockaddr, Block.get_set_of_inside _ hread, Block.get_get _ hpart]

/-- A setter writes an IPv4 address to where it is read. -/
theorem in_of_putAddr (f : IfruSockaddr) (ip : Ipv4Addr) :
    (Setting.addr f ip).In e
      (req.set ifrIfru ((rsAddrToSockaddr .linux e (.new (.v4 ip) 0)).get copied)) := by
  have hv4 := SockaddrUnion.isV4_rsAddrToSockaddr .linux e ip 0
  exact ⟨(get_set_of_offset _ (by decide) rfl).trans hv4.family,
    (get_set_of_offset _ (by decide) rfl).trans hv4.addr⟩

/-- An IPv4 address is read from where it is. -/
theorem getAddr_of_in {f f' : IfruSockaddr} {ip : Ipv4Addr} (h : (Setting.addr f' ip).In e req)
    (rest : SockaddrUnion) : getAddr e f req rest = .ok (.v4 ip) := by
  obtain ⟨hfamily, haddr⟩ := h
  let sa : SockaddrUnion := .ofSockaddr rest (req.get f.field)
  have hfamily' : sa.get (SockaddrUnion.family .linux) = req.get ifruFamily :=
    get_ofSockaddr_of_offset rest f (by decide) rfl
  have haddr' : sa.get SockaddrUnion.sinAddr = req.get ifruSinAddr :=
    get_ofSockaddr_of_offset rest f (by decide) rfl
  have hinet : ofNeBytes e (sa.get (SockaddrUnion.family .linux)) = AF_INET := by
    rw [hfamily', hfamily]
    exact ofNeBytes_neBytes e (by decide)
  have hip : Ipv4Addr.ofOctets (neBytes e 4 (ofNeBytes e (sa.get SockaddrUnion.sinAddr))) = ip := by
    rw [haddr', haddr, neBytes_ofNeBytes, Ipv4Addr.ofOctets_octets]
  rw [getAddr, SocketAddr.tryFrom, sockaddrToRsAddr, if_pos hinet, hip]
  rfl

end Requests

/-! ## Reading back -/

section Results

variable {κ : Type} {e : Endian} {K : Kernel κ} {Q : Queries κ}
  {holds : κ → RawFd → Name → Setting → Prop}

/-- A setter that returned has made the kernel hold what its request says. -/
theorem has_of_setter (h : Remembers e K Q holds) {y : Setting}
    {fill : IfreqBytes → Option IfreqBytes}
    (hfill : ∀ name, ∃ req, fill (named name) = some req ∧
      req.get ifrName = (named name).get ifrName ∧ y.In e req)
    {x : Call Error (Device × Process κ) Unit} (hx : ∀ s, Has holds y s → Has holds y (x s).2)
    {s t : Device × Process κ} (hs : Fits s)
    (hset : (prepare fill >>= fun req ↦ control K y.target.setter req >>= fun _ ↦ x) s =
      (.ok (), t)) : Has holds y t := by
  obtain ⟨dev, s⟩ := s
  obtain ⟨req, hreq, hname, hsays⟩ := hfill dev.tunName
  rw [bind_of_ok (prepare_eq hs hreq)] at hset
  obtain ⟨answer, ⟨dev', u⟩, hcontrol, hrest⟩ := bind_eq_ok.1 hset
  obtain ⟨rfl, hioctl⟩ := control_eq_ok hcontrol
  have hheld : Has holds y (dev', u) := h.set (hname ▸ names_named hs) hsays hioctl
  have hend := hx (dev', u) hheld
  rw [hrest] at hend
  exact hend

/-- A setting that was made is held. -/
theorem has_of_setting (h : Remembers e K Q holds) (x : Setting) {s t : Device × Process κ}
    (hs : Fits s) (hset : rawCall e K x.op s = (.ok (), t)) : Has holds x t := by
  cases x with
  | addr f ip =>
      have hdisjoint : ifrIfru.Disjoint ifrName := by decide
      have hfill (name : Name) : ∃ req, putAddr e f (named name) (.v4 ip) = some req ∧
          req.get ifrName = (named name).get ifrName ∧ (Setting.addr f ip).In e req :=
        ⟨_, putAddr_eq _, Block.get_set_of_disjoint _ hdisjoint _, in_of_putAddr f ip⟩
      cases f <;> exact has_of_setter h hfill (fun _ h ↦ h) hs hset
  | mtu value =>
      have hdisjoint : ifruMtu.Disjoint ifrName := by decide
      have hfill (name : Name) : ∃ req, some ((named name).set ifruMtu (neBytes e 4 value.toNat)) =
          some req ∧ req.get ifrName = (named name).get ifrName ∧ (Setting.mtu value).In e req :=
        ⟨_, rfl, Block.get_set_of_disjoint _ hdisjoint _, Block.get_set _ _ _⟩
      exact has_of_setter h hfill (fun _ h ↦ h) hs hset

/-- A question about something that is held is refused, or the answer says it. -/
theorem query_cases (h : Remembers e K Q holds) {x : Setting} {s : Device × Process κ}
    (hs : Fits s) (hheld : Has holds x s) :
    (∃ req t, query Q x.target s = (.ok req, t) ∧ x.In e req) ∨
      ∃ errno k t, Q x.target s.1.ctl.inner (named s.1.tunName) s.2.host = (.error errno, k) ∧
        query Q x.target s = (.error (.err (.io (.os errno))), t) := by
  obtain ⟨dev, s⟩ := s
  have hprepare : prepare some (dev, s) = (.ok (named dev.tunName), dev, s) := prepare_eq hs rfl
  rw [query, bind_of_ok hprepare, onHost_apply, ask]
  rcases hquery : Q x.target dev.ctl.inner (named dev.tunName) s.host with ⟨errno | req, k⟩
  · exact .inr ⟨errno, k, _, rfl, rfl⟩
  · exact .inl ⟨req, _, rfl, h.get (names_named hs) hheld hquery⟩

/-- **The getter of a setting** returns it, if that is what the kernel holds. -/
theorem readBack_of_has (h : Remembers e K Q holds) {x : Setting} {s : Device × Process κ}
    (hs : Fits s) (hheld : Has holds x s) (rest : SockaddrUnion) : x.ReadBack e Q rest s := by
  have hquery := query_cases h hs hheld
  cases x with
  | addr f ip =>
      have hget : Yields Q (.addr f) (getSockaddr e Q rest f) (.v4 ip) s := by
        rcases hquery with ⟨req, t, hquery, hsays⟩ | ⟨errno, k, t, hrefused, hquery⟩
        · have hquery : query Q (.addr f) s = (.ok req, t) := hquery
          refine .inl ?_
          rw [getSockaddr, bind_of_ok hquery, getAddr_of_in hsays rest]
          rfl
        · have hquery : query Q (.addr f) s = (.error (.err (.io (.os errno))), t) := hquery
          refine .inr ⟨errno, k, hrefused, ?_⟩
          rw [getSockaddr, bind_of_error hquery]
      cases f <;> exact hget
  | mtu value =>
      rcases hquery with ⟨req, t, hquery, hsays⟩ | ⟨errno, k, t, hrefused, hquery⟩
      · have hquery : query Q .mtu s = (.ok req, t) := hquery
        have hbytes : req.get ifruMtu = neBytes e 4 value.toNat := hsays
        have hlt : value.toNat < 2 ^ 16 := value.toNat_lt
        have hread : ofNeBytes e (req.get ifruMtu) = value.toNat := by
          rw [hbytes, ofNeBytes_neBytes e (hlt.trans (by decide))]
        refine .inl ?_
        rw [Raw.mtu, bind_of_ok hquery, hread, if_pos hlt, UInt16.ofNat_toNat]
        rfl
      · have hquery : query Q .mtu s = (.error (.err (.io (.os errno))), t) := hquery
        refine .inr ⟨errno, k, hrefused, ?_⟩
        rw [Raw.mtu, bind_of_error hquery]

/-- In every state that a program gets to the name of its device fits. -/
theorem fits_reach (hK : K.Answers e) {config : Configuration PlatformConfig}
    (hname : ∀ s dev, (Device.create (K.values e) config s).1 = .ok dev → FitsField dev.tunName)
    {s : Device × Process κ} (h : (programs (new e K config) (rawCall e K)).Reach s) : Fits s := by
  refine h.invariant (I := Fits) ?_ fun _ _ _ hs hstep ↦ fits_step hK hs hstep
  rintro ⟨dev, s⟩ ⟨s₀, hnew⟩
  exact fits_new hK hname hnew

/-- **A getter returns what was set last.**  The kernel holds something of each interface under
its name.  In every state that a program gets to, once a call has set an IPv4 address or the mtu,
and then after every run that does not end that the interface of the device has it, whatever else
is done to this interface and to others, the getter returns what was set, unless the kernel refuses
to say it of the interface. -/
theorem reads_back (hK : K.Answers e) {config : Configuration PlatformConfig}
    (hname : ∀ s dev, (Device.create (K.values e) config s).1 = .ok dev → FitsField dev.tunName)
    (h : Remembers e K Q holds) {s t : Device × Process κ}
    (hreach : (programs (new e K config) (rawCall e K)).Reach s) (x : Setting)
    (hset : rawCall e K x.op s = (.ok (), t)) {l : List (Action κ × (Device × Process κ))}
    (hrun : (programs (new e K config) (rawCall e K)).Run t l)
    (hleft : AllSteps (fun s _ u ↦ Has holds x s → Has holds x u) t l)
    (rest : SockaddrUnion) : x.ReadBack e Q rest (final t l) := by
  have hs := fits_reach hK hname hreach
  have ht : Fits t := fits_step hK hs (.call hset)
  have hl : Fits (final t l) :=
    hrun.final_invariant (I := Fits) (fun _ _ _ hs hstep ↦ fits_step hK hs hstep) ht
  have hheld : Has holds x (final t l) := final_of_allSteps hleft (has_of_setting h x hs hset)
  exact readBack_of_has h hl hheld rest

end Results

/-- What a kernel has been told of each interface, which is the request that told it. -/
abbrev Interfaces := Name → Attribute → IfreqBytes

/-- The name in a request. -/
def nameIn (req : IfreqBytes) : Name := cStr (List.ofFn (req.get ifrName))

/-- The kernel is told an attribute of an interface. -/
def tell (a : Attribute) (req : IfreqBytes) (k : Interfaces) : Interfaces := fun name b ↦
  if name = nameIn req ∧ b = a then req else k name b

/-- What one interface is told is not told to another. -/
theorem tell_of_ne {a b : Attribute} {req : IfreqBytes} {k : Interfaces} {name : Name}
    (h : name ≠ nameIn req) : tell a req k name b = k name b :=
  if_neg fun htold ↦ h htold.1

/-- A kernel that grants everything and remembers what it is told. -/
def remembering : Kernel Interfaces where
  open_ k := (3, k)
  socket k := (4, k)
  lastOsError _ := 0
  ioctl op _ req k :=
    match op with
    | .tunsetiff => (.ok (named tun0), k)
    | .siocgifflags => (.ok (putFlags .little 0 req), k)
    | .siocsifaddr => (.ok req, tell (.addr .ifruAddr) req k)
    | .siocsifdstaddr => (.ok req, tell (.addr .ifruDstaddr) req k)
    | .siocsifbrdaddr => (.ok req, tell (.addr .ifruBroadaddr) req k)
    | .siocsifnetmask => (.ok req, tell (.addr .ifruNetmask) req k)
    | .siocsifmtu => (.ok req, tell .mtu req k)
    | .siocsifname | .siocsifflags => (.ok req, k)
  replaceQdisc _ _ k := (.ok (), k)

/-- Its answers. -/
def answering : Queries Interfaces := fun a _ req k ↦ (.ok (k (nameIn req) a), k)

theorem answers_remembering : remembering.Answers .little where
  name h := by
    cases h
    decide
  flags _ h := by
    cases h
    exact ⟨0, rfl⟩

theorem remembers_remembering :
    Remembers .little remembering answering fun k _ name x ↦ x.In .little (k name x.target) where
  set {x name fd req req' k k'} hname hsays h := by
    have htell : k' = tell x.target req k := by
      rcases x with (_ | _ | _ | _) | _ <;> exact (congrArg Prod.snd h).symm
    rw [htell, tell, if_pos ⟨hname.cStr_eq.symm, rfl⟩]
    exact hsays
  get {x name fd req req' k k'} hname hheld h := by
    cases h
    rw [nameIn, hname.cStr_eq]
    exact hheld

/-- A device is given an address, another interface, `tun1`, is given another one, the device is
enabled, and says its address. -/
theorem reads_back_address :
    let config : Configuration PlatformConfig :=
      { platformConfig := { ensureRootPrivileges := false } }
    let tun1 : Name := [0x74, 0x75, 0x6e, 0x31]
    ∃ dev s t other v, new .little remembering config ⟨.initial, fun _ _ ↦ .zeroed _⟩ =
        (.ok dev, s) ∧
      rawCall .little remembering (.setAddress (.v4 0x0a000001)) (dev, s) = (.ok (), dev, t) ∧
      putAddr .little .ifruAddr (named tun1) (.v4 0x0a000002) = some other ∧
      rawCall .little remembering (.enabled true)
        (dev, { t with host := tell (.addr .ifruAddr) other t.host }) = (.ok (), dev, v) ∧
      Yields answering (.addr .ifruAddr) (address .little answering (.zeroed 128))
        (.v4 0x0a000001) (dev, v) := by
  intro config tun1
  have hname (s : Process Interfaces) (dev : Device)
      (h : (Device.create (remembering.values .little) config s).1 = .ok dev) :
      FitsField dev.tunName := by
    cases h
    exact fitsField_named_tun0
  obtain ⟨tun, ctl, s, hnew⟩ : ∃ tun ctl s,
      new .little remembering config ⟨.initial, fun _ _ ↦ .zeroed _⟩ =
        (.ok ⟨Utf8.lossy (cStr (decode .little (named tun0)).ifrName), tun, ctl⟩, s) :=
    ⟨_, _, _, rfl⟩
  rw [lossy_named_tun0] at hnew
  let dev : Device := ⟨tun0, tun, ctl⟩
  obtain ⟨t, hset⟩ : ∃ t, rawCall .little remembering (.setAddress (.v4 0x0a000001)) (dev, s) =
      (.ok (), dev, t) := ⟨_, rfl⟩
  let other : IfreqBytes := (named tun1).set ifrIfru
    ((rsAddrToSockaddr .linux .little (.new (.v4 0x0a000002) 0)).get copied)
  let u : Process Interfaces := { t with host := tell (.addr .ifruAddr) other t.host }
  obtain ⟨v, henabled, hhost⟩ : ∃ v, rawCall .little remembering (.enabled true) (dev, u) =
      (.ok (), dev, v) ∧ v.host = u.host := ⟨_, rfl, rfl⟩
  have hrun : (programs (new .little remembering config) (rawCall .little remembering)).Run (dev, t)
      [(.meanwhile u, dev, u), (.call (.enabled true) (.ok ()), dev, v)] :=
    .cons (.meanwhile u) (.cons (.call henabled) (.nil _))
  have hkept {s t : Process Interfaces}
      (h : t.host tun0 (.addr .ifruAddr) = s.host tun0 (.addr .ifruAddr)) :
      (Setting.addr .ifruAddr 0x0a000001).In .little (s.host tun0 (.addr .ifruAddr)) →
        (Setting.addr .ifruAddr 0x0a000001).In .little (t.host tun0 (.addr .ifruAddr)) := by
    rw [h]
    exact id
  have hne : tun0 ≠ nameIn other := by decide
  have hother : u.host tun0 (.addr .ifruAddr) = t.host tun0 (.addr .ifruAddr) :=
    tell_of_ne (a := .addr .ifruAddr) (k := t.host) hne
  have hread := reads_back answers_remembering hname remembers_remembering
    (.init ⟨_, hnew⟩) (.addr .ifruAddr 0x0a000001) hset hrun
    ⟨hkept hother, hkept (congrFun (congrFun hhost _) _), trivial⟩ (.zeroed 128)
  exact ⟨dev, s, t, other, v, hnew, hset, putAddr_eq _, henabled, hread⟩

end RustTun.Linux.Raw
