import RustTun.Base.Decimal
import RustTun.MacOs.Device

/-!
# The name of a macOS device

The kernel names the interface of unit `n + 1` of the control `utun` followed by the
numeral of `n`.  `Device::new` is given the name and asks for the unit: it parses what is
behind `utun` as a `u32` and adds one.  Parsing minds neither a sign nor leading zeros, and
adding one to the largest number wraps to the unit that stands for any, or panics in a
library built with overflow checks.
-/

namespace RustTun.MacOs

open Decimal

namespace Device

/-! ## Parsing -/

theorem parseDigits_cons (c : UInt8) (cs : List UInt8) (v : Nat) :
    parseDigits (c :: cs) v =
      if IsDigit c then
        if 10 * v + digitVal c < 2 ^ 32 then parseDigits cs (10 * v + digitVal c) else none
      else none := by
  rw [parseDigits]
  rfl

/-- Digits are parsed to their value if it is not too large. -/
theorem parseDigits_eq_some_iff {cs : List UInt8} {v m : Nat} (hv : v < 2 ^ 32) :
    parseDigits cs v = some m ↔ (∀ c ∈ cs, IsDigit c) ∧ valueFrom v cs = m ∧ m < 2 ^ 32 := by
  induction cs generalizing v with
  | nil =>
      rw [parseDigits, valueFrom_nil, Option.some.injEq]
      constructor
      · rintro rfl
        exact ⟨fun c hc ↦ (nomatch hc), rfl, hv⟩
      · intro h
        exact h.2.1
  | cons c cs ih =>
      rw [parseDigits_cons, List.forall_mem_cons, valueFrom_cons]
      have hle := le_valueFrom (10 * v + digitVal c) cs
      by_cases hc : IsDigit c
      · rw [if_pos hc]
        by_cases hlt : 10 * v + digitVal c < 2 ^ 32
        · rw [if_pos hlt, and_iff_right hc]
          exact ih hlt
        · rw [if_neg hlt]
          constructor
          · intro h
            cases h
          · rintro ⟨-, rfl, hm⟩
            omega
      · rw [if_neg hc]
        constructor
        · intro h
          cases h
        · intro h
          exact absurd h.1.1 hc

/-- A text without a sign is parsed to the value of its digits. -/
theorem parseU32_eq_some_iff {text : List UInt8} (hsign : text.head? ≠ some 43) {n : UInt32} :
    parseU32 text = some n ↔
      text ≠ [] ∧ (∀ c ∈ text, IsDigit c) ∧ valueFrom 0 text = n.toNat := by
  have hdigits : parseU32 text =
      if text = [] then none else (parseDigits text 0).map UInt32.ofNat := by
    cases text with
    | nil => rfl
    | cons c cs =>
        have hc : c ≠ 43 := fun h ↦ hsign (congrArg some h)
        simp [parseU32, hc]
  rw [hdigits]
  by_cases hnil : text = []
  · simp [hnil]
  · rw [if_neg hnil, Option.map_eq_some_iff, and_iff_right hnil]
    constructor
    · rintro ⟨m, hm, rfl⟩
      obtain ⟨hall, hval, hlt⟩ := (parseDigits_eq_some_iff (by decide)).1 hm
      refine ⟨hall, ?_⟩
      rw [hval, UInt32.toNat_ofNat', Nat.mod_eq_of_lt hlt]
    · rintro ⟨hall, hval⟩
      refine ⟨n.toNat, (parseDigits_eq_some_iff (by decide)).2 ⟨hall, hval, n.toNat_lt⟩, ?_⟩
      exact UInt32.ofNat_toNat

/-- A numeral is parsed to its number. -/
theorem parseU32_numeral {n : Nat} (h : n < 2 ^ 32) :
    parseU32 (numeral n) = some (UInt32.ofNat n) := by
  have hcanon := canonical_numeral n
  have hsign : (numeral n).head? ≠ some 43 := by
    intro hc
    have hdigit := hcanon.isDigit 43 (List.mem_of_head? hc)
    exact absurd hdigit (by decide)
  rw [parseU32_eq_some_iff hsign, UInt32.toNat_ofNat', Nat.mod_eq_of_lt h]
  exact ⟨hcanon.ne_nil, hcanon.isDigit, valueFrom_numeral n⟩

/-! ## Names -/

/-- The kernel names the interface of a unit after the number below it. -/
def NamesUnits (h : Host) : Prop :=
  ∀ unit : UInt32, unit ≠ 0 → h.nameOf unit = utun ++ numeral (unit.toNat - 1)

/-- The name is the one the kernel gives to the interface of some unit. -/
def Exact (name : Name) : Prop := ∃ n, n + 1 < 2 ^ 32 ∧ name = utun ++ numeral n

/-- The checks `Device::new` makes of a name let it pass, and find the number `n` in it. -/
structure Parsed (name : Name) (n : UInt32) : Prop where
  short : name.length ≤ IFNAMSIZ
  starts : utun <+: name
  number : parseU32 (name.drop 4) = some n

/-- The number is written without a sign and without leading zeros, and is not the largest
there is. -/
structure PlainNumber (text : List UInt8) (n : UInt32) : Prop where
  sign : text.head? ≠ some 43
  leading : text.head? = some 48 → text = [48]
  small : n.toNat + 1 < 2 ^ 32

/-- What behind `utun` passes for a number is written as the kernel writes it. -/
def Plain (name : Name) : Prop := ∀ n, Parsed name n → PlainNumber (name.drop 4) n

/-- A name that passes is the name of the number in it if that is written plainly. -/
theorem Parsed.eq_of_plainNumber {name : Name} {n : UInt32} (h : Parsed name n)
    (hplain : PlainNumber (name.drop 4) n) : name = utun ++ numeral n.toNat := by
  obtain ⟨text, rfl⟩ := h.starts
  have htext : (utun ++ text).drop 4 = text := rfl
  have hnumber := h.number
  rw [htext] at hplain hnumber
  obtain ⟨hne, hdigits, hval⟩ := (parseU32_eq_some_iff hplain.sign).1 hnumber
  have hcanon : Canonical text := ⟨hne, hdigits, hplain.leading⟩
  rw [← hval, hcanon.numeral_valueFrom]

/-- A name that passes is exact only if the number in it is written plainly. -/
theorem Parsed.plainNumber_of_exact {name : Name} {n : UInt32} (h : Parsed name n)
    (hexact : Exact name) : PlainNumber (name.drop 4) n := by
  obtain ⟨m, hm, rfl⟩ := hexact
  have htext : (utun ++ numeral m).drop 4 = numeral m := rfl
  have hcanon := canonical_numeral m
  have hnumber := h.number
  rw [htext, parseU32_numeral (by omega), Option.some.injEq] at hnumber
  rw [htext]
  refine ⟨fun hc ↦ ?_, hcanon.leading, ?_⟩
  · exact absurd (hcanon.isDigit 43 (List.mem_of_head? hc)) (by decide)
  · rw [← hnumber, UInt32.toNat_ofNat', Nat.mod_eq_of_lt (by omega)]
    exact hm

/-! ## The unit -/

/-- A name that does not pass is refused. -/
theorem utunId_of_not_parsed {name : Name} (h : ∀ n, ¬ Parsed name n) (host : Host) :
    ∃ e, utunId (some name) host = (.error (.err e), host) := by
  rw [utunId]
  split_ifs with hlen hstarts
  · exact ⟨_, rfl⟩
  · cases hnumber : parseU32 (name.drop 4) with
    | none => exact ⟨_, rfl⟩
    | some n => exact absurd ⟨Nat.le_of_not_lt hlen, hstarts, hnumber⟩ (h n)
  · exact ⟨_, rfl⟩

/-- The unit of a name that passes is the number in it plus one, as long as nothing checks
for an overflow. -/
theorem utunId_of_parsed {name : Name} {n : UInt32} (h : Parsed name n) (host : Host)
    (hover : n.toNat + 1 < 2 ^ 32 ∨ host.overflowChecks = false) :
    utunId (some name) host = (.ok (n + 1), host) := by
  have hcheck : ¬ (n.toNat + 1 = 2 ^ 32 ∧ host.overflowChecks = true) := by
    rintro ⟨hmax, hon⟩
    rcases hover with hlt | hoff
    · omega
    · rw [hon] at hoff
      cases hoff
  rw [utunId, if_neg (Nat.not_lt.2 h.short), if_neg (not_not.2 h.starts), h.number]
  exact if_neg hcheck

/-- Adding one to the largest number panics if overflow is checked for. -/
theorem utunId_panics {name : Name} {n : UInt32} (h : Parsed name n) {host : Host}
    (hmax : n.toNat + 1 = 2 ^ 32) (hon : host.overflowChecks = true) :
    utunId (some name) host = (.error .panic, host) := by
  rw [utunId, if_neg (Nat.not_lt.2 h.short), if_neg (not_not.2 h.starts), h.number]
  exact if_pos ⟨hmax, hon⟩

/-- A unit that is asked for is one more than the number in a name that passed. -/
theorem utunId_eq_ok {name : Name} {id : UInt32} {host host' : Host}
    (h : utunId (some name) host = (.ok id, host')) :
    host' = host ∧ ∃ n, Parsed name n ∧ id = n + 1 := by
  by_cases hparsed : ∃ n, Parsed name n
  · obtain ⟨n, hn⟩ := hparsed
    by_cases hover : n.toNat + 1 < 2 ^ 32 ∨ host.overflowChecks = false
    · rw [utunId_of_parsed hn _ hover] at h
      cases h
      exact ⟨rfl, n, hn, rfl⟩
    · rw [not_or, Bool.not_eq_false] at hover
      have hmax : n.toNat + 1 = 2 ^ 32 := by
        have := n.toNat_lt
        omega
      rw [utunId_panics hn hmax hover.2] at h
      cases h
  · obtain ⟨e, he⟩ := utunId_of_not_parsed (not_exists.1 hparsed) host
    rw [he] at h
    cases h

/-! ## Creation -/

variable {ipnet : Ipnet}

/-- A request that was granted, of which the name and the unit are no part. -/
theorem ioctl_eq_ok {α : Type} {effect : Host → α × Host} {h h' : Host} {a : α}
    (hok : Host.ioctl effect h = (.ok a, h')) :
    a = (effect { h with refusals := h.refusals.tail }).1 ∧
      h' = (effect { h with refusals := h.refusals.tail }).2 := by
  cases href : h.refusals.head?.join with
  | none =>
      rw [Host.ioctl_of_granted _ href] at hok
      cases hok
      exact ⟨rfl, rfl⟩
  | some e =>
      rw [Host.ioctl_of_refused _ href] at hok
      cases hok

/-- `Fd::new` leaves the process alone. -/
theorem newFd_eq_ok {fd : RawFd} {close : Bool} {r : Fd} {s t : Process Host}
    (h : newFd fd close s = (.ok r, t)) : t = s := by
  rw [newFd] at h
  cases hfd : Fd.new fd close with
  | ok fd =>
      rw [hfd] at h
      exact (Call.pure_eq_ok.1 h).2.symm
  | error e =>
      rw [hfd] at h
      cases h

/-- A device that was opened has the name of the unit that was asked for. -/
theorem openUtun_eq_ok {id : UInt32} {name : Name} {fd ctl : Fd} {s t : Process Host}
    (h : openUtun id s = (.ok (name, fd, ctl), t)) :
    t.host.unit = some id ∧ name = s.host.nameOf id := by
  obtain ⟨sysFd, s₁, hsys, h⟩ := Call.bind_eq_ok.1 h
  have hs₁ : s.host = s₁.host := (Prod.mk.inj (Process.ofHost_eq_ok hsys).1).2
  obtain ⟨fd', s₂, hfd, h⟩ := Call.bind_eq_ok.1 h
  cases newFd_eq_ok hfd
  obtain ⟨_, s₃, hinfo, h⟩ := Call.bind_eq_ok.1 (Call.guarded_eq_ok.1 h)
  obtain ⟨-, hs₃⟩ := ioctl_eq_ok (Process.ofHost_eq_ok hinfo).1
  obtain ⟨_, s₄, hconnect, h⟩ := Call.bind_eq_ok.1 h
  obtain ⟨-, hs₄⟩ := ioctl_eq_ok (Process.ofHost_eq_ok hconnect).1
  obtain ⟨name', s₅, hname, h⟩ := Call.bind_eq_ok.1 h
  obtain ⟨hname', hs₅⟩ := ioctl_eq_ok (Process.ofHost_eq_ok hname).1
  obtain ⟨inetFd, s₆, hinet, h⟩ := Call.bind_eq_ok.1 h
  have hs₆ : s₅.host = s₆.host := (Prod.mk.inj (Process.ofHost_eq_ok hinet).1).2
  obtain ⟨ctl', s₇, hctl, hret⟩ := Call.bind_eq_ok.1 h
  obtain ⟨hret, rfl⟩ := Call.pure_eq_ok.1 hret
  cases hret
  rw [hname', (Process.ofExcept_eq_ok hctl).2, ← hs₆, hs₅, hs₄, hs₃, hs₁]
  exact ⟨rfl, rfl⟩

/-- A device that was created has the name of the unit in its configured name. -/
theorem create_eq_ok {config : Configuration PlatformConfig} {name : Name} {dev : Device}
    {s t : Process Host} (hname : config.tunName = some name)
    (h : create config s = (.ok dev, t)) :
    ∃ n, Parsed name n ∧ t.host.unit = some (n + 1) ∧
      dev.tunName = some (s.host.nameOf (n + 1)) := by
  obtain ⟨id, s₁, hid, h⟩ := Call.bind_eq_ok.1 h
  rw [hname] at hid
  obtain ⟨hs₁, n, hn, rfl⟩ := utunId_eq_ok (Process.ofHost_eq_ok hid).1
  split_ifs at h
  · cases h
  · cases h
  · obtain ⟨⟨ifName, fd, ctl⟩, s₂, hopen, h⟩ := Call.bind_eq_ok.1 h
    obtain ⟨hunit, rfl⟩ := openUtun_eq_ok hopen
    obtain ⟨tun, s₃, htun, h⟩ := Call.bind_eq_ok.1 h
    obtain ⟨rfl, rfl⟩ := Call.pure_eq_ok.1 h
    cases htun
    exact ⟨n, hn, hunit, by rw [hs₁]⟩

/-! ## Setting up -/

/-- The device has the name `name`, and its control is connected to the unit `unit`. -/
def Named (name : Option Name) (unit : Option UInt32) (s : Device × Process Host) : Prop :=
  s.1.tunName = name ∧ s.2.host.unit = unit

variable {name : Option Name} {unit : Option UInt32}

/-- A request that does not connect to a unit. -/
theorem preserves_control {α : Type} {call : Ifreq → Host → α × Host}
    (hcall : ∀ req h, (call req h).2.unit = h.unit) :
    (control fun req ↦ Host.ioctl (call req)).Preserves (Named name unit) := by
  have hhost : ∀ dev : Device, (withRequest (fun req ↦ Host.ioctl (call req)) dev).Preserves
      fun h : Host ↦ h.unit = unit := ?_
  · exact preserves_onHost (I := fun dev : Device ↦ dev.tunName = name) hhost
  intro dev host hunit
  cases hreq : dev.request with
  | error e =>
      rw [withRequest_of_error _ hreq]
      exact hunit
  | ok req =>
      rw [withRequest_of_ok _ hreq]
      cases href : host.refusals.head?.join with
      | none =>
          rw [Host.ioctl_of_granted _ href, hcall]
          exact hunit
      | some e =>
          rw [Host.ioctl_of_refused _ href]
          exact hunit

/-- The route of a device has nothing to do with its name. -/
theorem preserves_setRoute (route : Route) :
    (setRoute ipnet route).Preserves (Named name unit) := fun _ hs ↦ hs

theorem preserves_setComponent (ifru : IpAddr → UInt16 → IfrIfru) (c : Component) (ip : IpAddr) :
    (setComponent ipnet ifru c ip).Preserves (Named name unit) := by
  cases ip with
  | v6 addr => exact .panic
  | v4 addr =>
      refine .bind (preserves_control fun _ _ ↦ rfl) fun _ ↦ .bind .get fun s ↦ ?_
      cases s.1.route with
      | some route => exact preserves_setRoute _
      | none => exact .pure ()

theorem preserves_setAlias (addr dest mask : IpAddr) :
    (setAlias ipnet addr dest mask).Preserves (Named name unit) := by
  unfold setAlias
  split
  · exact .bind (preserves_control fun _ _ ↦ rfl) fun _ ↦
      .catching (preserves_setRoute _) fun _ ↦ .pure ()
  · exact .panic

/-- Setting a device up leaves its name alone. -/
theorem keeps_setUp (config : Configuration PlatformConfig) :
    (setUp ipnet config).Keeps (Named name unit) := by
  refine .bind (AbstractDevice.Keeps.configure ⟨?_, ?_, ?_, ?_, ?_, ?_⟩) fun _ ↦
    (preserves_setAlias _ _ _).keeps
  · exact fun ip _ ↦ (preserves_setComponent _ _ ip).keeps
  · exact fun ip _ ↦ (preserves_setComponent _ _ ip).keeps
  · intro ip _
    cases ip with
    | v6 addr => exact .panic
    | v4 addr => exact (preserves_control fun _ _ ↦ rfl).keeps
  · exact fun ip _ ↦ (preserves_setComponent _ _ ip).keeps
  · exact fun mtu _ ↦ .bind (preserves_control fun _ _ ↦ rfl).keeps fun _ ↦ .modify fun _ hs ↦ hs
  · exact fun value _ ↦ .bind (preserves_control fun _ _ ↦ rfl).keeps fun _ ↦
      (preserves_control fun _ _ ↦ rfl).keeps

/-- **A new device has the name of the unit in its configured name.** -/
theorem new_eq_ok {config : Configuration PlatformConfig} {name : Name} {dev : Device}
    {s t : Process Host} (hraw : config.rawFd = none) (hname : config.tunName = some name)
    (h : new ipnet config s = (.ok dev, t)) :
    ∃ n, Parsed name n ∧ t.host.unit = some (n + 1) ∧
      dev.tunName = some (s.host.nameOf (n + 1)) := by
  simp only [new, hraw] at h
  obtain ⟨dev₀, s₀, hcreate, hfinish⟩ := Call.bind_eq_ok.1 h
  obtain ⟨n, hn, hunit, hdev⟩ := create_eq_ok hname hcreate
  obtain ⟨hdev', hunit'⟩ := keeps_setUp config _ _ _ ⟨hdev, hunit⟩ (orDrop_eq_ok.1 hfinish)
  exact ⟨n, hn, hunit', hdev'⟩

/-! ## What becomes of a configured name -/

/-- What `Device::new` makes of a configured name: it is the name of the interface that was
asked for and created, or it is refused with an error. -/
structure KeepsName (ipnet : Ipnet) (config : Configuration PlatformConfig) (name : Name)
    (s : Process Host) : Prop where
  accepted : ∀ dev t, new ipnet config s = (.ok dev, t) →
    ∃ n, n + 1 < 2 ^ 32 ∧ name = utun ++ numeral n ∧
      t.host.unit = some (UInt32.ofNat (n + 1)) ∧ dev.tunName = some name
  refused : ¬ Exact name → ∃ e t, new ipnet config s = (.error (.err e), t)

/-- A name that is written plainly, if it passes at all, is kept or refused. -/
theorem keepsName_of_plain {config : Configuration PlatformConfig} {name : Name}
    {s : Process Host} (hplain : Plain name) (hraw : config.rawFd = none)
    (hname : config.tunName = some name) (hunits : NamesUnits s.host) :
    KeepsName ipnet config name s := by
  constructor
  · intro dev t hnew
    obtain ⟨n, hn, hunit, hdev⟩ := new_eq_ok hraw hname hnew
    have hsmall := (hplain n hn).small
    have hsucc : n + 1 = UInt32.ofNat (n.toNat + 1) := by
      apply UInt32.toNat.inj
      rw [UInt32.toNat_add, UInt32.toNat_ofNat']
      rfl
    have htoNat : (n + 1).toNat = n.toNat + 1 := by
      rw [hsucc, UInt32.toNat_ofNat', Nat.mod_eq_of_lt hsmall]
    have hne : n + 1 ≠ 0 := by
      intro h
      rw [h] at htoNat
      exact absurd htoNat (Nat.succ_ne_zero _).symm
    have hexact := hn.eq_of_plainNumber (hplain n hn)
    refine ⟨n.toNat, hsmall, hexact, by rw [hunit, hsucc], ?_⟩
    rw [hdev, hunits _ hne, htoNat, Nat.add_sub_cancel, ← hexact]
  · intro hexact
    have hnone : ∀ n, ¬ Parsed name n := fun n hn ↦
      hexact ⟨_, (hplain n hn).small, hn.eq_of_plainNumber (hplain n hn)⟩
    obtain ⟨e, he⟩ := utunId_of_not_parsed hnone s.host
    have hid : Process.ofHost (utunId config.tunName) s = (.error (.err e), s) := by
      rw [hname, Process.ofHost, he]
    simp only [new, hraw]
    exact ⟨e, s, Call.bind_of_error (Call.bind_of_error hid _) _⟩

/-- A host that grants every request, of a library that checks for overflows or does not. -/
def willingHost (overflowChecks : Bool) : Host :=
  { systemSocket := 3, inetSocket := 4, errno := 0, unit := none
    nameOf := fun unit ↦ utun ++ numeral (unit.toNat - 1), flags := 0, refusals := []
    routes := { table := [], failures := [] }, overflowChecks }

theorem namesUnits_willingHost (overflowChecks : Bool) : NamesUnits (willingHost overflowChecks) :=
  fun _ _ ↦ rfl

/-- A configuration that asks for a name and for nothing else. -/
def named (name : Name) : Configuration PlatformConfig :=
  { tunName := some name, platformConfig := {} }

/-- On a host that grants every request a device is created if there is a unit for it. -/
theorem new_named_of_ok {name : Name} {id : UInt32} {overflowChecks : Bool}
    (h : utunId (some name) (willingHost overflowChecks) = (.ok id, willingHost overflowChecks)) :
    ∃ dev t, new .std (named name) ⟨.initial, willingHost overflowChecks⟩ = (.ok dev, t) := by
  have hid : Process.ofHost (utunId (named name).tunName) ⟨.initial, willingHost overflowChecks⟩ =
      (.ok id, ⟨.initial, willingHost overflowChecks⟩) := by
    rw [named, Process.ofHost, h]
  have hcreate : ∃ dev t, create (named name) ⟨.initial, willingHost overflowChecks⟩ =
      (.ok dev, t) ∧ ∃ dev' t', orDrop drop (setUp .std (named name)) dev t = (.ok dev', t') :=
    ⟨_, _, Call.bind_of_ok hid _, _, _, rfl⟩
  obtain ⟨dev, t, hcreate, dev', t', hfinish⟩ := hcreate
  exact ⟨dev', t', Call.bind_eq_ok.2 ⟨dev, t, hcreate, hfinish⟩⟩

/-- **A configured name is kept or refused exactly if its number is written plainly.** -/
theorem keepsName_iff (name : Name) :
    (∀ (ipnet : Ipnet) (config : Configuration PlatformConfig) (s : Process Host),
      config.rawFd = none → config.tunName = some name → NamesUnits s.host →
      KeepsName ipnet config name s) ↔ Plain name := by
  constructor
  · intro hkeeps n hn
    by_cases hmax : n.toNat + 1 < 2 ^ 32
    · obtain ⟨dev, t, hnew⟩ := new_named_of_ok (utunId_of_parsed hn (willingHost false)
        (.inl hmax))
      obtain ⟨m, hm, hname, -⟩ := (hkeeps .std (named name) _ rfl rfl
        (namesUnits_willingHost false)).accepted dev t hnew
      exact hn.plainNumber_of_exact ⟨m, hm, hname⟩
    · by_contra hplain
      have hexact : ¬ Exact name := fun h ↦ hplain (hn.plainNumber_of_exact h)
      obtain ⟨e, t, hnew⟩ := (hkeeps .std (named name) ⟨.initial, willingHost true⟩ rfl rfl
        (namesUnits_willingHost true)).refused hexact
      have hpanic : new .std (named name) ⟨.initial, willingHost true⟩ =
          (.error .panic, ⟨.initial, willingHost true⟩) := by
        have hid : Process.ofHost (utunId (named name).tunName) ⟨.initial, willingHost true⟩ =
            (.error .panic, ⟨.initial, willingHost true⟩) := by
          have := n.toNat_lt
          rw [named, Process.ofHost, utunId_panics hn (by omega) rfl]
        exact Call.bind_of_error (Call.bind_of_error hid _) _
      rw [hpanic] at hnew
      cases hnew
  · intro hplain ipnet config s hraw hname hunits
    exact keepsName_of_plain hplain hraw hname hunits

/-- A name that passes on a host that grants every request: the device that is created, and
the unit it was created for. -/
theorem new_named_of_parsed {name : Name} {n : UInt32} (h : Parsed name n) :
    ∃ dev t, new .std (named name) ⟨.initial, willingHost false⟩ = (.ok dev, t) ∧
      t.host.unit = some (n + 1) ∧
      dev.tunName = some (utun ++ numeral ((n + 1).toNat - 1)) := by
  obtain ⟨dev, t, hnew⟩ := new_named_of_ok (utunId_of_parsed h (willingHost false)
    (.inr rfl))
  obtain ⟨m, hm, hunit, hdev⟩ := new_eq_ok rfl rfl hnew
  have hmn : m = n := Option.some.inj (hm.number.symm.trans h.number)
  rw [hmn] at hunit hdev
  exact ⟨dev, t, hnew, hunit, hdev⟩

/-- `utun3` is the name of the interface that is created. -/
theorem keepsName_utun3 :
    Plain (utun ++ [51]) ∧
      ∃ dev t, new .std (named (utun ++ [51])) ⟨.initial, willingHost false⟩ = (.ok dev, t) ∧
        dev.tunName = some (utun ++ [51]) := by
  have hparsed : Parsed (utun ++ [51]) 3 := ⟨by decide, by decide, rfl⟩
  have hplain : Plain (utun ++ [51]) := by
    intro n hn
    rw [← Option.some.inj (hparsed.number.symm.trans hn.number)]
    exact ⟨by decide, by decide, by decide⟩
  obtain ⟨dev, t, hnew, -, -⟩ := new_named_of_parsed hparsed
  obtain ⟨-, -, -, -, hdev⟩ := ((keepsName_iff _).2 hplain .std (named (utun ++ [51])) _ rfl rfl
    (namesUnits_willingHost false)).accepted dev t hnew
  exact ⟨hplain, dev, t, hnew, hdev⟩

/-- `utun007` is accepted, and the interface that is created is `utun7`; `utun4294967295` is
accepted too by a library built without overflow checks, and stands for any unit. -/
theorem new_accepts_utun007 :
    (∃ dev t, new .std (named (utun ++ [48, 48, 55])) ⟨.initial, willingHost false⟩ =
        (.ok dev, t) ∧ dev.tunName = some (utun ++ [55])) ∧
      (∃ dev t, new .std (named (utun ++ [52, 50, 57, 52, 57, 54, 55, 50, 57, 53]))
        ⟨.initial, willingHost false⟩ = (.ok dev, t) ∧ t.host.unit = some 0) ∧
      ¬ KeepsName .std (named (utun ++ [48, 48, 55])) (utun ++ [48, 48, 55])
        ⟨.initial, willingHost false⟩ := by
  have hseven : Parsed (utun ++ [48, 48, 55]) 7 := ⟨by decide, by decide, rfl⟩
  have hmax : Parsed (utun ++ [52, 50, 57, 52, 57, 54, 55, 50, 57, 53]) 4294967295 :=
    ⟨by decide, by decide, rfl⟩
  obtain ⟨dev, t, hnew, -, hdev⟩ := new_named_of_parsed hseven
  obtain ⟨dev', t', hnew', hunit', -⟩ := new_named_of_parsed hmax
  have hname : dev.tunName = some (utun ++ [55]) := hdev
  refine ⟨⟨dev, t, hnew, hname⟩, ⟨dev', t', hnew', hunit'⟩, fun h ↦ ?_⟩
  obtain ⟨-, -, -, -, hkept⟩ := h.accepted dev t hnew
  rw [hname] at hkept
  exact absurd hkept (by decide)

end Device

end RustTun.MacOs
