import RustTun.Base.Decimal
import RustTun.Linux.Device
import RustTun.Posix.IfName

/-!
# The names of Linux interfaces

A kernel whose state is the names of its interfaces.  It gives an interface a name when the
driver registers it (`TUNSETIFF`) and when it is renamed (`SIOCSIFNAME`), and in both cases a
name with one `%d` in it is a pattern: the interface gets the first number for which the name
is free, in at most `IFNAMSIZ - 1` bytes (`Net.alloc`).  `TUNSETIFF` writes the name it chose
back into the request; `SIOCSIFNAME` does not.  All requests find their interface by the name
in them.  Interfaces that outlive their device, and are found by a later one, there are none.
-/

namespace RustTun.Linux

open Decimal

def EBUSY : Errno := 16
def EEXIST : Errno := 17
def ENODEV : Errno := 19
def EINVAL : Errno := 22
def ENFILE : Errno := 23

/-! ## Patterns -/

/-- `%`. -/
def percent : UInt8 := 37

/-- What is in front of the first `%` and what is behind it. -/
def splitPercent : Name → Option (Name × Name)
  | [] => none
  | c :: rest =>
    if c = percent then some ([], rest)
    else (splitPercent rest).map fun x ↦ (c :: x.1, x.2)

/-- `snprintf` of a pattern into a name. -/
def expand (front back : Name) (n : Nat) : Name :=
  (front ++ numeral n ++ back).take (IFNAMSIZ - 1)

/-- The name of the first number from `n` on for which it is not in use, if that is one of
the next `fuel` numbers. -/
def firstFree (used : List Name) (front back : Name) : (fuel n : Nat) → Option Name
  | 0, _ => none
  | fuel + 1, n =>
    if expand front back n ∈ used then firstFree used front back fuel (n + 1)
    else some (expand front back n)

/-- How many numbers are tried. -/
def maxNetdevices : Nat := 32768

/-- Names without a `%` are those that cannot be split. -/
theorem splitPercent_eq_none_iff {name : Name} : splitPercent name = none ↔ percent ∉ name := by
  induction name with
  | nil => exact iff_of_true rfl List.not_mem_nil
  | cons c rest ih =>
      rw [splitPercent, List.mem_cons, not_or, eq_comm (a := percent)]
      split
      · rename_i hc
        exact iff_of_false (nomatch ·) fun h ↦ h.1 hc
      · rename_i hc
        rw [Option.map_eq_none_iff, ih]
        exact (and_iff_right hc).symm

/-- The parts of a name are parts of it, and the first has no `%`. -/
theorem splitPercent_eq_some {name front back : Name} (h : splitPercent name = some (front, back)) :
    percent ∉ front ∧ name = front ++ percent :: back := by
  induction name generalizing front with
  | nil => cases h
  | cons c rest ih =>
      rw [splitPercent] at h
      split at h
      · rename_i hc
        cases h
        exact ⟨List.not_mem_nil, by rw [hc]; rfl⟩
      · rename_i hc
        obtain ⟨⟨front', back'⟩, hrest, heq⟩ := Option.map_eq_some_iff.1 h
        cases heq
        obtain ⟨hnot, rfl⟩ := ih hrest
        exact ⟨List.not_mem_cons_of_ne_of_not_mem (Ne.symm hc) hnot, rfl⟩

/-- The characters of a number that was put into a pattern. -/
theorem mem_expand {front back : Name} {n : Nat} {c : UInt8} (h : c ∈ expand front back n) :
    c ∈ front ∨ IsDigit c ∨ c ∈ back := by
  have hmem := List.mem_of_mem_take h
  rw [List.mem_append, List.mem_append] at hmem
  rcases hmem with (hfront | hdigit) | hback
  · exact .inl hfront
  · exact .inr (.inl ((canonical_numeral n).isDigit c hdigit))
  · exact .inr (.inr hback)

theorem length_expand_lt (front back : Name) (n : Nat) :
    (expand front back n).length < IFNAMSIZ := by
  rw [expand, List.length_take]
  exact Nat.lt_of_le_of_lt (Nat.min_le_left _ _) (by decide)

/-- A name that was found is not in use, and is one of the pattern. -/
theorem firstFree_eq_some {used : List Name} {front back name : Name} {fuel n : Nat}
    (h : firstFree used front back fuel n = some name) :
    name ∉ used ∧ ∃ m, name = expand front back m := by
  induction fuel generalizing n with
  | zero => cases h
  | succ fuel ih =>
      rw [firstFree] at h
      split at h
      · exact ih h
      · rename_i hfree
        cases h
        exact ⟨hfree, n, rfl⟩

/-! ## Interfaces -/

/-- The names of the interfaces there are, and what else the kernel's answers depend on. -/
structure Net where
  /-- The interface of this device, once it is registered. -/
  own : Option Name
  /-- All other interfaces. -/
  others : List Name
  /-- What `open` and `socket` return. -/
  driverFd : RawFd
  socketFd : RawFd
  /-- `errno` after a failure. -/
  errno : Errno
  /-- What the kernel answers to the coming requests for reasons that have nothing to do with
  what names are in use; `none` is "go ahead". -/
  refusals : List (Option Errno)

/-- Whose interface a name finds. -/
inductive Owner where
  | this
  | another
deriving DecidableEq, Repr

namespace Net

/-- The names in use. -/
def used (net : Net) : List Name := net.own.toList ++ net.others

/-- Choose a name for an interface that is to be called `name`. -/
def alloc (net : Net) (name : Name) : Except Errno Name :=
  if name = [] ∨ IFNAMSIZ ≤ name.length then .error EINVAL
  else match splitPercent name with
    | none => if name ∈ net.used then .error EEXIST else .ok name
    | some (front, conversion :: back) =>
      if conversion = 100 ∧ percent ∉ back then
        match firstFree net.used front back maxNetdevices 0 with
        | some name => .ok name
        | none => .error ENFILE
      else .error EINVAL
    | some (_, []) => .error EINVAL

/-- The interface of a name. -/
def find (net : Net) (name : Name) : Option Owner :=
  if net.own = some name then some .this
  else if name ∈ net.others then some .another
  else none

/-- `tun%d` and `tap%d`. -/
def defaultName (flags : UInt16) : Name :=
  if flags &&& IFF_TAP = 0 then [116, 117, 110, 37, 100] else [116, 97, 112, 37, 100]

/-- The name `TUNSETIFF` is asked for. -/
def requested (req : Ifreq) : Name :=
  match cStr req.ifrName, req.ifrIfru with
  | [], .flags flags => defaultName flags
  | name, _ => name

/-- `TUNSETIFF`. -/
def attach (req : Ifreq) (net : Net) : Except Errno Ifreq × Net :=
  match net.own, net.alloc (requested req) with
  | none, .ok name => (.ok { req with ifrName := nameField name }, { net with own := some name })
  | none, .error e => (.error e, net)
  | some _, _ => (.error EBUSY, net)

/-- `SIOCSIFNAME`. -/
def rename (req : Ifreq) (value : Name) (net : Net) : Except Errno Ifreq × Net :=
  match net.find (cStr req.ifrName) with
  | none => (.error ENODEV, net)
  | some owner =>
    if cStr req.ifrName = value then (.ok req, net)
    else match net.alloc value, owner with
      | .error e, _ => (.error e, net)
      | .ok name, .this => (.ok req, { net with own := some name })
      | .ok name, .another =>
        (.ok req, { net with others := net.others.replace (cStr req.ifrName) name })

/-- The other requests, as far as names go. -/
def answer (req : Ifreq) (net : Net) : Except Errno Ifreq × Net :=
  match net.find (cStr req.ifrName) with
  | none => (.error ENODEV, net)
  | some _ => (.ok req, net)

/-- A request that is not refused. -/
def perform (op : Ioctl) (req : Ifreq) (net : Net) : Except Errno Ifreq × Net :=
  match op, req.ifrIfru with
  | .tunsetiff, _ => net.attach req
  | .siocsifname, .newname value => net.rename req value
  | _, _ => net.answer req

/-- The kernel refuses the next request. -/
def Refuses (net : Net) : Prop := net.refusals.head?.join ≠ none

instance (net : Net) : Decidable net.Refuses :=
  inferInstanceAs (Decidable (net.refusals.head?.join ≠ none))

/-- The interfaces after a request that did nothing. -/
def skip (net : Net) : Net := { net with refusals := net.refusals.tail }

/-- `ioctl`. -/
def ioctl (op : Ioctl) (_ : RawFd) (req : Ifreq) (net : Net) : Except Errno Ifreq × Net :=
  match net.refusals.head?.join with
  | some e => (.error e, net.skip)
  | none => net.skip.perform op req

/-- A refused request does nothing. -/
theorem ioctl_of_refused {net : Net} {e : Errno} (h : net.refusals.head?.join = some e) (op : Ioctl)
    (fd : RawFd) (req : Ifreq) : net.ioctl op fd req = (.error e, net.skip) := by
  rw [ioctl, h]

theorem ioctl_of_granted {net : Net} (h : net.refusals.head?.join = none) (op : Ioctl)
    (fd : RawFd) (req : Ifreq) : net.ioctl op fd req = net.skip.perform op req := by
  rw [ioctl, h]

/-- A kernel with these interfaces. -/
def kernel : Kernel Net where
  open_ net := (net.driverFd, net)
  socket net := (net.socketFd, net)
  lastOsError := errno
  ioctl := ioctl
  replaceQdisc _ _ net := (.ok (), net)

/-- **A name that was chosen** is free and can be put into a request; it is the name that was
asked for if that is not a pattern, and not a pattern itself. -/
theorem alloc_eq_ok {net : Net} {name chosen : Name} (hzero : 0 ∉ name)
    (h : net.alloc name = .ok chosen) :
    FitsField chosen ∧ chosen ∉ net.used ∧ percent ∉ chosen ∧
      (percent ∉ name → chosen = name) := by
  rw [alloc] at h
  split at h
  · cases h
  rename_i hsome
  rw [not_or, Nat.not_le] at hsome
  split at h
  · rename_i hsplit
    have hplain := splitPercent_eq_none_iff.1 hsplit
    split at h
    · cases h
    · rename_i hfree
      cases h
      exact ⟨⟨hsome.2, hzero⟩, hfree, hplain, fun _ ↦ rfl⟩
  · rename_i front conversion back hsplit
    obtain ⟨hfront, rfl⟩ := splitPercent_eq_some hsplit
    split at h
    · rename_i hpattern
      split at h
      · rename_i found hfound
        cases h
        obtain ⟨hfree, n, rfl⟩ := firstFree_eq_some hfound
        refine ⟨⟨length_expand_lt _ _ _, fun hmem ↦ ?_⟩, hfree, fun hmem ↦ ?_, fun hnot ↦ ?_⟩
        · rcases mem_expand hmem with hf | hd | hb
          · exact hzero (List.mem_append_left _ hf)
          · exact absurd hd (by decide)
          · exact hzero (List.mem_append_right _ (.tail _ (.tail _ hb)))
        · rcases mem_expand hmem with hf | hd | hb
          · exact hfront hf
          · exact absurd hd (by decide)
          · exact hpattern.2 hb
        · exact absurd (List.mem_append_right _ (.head _)) hnot
      · cases h
    · cases h
  · cases h

/-- Renaming an interface to what it is called already. -/
theorem rename_self {req : Ifreq} {net : Net} (h : net.find (cStr req.ifrName) = some .this) :
    net.rename req (cStr req.ifrName) = (.ok req, net) := by
  rw [rename, h]
  exact if_pos rfl

/-- Renaming the interface of this device. -/
theorem rename_this {req : Ifreq} {value : Name} {net : Net}
    (h : net.find (cStr req.ifrName) = some .this) (hne : cStr req.ifrName ≠ value) :
    net.rename req value = match net.alloc value with
      | .error e => (.error e, net)
      | .ok name => (.ok req, { net with own := some name }) := by
  rw [rename, h]
  refine (if_neg hne).trans ?_
  cases net.alloc value <;> rfl

/-- The names of the interfaces. -/
def names (net : Net) : Option Name × List Name := (net.own, net.others)

theorem names_answer (req : Ifreq) (net : Net) : (net.answer req).2.names = net.names := by
  rw [answer]
  split <;> rfl

/-- A request that does not give a name changes none. -/
theorem names_ioctl {op : Ioctl} (hop : op ≠ .tunsetiff ∧ op ≠ .siocsifname) (fd : RawFd)
    (req : Ifreq) (net : Net) : (net.ioctl op fd req).2.names = net.names := by
  rw [ioctl]
  split
  · rfl
  · cases op with
    | tunsetiff => exact absurd rfl hop.1
    | siocsifname => exact absurd rfl hop.2
    | _ => exact names_answer req net.skip

end Net

end RustTun.Linux
