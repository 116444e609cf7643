import Mathlib.Data.List.Infix

/-!
# IP addresses as text

The parser of IP addresses: an IPv4 address is four decimal numbers, an IPv6 address eight
hexadecimal ones, of which the last two may be written as an IPv4 address, and `::` stands for
all the zeros that are missing.

A `Reader` takes what it reads off the front of a text, or fails and takes nothing.  What is
proved about readers is what they leave behind: a part of the text (`Shortens`), and of some
characters all that there are (`Avoids`).  So the two kinds of addresses can be told apart
without parsing them: only those of one kind have a colon (`colon_notMem_of_v4`,
`colon_mem_of_v6`).
-/

namespace IpText

/-- What reads off the front of a text. -/
abbrev Reader (α : Type) := List UInt8 → Option (α × List UInt8)

variable {α β : Type}

namespace Reader

/-- One reader after the other. -/
def bind (x : Reader α) (f : α → Reader β) : Reader β := fun s ↦ (x s).bind fun (a, s) ↦ f a s

/-- Read nothing. -/
def pure (a : α) : Reader α := fun s ↦ some (a, s)

theorem bind_eq_some {x : Reader α} {f : α → Reader β} {s t : List UInt8} {b : β} :
    x.bind f s = some (b, t) ↔ ∃ a u, x s = some (a, u) ∧ f a u = some (b, t) := by
  rw [bind, Option.bind_eq_some_iff]
  exact ⟨fun ⟨(a, u), hx, hf⟩ ↦ ⟨a, u, hx, hf⟩, fun ⟨a, u, hx, hf⟩ ↦ ⟨(a, u), hx, hf⟩⟩

end Reader

/-! ## Characters and numbers -/

/-- `'.'`. -/
def dot : UInt8 := 46

/-- `':'`. -/
def colon : UInt8 := 58

/-- The next character if it is this one. -/
def readGivenChar (target : UInt8) : Reader Unit
  | [] => none
  | c :: s => if c = target then some ((), s) else none

/-- What is behind a separator, which is only there if it is not the first in a list. -/
def readSeparator (sep : UInt8) (index : Nat) (inner : Reader α) : Reader α :=
  if 0 < index then (readGivenChar sep).bind fun _ ↦ inner else inner

/-- The value of a digit: ten digits, and then letters of either case. -/
def toDigit (radix : Nat) (c : UInt8) : Option Nat :=
  let value :=
    if 48 ≤ c ∧ c ≤ 57 then c.toNat - 48
    else if 97 ≤ c ∧ c ≤ 122 then c.toNat - 87
    else if 65 ≤ c ∧ c ≤ 90 then c.toNat - 55
    else radix
  if value < radix then some value else none

/-- The digits up to the first character that is none, as their value and their number. -/
def readDigits (radix maxDigits : Nat) : Nat → Nat → Reader (Nat × Nat)
  | result, count, [] => some ((result, count), [])
  | result, count, c :: s =>
    match toDigit radix c with
    | none => some ((result, count), c :: s)
    | some digit =>
      if maxDigits < count + 1 then none
      else readDigits radix maxDigits (result * radix + digit) (count + 1) s

/-- A number below `bound` with no more than `maxDigits` digits. -/
def readNumber (radix maxDigits bound : Nat) (allowZeroPrefix : Bool) : Reader Nat := fun s ↦
  match readDigits radix maxDigits 0 0 s with
  | none => none
  | some ((result, count), rest) =>
    if count = 0 then none
    else if ¬ allowZeroPrefix ∧ s.head? = some 48 ∧ 1 < count then none
    else if result < bound then some (result, rest)
    else none

/-! ## Addresses -/

/-- The octets of an IPv4 address that are left. -/
def readOctets : Nat → Nat → Reader (List Nat)
  | _, 0 => .pure []
  | index, left + 1 =>
    (readSeparator dot index (readNumber 10 3 256 false)).bind fun octet ↦
      (readOctets (index + 1) left).bind fun octets ↦ .pure (octet :: octets)

/-- An IPv4 address, as its octets. -/
def readIpv4Addr : Reader (List Nat) := readOctets 0 4

/-- Four octets as two groups. -/
def groupsOf : List Nat → List Nat
  | a :: b :: octets => (256 * a + b) :: groupsOf octets
  | _ => []

/-- As many of the groups of an IPv6 address that are left as there are, and whether the last
two are an IPv4 address.  This never fails. -/
def readGroups : Nat → Nat → List UInt8 → (List Nat × Bool) × List UInt8
  | _, 0, s => (([], false), s)
  | index, left + 1, s =>
    -- An IPv4 address takes up two groups.
    match if 0 < left then readSeparator colon index readIpv4Addr s else none with
    | some (octets, s) => ((groupsOf octets, true), s)
    | none =>
      match readSeparator colon index (readNumber 16 4 65536 true) s with
      | some (group, s) =>
        let ((groups, ipv4), s) := readGroups (index + 1) left s
        ((group :: groups, ipv4), s)
      | none => (([], false), s)

/-- An IPv6 address, as its groups. -/
def readIpv6Addr : Reader (List Nat) := fun s ↦
  let ((head, headIpv4), s) := readGroups 0 8 s
  if head.length = 8 then some (head, s)
  else if headIpv4 then none
  else
    ((readGivenChar colon).bind fun _ ↦ readGivenChar colon).bind (fun _ s ↦
      -- `::` stands for at least one group.
      let ((tail, _), s) := readGroups 0 (8 - (head.length + 1)) s
      some (head ++ List.replicate (8 - head.length - tail.length) 0 ++ tail, s)) s

/-- An IP address that was read. -/
inductive Ip where
  | v4 (octets : List Nat)
  | v6 (groups : List Nat)
deriving DecidableEq, Repr

/-- An IP address of either kind. -/
def readIpAddr : Reader Ip := fun s ↦
  match readIpv4Addr s with
  | some (octets, s) => some (.v4 octets, s)
  | none => (readIpv6Addr s).map fun (groups, s) ↦ (.v6 groups, s)

/-- A text that is an IP address and nothing else. -/
def parse (text : List UInt8) : Option Ip :=
  match readIpAddr text with
  | some (ip, []) => some ip
  | _ => none

/-! ## What readers leave behind -/

/-- The reader leaves a part of the text. -/
def Shortens (x : Reader α) : Prop := ∀ s a t, x s = some (a, t) → t <:+ s

/-- The reader does not take the character `c`. -/
def Avoids (c : UInt8) (x : Reader α) : Prop := ∀ s a t, x s = some (a, t) → c ∈ s → c ∈ t

theorem Shortens.bind {x : Reader α} {f : α → Reader β} (hx : Shortens x)
    (hf : ∀ a, Shortens (f a)) : Shortens (x.bind f) := by
  intro s b u h
  obtain ⟨a, t, hxs, hft⟩ := Reader.bind_eq_some.1 h
  exact (hf a t b u hft).trans (hx s a t hxs)

theorem Avoids.bind {c : UInt8} {x : Reader α} {f : α → Reader β} (hx : Avoids c x)
    (hf : ∀ a, Avoids c (f a)) : Avoids c (x.bind f) := by
  intro s b u h hs
  obtain ⟨a, t, hxs, hft⟩ := Reader.bind_eq_some.1 h
  exact hf a t b u hft (hx s a t hxs hs)

theorem readGivenChar_eq_some {target : UInt8} {s t : List UInt8} {a : Unit} :
    readGivenChar target s = some (a, t) ↔ s = target :: t := by
  cases s with
  | nil => exact ⟨fun h ↦ (nomatch h), fun h ↦ (nomatch h)⟩
  | cons c s =>
      rw [readGivenChar]
      split
      · rename_i hc
        rw [hc, Option.some.injEq, Prod.mk.injEq, List.cons_inj_right]
        exact and_iff_right rfl
      · rename_i hc
        refine ⟨fun h ↦ (nomatch h), fun h ↦ absurd (List.cons.inj h).1 hc⟩

theorem shortens_readGivenChar (target : UInt8) : Shortens (readGivenChar target) := by
  intro s a t h
  rw [readGivenChar_eq_some.1 h]
  exact List.suffix_cons _ _

theorem avoids_readGivenChar {c target : UInt8} (h : c ≠ target) :
    Avoids c (readGivenChar target) := by
  intro s a t hread hs
  rw [readGivenChar_eq_some.1 hread, List.mem_cons] at hs
  exact hs.resolve_left h

theorem Shortens.readSeparator {sep : UInt8} {index : Nat} {inner : Reader α}
    (h : Shortens inner) : Shortens (readSeparator sep index inner) := by
  unfold IpText.readSeparator
  split
  · exact (shortens_readGivenChar sep).bind fun _ ↦ h
  · exact h

theorem Avoids.readSeparator {c sep : UInt8} {index : Nat} {inner : Reader α} (hsep : c ≠ sep)
    (h : Avoids c inner) : Avoids c (readSeparator sep index inner) := by
  unfold IpText.readSeparator
  split
  · exact (avoids_readGivenChar hsep).bind fun _ ↦ h
  · exact h

/-- What is behind a separator has the separator in front of it. -/
theorem mem_of_readSeparator {sep : UInt8} {index : Nat} {inner : Reader α} {s t : List UInt8}
    {a : α} (hindex : 0 < index) (h : readSeparator sep index inner s = some (a, t)) : sep ∈ s := by
  rw [readSeparator, if_pos hindex] at h
  obtain ⟨⟨⟩, u, hsep, -⟩ := Reader.bind_eq_some.1 h
  rw [readGivenChar_eq_some.1 hsep]
  exact List.mem_cons_self

/-- Digits are taken off the front, and characters that are no digits stay. -/
theorem readDigits_eq_some {radix maxDigits result count : Nat} {s t : List UInt8}
    {a : Nat × Nat} (h : readDigits radix maxDigits result count s = some (a, t)) :
    t <:+ s ∧ ∀ c, toDigit radix c = none → c ∈ s → c ∈ t := by
  induction s generalizing result count with
  | nil =>
      cases h
      exact ⟨List.suffix_rfl, fun _ _ hc ↦ hc⟩
  | cons c s ih =>
      rw [readDigits] at h
      cases hdigit : toDigit radix c with
      | none =>
          rw [hdigit] at h
          cases h
          exact ⟨List.suffix_rfl, fun _ _ hc ↦ hc⟩
      | some digit =>
          rw [hdigit] at h
          dsimp only at h
          split at h
          · cases h
          · obtain ⟨hsuffix, havoids⟩ := ih h
            refine ⟨hsuffix.trans (List.suffix_cons _ _), fun c' hc' hmem ↦ ?_⟩
            rcases List.mem_cons.1 hmem with rfl | hmem
            · rw [hdigit] at hc'
              cases hc'
            · exact havoids c' hc' hmem

/-- A number is read off the front as its digits are. -/
theorem readNumber_eq_some {radix maxDigits bound : Nat} {allowZeroPrefix : Bool}
    {s t : List UInt8} {n : Nat}
    (h : readNumber radix maxDigits bound allowZeroPrefix s = some (n, t)) :
    ∃ a, readDigits radix maxDigits 0 0 s = some (a, t) := by
  rw [readNumber] at h
  split at h
  · cases h
  · rename_i hdigits
    split at h
    · cases h
    · split at h
      · cases h
      · split at h
        · cases h
          exact ⟨_, hdigits⟩
        · cases h

theorem shortens_readNumber (radix maxDigits bound : Nat) (allowZeroPrefix : Bool) :
    Shortens (readNumber radix maxDigits bound allowZeroPrefix) := by
  intro s n t h
  obtain ⟨a, ha⟩ := readNumber_eq_some h
  exact (readDigits_eq_some ha).1

theorem avoids_readNumber {c : UInt8} {radix : Nat} (hc : toDigit radix c = none)
    (maxDigits bound : Nat) (allowZeroPrefix : Bool) :
    Avoids c (readNumber radix maxDigits bound allowZeroPrefix) := by
  intro s n t h
  obtain ⟨a, ha⟩ := readNumber_eq_some h
  exact (readDigits_eq_some ha).2 c hc

/-! ## IPv4 addresses have no colon -/

theorem Shortens.pure (a : α) : Shortens (Reader.pure a) := by
  intro s b t h
  cases h
  exact List.suffix_rfl

theorem Avoids.pure (c : UInt8) (a : α) : Avoids c (Reader.pure a) := by
  intro s b t h hs
  cases h
  exact hs

theorem shortens_readOctets (index left : Nat) : Shortens (readOctets index left) := by
  induction left generalizing index with
  | zero => exact .pure []
  | succ left ih =>
      have hnumber : Shortens (readNumber 10 3 256 false) := shortens_readNumber _ _ _ _
      exact hnumber.readSeparator.bind fun _ ↦ (ih _).bind fun _ ↦ .pure _

theorem avoids_readOctets (index left : Nat) : Avoids colon (readOctets index left) := by
  induction left generalizing index with
  | zero => exact .pure _ _
  | succ left ih =>
      have hnumber : Avoids colon (readNumber 10 3 256 false) := avoids_readNumber (by decide) _ _ _
      exact (hnumber.readSeparator (by decide)).bind fun _ ↦ (ih _).bind fun _ ↦ .pure _ _

/-- A text that is an IPv4 address has no colon. -/
theorem colon_notMem_of_v4 {text : List UInt8} {octets : List Nat}
    (h : parse text = some (.v4 octets)) : colon ∉ text := by
  rw [parse] at h
  split at h
  · rename_i ip hread
    cases h
    rw [readIpAddr] at hread
    split at hread
    · rename_i octets' s hread'
      cases hread
      intro hmem
      exact absurd (avoids_readOctets 0 4 _ _ _ hread' hmem) List.not_mem_nil
    · rw [Option.map_eq_some_iff] at hread
      obtain ⟨x, -, hx⟩ := hread
      cases hx
  · cases h

/-! ## IPv6 addresses have one -/

/-- The groups are read off the front, and behind the first there is a colon. -/
theorem readGroups_apply (index left : Nat) (s : List UInt8) :
    (readGroups index left s).2 <:+ s ∧
      (0 < index → (readGroups index left s).1.1 ≠ [] → colon ∈ s) := by
  induction left generalizing index s with
  | zero => exact ⟨List.suffix_rfl, fun _ h ↦ absurd rfl h⟩
  | succ left ih =>
      rw [readGroups]
      split
      · rename_i octets t hread
        split at hread
        · exact ⟨(shortens_readOctets 0 4).readSeparator _ _ _ hread,
            fun hindex _ ↦ mem_of_readSeparator hindex hread⟩
        · cases hread
      · split
        · rename_i group t hread
          have hnumber : Shortens (readNumber 16 4 65536 true) := shortens_readNumber _ _ _ _
          exact ⟨((ih (index + 1) t).1).trans (hnumber.readSeparator _ _ _ hread),
            fun hindex _ ↦ mem_of_readSeparator hindex hread⟩
        · exact ⟨List.suffix_rfl, fun _ h ↦ absurd rfl h⟩

theorem length_readOctets {index left : Nat} {s t : List UInt8} {octets : List Nat}
    (h : readOctets index left s = some (octets, t)) : octets.length = left := by
  induction left generalizing index s octets t with
  | zero =>
      cases h
      rfl
  | succ left ih =>
      obtain ⟨octet, u, -, h⟩ := Reader.bind_eq_some.1 h
      obtain ⟨octets, v, hread, h⟩ := Reader.bind_eq_some.1 h
      cases h
      rw [List.length_cons, ih hread]

/-- An IPv4 address is two groups. -/
theorem length_groupsOf {octets : List Nat} (h : octets.length = 4) :
    (groupsOf octets).length = 2 := by
  match octets, h with
  | [a, b, c, d], _ => rfl

/-- More than two groups have a colon between them. -/
theorem colon_mem_of_readGroups {left : Nat} {s : List UInt8}
    (h : 2 < (readGroups 0 left s).1.1.length) : colon ∈ s := by
  cases left with
  | zero => exact absurd h (Nat.not_lt_zero _)
  | succ left =>
      rw [readGroups] at h
      split at h
      · rename_i octets t hread
        split at hread
        · have hoctets : octets.length = 4 := length_readOctets hread
          rw [length_groupsOf hoctets] at h
          exact absurd h (Nat.lt_irrefl _)
        · cases hread
      · split at h
        · rename_i group t hread
          have hne : (readGroups 1 left t).1.1 ≠ [] := by
            intro hnil
            rw [List.length_cons, hnil] at h
            exact absurd h (by decide)
          have hnumber : Shortens (readNumber 16 4 65536 true) := shortens_readNumber _ _ _ _
          have hmem : colon ∈ t := (readGroups_apply 1 left t).2 (by decide) hne
          exact (hnumber.readSeparator _ _ _ hread).mem hmem
        · exact absurd h (Nat.not_lt_zero _)

/-- What is read as an IPv6 address has a colon. -/
theorem colon_mem_of_readIpv6Addr {s t : List UInt8} {groups : List Nat}
    (h : readIpv6Addr s = some (groups, t)) : colon ∈ s := by
  rw [readIpv6Addr] at h
  dsimp only at h
  split at h
  · rename_i hlength
    exact colon_mem_of_readGroups (by rw [hlength]; decide)
  · split at h
    · cases h
    · obtain ⟨⟨⟩, u, hcolons, -⟩ := Reader.bind_eq_some.1 h
      obtain ⟨⟨⟩, v, hcolon, -⟩ := Reader.bind_eq_some.1 hcolons
      have hmem : colon ∈ (readGroups 0 8 s).2 := by
        rw [readGivenChar_eq_some.1 hcolon]
        exact List.mem_cons_self
      exact (readGroups_apply 0 8 s).1.mem hmem

/-- A text that is an IPv6 address has a colon. -/
theorem colon_mem_of_v6 {text : List UInt8} {groups : List Nat}
    (h : parse text = some (.v6 groups)) : colon ∈ text := by
  rw [parse] at h
  split at h
  · rename_i ip hread
    cases h
    rw [readIpAddr] at hread
    split at hread
    · cases hread
    · rw [Option.map_eq_some_iff] at hread
      obtain ⟨⟨groups', s⟩, hx, hgroups⟩ := hread
      cases hgroups
      exact colon_mem_of_readIpv6Addr hx
  · cases h

/-- `"10.0.0.1"`, `"::1"` and `"::ffff:10.0.0.1"`, and what only looks like an address:
`"10.0.0.01"` and `"1:2"`. -/
example : parse [49, 48, 46, 48, 46, 48, 46, 49] = some (.v4 [10, 0, 0, 1]) ∧
    parse [58, 58, 49] = some (.v6 [0, 0, 0, 0, 0, 0, 0, 1]) ∧
    parse [58, 58, 102, 102, 102, 102, 58, 49, 48, 46, 48, 46, 48, 46, 49] =
      some (.v6 [0, 0, 0, 0, 0, 0xffff, 0x0a00, 1]) ∧
    parse [49, 48, 46, 48, 46, 48, 46, 48, 49] = none ∧ parse [49, 58, 50] = none := by
  decide

end IpText
