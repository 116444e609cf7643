import Mathlib.Algebra.Group.Nat.Defs
import RustTun.Base.Decimal
import RustTun.Base.IpText

/-!
# Dotted notation

An IPv4 address is printed as the decimal numerals of its octets with dots between them.  The
parser reads nothing else as an IPv4 address: it wants four numbers of at most three digits, below
256 and without leading zeros, and these are the numerals of the octets (`parse_eq_v4_iff`).
-/

namespace IpText

open Decimal

/-! ## Digits -/

/-- A decimal digit has the value of the digit. -/
theorem toDigit_of_isDigit {c : UInt8} (h : IsDigit c) : toDigit 10 c = some (digitVal c) := by
  have hlt : digitVal c < 10 := digitVal_lt h
  have hdigit : 48 ≤ c ∧ c ≤ 57 := h
  rw [toDigit, if_pos hdigit]
  exact if_pos hlt

/-- Letters are no decimal digits. -/
theorem toDigit_of_not_isDigit {c : UInt8} (h : ¬ IsDigit c) : toDigit 10 c = none := by
  have hdigit : ¬ (48 ≤ c ∧ c ≤ 57) := h
  rw [toDigit, if_neg hdigit]
  refine if_neg ?_
  split
  · rename_i hletter
    have hle : 97 ≤ c.toNat := hletter.1
    omega
  · split
    · rename_i hletter
      have hle : 65 ≤ c.toNat := hletter.1
      omega
    · omega

/-- The text does not begin with a digit. -/
def NoDigit (s : List UInt8) : Prop := ∀ c ∈ s.head?, ¬ IsDigit c

theorem noDigit_nil : NoDigit [] := fun _ hc ↦ nomatch hc

theorem noDigit_cons {c : UInt8} {s : List UInt8} (h : ¬ IsDigit c) : NoDigit (c :: s) := by
  intro d hd
  cases hd
  exact h

/-- **The digits in front of a text**, if there are not too many. -/
theorem readDigits_iff {maxDigits result count : Nat} {s t : List UInt8} {r n : Nat} :
    readDigits 10 maxDigits result count s = some ((r, n), t) ↔
      ∃ cs, s = cs ++ t ∧ (∀ c ∈ cs, IsDigit c) ∧ NoDigit t ∧ r = valueFrom result cs ∧
        n = count + cs.length ∧ (cs ≠ [] → n ≤ maxDigits) := by
  induction s generalizing result count with
  | nil =>
      rw [readDigits]
      constructor
      · intro h
        cases h
        exact ⟨[], rfl, List.forall_mem_nil _, noDigit_nil, rfl, rfl, fun h ↦ absurd rfl h⟩
      · rintro ⟨cs, hs, -, -, rfl, rfl, -⟩
        obtain ⟨rfl, rfl⟩ := List.append_eq_nil_iff.1 hs.symm
        rfl
  | cons c s ih =>
      rw [readDigits]
      by_cases hc : IsDigit c
      · rw [toDigit_of_isDigit hc]
        have hstep (cs : List UInt8) :
            valueFrom result (c :: cs) = valueFrom (result * 10 + digitVal c) cs := by
          rw [valueFrom_cons, Nat.mul_comm]
        dsimp only
        constructor
        · intro h
          split at h
          · cases h
          · rename_i hfew
            obtain ⟨cs, rfl, hdigits, hrest, rfl, rfl, hmax⟩ := ih.1 h
            refine ⟨c :: cs, rfl, List.forall_mem_cons.2 ⟨hc, hdigits⟩, hrest, (hstep cs).symm, ?_,
              fun _ ↦ ?_⟩
            · rw [List.length_cons]
              omega
            · cases cs with
              | nil => exact Nat.le_of_not_lt hfew
              | cons d cs => exact hmax (List.cons_ne_nil _ _)
        · rintro ⟨cs, hs, hdigits, hrest, rfl, rfl, hmax⟩
          cases cs with
          | nil =>
              rw [List.nil_append] at hs
              exact absurd hc (hrest c (hs ▸ rfl))
          | cons d cs =>
              cases hs
              obtain ⟨-, hdigits⟩ := List.forall_mem_cons.1 hdigits
              have hle := hmax (List.cons_ne_nil _ _)
              rw [List.length_cons] at hle
              rw [if_neg (by omega)]
              refine ih.2 ⟨cs, rfl, hdigits, hrest, hstep cs, ?_, fun _ ↦ ?_⟩
              · rw [List.length_cons]
                omega
              · omega
      · rw [toDigit_of_not_isDigit hc]
        constructor
        · intro h
          cases h
          exact ⟨[], rfl, List.forall_mem_nil _, noDigit_cons hc, rfl, rfl, fun h ↦ absurd rfl h⟩
        · rintro ⟨cs, hs, hdigits, -, rfl, rfl, -⟩
          cases cs with
          | nil =>
              cases hs
              rfl
          | cons d cs =>
              cases hs
              exact absurd (hdigits c List.mem_cons_self) hc

/-! ## Numbers -/

/-- A number of so many digits has no more. -/
theorem length_numeral_le {n k : Nat} (h : n < 10 ^ (k + 1)) : (numeral n).length ≤ k + 1 := by
  induction k generalizing n with
  | zero =>
      rw [numeral_of_lt h]
      exact Nat.le_refl 1
  | succ k ih =>
      by_cases hn : n < 10
      · rw [numeral_of_lt hn, List.length_singleton]
        omega
      · have hdiv : n / 10 < 10 ^ (k + 1) := by
          rw [Nat.pow_succ] at h
          exact Nat.div_lt_of_lt_mul (by omega)
        have hnumeral := numeral_mul_add (n := n / 10) (d := n % 10) (by omega)
          (Nat.mod_lt n (by decide))
        rw [Nat.div_add_mod] at hnumeral
        rw [hnumeral, List.length_append, List.length_singleton]
        have hle := ih hdiv
        omega

/-- **An octet is read off exactly if its numeral is in front**, and no more digits. -/
theorem readOctet_iff {s t : List UInt8} {n : Nat} :
    readNumber 10 3 256 false s = some (n, t) ↔ n < 256 ∧ s = numeral n ++ t ∧ NoDigit t := by
  rw [readNumber]
  constructor
  · intro h
    cases hdigits : readDigits 10 3 0 0 s with
    | none =>
        rw [hdigits] at h
        cases h
    | some x =>
        obtain ⟨⟨r, count⟩, rest⟩ := x
        rw [hdigits] at h
        dsimp only at h
        split_ifs at h with hcount hzero hlt
        cases h
        obtain ⟨cs, rfl, hall, hrest, rfl, rfl, -⟩ := readDigits_iff.1 hdigits
        rw [Nat.zero_add] at hcount hzero
        have hcanonical : Canonical cs := by
          refine ⟨fun hnil ↦ hcount (List.length_eq_zero_iff.2 hnil), hall, fun hhead ↦ ?_⟩
          cases cs with
          | nil => cases hhead
          | cons c cs =>
              cases hhead
              have hone : ¬ 1 < (48 :: cs).length := fun hone ↦ hzero ⟨id, rfl, hone⟩
              rw [List.length_cons] at hone
              rw [List.length_eq_zero_iff.1 (by omega : cs.length = 0)]
        rw [hcanonical.numeral_valueFrom]
        exact ⟨hlt, rfl, hrest⟩
  · rintro ⟨hlt, rfl, hrest⟩
    have hcanonical := canonical_numeral n
    have hlength : (numeral n).length ≤ 3 := length_numeral_le (k := 2) (by omega)
    have hdigits : readDigits 10 3 0 0 (numeral n ++ t) = some ((n, (numeral n).length), t) :=
      readDigits_iff.2 ⟨numeral n, rfl, hcanonical.isDigit, hrest, (valueFrom_numeral n).symm,
        (Nat.zero_add _).symm, fun _ ↦ hlength⟩
    rw [hdigits]
    dsimp only
    have hcount : (numeral n).length ≠ 0 := fun h ↦ hcanonical.ne_nil (List.length_eq_zero_iff.1 h)
    rw [if_neg hcount, if_neg ?_, if_pos hlt]
    rintro ⟨-, hhead, hone⟩
    have hnumeral : numeral n = [48] := by
      refine hcanonical.leading ?_
      rwa [List.head?_append_of_ne_nil _ hcanonical.ne_nil] at hhead
    rw [hnumeral] at hone
    exact absurd hone (by decide)

/-! ## Addresses -/

/-- Octets behind others: each with a dot in front. -/
def dottedTail (octets : List Nat) : List UInt8 := octets.flatMap fun octet ↦ dot :: numeral octet

/-- Octets in dotted notation. -/
def dotted : List Nat → List UInt8
  | [] => []
  | octet :: octets => numeral octet ++ dottedTail octets

theorem dottedTail_cons_append (octet : Nat) (octets : List Nat) (t : List UInt8) :
    dottedTail (octet :: octets) ++ t = dot :: (numeral octet ++ (dottedTail octets ++ t)) := by
  rw [dottedTail, List.flatMap_cons, List.cons_append, List.cons_append, List.append_assoc,
    dottedTail]

/-- What is printed behind an octet does not begin with a digit, and neither does what is behind
that. -/
theorem noDigit_dottedTail {octets : List Nat} {t : List UInt8} (h : NoDigit t) :
    NoDigit (dottedTail octets ++ t) := by
  cases octets with
  | nil => exact h
  | cons octet octets => exact noDigit_cons (by decide)

/-- **Octets behind others** are read off exactly if they are in front in dotted notation. -/
theorem readOctets_iff {index left : Nat} {s t : List UInt8} {octets : List Nat}
    (hindex : 0 < index) (ht : NoDigit t) :
    readOctets index left s = some (octets, t) ↔
      octets.length = left ∧ (∀ n ∈ octets, n < 256) ∧ s = dottedTail octets ++ t := by
  induction left generalizing index s octets with
  | zero =>
      constructor
      · intro h
        cases h
        exact ⟨rfl, List.forall_mem_nil _, rfl⟩
      · rintro ⟨hlength, -, rfl⟩
        obtain rfl := List.length_eq_zero_iff.1 hlength
        rfl
  | succ left ih =>
      rw [readOctets, Reader.bind_eq_some, readSeparator, if_pos hindex]
      constructor
      · rintro ⟨octet, u, hoctet, hrest⟩
        obtain ⟨⟨⟩, v, hdot, hnumber⟩ := Reader.bind_eq_some.1 hoctet
        obtain ⟨rest, t', hrest, hpure⟩ := Reader.bind_eq_some.1 hrest
        cases hpure
        obtain ⟨hlt, rfl, -⟩ := readOctet_iff.1 hnumber
        obtain ⟨rfl, hall, rfl⟩ := (ih (Nat.succ_pos index)).1 hrest
        refine ⟨rfl, List.forall_mem_cons.2 ⟨hlt, hall⟩, ?_⟩
        rw [readGivenChar_eq_some.1 hdot, dottedTail_cons_append]
      · rintro ⟨hlength, hall, rfl⟩
        cases octets with
        | nil => cases hlength
        | cons octet rest =>
            obtain ⟨hlt, hall⟩ := List.forall_mem_cons.1 hall
            have htail : readOctets (index + 1) left (dottedTail rest ++ t) = some (rest, t) :=
              (ih (Nat.succ_pos index)).2 ⟨Nat.succ.inj hlength, hall, rfl⟩
            have hnumber : readNumber 10 3 256 false (numeral octet ++ (dottedTail rest ++ t)) =
                some (octet, dottedTail rest ++ t) :=
              readOctet_iff.2 ⟨hlt, rfl, noDigit_dottedTail ht⟩
            refine ⟨octet, dottedTail rest ++ t, Reader.bind_eq_some.2 ⟨(), _, ?_, hnumber⟩,
              Reader.bind_eq_some.2 ⟨rest, t, htail, rfl⟩⟩
            rw [readGivenChar_eq_some, dottedTail_cons_append]

/-- An IPv4 address is tried first. -/
theorem parse_eq_v4 {text : List UInt8} {octets : List Nat} :
    parse text = some (.v4 octets) ↔ readIpv4Addr text = some (octets, []) := by
  rw [parse, readIpAddr]
  cases hread : readIpv4Addr text with
  | none =>
      constructor
      · intro h
        dsimp only at h
        cases hread6 : readIpv6Addr text with
        | none =>
            rw [hread6] at h
            cases h
        | some x =>
            obtain ⟨groups, u⟩ := x
            rw [hread6] at h
            cases u with
            | nil => cases h
            | cons c u => cases h
      · intro h
        cases h
  | some x =>
      obtain ⟨octets', u⟩ := x
      cases u with
      | nil =>
          constructor
          · intro h
            cases h
            rfl
          · intro h
            cases h
            rfl
      | cons c u =>
          constructor
          · intro h
            cases h
          · intro h
            cases h

/-- **A text is an IPv4 address exactly if it is four octets in dotted notation.** -/
theorem parse_eq_v4_iff {text : List UInt8} {octets : List Nat} :
    parse text = some (.v4 octets) ↔
      octets.length = 4 ∧ (∀ n ∈ octets, n < 256) ∧ text = dotted octets := by
  rw [parse_eq_v4, readIpv4Addr, readOctets, Reader.bind_eq_some, readSeparator,
    if_neg (Nat.lt_irrefl 0)]
  constructor
  · rintro ⟨octet, u, hnumber, hrest⟩
    obtain ⟨rest, t, hrest, hpure⟩ := Reader.bind_eq_some.1 hrest
    cases hpure
    obtain ⟨hlt, rfl, -⟩ := readOctet_iff.1 hnumber
    obtain ⟨hlength, hall, rfl⟩ := (readOctets_iff Nat.one_pos noDigit_nil).1 hrest
    exact ⟨congrArg Nat.succ hlength, List.forall_mem_cons.2 ⟨hlt, hall⟩,
      by rw [dotted, List.append_nil]⟩
  · rintro ⟨hlength, hall, rfl⟩
    cases octets with
    | nil => cases hlength
    | cons octet rest =>
        obtain ⟨hlt, hall⟩ := List.forall_mem_cons.1 hall
        have htail : readOctets 1 3 (dottedTail rest) = some (rest, []) :=
          (readOctets_iff Nat.one_pos noDigit_nil).2
            ⟨Nat.succ.inj hlength, hall, (List.append_nil _).symm⟩
        have hdigit : NoDigit (dottedTail rest) := by
          have h : NoDigit (dottedTail rest ++ []) := noDigit_dottedTail noDigit_nil
          rwa [List.append_nil] at h
        exact ⟨octet, dottedTail rest, readOctet_iff.2 ⟨hlt, rfl, hdigit⟩,
          Reader.bind_eq_some.2 ⟨rest, [], htail, rfl⟩⟩

end IpText
