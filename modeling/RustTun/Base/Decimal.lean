import Mathlib.Tactic.TypeStar

/-!
# Decimal numerals

The decimal numeral of a number, as ASCII bytes, and the value of a string of digits.
Different strings may have the same value, since nothing in `valueFrom` minds leading
zeros; the `Canonical` ones are those without, and they are exactly the numerals.
-/

namespace Decimal

/-- The character of a digit. -/
def digit (d : Nat) : UInt8 := UInt8.ofNat (48 + d)

/-- The characters of the ten digits. -/
def IsDigit (c : UInt8) : Prop := 48 ≤ c ∧ c ≤ 57

instance (c : UInt8) : Decidable (IsDigit c) := inferInstanceAs (Decidable (_ ∧ _))

/-- The value of a digit. -/
def digitVal (c : UInt8) : Nat := c.toNat - 48

/-- The numeral of a number. -/
def numeral (n : Nat) : List UInt8 := (Nat.toDigits 10 n).map fun c ↦ UInt8.ofNat c.toNat

/-- The value of some digits that are read after others of the value `v`. -/
def valueFrom (v : Nat) (cs : List UInt8) : Nat := cs.foldl (fun v c ↦ 10 * v + digitVal c) v

/-- Some digits, of which the first is a zero only if it is the only one. -/
structure Canonical (cs : List UInt8) : Prop where
  ne_nil : cs ≠ []
  isDigit : ∀ c ∈ cs, IsDigit c
  leading : cs.head? = some 48 → cs = [48]

/-! ## Digits -/

theorem isDigit_iff {c : UInt8} : IsDigit c ↔ 48 ≤ c.toNat ∧ c.toNat ≤ 57 := Iff.rfl

theorem toNat_digit {d : Nat} (h : d < 10) : (digit d).toNat = 48 + d := by
  rw [digit, UInt8.toNat_ofNat']
  omega

theorem isDigit_digit {d : Nat} (h : d < 10) : IsDigit (digit d) := by
  rw [isDigit_iff, toNat_digit h]
  omega

@[simp] theorem digitVal_digit {d : Nat} (h : d < 10) : digitVal (digit d) = d := by
  rw [digitVal, toNat_digit h, Nat.add_sub_cancel_left]

theorem digitVal_lt {c : UInt8} (h : IsDigit c) : digitVal c < 10 := by
  rw [isDigit_iff] at h
  rw [digitVal]
  omega

/-- A digit is the character of its value. -/
theorem digit_digitVal {c : UInt8} (h : IsDigit c) : digit (digitVal c) = c := by
  apply UInt8.toNat.inj
  rw [toNat_digit (digitVal_lt h), digitVal]
  rw [isDigit_iff] at h
  omega

theorem digit_eq_zero_iff {d : Nat} (h : d < 10) : digit d = 48 ↔ d = 0 := by
  rw [← UInt8.toNat_inj, toNat_digit h]
  constructor
  · intro hd
    exact Nat.add_left_cancel hd
  · rintro rfl
    rfl

/-! ## Numerals -/

theorem numeral_of_lt {d : Nat} (h : d < 10) : numeral d = [digit d] := by
  have hchar : ∀ d : Fin 10, UInt8.ofNat (Nat.digitChar d).toNat = digit d := by decide
  rw [numeral, Nat.toDigits_of_lt_base h, List.map_singleton, hchar ⟨d, h⟩]

/-- One more digit. -/
theorem numeral_mul_add {n d : Nat} (hn : 0 < n) (hd : d < 10) :
    numeral (10 * n + d) = numeral n ++ [digit d] := by
  rw [← numeral_of_lt hd, numeral, ← Nat.toDigits_append_toDigits (by decide) hn hd,
    List.map_append]
  rfl

/-- Numbers from the front: every number is a digit or one digit longer than another. -/
theorem numeral_induction {P : Nat → Prop} (digit : ∀ d < 10, P d)
    (snoc : ∀ n d, 0 < n → d < 10 → P n → P (10 * n + d)) (n : Nat) : P n := by
  induction n using Nat.strongRecOn with
  | ind n ih =>
      by_cases hn : n < 10
      · exact digit n hn
      · rw [← Nat.div_add_mod n 10]
        exact snoc (n / 10) (n % 10) (by omega) (Nat.mod_lt n (by decide))
          (ih (n / 10) (by omega))

/-- Only the numeral of zero begins with a zero. -/
theorem head?_numeral_ne {n : Nat} (h : 0 < n) : (numeral n).head? ≠ some 48 := by
  induction n using numeral_induction with
  | digit d hd =>
      rw [numeral_of_lt hd, List.head?_cons, ne_eq, Option.some.injEq, digit_eq_zero_iff hd]
      omega
  | snoc n d hn hd ih =>
      rw [numeral_mul_add hn hd, List.head?_append]
      cases hhead : (numeral n).head? with
      | none =>
          rw [List.head?_eq_none_iff] at hhead
          exact absurd (List.map_eq_nil_iff.1 hhead) Nat.toDigits_ne_nil
      | some c =>
          intro hc
          exact ih hn (hhead.trans hc)

/-- A numeral consists of digits. -/
theorem isDigit_of_mem_numeral {n : Nat} {c : UInt8} (h : c ∈ numeral n) : IsDigit c := by
  induction n using numeral_induction with
  | digit d hd =>
      rw [numeral_of_lt hd, List.mem_singleton] at h
      rw [h]
      exact isDigit_digit hd
  | snoc n d hn hd ih =>
      rw [numeral_mul_add hn hd, List.mem_append, List.mem_singleton] at h
      rcases h with h | rfl
      · exact ih h
      · exact isDigit_digit hd

/-- A numeral is canonical. -/
theorem canonical_numeral (n : Nat) : Canonical (numeral n) where
  ne_nil h := absurd (List.map_eq_nil_iff.1 h) Nat.toDigits_ne_nil
  isDigit _ h := isDigit_of_mem_numeral h
  leading h := by
    rcases Nat.eq_zero_or_pos n with rfl | hn
    · rfl
    · exact absurd h (head?_numeral_ne hn)

/-! ## Values -/

theorem valueFrom_nil (v : Nat) : valueFrom v [] = v := rfl

theorem valueFrom_cons (v : Nat) (c : UInt8) (cs : List UInt8) :
    valueFrom v (c :: cs) = valueFrom (10 * v + digitVal c) cs := by
  rw [valueFrom, List.foldl_cons, valueFrom]

theorem valueFrom_append_singleton (v : Nat) (cs : List UInt8) (c : UInt8) :
    valueFrom v (cs ++ [c]) = 10 * valueFrom v cs + digitVal c := by
  rw [valueFrom, List.foldl_append]
  rfl

/-- Reading more digits makes a value no smaller. -/
theorem le_valueFrom (v : Nat) (cs : List UInt8) : v ≤ valueFrom v cs := by
  induction cs generalizing v with
  | nil => exact Nat.le_refl v
  | cons c cs ih =>
      have := ih (10 * v + digitVal c)
      rw [valueFrom_cons]
      omega

/-- The value of a numeral is its number. -/
theorem valueFrom_numeral (n : Nat) : valueFrom 0 (numeral n) = n := by
  induction n using numeral_induction with
  | digit d hd =>
      rw [numeral_of_lt hd, valueFrom_cons, valueFrom_nil, digitVal_digit hd, Nat.mul_zero,
        Nat.zero_add]
  | snoc n d hn hd ih =>
      rw [numeral_mul_add hn hd, valueFrom_append_singleton, ih, digitVal_digit hd]

/-- Digits that follow a numeral make it the numeral of a larger number. -/
theorem numeral_append {v : Nat} {cs : List UInt8} (hv : 0 < v) (h : ∀ c ∈ cs, IsDigit c) :
    numeral v ++ cs = numeral (valueFrom v cs) := by
  induction cs generalizing v with
  | nil => rw [List.append_nil, valueFrom_nil]
  | cons c cs ih =>
      rw [List.forall_mem_cons] at h
      have hstep := numeral_mul_add hv (digitVal_lt h.1)
      rw [digit_digitVal h.1] at hstep
      rw [valueFrom_cons, ← ih (by omega) h.2, hstep, List.append_assoc, List.singleton_append]

/-- **A canonical string of digits is the numeral of its value.** -/
theorem Canonical.numeral_valueFrom {cs : List UInt8} (h : Canonical cs) :
    numeral (valueFrom 0 cs) = cs := by
  cases cs with
  | nil => exact absurd rfl h.ne_nil
  | cons c cs =>
      obtain ⟨hc, hcs⟩ := List.forall_mem_cons.1 h.isDigit
      have hnumeral : numeral (digitVal c) = [c] := by
        rw [numeral_of_lt (digitVal_lt hc), digit_digitVal hc]
      rw [valueFrom_cons, Nat.mul_zero, Nat.zero_add]
      by_cases hzero : c = 48
      · have htail : cs = [] := List.tail_eq_of_cons_eq (h.leading (congrArg some hzero))
        rw [htail, valueFrom_nil, hnumeral]
      · have hpos : 0 < digitVal c := by
          rw [isDigit_iff] at hc
          rw [← UInt8.toNat_inj] at hzero
          rw [digitVal]
          have h48 : (48 : UInt8).toNat = 48 := rfl
          omega
        rw [← numeral_append hpos hcs, hnumeral, List.singleton_append]

end Decimal
