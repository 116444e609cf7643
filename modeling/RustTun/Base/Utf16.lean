import Mathlib.Data.List.Basic

/-!
# UTF-16

A character below `U+10000` is one unit, and any other is a pair of surrogates, a high one and a
low one.  Surrogates stand for nothing by themselves: `decode` notes where one is without its
other half, `fromUtf16` fails then, and `lossy` replaces it.

What `fromUtf16` takes is exactly what `encode` makes (`fromUtf16_eq_some_iff`), so that a text can
be read and written again without a change.
-/

namespace Utf16

/-- The first half of a pair. -/
def IsHigh (u : UInt16) : Prop := 0xD800 ≤ u.toNat ∧ u.toNat < 0xDC00

/-- The second half of a pair. -/
def IsLow (u : UInt16) : Prop := 0xDC00 ≤ u.toNat ∧ u.toNat < 0xE000

instance (u : UInt16) : Decidable (IsHigh u) := inferInstanceAs (Decidable (_ ∧ _))

instance (u : UInt16) : Decidable (IsLow u) := inferInstanceAs (Decidable (_ ∧ _))

/-- What a unit stands for by itself. -/
def single (u : UInt16) : Option Char :=
  if IsHigh u ∨ IsLow u then none else some (Char.ofNat u.toNat)

/-- What a pair of surrogates stands for. -/
def pair (u v : UInt16) : Char :=
  Char.ofNat ((u.toNat - 0xD800) * 0x400 + (v.toNat - 0xDC00) + 0x10000)

/-- `char::decode_utf16`: the characters, and nothing where a surrogate is alone. -/
def decode : List UInt16 → List (Option Char)
  | [] => []
  | [u] => [single u]
  | u :: v :: us =>
    if IsHigh u ∧ IsLow v then some (pair u v) :: decode us else single u :: decode (v :: us)

/-- All characters, if there is nothing else. -/
def all : List (Option Char) → Option (List Char)
  | [] => some []
  | none :: _ => none
  | some c :: cs => (all cs).map (c :: ·)

/-- `String::from_utf16`. -/
def fromUtf16 (units : List UInt16) : Option (List Char) := all (decode units)

/-- `OsStr::to_string_lossy`: `U+FFFD` where a surrogate is alone. -/
def lossy (units : List UInt16) : List Char := (decode units).map (·.getD '\uFFFD')

/-- `char::encode_utf16`. -/
def encodeChar (c : Char) : List UInt16 :=
  if c.toNat < 0x10000 then [.ofNat c.toNat]
  else
    [.ofNat (0xD800 + (c.toNat - 0x10000) / 0x400), .ofNat (0xDC00 + (c.toNat - 0x10000) % 0x400)]

/-- `str::encode_utf16`. -/
def encode (text : List Char) : List UInt16 := text.flatMap encodeChar

/-! ## One character -/

theorem toNat_bounds (c : Char) : c.toNat < 0xD800 ∨ 0xDFFF < c.toNat ∧ c.toNat < 0x110000 :=
  c.valid

theorem toNat_ofNat {n : Nat} (h : n < 0xD800 ∨ 0xDFFF < n ∧ n < 0x110000) :
    (Char.ofNat n).toNat = n := by
  have hvalid : n.isValidChar := h
  rw [Char.ofNat, dif_pos hvalid]
  rfl

theorem eq_ofNat {c : Char} {n : Nat} (h : c.toNat = n) : c = Char.ofNat n := by
  rw [← h, Char.ofNat_toNat]

/-- A unit that is no surrogate is one character. -/
theorem single_eq_some_iff {u : UInt16} {c : Char} :
    single u = some c ↔ c.toNat < 0x10000 ∧ u = .ofNat c.toNat := by
  have hu : u.toNat < 0x10000 := u.toNat_lt
  have hc := toNat_bounds c
  rw [single]
  constructor
  · intro h
    split_ifs at h with hsurrogate
    obtain rfl : Char.ofNat u.toNat = c := Option.some.inj h
    have hvalid : u.toNat < 0xD800 ∨ 0xDFFF < u.toNat ∧ u.toNat < 0x110000 := by
      simp only [IsHigh, IsLow] at hsurrogate
      omega
    rw [toNat_ofNat hvalid]
    exact ⟨hu, (UInt16.ofNat_toNat).symm⟩
  · rintro ⟨hlt, rfl⟩
    have hnat : (UInt16.ofNat c.toNat).toNat = c.toNat := UInt16.toNat_ofNat_of_lt' hlt
    rw [if_neg, hnat, Char.ofNat_toNat]
    simp only [IsHigh, IsLow, hnat]
    omega

/-- A pair of surrogates is one character. -/
theorem encodeChar_pair {u v : UInt16} (hu : IsHigh u) (hv : IsLow v) :
    encodeChar (pair u v) = [u, v] := by
  obtain ⟨hu₁, hu₂⟩ := hu
  obtain ⟨hv₁, hv₂⟩ := hv
  have hnat : (pair u v).toNat =
      (u.toNat - 0xD800) * 0x400 + (v.toNat - 0xDC00) + 0x10000 := toNat_ofNat (by omega)
  have hhigh : 0xD800 + ((pair u v).toNat - 0x10000) / 0x400 = u.toNat := by omega
  have hlow : 0xDC00 + ((pair u v).toNat - 0x10000) % 0x400 = v.toNat := by omega
  rw [encodeChar, if_neg (by omega), hhigh, hlow, UInt16.ofNat_toNat, UInt16.ofNat_toNat]

/-- A character that is no single unit is a pair of surrogates. -/
theorem exists_pair {c : Char} (h : ¬ c.toNat < 0x10000) :
    ∃ u v, IsHigh u ∧ IsLow v ∧ pair u v = c ∧ encodeChar c = [u, v] := by
  have hc := toNat_bounds c
  have hhigh : (UInt16.ofNat (0xD800 + (c.toNat - 0x10000) / 0x400)).toNat =
      0xD800 + (c.toNat - 0x10000) / 0x400 := UInt16.toNat_ofNat_of_lt' (by
    show _ < 65536
    omega)
  have hlow : (UInt16.ofNat (0xDC00 + (c.toNat - 0x10000) % 0x400)).toNat =
      0xDC00 + (c.toNat - 0x10000) % 0x400 := UInt16.toNat_ofNat_of_lt' (by
    show _ < 65536
    omega)
  refine ⟨_, _, ?_, ?_, ?_, by rw [encodeChar, if_neg h]⟩
  · rw [IsHigh, hhigh]
    omega
  · rw [IsLow, hlow]
    omega
  · rw [pair, hhigh, hlow]
    refine (eq_ofNat ?_).symm
    omega

/-! ## Texts -/

/-- A pair in front is read first. -/
theorem decode_pair {u v : UInt16} (hu : IsHigh u) (hv : IsLow v) (us : List UInt16) :
    decode (u :: v :: us) = some (pair u v) :: decode us := by
  rw [decode, if_pos ⟨hu, hv⟩]

/-- Anything else is read by itself. -/
theorem decode_cons {u : UInt16} {us : List UInt16}
    (h : ¬ ∃ v vs, us = v :: vs ∧ IsHigh u ∧ IsLow v) :
    decode (u :: us) = single u :: decode us := by
  cases us with
  | nil => rfl
  | cons v vs =>
      rw [decode, if_neg]
      rintro ⟨hu, hv⟩
      exact h ⟨v, vs, rfl, hu, hv⟩

/-- What a character is encoded as is read as that character. -/
theorem decode_encodeChar_append (c : Char) (us : List UInt16) :
    decode (encodeChar c ++ us) = some c :: decode us := by
  by_cases h : c.toNat < 0x10000
  · have hsingle : single (.ofNat c.toNat) = some c := single_eq_some_iff.2 ⟨h, rfl⟩
    rw [encodeChar, if_pos h, List.singleton_append, decode_cons, hsingle]
    rintro ⟨v, vs, -, hhigh, -⟩
    rw [single, if_pos (.inl hhigh)] at hsingle
    cases hsingle
  · obtain ⟨u, v, hu, hv, rfl, hencode⟩ := exists_pair h
    rw [hencode]
    exact decode_pair hu hv us

theorem decode_encode (text : List Char) : decode (encode text) = text.map some := by
  induction text with
  | nil => rfl
  | cons c text ih =>
      show decode (encodeChar c ++ encode text) = _
      rw [decode_encodeChar_append, ih, List.map_cons]

theorem all_map_some (text : List Char) : all (text.map some) = some text := by
  induction text with
  | nil => rfl
  | cons c text ih =>
      show (all (text.map some)).map (c :: ·) = _
      rw [ih]
      rfl

theorem eq_map_some_of_all {cs : List (Option Char)} {text : List Char}
    (h : all cs = some text) : cs = text.map some := by
  induction cs generalizing text with
  | nil =>
      cases h
      rfl
  | cons c cs ih =>
      cases c with
      | none => cases h
      | some c =>
          obtain ⟨rest, hrest, rfl⟩ := Option.map_eq_some_iff.1 h
          rw [ih hrest, List.map_cons]

/-- What a single unit stands for is encoded as that unit. -/
theorem encodeChar_of_single {u : UInt16} {c : Char} (h : single u = some c) :
    encodeChar c = [u] := by
  obtain ⟨hlt, rfl⟩ := single_eq_some_iff.1 h
  rw [encodeChar, if_pos hlt]

/-- Units in which no surrogate is alone are what the characters are encoded as. -/
theorem encode_of_decode {units : List UInt16} {text : List Char}
    (h : decode units = text.map some) : encode text = units := by
  induction units using decode.induct generalizing text with
  | case1 =>
      cases text with
      | nil => rfl
      | cons c text => cases h
  | case2 u =>
      cases text with
      | nil => cases h
      | cons c text =>
          obtain ⟨hsingle, hnil⟩ := List.cons.inj h
          obtain rfl := List.map_eq_nil_iff.1 hnil.symm
          show encodeChar c ++ [] = _
          rw [List.append_nil, encodeChar_of_single hsingle]
  | case3 u v us hpair ih =>
      rw [decode_pair hpair.1 hpair.2] at h
      cases text with
      | nil => cases h
      | cons c text =>
          obtain ⟨hc, hrest⟩ := List.cons.inj h
          obtain rfl := Option.some.inj hc
          show encodeChar (pair u v) ++ encode text = _
          rw [encodeChar_pair hpair.1 hpair.2, ih hrest]
          rfl
  | case4 u v us hpair ih =>
      rw [decode, if_neg hpair] at h
      cases text with
      | nil => cases h
      | cons c text =>
          obtain ⟨hsingle, hrest⟩ := List.cons.inj h
          show encodeChar c ++ encode text = _
          rw [encodeChar_of_single hsingle, ih hrest]
          rfl

/-- **A text is read from what it is written as**, and from nothing else. -/
theorem fromUtf16_eq_some_iff {units : List UInt16} {text : List Char} :
    fromUtf16 units = some text ↔ units = encode text := by
  rw [fromUtf16]
  constructor
  · intro h
    exact (encode_of_decode (eq_map_some_of_all h)).symm
  · rintro rfl
    rw [decode_encode, all_map_some]

example : fromUtf16 [0x20AC, 0xD83D, 0xDE00] = some [.ofNat 0x20AC, .ofNat 0x1F600] := by decide

/-- Different texts are written differently. -/
theorem encode_injective : Function.Injective encode := by
  intro a b h
  have ha : fromUtf16 (encode b) = some a := fromUtf16_eq_some_iff.2 h.symm
  have hb : fromUtf16 (encode b) = some b := fromUtf16_eq_some_iff.2 rfl
  exact Option.some.inj (ha.symm.trans hb)

end Utf16
