import Mathlib.Data.List.TakeWhile
import RustTun.Posix.Process

/-!
# Names in requests

A request names its interface in an array of `IFNAMSIZ` bytes, and what the kernel reads
there is a C string: the bytes in front of the first NUL.  The library copies the name of
the device to the front of a zeroed array and checks nothing while it does so.  The array
stands for the name exactly if the name is shorter than the array and has no NUL in it
(`names_nameField_iff`).
-/

namespace RustTun

open Scatter

/-! ## C strings -/

/-- A C string has no NUL. -/
theorem zero_not_mem_cStr (bytes : List UInt8) : 0 ∉ cStr bytes := by
  intro h
  have := List.mem_takeWhile_imp h
  simp at this

/-- Without a NUL all of the bytes are in front of it. -/
theorem cStr_eq_self_iff {bytes : List UInt8} : cStr bytes = bytes ↔ 0 ∉ bytes := by
  constructor
  · intro h
    rw [← h]
    exact zero_not_mem_cStr bytes
  · intro h
    refine List.takeWhile_eq_self_iff.2 fun b hb ↦ ?_
    have hne : b ≠ 0 := fun h0 ↦ h (h0 ▸ hb)
    simpa using hne

theorem length_cStr_le (bytes : List UInt8) : (cStr bytes).length ≤ bytes.length :=
  (List.takeWhile_prefix _).length_le

/-- A C string ends at its NUL. -/
theorem cStr_append_zero (bytes rest : List UInt8) : cStr (bytes ++ 0 :: rest) = cStr bytes := by
  rw [cStr, List.takeWhile_append, cStr]
  split
  · rename_i h
    rw [(List.takeWhile_prefix _).eq_of_length h]
    simp
  · rfl

/-- Bytes without a NUL in front of others are all in the C string. -/
theorem cStr_append {bytes : List UInt8} (h : 0 ∉ bytes) (rest : List UInt8) :
    cStr (bytes ++ rest) = bytes ++ cStr rest := by
  refine List.takeWhile_append_of_pos fun b hb ↦ ?_
  have hne : b ≠ 0 := fun h0 ↦ h (h0 ▸ hb)
  simpa using hne

/-! ## Name fields -/

/-- A name that a request has room for. -/
structure FitsField (name : Name) : Prop where
  lt : name.length < IFNAMSIZ
  zero_not_mem : 0 ∉ name

instance (name : Name) : Decidable (FitsField name) :=
  decidable_of_iff (name.length < IFNAMSIZ ∧ 0 ∉ name)
    ⟨fun h ↦ ⟨h.1, h.2⟩, fun h ↦ ⟨h.lt, h.zero_not_mem⟩⟩

/-- The array is the name, to whoever reads it as a C string. -/
structure Names (field : List UInt8) (name : Name) : Prop where
  length_eq : field.length = IFNAMSIZ
  terminated : 0 ∈ field
  cStr_eq : cStr field = name

/-- An array that is a name, names one that fits. -/
theorem Names.fitsField {field : List UInt8} {name : Name} (h : Names field name) :
    FitsField name where
  lt := by
    have hle := length_cStr_le field
    have hne : (cStr field).length ≠ field.length := by
      intro heq
      have hself := (List.takeWhile_prefix _).eq_of_length heq
      exact cStr_eq_self_iff.1 hself h.terminated
    rw [h.cStr_eq, h.length_eq] at hle hne
    exact Nat.lt_of_le_of_ne hle hne
  zero_not_mem := by
    rw [← h.cStr_eq]
    exact zero_not_mem_cStr field

/-- A name that is not too long is copied, and what follows is NULs. -/
theorem nameField_eq {name : Name} (h : name.length ≤ IFNAMSIZ) :
    nameField name = name ++ List.replicate (IFNAMSIZ - name.length) 0 := by
  rw [nameField, overwrite, List.length_replicate, List.take_of_length_le h, List.drop_replicate]

/-- **The array a name is copied to is the name exactly if the name fits.** -/
theorem names_nameField_iff {name : Name} : Names (nameField name) name ↔ FitsField name := by
  refine ⟨Names.fitsField, fun h ↦ ?_⟩
  have hfield := nameField_eq h.lt.le
  have hpos : IFNAMSIZ - name.length = (IFNAMSIZ - name.length - 1) + 1 := by
    have := h.lt
    omega
  rw [hpos, List.replicate_succ] at hfield
  constructor
  · rw [nameField, length_overwrite, List.length_replicate]
  · rw [hfield]
    exact List.mem_append_right _ List.mem_cons_self
  · rw [hfield, cStr_append_zero, cStr_eq_self_iff]
    exact h.zero_not_mem

end RustTun
