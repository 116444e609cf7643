import Mathlib.Data.List.Basic

/-!
# Bounds-checked slices

`slice xs a b` is the slice `xs[a..b]` of a language that checks bounds, and
`copyFrom dst a b src` is `dst[a..b].copy_from_slice(src)`, which checks on top of that
that the two slices have the same length.  A check that fails gives `none`, the model of
a panic; `slice_of_le` and `copyFrom_of_le` say what the operations do when none does,
and `copyFrom_eq_none` is the panic of a source that does not fit.
-/

namespace Slice

universe u

variable {α : Type u} {xs dst src : List α} {a b : Nat}

/-- `xs[a..b]`. -/
def slice (xs : List α) (a b : Nat) : Option (List α) :=
  if a ≤ b ∧ b ≤ xs.length then some ((xs.drop a).take (b - a)) else none

/-- `dst[a..b].copy_from_slice(src)`. -/
def copyFrom (dst : List α) (a b : Nat) (src : List α) : Option (List α) :=
  if a ≤ b ∧ b ≤ dst.length ∧ src.length = b - a then some (dst.take a ++ src ++ dst.drop b)
  else none

theorem slice_of_le (hab : a ≤ b) (hb : b ≤ xs.length) :
    slice xs a b = some ((xs.drop a).take (b - a)) := if_pos ⟨hab, hb⟩

/-- Copying a source over a range of its length. -/
theorem copyFrom_of_le (hb : a + src.length ≤ dst.length) :
    copyFrom dst a (a + src.length) src =
      some (dst.take a ++ src ++ dst.drop (a + src.length)) :=
  if_pos ⟨Nat.le_add_right .., hb, by omega⟩

/-- A source that reaches past the end. -/
theorem copyFrom_eq_none (hb : dst.length < a + src.length) :
    copyFrom dst a (a + src.length) src = none :=
  if_neg fun h ↦ absurd h.2.1 (Nat.not_le.2 hb)

/-- Copying keeps the length. -/
theorem length_copyFrom {dst' : List α} (h : copyFrom dst a b src = some dst') :
    dst'.length = dst.length := by
  unfold copyFrom at h
  split at h
  · rename_i hc
    cases h
    simp only [List.length_append, List.length_take, List.length_drop]
    omega
  · cases h

end Slice
