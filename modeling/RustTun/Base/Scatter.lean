import Mathlib.Data.List.Basic

/-!
# Scattering a sequence over a list of buffers

Vectored input fills a list of buffers in order from one sequence, and vectored
output gathers a list of buffers into one.  Gathering is `List.flatten`; this file
supplies the other direction.

`scatter data bufs` stores as much of `data` as fits, buffer by buffer, and leaves
the rest of the buffers as they were.  Everything a caller needs follows from one
equation, `flatten_scatter`: scattering over a list of buffers is overwriting the
front of the one flat buffer they make up.  Together with `map_length_scatter` this
determines the result, since a list of lists is determined by its lengths and its
flattening.

Empty buffers take no part: `refill` puts buffers that were filled separately back
between the empty ones they were filtered from, and `refill_scatter` says that
skipping the empty buffers makes no difference.
-/

namespace Scatter

universe u

variable {α : Type u}

/-- The buffer `buf` after as much of `data` as fits has been copied to its front. -/
def overwrite (data buf : List α) : List α := data.take buf.length ++ buf.drop data.length

@[simp] theorem overwrite_nil_data (buf : List α) : overwrite [] buf = buf := by
  simp [overwrite]

@[simp] theorem overwrite_nil_buf (data : List α) : overwrite data [] = [] := by
  simp [overwrite]

/-- A buffer keeps its length. -/
@[simp] theorem length_overwrite (data buf : List α) :
    (overwrite data buf).length = buf.length := by
  simp only [overwrite, List.length_append, List.length_take, List.length_drop]
  omega

/-- What was copied is the front of the data. -/
theorem take_overwrite (data buf : List α) :
    (overwrite data buf).take (min data.length buf.length) = data.take buf.length := by
  rw [overwrite, List.take_append_of_le_length (by simp only [List.length_take]; omega),
    List.take_take, List.take_eq_take_iff]
  omega

/-- As much of the data as fits, followed by the rest of the buffer. -/
theorem overwrite_eq_take_append_drop {data buf : List α} {n : Nat}
    (h : n = min data.length buf.length) : overwrite data buf = data.take n ++ buf.drop n := by
  rw [overwrite, h]
  rcases Nat.le_total data.length buf.length with hle | hle
  · rw [Nat.min_eq_left hle, List.take_length, List.take_of_length_le hle]
  · rw [Nat.min_eq_right hle, List.drop_length, List.drop_of_length_le hle]

/-- Overwriting a buffer that comes in two pieces. -/
theorem overwrite_append (data b c : List α) :
    overwrite data (b ++ c) = overwrite data b ++ overwrite (data.drop b.length) c := by
  unfold overwrite
  rw [List.length_append, List.take_add, List.drop_append, List.length_drop]
  rcases Nat.le_total b.length data.length with h | h
  · rw [List.drop_of_length_le h, List.nil_append, List.append_nil, List.append_assoc]
  · rw [List.drop_of_length_le h, List.take_nil, List.append_nil, List.nil_append,
      List.append_assoc]

/-- How many elements a list of buffers can hold. -/
def capacity : List (List α) → Nat
  | [] => 0
  | b :: bufs => b.length + capacity bufs

@[simp] theorem capacity_nil : capacity ([] : List (List α)) = 0 := rfl

@[simp] theorem capacity_cons (b : List α) (bufs : List (List α)) :
    capacity (b :: bufs) = b.length + capacity bufs := rfl

theorem capacity_eq_length_flatten (bufs : List (List α)) :
    capacity bufs = bufs.flatten.length := by
  induction bufs with
  | nil => rfl
  | cons b bufs ih => rw [capacity_cons, List.flatten_cons, List.length_append, ih]

/-- Fill the buffers in order with the elements of `data`. -/
def scatter : List α → List (List α) → List (List α)
  | _, [] => []
  | data, b :: bufs => overwrite data b :: scatter (data.drop b.length) bufs

@[simp] theorem scatter_nil (data : List α) : scatter data [] = [] := rfl

@[simp] theorem scatter_cons (data b : List α) (bufs : List (List α)) :
    scatter data (b :: bufs) = overwrite data b :: scatter (data.drop b.length) bufs := rfl

/-- Every buffer keeps its length. -/
theorem map_length_scatter (data : List α) (bufs : List (List α)) :
    (scatter data bufs).map List.length = bufs.map List.length := by
  induction bufs generalizing data with
  | nil => rfl
  | cons b bufs ih => simp [ih]

/-- **Scattering is overwriting the flat buffer.** -/
theorem flatten_scatter (data : List α) (bufs : List (List α)) :
    (scatter data bufs).flatten = overwrite data bufs.flatten := by
  induction bufs generalizing data with
  | nil => simp
  | cons b bufs ih => rw [scatter_cons, List.flatten_cons, List.flatten_cons, ih, overwrite_append]

/-- Nothing is scattered if there are no data. -/
@[simp] theorem scatter_nil_data (bufs : List (List α)) : scatter [] bufs = bufs := by
  rw [List.eq_iff_flatten_eq, map_length_scatter, flatten_scatter, overwrite_nil_data]
  exact ⟨rfl, rfl⟩

/-- Nothing is scattered over buffers that can hold nothing. -/
theorem scatter_of_capacity_eq_zero {data : List α} {bufs : List (List α)}
    (h : capacity bufs = 0) : scatter data bufs = bufs := by
  rw [capacity_eq_length_flatten, List.length_eq_zero_iff] at h
  rw [List.eq_iff_flatten_eq, map_length_scatter, flatten_scatter, h, overwrite_nil_buf]
  exact ⟨rfl, rfl⟩

/-! ## Skipping the empty buffers -/

/-- The buffers that can hold something. -/
def nonempty (bufs : List (List α)) : List (List α) := bufs.filter fun b ↦ !b.isEmpty

@[simp] theorem nonempty_nil : nonempty ([] : List (List α)) = [] := rfl

@[simp] theorem nonempty_cons_nil (bufs : List (List α)) : nonempty ([] :: bufs) = nonempty bufs :=
  rfl

@[simp] theorem nonempty_cons_cons (x : α) (b : List α) (bufs : List (List α)) :
    nonempty ((x :: b) :: bufs) = (x :: b) :: nonempty bufs := rfl

/-- Empty buffers contribute nothing to what is gathered. -/
@[simp] theorem flatten_nonempty (bufs : List (List α)) :
    (nonempty bufs).flatten = bufs.flatten := by
  induction bufs with
  | nil => rfl
  | cons b bufs ih => cases b <;> simp [ih]

@[simp] theorem capacity_nonempty (bufs : List (List α)) :
    capacity (nonempty bufs) = capacity bufs := by
  rw [capacity_eq_length_flatten, capacity_eq_length_flatten, flatten_nonempty]

theorem ne_nil_of_mem_nonempty {bufs : List (List α)} {b : List α} (h : b ∈ nonempty bufs) :
    b ≠ [] := by
  have := (List.mem_filter.1 h).2
  simpa using this

/-- No buffer can hold anything exactly when they make up no elements together. -/
theorem nonempty_eq_nil_iff {bufs : List (List α)} : nonempty bufs = [] ↔ bufs.flatten = [] := by
  constructor
  · intro h
    rw [← flatten_nonempty, h, List.flatten_nil]
  · intro h
    rw [List.eq_nil_iff_forall_not_mem]
    intro b hb
    have hmem : b ∈ bufs := (List.mem_filter.1 hb).1
    exact ne_nil_of_mem_nonempty hb (List.flatten_eq_nil_iff.1 h b hmem)

/-- Put `filled`, the new contents of the non-empty buffers among `bufs`, back in
their places; the empty buffers stay where they are. -/
def refill : List (List α) → List (List α) → List (List α)
  | [], _ => []
  | [] :: bufs, filled => [] :: refill bufs filled
  | (x :: b) :: bufs, [] => (x :: b) :: refill bufs []
  | (_ :: _) :: bufs, f :: filled => f :: refill bufs filled

/-- Filling only the non-empty buffers fills them all. -/
theorem refill_scatter (data : List α) (bufs : List (List α)) :
    refill bufs (scatter data (nonempty bufs)) = scatter data bufs := by
  induction bufs generalizing data with
  | nil => rfl
  | cons b bufs ih => cases b <;> simp [refill, ih]

/-! ## The first buffer that is not empty -/

/-- The first buffer that can hold something, or an empty one if none can. -/
def first (bufs : List (List α)) : List α := (nonempty bufs).headD []

/-- Put `filled` in the place of the first buffer that can hold something. -/
def replaceFirst : List (List α) → List α → List (List α)
  | [], _ => []
  | [] :: bufs, filled => [] :: replaceFirst bufs filled
  | (_ :: _) :: bufs, filled => filled :: bufs

@[simp] theorem first_nil : first ([] : List (List α)) = [] := rfl

@[simp] theorem first_cons_nil (bufs : List (List α)) : first ([] :: bufs) = first bufs := rfl

@[simp] theorem first_cons_cons (x : α) (b : List α) (bufs : List (List α)) :
    first ((x :: b) :: bufs) = x :: b := rfl

/-- The first of some buffers that can hold something can. -/
theorem first_eq_nil_iff {bufs : List (List α)} : first bufs = [] ↔ bufs.flatten = [] := by
  induction bufs with
  | nil => simp
  | cons b bufs ih => cases b <;> simp [ih]

/-- The first buffer holds at most what all of them hold. -/
theorem length_first_le (bufs : List (List α)) : (first bufs).length ≤ capacity bufs := by
  induction bufs with
  | nil => simp
  | cons b bufs ih => cases b <;> simp [ih]

/-- It holds as much exactly if it is the only one that can hold something. -/
theorem length_first_eq_iff {bufs : List (List α)} :
    (first bufs).length = capacity bufs ↔ (nonempty bufs).length ≤ 1 := by
  induction bufs with
  | nil => simp
  | cons b bufs ih =>
      cases b with
      | nil => simpa using ih
      | cons x b =>
          have hnil : capacity bufs = 0 ↔ nonempty bufs = [] := by
            rw [nonempty_eq_nil_iff, capacity_eq_length_flatten, List.length_eq_zero_iff]
          simp only [first_cons_cons, capacity_cons, nonempty_cons_cons, List.length_cons]
          rw [← List.length_eq_zero_iff] at hnil
          omega

/-- Filling only the first buffer fills them all, if the data ends there or they do. -/
theorem replaceFirst_overwrite {data : List α} {bufs : List (List α)}
    (h : data.length ≤ (first bufs).length ∨ (first bufs).length = capacity bufs) :
    replaceFirst bufs (overwrite data (first bufs)) = scatter data bufs := by
  induction bufs with
  | nil => rfl
  | cons b bufs ih =>
      cases b with
      | nil => simpa [replaceFirst] using ih (by simpa using h)
      | cons x b =>
          simp only [first_cons_cons, capacity_cons] at h
          rw [first_cons_cons, replaceFirst, scatter_cons]
          congr 1
          rcases h with h | h
          · rw [List.drop_of_length_le h, scatter_nil_data]
          · rw [scatter_of_capacity_eq_zero (by omega)]

/-- **Filling only the first buffer**, and counting what fits into it, is filling all of
them exactly if it is the only one that can hold something or the data ends in it. -/
theorem first_fills_iff {data : List α} {bufs : List (List α)} :
    min data.length (first bufs).length = min data.length (capacity bufs) ∧
        replaceFirst bufs (overwrite data (first bufs)) = scatter data bufs ↔
      (nonempty bufs).length ≤ 1 ∨ data.length ≤ (first bufs).length := by
  have hle := length_first_le bufs
  rw [← length_first_eq_iff]
  constructor
  · rintro ⟨hcount, -⟩
    omega
  · intro h
    exact ⟨by omega, replaceFirst_overwrite h.symm⟩

/-- The only buffer that can hold something is all of them. -/
theorem first_eq_flatten {bufs : List (List α)} (h : (nonempty bufs).length ≤ 1) :
    first bufs = bufs.flatten := by
  rw [first, ← flatten_nonempty]
  match nonempty bufs, h with
  | [], _ => rfl
  | [b], _ => simp

/-! ## What a read returned -/

/-- A read that returned: the buffers as they were, the count, and the buffers as they are. -/
structure Receipt (α : Type u) where
  bufs : List (List α)
  amount : Nat
  filled : List (List α)

namespace Receipt

/-- It was given `data`, as much of it as fits. -/
structure Holds (r : Receipt α) (data : List α) : Prop where
  amount : r.amount = min data.length (capacity r.bufs)
  filled : r.filled = scatter data r.bufs

/-- It was given nothing. -/
structure Untouched (r : Receipt α) : Prop where
  amount : r.amount = 0
  filled : r.filled = r.bufs

end Receipt

end Scatter
