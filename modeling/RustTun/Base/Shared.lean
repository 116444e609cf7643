import Mathlib.Logic.Function.Basic

/-!
# Shared ownership by reference counting

`Arc α` is a counted reference to a value that is immutable while it is shared, so a
handle can carry the value it points to; what the handles have in common is the
*cell* whose strong count says how many of them are alive.  `Heap` holds the counts.

`Heap.intoInner` is the one operation that ends a handle's life.  It hands out the
value exactly when the handle was the last one; dropping a handle is `intoInner`
followed by dropping what it hands out.  A handle cannot be used after it was given
away, which the types do not enforce here: a caller threads each handle linearly, as
the ownership discipline of the language it models does.
-/

namespace Shared

universe u v

variable {α : Type u}

/-- A counted reference. -/
structure Arc (α : Type u) where
  /-- The cell whose count the handle is part of. -/
  cell : Nat
  /-- The value in the cell. -/
  val : α
deriving DecidableEq, Repr

/-- The strong counts of all cells. -/
structure Heap where
  /-- The first cell that was never used. -/
  next : Nat
  /-- How many handles of each cell are alive. -/
  strong : Nat → Nat

namespace Heap

/-- `Arc::new`: a fresh cell with one handle. -/
def new (v : α) (h : Heap) : Arc α × Heap :=
  ({ cell := h.next, val := v },
    { next := h.next + 1, strong := Function.update h.strong h.next 1 })

/-- `Arc::clone`: one more handle of the same cell. -/
def clone (a : Arc α) (h : Heap) : Arc α × Heap :=
  (a, { h with strong := Function.update h.strong a.cell (h.strong a.cell + 1) })

/-- `Arc::into_inner`: give the handle up; the value comes out if it was the last. -/
def intoInner (a : Arc α) (h : Heap) : Option α × Heap :=
  (if h.strong a.cell = 1 then some a.val else none,
    { h with strong := Function.update h.strong a.cell (h.strong a.cell - 1) })

@[simp] theorem clone_fst (a : Arc α) (h : Heap) : (h.clone a).1 = a := rfl

/-- A fresh cell has one handle. -/
@[simp] theorem strong_new (v : α) (h : Heap) : (h.new v).2.strong (h.new v).1.cell = 1 :=
  Function.update_self ..

/-- Cloning adds a handle. -/
@[simp] theorem strong_clone (a : Arc α) (h : Heap) :
    (h.clone a).2.strong a.cell = h.strong a.cell + 1 :=
  Function.update_self ..

/-- Giving a handle up takes it off the count. -/
@[simp] theorem strong_intoInner (a : Arc α) (h : Heap) :
    (h.intoInner a).2.strong a.cell = h.strong a.cell - 1 :=
  Function.update_self ..

/-- A fresh cell is none of those that were used. -/
theorem strong_new_of_lt (v : α) {h : Heap} {c : Nat} (hc : c < h.next) :
    (h.new v).2.strong c = h.strong c :=
  Function.update_of_ne (Nat.ne_of_lt hc) ..

/-- Cloning a handle leaves the other cells alone. -/
theorem strong_clone_of_ne {a : Arc α} (h : Heap) {c : Nat} (hc : c ≠ a.cell) :
    (h.clone a).2.strong c = h.strong c :=
  Function.update_of_ne hc ..

/-- Giving a handle up leaves the other cells alone. -/
theorem strong_intoInner_of_ne {a : Arc α} (h : Heap) {c : Nat} (hc : c ≠ a.cell) :
    (h.intoInner a).2.strong c = h.strong c :=
  Function.update_of_ne hc ..

/-- The last handle hands out the value. -/
theorem intoInner_of_strong_eq_one {a : Arc α} {h : Heap} (hs : h.strong a.cell = 1) :
    (h.intoInner a).1 = some a.val := if_pos hs

/-- A handle that is not the last hands out nothing. -/
theorem intoInner_of_strong_ne_one {a : Arc α} {h : Heap} (hs : h.strong a.cell ≠ 1) :
    (h.intoInner a).1 = none := if_neg hs

/-- Drop a handle in a state that the counts are part of: `put` puts them back, and `drop` is what
becomes of the value when the handle was the last. -/
def release {σ : Type v} (put : Heap → σ) (drop : α → σ → σ) (a : Arc α) (h : Heap) : σ :=
  match h.intoInner a with
  | (some v, h) => drop v (put h)
  | (none, h) => put h

theorem release_of_strong_eq_one {σ : Type v} (put : Heap → σ) (drop : α → σ → σ) {a : Arc α}
    {h : Heap} (hs : h.strong a.cell = 1) :
    h.release put drop a = drop a.val (put (h.intoInner a).2) := by
  rw [release, intoInner, if_pos hs]

theorem release_of_strong_ne_one {σ : Type v} (put : Heap → σ) (drop : α → σ → σ) {a : Arc α}
    {h : Heap} (hs : h.strong a.cell ≠ 1) : h.release put drop a = put (h.intoInner a).2 := by
  rw [release, intoInner, if_neg hs]

end Heap

end Shared
