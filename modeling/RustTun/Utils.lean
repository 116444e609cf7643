import RustTun.Base.Scatter
import RustTun.Base.Slice
import RustTun.Posix.Fd

/-!
# Copying packets out

`put` copies a packet into one buffer and `putv` into a list of buffers; both return how
many bytes they copied.  The loop of `putv` keeps an offset into the packet and what
remains behind it, and indexes with them; `putv_eq` says that no index is ever out of
range and that what comes out is `Scatter.scatter`.
-/

namespace RustTun

open Scatter Slice

/-- `SliceExt::size`. -/
def size (bufs : List Buf) : Nat := (bufs.map List.length).foldl (· + ·) 0

theorem size_eq_length_flatten (bufs : List Buf) : size bufs = bufs.flatten.length := by
  have hfold : ∀ n, (bufs.map List.length).foldl (· + ·) n = n + bufs.flatten.length := by
    induction bufs with
    | nil => exact fun n ↦ rfl
    | cons buf bufs ih =>
        intro n
        rw [List.map_cons, List.foldl_cons, ih, List.flatten_cons, List.length_append,
          Nat.add_assoc]
  rw [size, hfold, Nat.zero_add]

/-- `DataExt::put`. -/
def put (slice : Buf) (buf : Buf) : Option (Nat × Buf) := do
  let len := min slice.length buf.length
  let src ← Slice.slice slice 0 len
  let buf ← copyFrom buf 0 len src
  pure (len, buf)

/-- The loop of `DataExt::putv` over the buffers that are left. -/
def putvLoop (slice : Buf) : Nat → Nat → List Buf → Option (Nat × List Buf)
  | offset, _, [] => some (offset, [])
  | offset, remaining, buf :: bufs =>
    if remaining = 0 then some (offset, buf :: bufs)
    else
      let len := min remaining buf.length
      if len = 0 then do
        let (n, bufs) ← putvLoop slice offset remaining bufs
        pure (n, buf :: bufs)
      else do
        let src ← Slice.slice slice offset (offset + len)
        let buf ← copyFrom buf 0 len src
        let (n, bufs) ← putvLoop slice (offset + len) (remaining - len) bufs
        pure (n, buf :: bufs)

/-- `DataExt::putv`. -/
def putv (slice : Buf) (bufs : List Buf) : Option (Nat × List Buf) :=
  putvLoop slice 0 slice.length bufs

/-- Copying the front of `data` into a buffer, as much of it as fits. -/
theorem copyFrom_take (data buf : Buf) :
    copyFrom buf 0 (min data.length buf.length) (data.take (min data.length buf.length)) =
      some (overwrite data buf) := by
  have hlen : (data.take (min data.length buf.length)).length = min data.length buf.length := by
    rw [List.length_take]
    omega
  have hfits : 0 + (data.take (min data.length buf.length)).length ≤ buf.length := by
    rw [hlen]
    omega
  have hcopy := copyFrom_of_le hfits
  rw [hlen, Nat.zero_add] at hcopy
  rw [hcopy, overwrite]
  rcases Nat.le_total data.length buf.length with h | h
  · rw [Nat.min_eq_left h, List.take_length, List.take_of_length_le h]
    rfl
  · rw [Nat.min_eq_right h, List.drop_length, List.drop_of_length_le h]
    rfl

theorem put_eq (slice buf : Buf) :
    put slice buf = some (min slice.length buf.length, overwrite slice buf) := by
  rw [put]
  simp only [slice_of_le (Nat.zero_le _) (Nat.min_le_left slice.length buf.length),
    List.drop_zero, Nat.sub_zero, Option.bind_eq_bind, Option.bind_some, copyFrom_take,
    Option.pure_def]

/-- The loop scatters what is behind the offset. -/
theorem putvLoop_eq (slice : Buf) {offset remaining : Nat}
    (h : offset + remaining = slice.length) (bufs : List Buf) :
    putvLoop slice offset remaining bufs =
      some (offset + min remaining (capacity bufs), scatter (slice.drop offset) bufs) := by
  induction bufs generalizing offset remaining with
  | nil => simp [putvLoop]
  | cons buf bufs ih =>
      have hrest : (slice.drop offset).length = remaining := by rw [List.length_drop]; omega
      by_cases hzero : remaining = 0
      · have hdrop : slice.drop offset = [] := List.drop_of_length_le (by omega)
        rw [putvLoop, if_pos hzero, hzero, hdrop, scatter_nil_data, Nat.zero_min, Nat.add_zero]
      by_cases hlen : min remaining buf.length = 0
      · have hbuf : buf = [] := List.length_eq_zero_iff.1 (by omega)
        simp [putvLoop, hzero, hbuf, ih h]
      · have hcopy := copyFrom_take (slice.drop offset) buf
        rw [hrest] at hcopy
        have hslice : Slice.slice slice offset (offset + min remaining buf.length) =
            some ((slice.drop offset).take (min remaining buf.length)) := by
          rw [slice_of_le (Nat.le_add_right ..) (by omega), Nat.add_sub_cancel_left]
        have hnext : slice.drop (offset + min remaining buf.length) =
            (slice.drop offset).drop buf.length := by
          rw [List.drop_drop]
          rcases Nat.le_total remaining buf.length with hle | hle
          · rw [List.drop_of_length_le (by omega), List.drop_of_length_le (by omega)]
          · rw [Nat.min_eq_right hle]
        have hsum : offset + min remaining buf.length + (remaining - min remaining buf.length) =
            slice.length := by omega
        have hih := ih hsum
        simp only [putvLoop, if_neg hzero, if_neg hlen, hslice, hcopy, hih, hnext,
          Option.bind_eq_bind, Option.bind_some, Option.pure_def, capacity_cons, scatter_cons,
          Option.some.injEq, Prod.mk.injEq, and_true]
        omega

theorem putv_eq (slice : Buf) (bufs : List Buf) :
    putv slice bufs = some (min slice.length (capacity bufs), scatter slice bufs) := by
  rw [putv, putvLoop_eq slice (Nat.zero_add _), List.drop_zero, Nat.zero_add]

/-- **Copying into a list of buffers is copying into one buffer of their size.**  Both copy as
much of the packet as there is room for, with all their indices in range; what follows it is
what was there, and no buffer changes its length. -/
theorem putv_exact (slice : Buf) (bufs : List Buf) :
    let n := min slice.length (capacity bufs)
    (∃ filled, putv slice bufs = some (n, filled) ∧
      filled.map List.length = bufs.map List.length ∧
      filled.flatten = slice.take n ++ bufs.flatten.drop n ∧
      put slice bufs.flatten = some (n, filled.flatten)) ∧
    ∀ buf : Buf, buf.length = capacity bufs →
      put slice buf = some (n, slice.take n ++ buf.drop n) := by
  intro n
  have hflat : n = min slice.length bufs.flatten.length := by
    rw [← capacity_eq_length_flatten]
  constructor
  · refine ⟨scatter slice bufs, putv_eq slice bufs, map_length_scatter _ _, ?_, ?_⟩
    · rw [flatten_scatter, overwrite_eq_take_append_drop hflat]
    · rw [put_eq, ← hflat, flatten_scatter]
  · intro buf hbuf
    have hn : n = min slice.length buf.length := by rw [hbuf]
    rw [put_eq, ← hn, overwrite_eq_take_append_drop hn]

/-- Five bytes go into buffers of two, none and four bytes. -/
example : putv [1, 2, 3, 4, 5] [[9, 9], [], [9, 9, 9, 9]] =
    some (5, [[1, 2], [], [3, 4, 5, 9]]) := by
  decide

end RustTun
