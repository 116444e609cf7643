import Mathlib.Data.List.Basic

/-!
# Searching for the first

A loop that tries candidates in order and stops at the first one that `p` accepts finds
`l.find? p` and tries `tried p l`.  Of the numbers below `n`, it tries those up to the one it
finds (`tried_range`).

A loop that accepts less than it should finds what it should exactly if it accepts the first
one that it should (`find?_eq_find?_iff`).
-/

namespace Search

universe u

variable {α : Type u}

/-- The candidates up to the first one that `p` accepts. -/
def tried (p : α → Bool) : List α → List α
  | [] => []
  | a :: l => if p a then [a] else a :: tried p l

theorem tried_cons_of_pos {p : α → Bool} {a : α} (h : p a = true) (l : List α) :
    tried p (a :: l) = [a] := if_pos h

theorem tried_cons_of_neg {p : α → Bool} {a : α} (h : ¬ p a = true) (l : List α) :
    tried p (a :: l) = a :: tried p l := if_neg h

/-- Only the last candidate that is tried can be accepted. -/
theorem mem_tried_of_pos {p : α → Bool} {l : List α} {a : α} (ha : a ∈ tried p l)
    (hp : p a = true) : l.find? p = some a := by
  induction l with
  | nil => cases ha
  | cons b l ih =>
      by_cases hb : p b = true
      · rw [tried_cons_of_pos hb, List.mem_singleton] at ha
        rw [List.find?_cons_of_pos hb, ha]
      · rw [tried_cons_of_neg hb, List.mem_cons] at ha
        rw [List.find?_cons_of_neg hb]
        rcases ha with rfl | ha
        · exact absurd hp hb
        · exact ih ha

/-- How many of the `k` numbers from `a` on are tried. -/
theorem tried_range' (p : Nat → Bool) (a k : Nat) :
    tried p (List.range' a k) =
      List.range' a (((List.range' a k).find? p).elim k fun i ↦ i - a + 1) := by
  induction k generalizing a with
  | zero => rfl
  | succ k ih =>
      rw [List.range'_succ]
      by_cases ha : p a = true
      · rw [tried_cons_of_pos ha, List.find?_cons_of_pos ha, Option.elim_some, Nat.sub_self]
        rfl
      · rw [tried_cons_of_neg ha, List.find?_cons_of_neg ha, ih]
        cases hfind : (List.range' (a + 1) k).find? p with
        | none => rfl
        | some i =>
            have hmem := List.mem_of_find?_eq_some hfind
            have hle : a + 1 ≤ i := (List.mem_range'_1.1 hmem).1
            have hcount : i - a + 1 = i - (a + 1) + 1 + 1 := by omega
            rw [Option.elim_some, Option.elim_some, hcount]
            exact List.range'_succ.symm

/-- Of the numbers below `n`, those up to the one that is found are tried. -/
theorem tried_range (p : Nat → Bool) (n : Nat) :
    tried p (List.range n) = List.range (((List.range n).find? p).elim n (· + 1)) := by
  rw [List.range_eq_range', tried_range', List.range_eq_range']
  rfl

/-- **Accepting too little is harmless exactly if it accepts what should be found.** -/
theorem find?_eq_find?_iff {p q : α → Bool} (h : ∀ a, p a = true → q a = true) (l : List α) :
    l.find? p = l.find? q ↔ ∀ a ∈ l.find? q, p a = true := by
  constructor
  · intro heq a ha
    rw [← heq] at ha
    exact List.find?_some ha
  · intro hq
    induction l with
    | nil => rfl
    | cons b l ih =>
        by_cases hb : q b = true
        · rw [List.find?_cons_of_pos hb] at hq ⊢
          rw [List.find?_cons_of_pos (hq b rfl)]
        · have hp : ¬ p b = true := fun hp ↦ hb (h b hp)
          rw [List.find?_cons_of_neg hb] at hq ⊢
          rw [List.find?_cons_of_neg hp]
          exact ih hq

end Search
