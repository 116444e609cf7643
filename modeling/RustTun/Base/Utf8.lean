import Mathlib.Data.List.TakeDrop

/-!
# Bytes as text

UTF-8 without the characters it stands for: which bytes may follow which, and what becomes
of bytes that may not.  A lead byte determines how many bytes follow it and what they may be
(`tails`); what is there of a sequence that is broken off is replaced by `U+FFFD` as a whole,
and the text goes on behind it.

The conversion gives back what it was given exactly if that was `Valid`
(`lossy_eq_self_iff`).
-/

namespace Utf8

/-- The ranges of the bytes that follow a lead byte; nothing, if it is none. -/
def tails (lead : UInt8) : Option (List (UInt8 × UInt8)) :=
  if lead ≤ 0x7F then some []
  else if lead ≤ 0xC1 then none
  else if lead ≤ 0xDF then some [(0x80, 0xBF)]
  else if lead = 0xE0 then some [(0xA0, 0xBF), (0x80, 0xBF)]
  else if lead = 0xED then some [(0x80, 0x9F), (0x80, 0xBF)]
  else if lead ≤ 0xEF then some [(0x80, 0xBF), (0x80, 0xBF)]
  else if lead = 0xF0 then some [(0x90, 0xBF), (0x80, 0xBF), (0x80, 0xBF)]
  else if lead ≤ 0xF3 then some [(0x80, 0xBF), (0x80, 0xBF), (0x80, 0xBF)]
  else if lead = 0xF4 then some [(0x80, 0x8F), (0x80, 0xBF), (0x80, 0xBF)]
  else none

/-- How many bytes at the front are in their ranges. -/
def matched : List (UInt8 × UInt8) → List UInt8 → Nat
  | (lo, hi) :: ranges, b :: rest => if lo ≤ b ∧ b ≤ hi then matched ranges rest + 1 else 0
  | _, _ => 0

/-- How many bytes behind a lead byte belong to it. -/
def taken (lead : UInt8) (rest : List UInt8) : Nat :=
  match tails lead with
  | some ranges => matched ranges rest
  | none => 0

/-- All bytes that have to follow a lead byte do. -/
def Complete (lead : UInt8) (rest : List UInt8) : Prop :=
  ∃ ranges ∈ tails lead, matched ranges rest = ranges.length

instance (lead : UInt8) (rest : List UInt8) : Decidable (Complete lead rest) :=
  match h : tails lead with
  | some ranges => decidable_of_iff (matched ranges rest = ranges.length)
      ⟨fun heq ↦ ⟨ranges, h, heq⟩, fun ⟨_, hmem, heq⟩ ↦ by
        rw [h] at hmem
        cases hmem
        exact heq⟩
  | none => isFalse fun ⟨_, hmem, _⟩ ↦ by
      rw [h] at hmem
      cases hmem

/-- `U+FFFD`. -/
def replacement : List UInt8 := [0xEF, 0xBF, 0xBD]

/-- Replace whatever is not UTF-8. -/
def lossy : List UInt8 → List UInt8
  | [] => []
  | lead :: rest =>
    (if Complete lead rest then lead :: rest.take (taken lead rest) else replacement)
      ++ lossy (rest.drop (taken lead rest))
termination_by bytes => bytes.length
decreasing_by
  rw [List.length_drop, List.length_cons]
  omega

/-- Bytes that are UTF-8. -/
inductive Valid : List UInt8 → Prop
  | /-- No bytes. -/ nil : Valid []
  | /-- One more sequence at the front. -/ cons {lead : UInt8} {rest : List UInt8} :
      Complete lead rest → Valid (rest.drop (taken lead rest)) → Valid (lead :: rest)

@[simp] theorem lossy_nil : lossy [] = [] := by
  rw [lossy]

/-- A sequence that is complete is kept. -/
theorem lossy_of_complete {lead : UInt8} {rest : List UInt8} (h : Complete lead rest) :
    lossy (lead :: rest) =
      lead :: rest.take (taken lead rest) ++ lossy (rest.drop (taken lead rest)) := by
  rw [lossy, if_pos h]

/-- One that is not is replaced. -/
theorem lossy_of_not_complete {lead : UInt8} {rest : List UInt8} (h : ¬ Complete lead rest) :
    lossy (lead :: rest) = replacement ++ lossy (rest.drop (taken lead rest)) := by
  rw [lossy, if_neg h]

/-- The replacement is a sequence, so that nothing is replaced by itself. -/
theorem complete_replacement (rest : List UInt8) : Complete 0xEF (0xBF :: 0xBD :: rest) :=
  ⟨[(0x80, 0xBF), (0x80, 0xBF)], rfl, rfl⟩

/-- UTF-8 is kept. -/
theorem Valid.lossy_eq {bytes : List UInt8} (h : Valid bytes) : lossy bytes = bytes := by
  induction h with
  | nil => exact lossy_nil
  | cons hcomplete _ ih =>
      rw [lossy_of_complete hcomplete, ih, List.cons_append, List.take_append_drop]

/-- What is kept is UTF-8. -/
theorem valid_of_lossy_eq {bytes : List UInt8} (h : lossy bytes = bytes) : Valid bytes := by
  induction bytes using lossy.induct with
  | case1 => exact .nil
  | case2 lead rest ih =>
      by_cases hcomplete : Complete lead rest
      · rw [lossy_of_complete hcomplete, List.cons_append, List.cons_inj_right] at h
        have hrest := List.take_append_drop (taken lead rest) rest
        exact .cons hcomplete (ih (List.append_cancel_left (h.trans hrest.symm)))
      · rw [lossy_of_not_complete hcomplete] at h
        obtain ⟨hlead, hrest⟩ := List.cons.inj h
        rw [← hlead, ← hrest] at hcomplete
        exact absurd (complete_replacement _) hcomplete

/-- **The conversion loses nothing exactly of UTF-8.** -/
theorem lossy_eq_self_iff {bytes : List UInt8} : lossy bytes = bytes ↔ Valid bytes :=
  ⟨valid_of_lossy_eq, Valid.lossy_eq⟩

/-- ASCII is UTF-8. -/
theorem valid_of_ascii {bytes : List UInt8} (h : ∀ b ∈ bytes, b ≤ 0x7F) : Valid bytes := by
  induction bytes with
  | nil => exact .nil
  | cons b rest ih =>
      rw [List.forall_mem_cons] at h
      have htails : tails b = some [] := if_pos h.1
      have htaken : taken b rest = 0 := by
        rw [taken, htails]
        exact matched.eq_2 [] rest (fun _ _ _ _ _ h ↦ nomatch h)
      refine .cons ⟨[], htails, by cases rest <;> rfl⟩ ?_
      rw [htaken]
      exact ih h.2

end Utf8
