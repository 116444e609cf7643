import Mathlib.Data.List.Basic
import RustTun.Base.Readiness

/-!
# A bounded channel

The queue between a sending and a receiving end, as the two ends see it: a send blocks
while the queue is full, and fails once nobody can receive; a receive waits while the
queue is empty, and comes to an end once nobody can send.  Elements leave the queue in
the order they entered it.

The bound is part of the type, so that nothing that is done to a channel has to be shown
to keep it.
-/

open Readiness

universe u

/-- A queue of at most `cap` elements, and which of its ends are alive. -/
structure Channel (α : Type u) (cap : Nat) where
  queue : List α
  length_le : queue.length ≤ cap
  /-- The receiving end is alive. -/
  receiver : Bool
  /-- The sending end is alive. -/
  sender : Bool

namespace Channel

variable {α : Type u} {cap : Nat}

/-- A new channel. -/
def initial (α : Type u) (cap : Nat) : Channel α cap :=
  { queue := [], length_le := Nat.zero_le _, receiver := true, sender := true }

/-- Put an element at the end of the queue. -/
def push (x : α) (c : Channel α cap) (h : c.queue.length < cap) : Channel α cap :=
  { c with
    queue := c.queue ++ [x]
    length_le := by rw [List.length_append]; exact h }

/-- Take the first element off the queue. -/
def pop (c : Channel α cap) : Channel α cap :=
  { c with
    queue := c.queue.tail
    length_le := by
      have := c.length_le
      rw [List.length_tail]
      omega }

/-- The sending end is dropped. -/
def dropSender (c : Channel α cap) : Channel α cap := { c with sender := false }

/-- The receiving end is dropped, and what was in the queue with it. -/
def dropReceiver (c : Channel α cap) : Channel α cap :=
  { c with queue := [], length_le := Nat.zero_le _, receiver := false }

/-- What a send can come to. -/
inductive Send (α : Type u) (cap : Nat) where
  | sent (c : Channel α cap)
  | closed
  | blocked

/-- Send an element. -/
def send (x : α) (c : Channel α cap) : Send α cap :=
  if c.receiver then
    if h : c.queue.length < cap then .sent (c.push x h) else .blocked
  else .closed

/-- Receive an element; the end of the channel is `none`. -/
def recv (c : Channel α cap) : Poll (Option α) × Channel α cap :=
  match c.queue.head? with
  | some x => (.ready (some x), c.pop)
  | none => if c.sender then (.pending, c) else (.ready none, c)

/-- A send puts the element at the end of the queue, and leaves both ends alone. -/
theorem send_eq_sent {x : α} {c d : Channel α cap} (h : c.send x = .sent d) :
    c.queue.length < cap ∧ d.queue = c.queue ++ [x] ∧ d.receiver = c.receiver ∧
      d.sender = c.sender := by
  unfold send at h
  split at h
  · split at h
    · rename_i hlen
      cases h
      exact ⟨hlen, rfl, rfl, rfl⟩
    · cases h
  · cases h

/-- While there is room and a receiving end a send succeeds. -/
theorem send_of_lt {x : α} {c : Channel α cap} (hr : c.receiver = true)
    (h : c.queue.length < cap) : c.send x = .sent (c.push x h) := by
  rw [send, if_pos hr, dif_pos h]

/-- A send fails exactly if the receiving end is gone. -/
theorem send_eq_closed_iff {x : α} {c : Channel α cap} :
    c.send x = .closed ↔ c.receiver = false := by
  rw [send]
  split
  · split <;> simp_all
  · simp_all

/-- A send blocks exactly if the queue is full and the receiving end is alive. -/
theorem send_eq_blocked_iff {x : α} {c : Channel α cap} :
    c.send x = .blocked ↔ c.receiver = true ∧ c.queue.length = cap := by
  have hle := c.length_le
  rw [send]
  split
  · rename_i hr
    split
    · rename_i hlt
      simp only [hr, reduceCtorEq, true_and, false_iff]
      omega
    · rename_i hlt
      simp only [hr, true_and, true_iff]
      omega
  · rename_i hr
    simp [hr]

/-- A receive takes the first element, or the channel is at its end, or it waits. -/
theorem recv_cases (c : Channel α cap) :
    (∃ x rest, c.queue = x :: rest ∧ c.recv = (.ready (some x), c.pop)) ∨
      (c.queue = [] ∧ c.sender = false ∧ c.recv = (.ready none, c)) ∨
      (c.queue = [] ∧ c.sender = true ∧ c.recv = (.pending, c)) := by
  rw [recv]
  cases hq : c.queue with
  | cons x rest => exact .inl ⟨x, rest, rfl, rfl⟩
  | nil =>
      cases hs : c.sender with
      | false => exact .inr (.inl ⟨rfl, rfl, by simp⟩)
      | true => exact .inr (.inr ⟨rfl, rfl, by simp⟩)

end Channel
