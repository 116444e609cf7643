import Mathlib.Tactic.TypeStar

/-!
# Readiness with one waker

One direction of a descriptor that is registered with a reactor: whether the reactor
believes it to be ready, and the waker of the last task that asked.  There is one place
for a waker, so that of two tasks that wait in the same direction the first is forgotten.

Whether the waker of a task that finds the descriptor ready is kept as well is left open
by `eager`.
-/

namespace Readiness

variable {τ ρ : Type*}

/-- The waker of a task, or the one that wakes no task. -/
inductive Waker (τ : Type*) where
  | noop
  | task (t : τ)
deriving DecidableEq, Repr

/-- The result of polling. -/
inductive Poll (ρ : Type*) where
  | ready (r : ρ)
  | pending
deriving DecidableEq, Repr

/-- What a reactor keeps for one direction. -/
structure Direction (τ : Type*) where
  ready : Bool
  waker : Option (Waker τ)
deriving DecidableEq, Repr

namespace Direction

/-- A direction that was just registered. -/
def initial : Direction τ := { ready := false, waker := none }

/-- Poll for readiness: a task that has to wait leaves its waker. -/
def pollReady (eager : Bool) (w : Waker τ) (d : Direction τ) : Poll Unit × Direction τ :=
  if d.ready then (.ready (), if eager then { d with waker := some w } else d)
  else (.pending, { d with waker := some w })

/-- Forget the readiness. -/
def clearReady (d : Direction τ) : Direction τ := { d with ready := false }

/-- The descriptor becomes ready: the waker that was left is to be woken. -/
def event (d : Direction τ) : Option (Waker τ) × Direction τ :=
  (d.waker, { ready := true, waker := none })

theorem pollReady_of_ready (eager : Bool) (w : Waker τ) {d : Direction τ} (h : d.ready = true) :
    d.pollReady eager w = (.ready (), if eager then { d with waker := some w } else d) :=
  if_pos h

theorem pollReady_of_not_ready (eager : Bool) (w : Waker τ) {d : Direction τ}
    (h : d.ready = false) : d.pollReady eager w = (.pending, { d with waker := some w }) :=
  if_neg (by simp [h])

end Direction

end Readiness
