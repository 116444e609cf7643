import RustTun.Base.Call
import RustTun.Base.Scatter

/-!
# Vectored methods with a default

An implementation of a reader or a writer must say how to use one buffer and may say how
to use a list of them.  One that does not gets the default, which uses the first buffer
that is not empty and no other: `Read.vectored` and `Write.vectored` are what a caller
of the vectored method gets either way.
-/

open Scatter

namespace VectoredIo

variable {ε σ : Type} {α : Type}

/-- An implementation of a reader: it returns a count and the buffers as they are then. -/
structure Read (ε σ α : Type) where
  read : List α → Call ε σ (Nat × List α)
  /-- The vectored method, if the implementation overrides the default. -/
  readVectored : Option (List (List α) → Call ε σ (Nat × List (List α)))

/-- An implementation of a writer: it returns a count. -/
structure Write (ε σ α : Type) where
  write : List α → Call ε σ Nat
  /-- The vectored method, if the implementation overrides the default. -/
  writeVectored : Option (List (List α) → Call ε σ Nat)

/-- The default vectored read. -/
def Read.default (r : Read ε σ α) (bufs : List (List α)) : Call ε σ (Nat × List (List α)) := do
  let (n, filled) ← r.read (first bufs)
  pure (n, replaceFirst bufs filled)

/-- The vectored read of an implementation. -/
def Read.vectored (r : Read ε σ α) : List (List α) → Call ε σ (Nat × List (List α)) :=
  r.readVectored.getD r.default

/-- The vectored write of an implementation; the default writes the first buffer. -/
def Write.vectored (w : Write ε σ α) : List (List α) → Call ε σ Nat :=
  w.writeVectored.getD fun bufs ↦ w.write (first bufs)

/-- A default read that returned, in terms of the read of the first buffer. -/
theorem Read.default_eq_ok {r : Read ε σ α} {bufs filled : List (List α)} {n : Nat} {s t : σ} :
    r.default bufs s = (.ok (n, filled), t) ↔
      ∃ buf, r.read (first bufs) s = (.ok (n, buf), t) ∧ filled = replaceFirst bufs buf := by
  rw [default]
  constructor
  · intro h
    obtain ⟨⟨m, buf⟩, u, hread, hpure⟩ := Call.bind_eq_ok.1 h
    obtain ⟨heq, rfl⟩ := Call.pure_eq_ok.1 hpure
    cases heq
    exact ⟨buf, hread, rfl⟩
  · rintro ⟨buf, hread, rfl⟩
    exact Call.bind_eq_ok.2 ⟨(n, buf), t, hread, rfl⟩

end VectoredIo
