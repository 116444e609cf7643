import RustTun.Base.Call
import RustTun.Error
import RustTun.Net

/-!
# The `route` tool

The macOS and FreeBSD devices keep the routing table up to date by running `route`.
`Routes` is the table together with how the coming runs of the tool end, of which
nothing is assumed but that a run that fails changes nothing.
-/

namespace RustTun

/-- The commands the library runs: `route -n add -net net/prefix gateway`, or the same
with `delete`. -/
inductive RouteCommand where
  | add (net : Ipv4Addr) (prefixLen : Nat) (gateway : Ipv4Addr)
  | delete (net : Ipv4Addr) (prefixLen : Nat) (gateway : Ipv4Addr)
deriving DecidableEq, Repr

/-- The two ways a command fails. -/
inductive CommandFailure where
  | /-- It could not be run. -/ spawn (errno : Errno)
  | /-- It ended with a failure status and this output. -/ status (output : String)
deriving DecidableEq, Repr

/-- `run_command`'s error for a failed command. -/
def CommandFailure.toIoError (command : String) : CommandFailure → IoError
  | spawn errno => .os errno
  | status output => .new .other (command ++ " failed with: \"" ++ output ++ "\"")

/-- A routing table, as far as the routes of one device go. -/
structure Routes where
  table : List RouteEntry
  /-- How the coming runs of `route` end; `none` is success. -/
  failures : List (Option CommandFailure)
deriving DecidableEq, Repr

namespace Routes

/-- The entry a command is about. -/
def entry (net : Ipv4Addr) (prefixLen : Nat) (gateway : Ipv4Addr) : RouteEntry :=
  { net := net &&& prefixMask prefixLen, prefixLen, gateway }

/-- Run `route`, on a day on which nothing else is wrong. -/
def execute (r : Routes) : RouteCommand → Except CommandFailure Routes
  | .add net p gateway => .ok { r with table := r.table ++ [entry net p gateway] }
  | .delete net p gateway =>
    if entry net p gateway ∈ r.table then
      .ok { r with table := r.table.erase (entry net p gateway) }
    else .error (.status "not in table")

/-- `run_command("route", ..)`. -/
def runCommand (command : RouteCommand) : Call Error Routes Unit := fun r ↦
  let rest := { r with failures := r.failures.tail }
  match r.failures.head?.join with
  | some e => (.error (.err (.io (e.toIoError "route"))), rest)
  | none =>
    match rest.execute command with
    | .ok r => (.ok (), r)
    | .error e => (.error (.err (.io (e.toIoError "route"))), rest)

/-- Running `route` does not panic. -/
theorem stopsIn_runCommand (command : RouteCommand) :
    (runCommand command).StopsIn (· ≠ .panic) := by
  intro r stop h
  rw [runCommand] at h
  split at h
  · cases h
    intro hpanic
    cases hpanic
  · split at h
    · cases h
    · cases h
      intro hpanic
      cases hpanic

/-- How the next run of `route` ends, if nothing is wrong with the command itself. -/
def nextFails (r : Routes) : Prop := r.failures.head?.join ≠ none

instance (r : Routes) : Decidable r.nextFails :=
  inferInstanceAs (Decidable (r.failures.head?.join ≠ none))

/-- The table after one more run that did nothing. -/
def skip (r : Routes) : Routes := { r with failures := r.failures.tail }

/-- A run that fails changes nothing. -/
theorem runCommand_of_nextFails {r : Routes} (h : r.nextFails) (command : RouteCommand) :
    ∃ e, runCommand command r = (.error (.err e), r.skip) := by
  rw [runCommand]
  rcases hf : r.failures.head?.join with _ | e
  · exact absurd hf h
  · exact ⟨_, rfl⟩

/-- Adding a route. -/
theorem runCommand_add {r : Routes} (h : ¬ r.nextFails) (net : Ipv4Addr) (p : Nat)
    (gateway : Ipv4Addr) :
    runCommand (.add net p gateway) r =
      (.ok (), { r.skip with table := r.table ++ [entry net p gateway] }) := by
  rw [runCommand, Decidable.not_not.1 h]
  rfl

/-- Deleting the one route there is. -/
theorem runCommand_delete {r : Routes} (h : ¬ r.nextFails) {net : Ipv4Addr} {p : Nat}
    {gateway : Ipv4Addr} (htable : r.table = [entry net p gateway]) :
    runCommand (.delete net p gateway) r = (.ok (), { r.skip with table := [] }) := by
  rw [runCommand, Decidable.not_not.1 h]
  simp [execute, htable, skip]

end Routes

end RustTun
