import ContainerOps.Command.Request
import ContainerOps.Json.Value
import ContainerOps.Progress.Summary

/-!
# Results

A result accumulates what one or more runs did.  A run that fails overwrites the outputs with those
of the failure.

Main results:

- `Result.cleanup_of_failed`: the result of a failure is cleaned up already.
- `Result.changed_absorb`: a change is never forgotten.
-/

namespace ContainerOps.Project

open ContainerOps.Progress

/-- What some runs of one project did. -/
structure Result where
  /-- Something changed. -/
  changed : Bool
  /-- What was done, in order. -/
  actions : List Action
  /-- The output. -/
  stdout : Option String
  /-- The error output. -/
  stderr : Option String
  /-- Some run failed. -/
  failed : Bool
  /-- Why it failed. -/
  reason : Option String
  /-- The command line that failed. -/
  command : Option String
  /-- The exit code of the run that failed. -/
  code : Option Int
deriving DecidableEq

namespace Result

/-! ## Accumulation -/

/-- The result of no run. -/
def new : Result :=
  { changed := false
    actions := []
    stdout := none
    stderr := none
    failed := false
    reason := none
    command := none
    code := none }

/-- The result with the events and outputs of one more run. -/
def absorb (r : Result) (events : List Event) (stdout stderr : String) : Result :=
  { r with
    changed := r.changed || hasChanges events
    actions := r.actions ++ Progress.actions events
    stdout := some (Command.combineText [r.stdout, some stdout])
    stderr := some (Command.combineText [r.stderr, some stderr]) }

/-- The result with the details of a failure. -/
def fail (r : Result) (failure : Failure) : Result :=
  { r with
    failed := true
    reason := some failure.reason
    command := some failure.command
    stdout := some failure.stdout
    stderr := some failure.stderr
    code := some failure.code }

/-- An output that is not empty. -/
def nonEmpty (output : Option String) : Option String :=
  if output = some "" then none else output

/-- The result without empty outputs, unless some run failed. -/
def cleanup (r : Result) : Result :=
  if r.failed then r
  else { r with stdout := nonEmpty r.stdout, stderr := nonEmpty r.stderr }

/-- The result of a failure is cleaned up already. -/
theorem cleanup_of_failed {r : Result} (h : r.failed = true) : r.cleanup = r := by
  simp [cleanup, h]

/-- A change is never forgotten. -/
theorem changed_absorb {r : Result} (h : r.changed = true) (events : List Event)
    (stdout stderr : String) : (r.absorb events stdout stderr).changed = true := by
  simp [absorb, h]

/-! ## As JSON -/

/-- An action as an object. -/
def actionJson (action : Action) : Json :=
  .ofMembers [("what", .string action.kind.name), ("id", .string action.id),
    ("status", .string action.status.token)]

/-- A member for a value that is there. -/
def memberFor {α : Type} (key : String) (wrap : α → Json) : Option α → List (String × Json)
  | none => []
  | some value => [(key, wrap value)]

/-- A result as an object.  Members without a value are left out, and so is that no run failed. -/
def toJson (r : Result) : Json :=
  .ofMembers ([("changed", .bool r.changed), ("actions", .array (r.actions.map actionJson))]
    ++ memberFor "stdout" .string r.stdout
    ++ memberFor "stderr" .string r.stderr
    ++ (if r.failed then [("failed", .bool true)] else [])
    ++ memberFor "msg" .string r.reason
    ++ memberFor "cmd" .string r.command
    ++ memberFor "rc" .ofInt r.code)

end Result

end ContainerOps.Project
