import ContainerOps.Command.Word
import ContainerOps.Progress.Parser

/-!
# What the events of a run amount to

From the events follow whether anything changed, which actions were taken, what the user should be
told, and whether and why the run failed.

Main results:

- `hasChanges_iff`: something changed exactly when an action was taken.
- `failure?_isSome`: there is a report exactly when the run failed.
-/

namespace ContainerOps.Progress

/-! ## Changes -/

/-- Something that a run did to a resource. -/
structure Action where
  /-- The kind of the resource. -/
  kind : ResourceKind
  /-- The name of the resource. -/
  id : String
  /-- What was under way. -/
  status : Status
deriving DecidableEq

/-- The action that an event stands for. -/
def Event.action? (event : Event) : Option Action :=
  match event.status with
  | some status =>
    if status.isWorking then some { kind := event.kind, id := event.id, status := status }
    else none
  | none => none

/-- Some event is under way. -/
def hasChanges (events : List Event) : Bool :=
  events.any Event.isWorking

/-- The actions of a run in the order of its events. -/
def actions (events : List Event) : List Action :=
  events.filterMap Event.action?

/-- An event stands for an action exactly when it is under way. -/
theorem Event.isSome_action? (event : Event) : event.action?.isSome = event.isWorking := by
  unfold Event.action? Event.isWorking
  cases event.status with
  | none => rfl
  | some status => cases h : status.isWorking <;> simp [h]

/-- Something changed exactly when an action was taken. -/
theorem hasChanges_iff (events : List Event) : hasChanges events = true ↔ actions events ≠ [] := by
  induction events with
  | nil => simp [hasChanges, actions]
  | cons event rest ih =>
    have h := event.isSome_action?
    unfold hasChanges actions at *
    rw [List.any_cons, List.filterMap_cons, ← h]
    cases event.action? with
    | none => simpa using ih
    | some a => simp

/-! ## Remarks -/

/-- The remark of an event that has a message in the place of a status. -/
def Event.remark? (event : Event) : Option Notice :=
  match event.status, event.message with
  | none, some message => some (.remark event.kind event.id message)
  | _, _ => none

/-- The remarks of a run in the order of its events. -/
def remarks (events : List Event) : List Notice :=
  events.filterMap Event.remark?

/-! ## Failure -/

/-- What a user needs to know about a run that failed. -/
structure Failure where
  /-- Why it failed. -/
  reason : String
  /-- The command line. -/
  command : String
  /-- The output. -/
  stdout : String
  /-- The error output. -/
  stderr : String
  /-- The exit code. -/
  code : Int
deriving DecidableEq

/-- The run ended with an exit code other than zero, or some event is an error. -/
def isFailed (events : List Event) (code : Int) : Bool :=
  code != 0 || events.any Event.isError

/-- An error event in words. -/
def Event.describe (event : Event) : String :=
  let subject :=
    if event.kind = .unknown then
      if event.id.isEmpty then "General error: "
      else "Error when processing " ++ event.id ++ ": "
    else "Error when processing " ++ event.kind.name ++ " " ++ event.id ++ ": "
  let detail :=
    match event.message, event.status with
    | some message, _ => message
    | none, some status => status.token
    | none, none => ""
  subject ++ detail

/-- The reasons for a failure; an exit code other than zero is one if there is no other. -/
def reasons (events : List Event) (code : Int) : List String :=
  let errors := (events.filter Event.isError).map Event.describe
  if errors.isEmpty && code != 0 then ["Return code " ++ toString code ++ " is non-zero"]
  else errors

/-- The report on a run, if it failed. -/
def failure? (events : List Event) (code : Int) (args : List String) (stdout stderr : String)
    (binary : String) : Option Failure :=
  match reasons events code with
  | [] => none
  | found =>
    some
      { reason := Text.join "\n" found
        command := Command.render binary args
        stdout := stdout
        stderr := stderr
        code := code }

/-- There is no reason exactly when the run did not fail. -/
theorem reasons_eq_nil_iff (events : List Event) (code : Int) :
    reasons events code = [] ↔ isFailed events code = false := by
  unfold reasons isFailed
  by_cases hany : events.any Event.isError = true
  · have hne : (events.filter Event.isError).map Event.describe ≠ [] := by
      intro h
      rw [List.map_eq_nil_iff, List.filter_eq_nil_iff] at h
      obtain ⟨e, he, herr⟩ := List.any_eq_true.mp hany
      exact h e he herr
    have hempty : ((events.filter Event.isError).map Event.describe).isEmpty = false := by
      cases h : (events.filter Event.isError).map Event.describe with
      | nil => exact absurd h hne
      | cons _ _ => rfl
    dsimp only
    rw [hempty, Bool.false_and, if_neg (by decide), hany, Bool.or_true]
    simpa using hne
  · have hnil : events.filter Event.isError = [] := by
      rw [List.filter_eq_nil_iff]
      intro e he herr
      exact hany (List.any_eq_true.mpr ⟨e, he, herr⟩)
    by_cases hcode : code = 0 <;> simp [hnil, hany, hcode]

/-- There is a report exactly when the run failed. -/
theorem failure?_isSome (events : List Event) (code : Int) (args : List String)
    (stdout stderr binary : String) :
    (failure? events code args stdout stderr binary).isSome = isFailed events code := by
  have h := reasons_eq_nil_iff events code
  unfold failure?
  split
  · next hnil => simp [h.mp hnil]
  · next hne =>
    cases hf : isFailed events code with
    | false => exact absurd (h.mpr hf) hne
    | true => rfl

end ContainerOps.Progress
