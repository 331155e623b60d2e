import ContainerOps.Progress.Status

/-!
# Progress events

An event is one step of a compose run: a resource, and a status or a message.

Main results:

- `Event.status_continuedBy` and `Event.id_continuedBy`: a continuation changes the message only.
-/

namespace ContainerOps.Progress

/-- One step of a compose run. -/
structure Event where
  /-- What the step is about. -/
  kind : ResourceKind
  /-- The name of the resource; empty if the event is about none in particular. -/
  id : String
  /-- What happened, if the line says it in the known vocabulary. -/
  status : Option Status
  /-- Free text, where the line has any. -/
  message : Option String
deriving DecidableEq

namespace Event

/-- The step failed. -/
def isError (event : Event) : Bool :=
  match event.status with
  | some status => status.isError
  | none => false

/-- The step is under way. -/
def isWorking (event : Event) : Bool :=
  match event.status with
  | some status => status.isWorking
  | none => false

/-- The event with one more line of message. -/
def continuedBy (event : Event) (line : String) : Event :=
  { event with
    message := some (match event.message with
      | some message => message ++ "\n" ++ line
      | none => line) }

/-- A continuation keeps the status. -/
@[simp]
theorem status_continuedBy (event : Event) (line : String) :
    (event.continuedBy line).status = event.status := rfl

/-- A continuation keeps the resource. -/
@[simp]
theorem id_continuedBy (event : Event) (line : String) :
    (event.continuedBy line).id = event.id := rfl

/-- A continuation keeps the kind. -/
@[simp]
theorem kind_continuedBy (event : Event) (line : String) :
    (event.continuedBy line).kind = event.kind := rfl

/-- A continued event is an error if the event is one. -/
@[simp]
theorem isError_continuedBy (event : Event) (line : String) :
    (event.continuedBy line).isError = event.isError := rfl

end Event

end ContainerOps.Progress
