/-!
# The vocabulary of progress lines

Compose prints one line per step, with a resource and a status.  The statuses fall into four
groups; the one for pulls overlaps the first two, and the other three have no status in common.

Main results:

- `Status.ofToken?_token`: every status is read back from its token.
- `Status.not_isWorking_of_isDone`: a finished step is not under way.
-/

namespace ContainerOps.Progress

/-! ## Resources -/

/-- The kinds of resource that an event can be about. -/
inductive ResourceKind where
  | unknown
  | network
  | image
  | volume
  | container
  | service
deriving DecidableEq

/-- The name of a kind in messages. -/
def ResourceKind.name : ResourceKind → String
  | .unknown => "unknown"
  | .network => "network"
  | .image => "image"
  | .volume => "volume"
  | .container => "container"
  | .service => "service"

/-- The kind that a capitalised word at the front of a line stands for. -/
def ResourceKind.ofWord? (word : String) : Option ResourceKind :=
  if word = "Network" then some .network
  else if word = "Image" then some .image
  else if word = "Volume" then some .volume
  else if word = "Container" then some .container
  else none

/-! ## Statuses -/

/-- What a line says about its resource. -/
inductive Status where
  | started
  | healthy
  | exited
  | restarted
  | running
  | created
  | stopped
  | killed
  | removed
  | recreated
  | pulled
  | creating
  | starting
  | waiting
  | restarting
  | stopping
  | killing
  | removing
  | recreate
  | pulling
  | error
deriving DecidableEq

namespace Status

/-- The token of a status on a line. -/
def token : Status → String
  | .started => "Started"
  | .healthy => "Healthy"
  | .exited => "Exited"
  | .restarted => "Restarted"
  | .running => "Running"
  | .created => "Created"
  | .stopped => "Stopped"
  | .killed => "Killed"
  | .removed => "Removed"
  | .recreated => "Recreated"
  | .pulled => "Pulled"
  | .creating => "Creating"
  | .starting => "Starting"
  | .waiting => "Waiting"
  | .restarting => "Restarting"
  | .stopping => "Stopping"
  | .killing => "Killing"
  | .removing => "Removing"
  | .recreate => "Recreate"
  | .pulling => "Pulling"
  | .error => "Error"

/-- The statuses of a step that succeeded. -/
def done : List Status :=
  [.started, .healthy, .exited, .restarted, .running, .created, .stopped, .killed, .removed,
    .recreated, .pulled]

/-- The statuses of a step that is under way.  Each of them means that something changes. -/
def working : List Status :=
  [.creating, .starting, .waiting, .restarting, .stopping, .killing, .removing, .recreate,
    .pulling]

/-- The statuses on a line for an image pull. -/
def pull : List Status :=
  [.pulled, .pulling]

/-- The statuses of a step that failed. -/
def failed : List Status :=
  [.error]

/-- All statuses. -/
def vocabulary : List Status :=
  done ++ working ++ failed

/-- The status with a given token. -/
def ofToken? (token : String) : Option Status :=
  vocabulary.find? fun status => status.token = token

/-- The step succeeded. -/
def isDone (status : Status) : Bool :=
  status ∈ done

/-- The step is under way. -/
def isWorking (status : Status) : Bool :=
  status ∈ working

/-- The step is an image pull. -/
def isPull (status : Status) : Bool :=
  status ∈ pull

/-- The step failed. -/
def isError (status : Status) : Bool :=
  status ∈ failed

/-- Every status is read back from its token. -/
@[simp]
theorem ofToken?_token (status : Status) : ofToken? status.token = some status := by
  cases status <;> decide

/-- A finished step is not under way. -/
theorem not_isWorking_of_isDone {status : Status} (h : status.isDone = true) :
    status.isWorking = false := by
  cases status <;> first | rfl | exact absurd h (by decide)

/-- A step that is under way has not failed. -/
theorem not_isError_of_isWorking {status : Status} (h : status.isWorking = true) :
    status.isError = false := by
  cases status <;> first | rfl | exact absurd h (by decide)

end Status

end ContainerOps.Progress
