import ContainerOps.Progress.Status
import ContainerOps.Text.Blank

/-!
# The shapes of progress lines

A line is about a resource, about an image pull, about an error, or of no known shape.  Each shape
has a matcher of its own; they are tried in this order.

Main results:

- `classify_of_resource`: a line that is about a resource is classified as such.
-/

namespace ContainerOps.Progress

open ContainerOps.Text

/-! ## Shapes -/

/-- What a line is recognised as. -/
inductive Shape where
  /-- `<Kind> <id> <text>`, the text being a status or a message. -/
  | resource (kind : ResourceKind) (id : String) (text : String)
  /-- `<service> <status>` with a status of pulls. -/
  | pull (service : String) (status : Status)
  /-- `<id> Error`. -/
  | error (id : String)
  /-- Anything else. -/
  | unmatched
deriving DecidableEq

/-! ## Matchers -/

/-- A line of a kind of resource, an identifier and a text.  The text runs from the third word to
the last and holds no line feed. -/
def matchResource (line : String) : Option Shape :=
  let first := splitWord line.toList
  let second := splitWord first.2
  let text := trim second.2
  match ResourceKind.ofWord? (String.ofList first.1) with
  | none => none
  | some kind =>
    if text.isEmpty || text.contains '\n' then none
    else some (.resource kind (String.ofList second.1) (String.ofList text))

/-- The two words of a line that has no more. -/
def twoWords (line : String) : Option (String × String) :=
  let first := splitWord line.toList
  let second := splitWord first.2
  if second.1.isEmpty || !(trim second.2).isEmpty then none
  else some (String.ofList first.1, String.ofList second.1)

/-- A line of a service and a status of pulls. -/
def matchPull (line : String) : Option Shape :=
  match twoWords line with
  | none => none
  | some (service, word) =>
    (Status.pull.find? fun status => status.token = word).map (.pull service ·)

/-- A line of an identifier and the error status. -/
def matchError (line : String) : Option Shape :=
  match twoWords line with
  | none => none
  | some (id, word) => if word = Status.error.token then some (.error id) else none

/-- The shape of a line. -/
def classify (line : String) : Shape :=
  match matchResource line with
  | some shape => shape
  | none =>
    match matchPull line with
    | some shape => shape
    | none => (matchError line).getD .unmatched

/-- A line that is about a resource is classified as such. -/
theorem classify_of_resource {line : String} {shape : Shape}
    (h : matchResource line = some shape) : classify line = shape := by
  simp [classify, h]

end ContainerOps.Progress
