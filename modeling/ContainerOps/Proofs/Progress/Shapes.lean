import ContainerOps.Progress.Parser

/-!
# Shapes and their events

A line of a known shape stands for one event.  Whether it is an error, and whether it takes the
lines that follow it, can be told from the shape.

Main results:

- `Status.ofToken?_eq_some_iff`: a token is that of at most one status.
- `matched_of_classify`: a line has the shape that some matcher finds.
- `pull_of_classify`: a line is about a pull only with a status of pulls.
- `isError_of_event?`: the event of a line is an error exactly when the shape says so.
- `message_of_event?`: the event of a line that is an error has no message yet.
-/

namespace ContainerOps.Progress

/-! ## Tokens -/

/-- A token is that of at most one status. -/
theorem Status.ofToken?_eq_some_iff {text : String} {status : Status} :
    Status.ofToken? text = some status ↔ status.token = text := by
  constructor
  · intro hfound
    have hprop := List.find?_some hfound
    simpa using hprop
  · intro htoken
    rw [← htoken, Status.ofToken?_token]

/-- Errors are the events with the error status. -/
theorem Event.isError_iff {event : Event} :
    event.isError = true ↔ event.status = some .error := by
  unfold Event.isError
  cases event.status with
  | none => simp
  | some status => simp [Status.isError, Status.failed]

/-! ## Events of shapes -/

/-- The event of a line of a known shape. -/
def Shape.event? : Shape → Option Event
  | .resource kind id text => some (Parser.resourceEvent kind id text)
  | .pull service status =>
    some { kind := .service, id := service, status := some status, message := none }
  | .error id => some { kind := .unknown, id := id, status := some .error, message := none }
  | .unmatched => none

/-- The line itself says that something failed. -/
def Shape.fails : Shape → Bool
  | .resource _ _ text => text == "Error"
  | .error _ => true
  | .pull _ _ => false
  | .unmatched => false

/-- Every line of a known shape has an event. -/
theorem Shape.event?_eq_none_iff {shape : Shape} : shape.event? = none ↔ shape = .unmatched := by
  cases shape <;> simp [Shape.event?]

/-! ## Matchers -/

/-- The matcher for resources finds lines about resources. -/
theorem resource_of_matchResource {line : String} {shape : Shape}
    (hmatch : matchResource line = some shape) :
    ∃ kind id text, shape = .resource kind id text := by
  unfold matchResource at hmatch
  dsimp only at hmatch
  split at hmatch
  · cases hmatch
  · split at hmatch
    · cases hmatch
    · exact ⟨_, _, _, (Option.some.inj hmatch).symm⟩

/-- The matcher for pulls finds lines with a status of pulls. -/
theorem pull_of_matchPull {line : String} {shape : Shape} (hmatch : matchPull line = some shape) :
    ∃ service status, shape = .pull service status ∧ (status = .pulled ∨ status = .pulling) := by
  unfold matchPull at hmatch
  split at hmatch
  · cases hmatch
  · rename_i service word _
    obtain ⟨status, hfound, hshape⟩ := Option.map_eq_some_iff.mp hmatch
    have hpull : status ∈ Status.pull := List.mem_of_find?_eq_some hfound
    exact ⟨service, status, hshape.symm, by simpa [Status.pull] using hpull⟩

/-- The matcher for errors finds errors. -/
theorem error_of_matchError {line : String} {shape : Shape}
    (hmatch : matchError line = some shape) : ∃ id, shape = .error id := by
  unfold matchError at hmatch
  split at hmatch
  · cases hmatch
  · split at hmatch
    · exact ⟨_, (Option.some.inj hmatch).symm⟩
    · cases hmatch

/-- A line has the shape that some matcher finds. -/
theorem matched_of_classify {line : String} {shape : Shape} (hshape : classify line = shape) :
    matchResource line = some shape ∨ matchPull line = some shape ∨
      matchError line = some shape ∨ shape = .unmatched := by
  unfold classify at hshape
  cases hresource : matchResource line with
  | some found => rw [hresource] at hshape; exact .inl (congrArg some hshape)
  | none =>
    rw [hresource] at hshape
    cases hpull : matchPull line with
    | some found => rw [hpull] at hshape; exact .inr (.inl (congrArg some hshape))
    | none =>
      rw [hpull] at hshape
      cases herror : matchError line with
      | some found => rw [herror] at hshape; exact .inr (.inr (.inl (congrArg some hshape)))
      | none => rw [herror] at hshape; exact .inr (.inr (.inr hshape.symm))

/-- A line is about a pull only with a status of pulls. -/
theorem pull_of_classify {line service : String} {status : Status}
    (hshape : classify line = .pull service status) : status = .pulled ∨ status = .pulling := by
  rcases matched_of_classify hshape with hmatch | hmatch | hmatch | hshape
  · obtain ⟨_, _, _, heq⟩ := resource_of_matchResource hmatch
    cases heq
  · obtain ⟨_, _, heq, hpull⟩ := pull_of_matchPull hmatch
    cases heq
    exact hpull
  · obtain ⟨_, heq⟩ := error_of_matchError hmatch
    cases heq
  · cases hshape

/-! ## Errors -/

/-- A resource is reported as failed exactly with the error token. -/
theorem isError_resourceEvent (kind : ResourceKind) (id text : String) :
    (Parser.resourceEvent kind id text).isError = (text == "Error") := by
  rw [Bool.eq_iff_iff, Event.isError_iff, beq_iff_eq]
  unfold Parser.resourceEvent
  cases hstatus : Status.ofToken? text with
  | none =>
    constructor
    · intro h; cases h
    · intro htext
      rw [htext] at hstatus
      cases hstatus
  | some status =>
    rw [Status.ofToken?_eq_some_iff] at hstatus
    constructor
    · intro h
      cases h
      exact hstatus.symm
    · intro htext
      have htoken : status = .error := by
        rw [← Option.some_inj, ← Status.ofToken?_token status, hstatus, htext]
        rfl
      rw [htoken]

/-- The event of a line is an error exactly when the shape says so. -/
theorem isError_of_event? {line : String} {event : Event}
    (hevent : (classify line).event? = some event) : event.isError = (classify line).fails := by
  cases hshape : classify line with
  | resource kind id text =>
    rw [hshape] at hevent
    cases hevent
    exact isError_resourceEvent kind id text
  | pull service status =>
    have hpull := pull_of_classify hshape
    rw [hshape] at hevent
    cases hevent
    rcases hpull with rfl | rfl <;> rfl
  | error id => rw [hshape] at hevent; cases hevent; rfl
  | unmatched => rw [hshape] at hevent; cases hevent

/-- The event of a line that is an error has no message yet. -/
theorem message_of_event? {shape : Shape} {event : Event} (hevent : shape.event? = some event)
    (herror : event.isError = true) : event.message = none := by
  cases shape with
  | resource kind id text =>
    cases hevent
    unfold Parser.resourceEvent at herror ⊢
    cases hstatus : Status.ofToken? text with
    | none => rw [hstatus] at herror; cases herror
    | some status => rfl
  | pull service status => cases hevent; rfl
  | error id => cases hevent; rfl
  | unmatched => cases hevent

end ContainerOps.Progress
