import ContainerOps.Progress.Summary
import ContainerOps.Proofs.Progress.Pending

/-!
# What single lines say

Which events a line leads to depends on the lines before it.  What the events amount to does not:
every action comes from one line, and a run with a line that says of itself that something failed
is a failure, whatever stands around that line.

Main results:

- `Parser.actions_takeAll`: the actions of some entries are those of each.
- `Parser.any_isError_takeAll`: some event is an error exactly if some entry says so.
- `actions_read` and `isFailed_read`: the same for whole texts.
- `actions_read_append` and `isFailed_read_append`: and so for texts on different lines.
-/

namespace ContainerOps.Progress

open ContainerOps.Text

/-! ## Single lines -/

/-- The action that a line stands for by itself. -/
def actionAlone? (line : String) : Option Action :=
  match classify line with
  | .resource kind id text =>
    (Status.working.find? fun status => status.token = text).map fun status =>
      { kind := kind, id := id, status := status }
  | .pull service status =>
    if status = .pulling then some { kind := .service, id := service, status := .pulling } else none
  | .error _ => none
  | .unmatched => none

/-- A line says by itself that something failed. -/
def failsAlone (line : String) : Bool :=
  match classify line with
  | .unmatched => startsWith line generalErrorMark
  | shape => shape.fails

/-- The status of a step under way is the one with its token. -/
theorem find?_working (text : String) :
    (Status.working.find? fun status => status.token = text) =
      (Status.ofToken? text).filter Status.isWorking := by
  cases hstatus : Status.ofToken? text with
  | none =>
    rw [Option.filter_none, List.find?_eq_none]
    intro status _ htoken
    rw [Status.ofToken?_eq_some_iff.mpr (of_decide_eq_true htoken)] at hstatus
    cases hstatus
  | some status =>
    rw [Status.ofToken?_eq_some_iff] at hstatus
    subst hstatus
    cases status <;> rfl

/-- The action of a resource's event is that of a status under way. -/
theorem action?_resourceEvent (kind : ResourceKind) (id text : String) :
    (Parser.resourceEvent kind id text).action? =
      (Status.working.find? fun status => status.token = text).map fun status =>
        { kind := kind, id := id, status := status } := by
  rw [find?_working]
  unfold Parser.resourceEvent Event.action?
  cases Status.ofToken? text with
  | none => rfl
  | some status => cases hworking : status.isWorking <;> simp [Option.filter, hworking]

/-- The event of a line stands for the action that the line stands for. -/
theorem action?_of_event? {line : String} {event : Event}
    (hevent : (classify line).event? = some event) : event.action? = actionAlone? line := by
  unfold actionAlone?
  cases hshape : classify line with
  | resource kind id text =>
    rw [hshape] at hevent
    cases hevent
    exact action?_resourceEvent kind id text
  | pull service status =>
    have hpull := pull_of_classify hshape
    rw [hshape] at hevent
    cases hevent
    rcases hpull with rfl | rfl <;> rfl
  | error id => rw [hshape] at hevent; cases hevent; rfl
  | unmatched => rw [hshape] at hevent; cases hevent

/-- A line of no known shape stands for no action. -/
theorem actionAlone?_of_unmatched {line : String} (hshape : classify line = .unmatched) :
    actionAlone? line = none := by
  rw [actionAlone?, hshape]

/-- A line of no known shape fails exactly with the mark of a general error. -/
theorem failsAlone_of_unmatched {line : String} (hshape : classify line = .unmatched) :
    failsAlone line = startsWith line generalErrorMark := by
  rw [failsAlone, hshape]

/-- A line of a known shape fails exactly if its event is an error. -/
theorem failsAlone_of_event? {line : String} {event : Event}
    (hevent : (classify line).event? = some event) : failsAlone line = event.isError := by
  rw [isError_of_event? hevent, failsAlone]
  cases hshape : classify line with
  | unmatched => rw [hshape] at hevent; cases hevent
  | _ => rfl

/-! ## Continuations -/

/-- A change that a partial function does not see. -/
theorem filterMap_modify {α β : Type} {f : α → Option β} {change : α → α}
    (hchange : ∀ a, f (change a) = f a) (items : List α) (i : Nat) :
    (items.modify i change).filterMap f = items.filterMap f := by
  induction items generalizing i with
  | nil => simp
  | cons first rest ih =>
    cases i with
    | zero => simp [List.filterMap_cons, hchange]
    | succ i => rw [List.modify_succ_cons, List.filterMap_cons, List.filterMap_cons, ih]

/-- A general error stands for no action. -/
@[simp]
theorem action?_generalError (message : String) : (generalError message).action? = none := rfl

/-- A continuation keeps the action. -/
@[simp]
theorem Event.action?_continuedBy (event : Event) (line : String) :
    (event.continuedBy line).action? = event.action? := rfl

namespace Parser

/-! ## Entries -/

/-- A line adds its own action. -/
theorem actions_take (p : Parser) (line : String) :
    actions (p.take line).1.events = actions p.events ++ (actionAlone? line).toList := by
  have htaken := p.taken line
  generalize p.take line = result at htaken ⊢
  cases htaken with
  | @recognised event hevent =>
    rw [← action?_of_event? hevent]
    cases haction : event.action? <;> simp [actions, haction]
  | continued hshape _ =>
    rw [actionAlone?_of_unmatched hshape, Option.toList_none, List.append_nil]
    exact filterMap_modify (fun event => event.action?_continuedBy line) p.events _
  | opened hshape _ _ =>
    rw [actionAlone?_of_unmatched hshape]
    simp [actions]
  | reported hshape _ _ =>
    rw [actionAlone?_of_unmatched hshape]
    simp

/-- The actions of some entries are those of each. -/
theorem actions_takeAll (p : Parser) (taken : List String) :
    actions (p.takeAll taken).events = actions p.events ++ taken.filterMap actionAlone? := by
  induction taken generalizing p with
  | nil => simp
  | cons line rest ih =>
    rw [takeAll_cons, ih, actions_take, List.filterMap_cons]
    cases actionAlone? line <;> simp

/-- A line makes some event an error exactly if it says so by itself. -/
theorem any_isError_take {p : Parser} (linked : p.Linked) (line : String) :
    (p.take line).1.events.any Event.isError =
      (p.events.any Event.isError || failsAlone line) := by
  have htaken := p.taken line
  generalize p.take line = result at htaken ⊢
  cases htaken with
  | recognised hevent => simp [failsAlone_of_event? hevent]
  | continued _ hpending =>
    -- the error is there already, so that the line cannot change the answer
    obtain ⟨init, last, hevents, herror, _, hmodify⟩ :=
      linked.modify_eq hpending (·.continuedBy line)
    dsimp only
    rw [hmodify, hevents]
    simp [herror]
  | opened hshape _ hmark => simp [failsAlone_of_unmatched hshape, hmark]
  | reported hshape _ hmark => simp [failsAlone_of_unmatched hshape, hmark]

/-- Some event is an error exactly if some entry says so. -/
theorem any_isError_takeAll {p : Parser} (linked : p.Linked) (taken : List String) :
    (p.takeAll taken).events.any Event.isError =
      (p.events.any Event.isError || taken.any failsAlone) := by
  induction taken generalizing p with
  | nil => simp
  | cons line rest ih =>
    rw [takeAll_cons, ih (linked_take p line linked), any_isError_take linked, List.any_cons,
      Bool.or_assoc]

end Parser

/-! ## Whole texts -/

/-- The actions of a text are those of its lines. -/
theorem actions_read (text : String) (dryRun : Bool) :
    actions (read text dryRun).events =
      (entries dryRun (lines text)).filterMap actionAlone? := by
  rw [events_read, Parser.actions_takeAll]
  rfl

/-- A run failed exactly if its exit code or one of its lines says so. -/
theorem isFailed_read (text : String) (dryRun : Bool) (code : Int) :
    isFailed (read text dryRun).events code =
      (code != 0 || (entries dryRun (lines text)).any failsAlone) := by
  rw [isFailed, events_read, Parser.any_isError_takeAll (Parser.linked_start dryRun)]
  rfl

/-- The actions of two texts on different lines. -/
theorem actions_read_append (a b : String) (dryRun : Bool) :
    actions (read (a ++ "\n" ++ b) dryRun).events =
      actions (read a dryRun).events ++ actions (read b dryRun).events := by
  rw [actions_read, actions_read, actions_read, lines_append, entries_append,
    List.filterMap_append]

/-- Two texts on different lines fail if one of them does. -/
theorem isFailed_read_append (a b : String) (dryRun : Bool) (code : Int) :
    isFailed (read (a ++ "\n" ++ b) dryRun).events code =
      (isFailed (read a dryRun).events code || isFailed (read b dryRun).events code) := by
  rw [isFailed_read, isFailed_read, isFailed_read, lines_append, entries_append, List.any_append]
  cases code != 0 <;> simp

end ContainerOps.Progress
