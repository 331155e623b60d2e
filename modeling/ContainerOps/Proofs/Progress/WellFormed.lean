import ContainerOps.Progress.Summary
import ContainerOps.Proofs.Progress.Grammar
import ContainerOps.Proofs.Progress.Pending
import Mathlib.Data.List.Chain

/-!
# Well-formed events

Whatever is fed to a parser, its events have one of a few forms, and which of them depends on the
kind of resource.  A general error, which is about no resource, never comes right after an error:
it would have been part of it.

Main results:

- `wellFormed_of_event?`: the event of a line is well-formed.
- `Parser.forall_mem_events_take`: what holds of every event and what a line can do to it.
- `Parser.Reachable.wellFormed_events`: the events of every reachable parser are well-formed.
-/

namespace ContainerOps.Progress

open ContainerOps.Text

/-! ## Forms of events -/

/-- A text that can stand in the place of a status: it is not empty, stays on one line, neither
begins nor ends with a blank, and is no status itself. -/
structure IsFreeText (message : String) : Prop where
  ne_empty : message ≠ ""
  one_line : '\n' ∉ message.toList
  trimmed : IsTrimmed message.toList
  no_token : Status.ofToken? message = none

/-- Exactly one of three statements holds. -/
def ExactlyOne (a b c : Prop) : Prop :=
  (a ∧ ¬b ∧ ¬c) ∨ (¬a ∧ b ∧ ¬c) ∨ (¬a ∧ ¬b ∧ c)

namespace Event

/-- The event has a status other than the error, and says no more. -/
def IsSettled (event : Event) : Prop :=
  (∃ status, event.status = some status ∧ status ≠ .error) ∧ event.message = none

/-- The event has the error status. -/
def IsFailed (event : Event) : Prop :=
  event.status = some .error

/-- The event has a text in the place of a status. -/
def IsRemark (event : Event) : Prop :=
  event.status = none ∧ ∃ message, event.message = some message ∧ IsFreeText message

/-- The event has a form that goes with its kind of resource. -/
def WellFormed (event : Event) : Prop :=
  match event.kind with
  | .network | .image | .volume | .container =>
    IsWord event.id.toList ∧ ExactlyOne event.IsSettled event.IsFailed event.IsRemark
  | .service =>
    IsWord event.id.toList ∧ (event.status = some .pulled ∨ event.status = some .pulling) ∧
      event.message = none
  | .unknown =>
    event.IsFailed ∧
      (IsWord event.id.toList ∨
        event.id = "" ∧
          ∃ message, event.message = some message ∧ startsWith message generalErrorMark = true)

/-- An event about nothing in particular does not follow an error. -/
def Apart (before event : Event) : Prop :=
  event.id = "" → before.isError = false

/-- The forms of an event about a resource exclude one another by the status. -/
theorem exactlyOne_iff {event : Event} :
    ExactlyOne event.IsSettled event.IsFailed event.IsRemark ↔
      event.IsSettled ∨ event.IsFailed ∨ event.IsRemark := by
  have hfailed : event.IsSettled → ¬event.IsFailed := by
    rintro ⟨⟨status, hstatus, hne⟩, _⟩ hfailed
    exact hne (Option.some.inj (hstatus.symm.trans hfailed))
  have hsettled : event.IsSettled → ¬event.IsRemark := by
    rintro ⟨⟨status, hstatus, _⟩, _⟩ ⟨hnone, _⟩
    rw [hstatus] at hnone
    cases hnone
  have hremark : event.IsFailed → ¬event.IsRemark := by
    rintro hfailed ⟨hnone, _⟩
    rw [IsFailed, hnone] at hfailed
    cases hfailed
  unfold ExactlyOne
  tauto

/-- An event that is about a kind of resource with lines of its own. -/
theorem wellFormed_iff_of_word? {event : Event} {word : String}
    (hword : event.kind.word? = some word) :
    event.WellFormed ↔
      IsWord event.id.toList ∧ (event.IsSettled ∨ event.IsFailed ∨ event.IsRemark) := by
  rw [← exactlyOne_iff]
  unfold WellFormed
  cases hkind : event.kind <;> rw [hkind] at hword <;> first | rfl | cases hword

/-- Only an event about a resource with lines of its own can lack a status, and it has a text in
the place of one. -/
theorem WellFormed.isRemark {event : Event} (wellFormed : event.WellFormed)
    (hstatus : event.status = none) :
    event.kind ∈ [.network, .image, .volume, .container] ∧ event.IsRemark := by
  have hfailed : ¬event.IsFailed := by
    rw [IsFailed, hstatus]
    exact nofun
  have hsettled : ¬event.IsSettled := by
    rintro ⟨⟨status, hsome, _⟩, _⟩
    rw [hstatus] at hsome
    cases hsome
  unfold WellFormed at wellFormed
  cases hkind : event.kind <;> rw [hkind] at wellFormed
  case unknown => exact absurd wellFormed.1 hfailed
  case service =>
    rw [hstatus] at wellFormed
    rcases wellFormed.2.1 with hpull | hpull <;> cases hpull
  all_goals
    refine ⟨by decide, ?_⟩
    rcases exactlyOne_iff.mp wellFormed.2 with h | h | h
    · exact absurd h hsettled
    · exact absurd h hfailed
    · exact h

/-- A continuation keeps the form of an error. -/
theorem WellFormed.continuedBy {event : Event} (wellFormed : event.WellFormed)
    (herror : event.isError = true) (line : String) : (event.continuedBy line).WellFormed := by
  have hfailed : (event.continuedBy line).IsFailed := isError_iff.mp herror
  unfold WellFormed at wellFormed ⊢
  rw [kind_continuedBy, id_continuedBy]
  cases hkind : event.kind <;> rw [hkind] at wellFormed
  case unknown =>
    refine ⟨hfailed, wellFormed.2.imp_right ?_⟩
    rintro ⟨hid, message, hmessage, hmark⟩
    obtain ⟨rest, hrest⟩ := Option.isSome_iff_exists.mp hmark
    rw [after?_eq_some_iff] at hrest
    refine ⟨hid, message ++ "\n" ++ line, by simp [Event.continuedBy, hmessage], ?_⟩
    refine Option.isSome_iff_exists.mpr ⟨rest ++ '\n' :: line.toList, ?_⟩
    rw [after?_eq_some_iff]
    simp [hrest]
  case service =>
    rcases wellFormed.2.1 with hpull | hpull <;>
      rw [isError_iff, hpull] at herror <;> cases herror
  all_goals exact ⟨wellFormed.1, exactlyOne_iff.mpr (.inr (.inl hfailed))⟩

end Event

/-! ## Lines -/

/-- The identifier of a line's event is a word. -/
theorem isWord_id_of_event? {line : String} {event : Event}
    (hevent : (classify line).event? = some event) : IsWord event.id.toList := by
  cases hshape : classify line with
  | resource kind id text =>
    obtain ⟨_, _, _, _, _, _, _, _, _, _, _, _, hid, _⟩ := classify_eq_resource_iff.mp hshape
    rw [hshape] at hevent
    cases hevent
    unfold Parser.resourceEvent
    split <;> exact hid
  | pull service status =>
    obtain ⟨_, _, _, _, _, _, _, _, hservice, _⟩ := classify_eq_pull_iff.mp hshape
    rw [hshape] at hevent
    cases hevent
    exact hservice
  | error id =>
    obtain ⟨_, _, _, _, _, _, _, hid, _⟩ := classify_eq_error_iff.mp hshape
    rw [hshape] at hevent
    cases hevent
    exact hid
  | unmatched => rw [hshape] at hevent; cases hevent

/-- The event of a line about a resource is well-formed. -/
theorem wellFormed_resourceEvent {line id text : String} {kind : ResourceKind}
    (hline : IsResourceLine line kind id text) :
    (Parser.resourceEvent kind id text).WellFormed := by
  obtain ⟨word, _, _, _, _, hword, _, _, _, _, _, _, hid, hne, htrimmed, hbreak, _⟩ := hline
  unfold Parser.resourceEvent
  cases hstatus : Status.ofToken? text with
  | none =>
    have hfree : IsFreeText text := ⟨hne, hbreak, htrimmed, hstatus⟩
    rw [Event.wellFormed_iff_of_word? hword]
    exact ⟨hid, .inr (.inr ⟨rfl, text, rfl, hfree⟩)⟩
  | some status =>
    rw [Event.wellFormed_iff_of_word? hword]
    by_cases herror : status = .error
    · exact ⟨hid, .inr (.inl (congrArg some herror))⟩
    · exact ⟨hid, .inl ⟨⟨status, rfl, herror⟩, rfl⟩⟩

/-- The event of a line is well-formed. -/
theorem wellFormed_of_event? {line : String} {event : Event}
    (hevent : (classify line).event? = some event) : event.WellFormed := by
  have hid := isWord_id_of_event? hevent
  cases hshape : classify line with
  | resource kind id text =>
    rw [hshape] at hevent
    cases hevent
    exact wellFormed_resourceEvent (classify_eq_resource_iff.mp hshape)
  | pull service status =>
    have hpull := pull_of_classify hshape
    rw [hshape] at hevent
    cases hevent
    exact ⟨hid, hpull.imp (congrArg some) (congrArg some), rfl⟩
  | error id =>
    rw [hshape] at hevent
    cases hevent
    exact ⟨rfl, .inl hid⟩
  | unmatched => rw [hshape] at hevent; cases hevent

/-- A general error is well-formed. -/
theorem wellFormed_generalError {line : String} (hmark : startsWith line generalErrorMark = true) :
    (generalError line).WellFormed :=
  ⟨rfl, .inr ⟨rfl, line, rfl, hmark⟩⟩

namespace Parser

/-! ## Preservation -/

/-- What holds of every event still does after a line, if it holds of the event of the line and
survives the line as a continuation. -/
theorem forall_mem_events_take {Holds : Event → Prop} {p : Parser} {line : String}
    (linked : p.Linked) (hevents : ∀ event ∈ p.events, Holds event)
    (hrecognised : ∀ event, (classify line).event? = some event → Holds event)
    (hopened : classify line = .unmatched → startsWith line generalErrorMark = true →
      Holds (generalError line))
    (hcontinued : classify line = .unmatched → ∀ event, event.isError = true → Holds event →
      Holds (event.continuedBy line)) :
    ∀ event ∈ (p.take line).1.events, Holds event := by
  have htaken := p.taken line
  generalize p.take line = result at htaken ⊢
  cases htaken with
  | recognised hevent =>
    rw [events_push, List.forall_mem_append, List.forall_mem_singleton]
    exact ⟨hevents, hrecognised _ hevent⟩
  | opened hshape _ hmark =>
    rw [events_push, List.forall_mem_append, List.forall_mem_singleton]
    exact ⟨hevents, hopened hshape hmark⟩
  | reported _ _ _ => exact hevents
  | continued hshape hpending =>
    obtain ⟨init, last, hinit, herror, _, hmodify⟩ :=
      linked.modify_eq hpending (·.continuedBy line)
    rw [hinit, List.forall_mem_append, List.forall_mem_singleton] at hevents
    dsimp only
    rw [hmodify, List.forall_mem_append, List.forall_mem_singleton]
    exact ⟨hevents.1, hcontinued hshape last herror hevents.2⟩

/-- A new event keeps the events apart if it is about something or nothing is pending. -/
theorem isChain_push {p : Parser} (linked : p.Linked) (hchain : p.events.IsChain Event.Apart)
    {event : Event} (hevent : event.id = "" → p.pending = none) :
    (p.push event).events.IsChain Event.Apart := by
  rw [events_push]
  refine hchain.append (List.isChain_singleton event) ?_
  intro last hlast new hnew hid
  obtain rfl : event = new := Option.some.inj hnew
  exact linked.pending_eq_none_iff.mp (hevent hid) last hlast

/-- Every line keeps the events apart. -/
theorem isChain_take {p : Parser} (linked : p.Linked) (hchain : p.events.IsChain Event.Apart)
    (line : String) : (p.take line).1.events.IsChain Event.Apart := by
  have htaken := p.taken line
  generalize p.take line = result at htaken ⊢
  cases htaken with
  | recognised hevent =>
    refine isChain_push linked hchain fun hid => ?_
    have hword := isWord_id_of_event? hevent
    rw [hid] at hword
    exact absurd rfl hword.1
  | opened _ hpending _ => exact isChain_push linked hchain fun _ => hpending
  | reported _ _ _ => exact hchain
  | continued _ hpending =>
    -- neither the identifier nor the status of the last event changes
    obtain ⟨init, last, hinit, _, _, hmodify⟩ := linked.modify_eq hpending (·.continuedBy line)
    rw [hinit, List.isChain_append] at hchain
    dsimp only
    rw [hmodify, List.isChain_append]
    refine ⟨hchain.1, List.isChain_singleton _, fun before hbefore event hevent hid => ?_⟩
    cases hevent
    exact hchain.2.2 before hbefore last rfl hid

/-! ## Reachable parsers -/

/-- All events of the parser are well-formed, and general errors do not follow errors. -/
structure Orderly (p : Parser) : Prop where
  linked : p.Linked
  wellFormed : ∀ event ∈ p.events, event.WellFormed
  apart : p.events.IsChain Event.Apart

/-- A parser that has read nothing is in order. -/
theorem orderly_start (dryRun : Bool) : (start dryRun).Orderly :=
  ⟨linked_start dryRun, fun _ hevent => absurd hevent List.not_mem_nil, .nil⟩

/-- Every line keeps a parser in order. -/
theorem orderly_take (p : Parser) (line : String) (orderly : p.Orderly) :
    (p.take line).1.Orderly where
  linked := linked_take p line orderly.linked
  wellFormed := forall_mem_events_take orderly.linked orderly.wellFormed
    (fun _ hevent => wellFormed_of_event? hevent) (fun _ hmark => wellFormed_generalError hmark)
    (fun _ _ herror wellFormed => wellFormed.continuedBy herror line)
  apart := isChain_take orderly.linked orderly.apart line

/-- Every reachable parser is in order. -/
theorem Reachable.orderly {p : Parser} (reachable : p.Reachable) : p.Orderly :=
  reachable.invariant orderly_start orderly_take

/-- In every reachable parser the events have the forms that go with their kinds of resource, and
none that is about nothing in particular follows an error.  So each event has a status or a
message, and all remarks are about resources that have lines of their own. -/
theorem Reachable.wellFormed_events {p : Parser} (reachable : p.Reachable) :
    (∀ event ∈ p.events, event.WellFormed) ∧
    (p.events.IsChain fun before event => event.id = "" → before.status ≠ some .error) ∧
    (∀ event ∈ p.events, event.status ≠ none ∨ event.message ≠ none) ∧
    ∀ notice ∈ remarks p.events, ∃ event ∈ p.events, ∃ message,
      event.kind ∈ [.network, .image, .volume, .container] ∧ event.message = some message ∧
        notice = .remark event.kind event.id message := by
  have orderly := reachable.orderly
  refine ⟨orderly.wellFormed, ?_, fun event hevent => ?_, fun notice hnotice => ?_⟩
  · refine orderly.apart.imp fun before event hapart hid hfailed => ?_
    rw [← Event.isError_iff, hapart hid] at hfailed
    cases hfailed
  · by_cases hstatus : event.status = none
    · obtain ⟨_, _, message, hmessage, _⟩ := (orderly.wellFormed event hevent).isRemark hstatus
      exact .inr (by rw [hmessage]; exact nofun)
    · exact .inl hstatus
  · obtain ⟨event, hevent, hremark⟩ := List.mem_filterMap.mp hnotice
    unfold Event.remark? at hremark
    split at hremark
    · rename_i message hstatus hmessage
      have hkind := ((orderly.wellFormed event hevent).isRemark hstatus).1
      exact ⟨event, hevent, message, hkind, hmessage, (Option.some.inj hremark).symm⟩
    · cases hremark

/-- A general error after a remark, with a line break inside a line. -/
theorem wellFormed_events_after_remark :
    ∃ p : Parser, p.Reachable ∧
      p.events =
        [{ kind := .network, id := "n", status := none, message := some "is  old" },
          { kind := .unknown, id := "", status := some .error, message := some "Error a\nb\nc" },
          { kind := .container, id := "c", status := some .error, message := none }] ∧
      (∀ event ∈ p.events, event.WellFormed) ∧
      ∃ notice ∈ remarks p.events, ∃ event ∈ p.events, ∃ message,
        event.kind ∈ [.network, .image, .volume, .container] ∧ event.message = some message ∧
          notice = .remark event.kind event.id message := by
  have hreset : ((start true).feed "web Error").1.reset.Reachable :=
    .reset (.feed "web Error" (.start true))
  have hp := hreset.feedAll
    ["DRY-RUN MODE - Network n is  old", "Error a", "b\nc", "Container c Error"]
  obtain ⟨hwellFormed, _, _, hremarks⟩ := hp.wellFormed_events
  refine ⟨_, hp, by decide, hwellFormed, .remark .network "n" "is  old", by decide, ?_⟩
  exact hremarks _ (by decide)

end Parser

end ContainerOps.Progress
