import ContainerOps.Proofs.Progress.Step

/-!
# The pending error

The parser keeps the index of the error that takes the lines of no known shape.  The invariant
`Parser.Linked` says that this index adds nothing to the events: it is that of the last event if
the last event is an error, and there is none otherwise.

Main results:

- `Parser.linked_take`: every line keeps the invariant.
- `Parser.Reachable.linked`: every reachable parser satisfies it.
- `Parser.pending_iff_last_failed`: what the invariant means for the lines that follow.
-/

namespace ContainerOps.Progress

namespace Parser

/-! ## The invariant -/

/-- The index of the last event if that is an error. -/
def pendingOf (events : List Event) : Option Nat :=
  match events.getLast? with
  | some last => if last.isError then some (events.length - 1) else none
  | none => none

/-- The pending error is the last event, if that is an error. -/
def Linked (p : Parser) : Prop :=
  p.pending = pendingOf p.events

/-- Only the last event matters. -/
theorem pendingOf_concat (events : List Event) (event : Event) :
    pendingOf (events ++ [event]) = if event.isError then some events.length else none := by
  simp [pendingOf]

/-- The pending error is at the end of the events. -/
theorem pendingOf_eq_some_iff {events : List Event} {i : Nat} :
    pendingOf events = some i ↔
      ∃ init last, events = init ++ [last] ∧ last.isError = true ∧ init.length = i := by
  rcases List.eq_nil_or_concat events with hnil | ⟨init, last, hconcat⟩
  · subst hnil
    simp [pendingOf]
  · rw [hconcat, List.concat_eq_append, pendingOf_concat]
    constructor
    · intro h
      split at h
      · rename_i herror
        exact ⟨init, last, rfl, herror, Option.some.inj h⟩
      · cases h
    · rintro ⟨init', last', heq, herror, hlength⟩
      obtain ⟨hinit, hlast⟩ := List.append_inj' heq rfl
      cases hlast
      rw [if_pos herror, hinit, hlength]

/-! ## Preservation -/

/-- A parser that has read nothing waits for nothing. -/
theorem linked_start (dryRun : Bool) : (start dryRun).Linked := rfl

/-- A new event becomes the pending error exactly if it is one. -/
theorem linked_push (p : Parser) (event : Event) : (p.push event).Linked :=
  (pendingOf_concat p.events event).symm

/-- A pending error is the last event. -/
theorem Linked.events_eq {p : Parser} (linked : p.Linked) {i : Nat}
    (hpending : p.pending = some i) :
    ∃ init last, p.events = init ++ [last] ∧ last.isError = true ∧ init.length = i :=
  pendingOf_eq_some_iff.mp (linked ▸ hpending)

/-- Nothing is pending if the last event is no error. -/
theorem Linked.pending_eq_none_iff {p : Parser} (linked : p.Linked) :
    p.pending = none ↔ ∀ event ∈ p.events.getLast?, event.isError = false := by
  rw [linked, pendingOf]
  cases p.events.getLast? with
  | none => simp
  | some last => simp

/-- A change of the pending error is a change of the last event. -/
theorem Linked.modify_eq {p : Parser} (linked : p.Linked) {i : Nat} (hpending : p.pending = some i)
    (change : Event → Event) :
    ∃ init last, p.events = init ++ [last] ∧ last.isError = true ∧ init.length = i ∧
      p.events.modify i change = init ++ [change last] := by
  obtain ⟨init, last, hevents, herror, hlength⟩ := linked.events_eq hpending
  exact ⟨init, last, hevents, herror, hlength, by rw [hevents, ← hlength, modify_concat]⟩

/-- Every line keeps the invariant. -/
theorem linked_take (p : Parser) (line : String) (linked : p.Linked) :
    (p.take line).1.Linked := by
  have htaken := p.taken line
  generalize p.take line = result at htaken ⊢
  cases htaken with
  | recognised _ => exact linked_push p _
  | opened _ _ _ => exact linked_push p _
  | reported _ _ _ => exact linked
  | continued hshape hpending =>
    obtain ⟨init, last, hevents, herror, hlength, hmodify⟩ := linked.modify_eq hpending _
    unfold Linked
    dsimp only
    rw [hmodify, pendingOf_concat, Event.isError_continuedBy, if_pos herror, hpending, hlength]

/-- Every reachable parser satisfies the invariant. -/
theorem Reachable.linked {p : Parser} (reachable : p.Reachable) : p.Linked :=
  reachable.invariant linked_start linked_take

/-! ## Consequences -/

/-- A continuation replaces the last event, which is an error. -/
theorem Linked.takeUnmatched_of_pending {p : Parser} (linked : p.Linked) {i : Nat}
    (hpending : p.pending = some i) (line : String) :
    ∃ init last, p.events = init ++ [last] ∧ last.isError = true ∧ init.length = i ∧
      p.takeUnmatched line = ({ p with events := init ++ [last.continuedBy line] }, []) := by
  obtain ⟨init, last, hevents, herror, hlength, hmodify⟩ := linked.modify_eq hpending _
  refine ⟨init, last, hevents, herror, hlength, ?_⟩
  unfold takeUnmatched
  rw [hpending, ← hmodify]

/-- A line keeps the events, adds one, or continues the last one.  It does the last only if it has
no known shape and the last event is an error. -/
theorem Linked.events_take {p : Parser} (linked : p.Linked) (line : String) :
    (p.take line).1.events = p.events ∨
      (∃ event, (p.take line).1.events = p.events ++ [event]) ∨
      ∃ init last, classify line = .unmatched ∧ p.events = init ++ [last] ∧
        last.isError = true ∧ (p.take line).1.events = init ++ [last.continuedBy line] := by
  have htaken := p.taken line
  generalize p.take line = result at htaken ⊢
  cases htaken with
  | @recognised event _ => exact .inr (.inl ⟨event, rfl⟩)
  | opened _ _ _ => exact .inr (.inl ⟨_, rfl⟩)
  | reported _ _ _ => exact .inl rfl
  | continued hshape hpending =>
    obtain ⟨init, last, hevents, herror, _, hmodify⟩ := linked.modify_eq hpending _
    exact .inr (.inr ⟨init, last, hshape, hevents, herror, hmodify⟩)

/-- Parsers of one mode that satisfy the invariant differ in their events only. -/
theorem Linked.eq_of_events_eq {p q : Parser} (hp : p.Linked) (hq : q.Linked)
    (hmode : p.dryRun = q.dryRun) (hevents : p.events = q.events) : p = q := by
  have hpending : p.pending = q.pending := by rw [hp, hq, hevents]
  cases p
  cases q
  simp_all

/-- In every reachable parser an error is pending exactly if the last event is one, and it is that
event.  So a line of no known shape can only go to an error at the end of the events, and parsers
with the same events do the same with all lines that follow. -/
theorem pending_iff_last_failed {p : Parser} (reachable : p.Reachable) :
    (∀ i, p.pending = some i ↔
      ∃ hne : p.events ≠ [],
        (p.events.getLast hne).status = some .error ∧ i = p.events.length - 1) ∧
    (∀ i line, p.pending = some i →
      ∃ hi : i < p.events.length, i = p.events.length - 1 ∧
        (p.events[i]).status = some .error ∧
        p.takeUnmatched line =
          ({ p with events := p.events.dropLast ++ [(p.events[i]).continuedBy line] }, [])) ∧
    (∀ raw, (p.feed raw).1.events = p.events ∨
      (∃ event, (p.feed raw).1.events = p.events ++ [event]) ∨
      ∃ init last line, entryOf p.dryRun raw = some line ∧ classify line = .unmatched ∧
        p.events = init ++ [last] ∧ last.status = some .error ∧
        (p.feed raw).1.events = init ++ [last.continuedBy line]) ∧
    ∀ q : Parser, q.Reachable → q.dryRun = p.dryRun → q.events = p.events →
      ∀ raws, (q.feedAll raws).1.events = (p.feedAll raws).1.events ∧
        (q.feedAll raws).2 = (p.feedAll raws).2 := by
  have linked := reachable.linked
  refine ⟨fun i => ?_, fun i line hpending => ?_, fun raw => ?_, fun q hq hmode hevents raws => ?_⟩
  · constructor
    · intro hpending
      obtain ⟨init, last, hevents, herror, hlength⟩ := linked.events_eq hpending
      refine ⟨by simp [hevents], ?_, by simp [hevents, hlength]⟩
      simpa [hevents] using Event.isError_iff.mp herror
    · rintro ⟨hne, hstatus, rfl⟩
      rw [linked, pendingOf_eq_some_iff]
      exact ⟨p.events.dropLast, p.events.getLast hne, (List.dropLast_concat_getLast hne).symm,
        Event.isError_iff.mpr hstatus, List.length_dropLast⟩
  · obtain ⟨init, last, hevents, herror, rfl, htake⟩ :=
      linked.takeUnmatched_of_pending hpending line
    refine ⟨by simp [hevents], by simp [hevents], ?_, ?_⟩
    · simpa [hevents] using Event.isError_iff.mp herror
    · rw [htake]
      simp [hevents]
  · rw [feed_fst]
    cases hentry : entryOf p.dryRun raw with
    | none => exact .inl rfl
    | some line =>
      rcases linked.events_take line with h | h | ⟨init, last, hshape, hevents, herror, h⟩
      · exact .inl h
      · exact .inr (.inl h)
      · have hstatus := Event.isError_iff.mp herror
        exact .inr (.inr ⟨init, last, line, rfl, hshape, hevents, hstatus, h⟩)
  · rw [linked.eq_of_events_eq hq.linked hmode.symm hevents.symm]
    exact ⟨rfl, rfl⟩

/-- A reset in the past makes no difference to an error that came after it. -/
theorem pending_after_reset :
    ∃ p q : Parser, p.Reachable ∧ q.Reachable ∧ q.dryRun = p.dryRun ∧ q.events = p.events ∧
      p.events = [{ kind := .unknown, id := "web", status := some .error, message := some "a" }] ∧
      p.pending = some 0 ∧
      (q.feedAll ["b", "web Pulled", "c"]).2 = (p.feedAll ["b", "web Pulled", "c"]).2 := by
  have hp : (((start false).feed "web Error").1.feed "a").1.Reachable :=
    .feed "a" (.feed "web Error" (.start false))
  have hq : ((((start false).feed "db Error").1.reset.feed "web Error").1.feed "a").1.Reachable :=
    .feed "a" (.feed "web Error" (.reset (.feed "db Error" (.start false))))
  obtain ⟨hpending, _, _, hsame⟩ := pending_iff_last_failed hp
  refine ⟨_, _, hp, hq, by decide, by decide, by decide, ?_, ?_⟩
  · exact (hpending 0).mpr ⟨by decide, by decide, by decide⟩
  · exact (hsame _ hq (by decide) (by decide) _).2

end Parser

end ContainerOps.Progress
