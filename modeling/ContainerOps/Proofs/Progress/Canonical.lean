import ContainerOps.Proofs.Progress.WellFormed

/-!
# Canonical events

Outside of a dry run the events of a text are such that they can be written down again, one below
the other: their texts have no line breaks but those between the lines of an error, and none of
these lines could be taken for the beginning of another event.

Main results:

- `isEntry_of_mem_entries`: what is known of the lines that the parser classifies.
- `Parser.printed_take`: such a line keeps the events printed.
- `canonical_read`: the events of a text are canonical.
-/

namespace ContainerOps.Progress

open ContainerOps.Text

/-! ## Entries -/

/-- A line that is not blank, neither begins nor ends with a blank, and has no line break. -/
structure IsEntry (line : String) : Prop where
  ne_empty : line ≠ ""
  trimmed : IsTrimmed line.toList
  one_line : ∀ c ∈ line.toList, isLineBreak c = false

/-- Outside of a dry run, the lines of a text that the parser classifies are trimmed lines. -/
theorem isEntry_of_mem_entries {text line : String} (hline : line ∈ entries false (lines text)) :
    IsEntry line := by
  obtain ⟨raw, hraw, hblank, rfl⟩ := mem_entries_iff.mp hline
  obtain ⟨piece, hpiece, rfl⟩ := List.mem_map.mp hraw
  refine ⟨hblank, ?_, fun c hc => ?_⟩
  · simpa [unmarked, trimmed] using isTrimmed_trim piece
  · have hc : c ∈ trim piece := by simpa [unmarked, trimmed] using hc
    exact (mem_of_mem_pieces hpiece c (mem_of_mem_trim hc)).2

/-! ## Texts of events -/

/-- A line that can stand below an error without being taken for anything else. -/
structure IsContinuation (line : String) : Prop where
  ne_empty : line ≠ ""
  trimmed : IsTrimmed line.toList
  no_return : '\r' ∉ line.toList
  unmatched : classify line = .unmatched

/-- The message of the event can be written down: below the line of an error, or at the end of the
line of a remark. -/
structure Event.Printed (event : Event) : Prop where
  body : event.isError = true → ∀ message, event.message = some message →
    ∀ line ∈ splitOn '\n' message, IsContinuation line
  remark : event.status = none → ∀ message, event.message = some message →
    '\n' ∉ message.toList ∧ '\r' ∉ message.toList

/-- The events can be written down and read again. -/
structure Canonical (events : List Event) : Prop where
  wellFormed : ∀ event ∈ events, event.WellFormed
  printed : ∀ event ∈ events, event.Printed
  apart : events.IsChain Event.Apart

/-- A character of no line break is neither of them. -/
theorem isLineBreak_eq_false_iff {c : Char} : isLineBreak c = false ↔ c ≠ '\n' ∧ c ≠ '\r' := by
  simp [isLineBreak]

/-- A line without line breaks has neither of them. -/
theorem forall_not_isLineBreak_iff {cs : List Char} :
    (∀ c ∈ cs, isLineBreak c = false) ↔ '\n' ∉ cs ∧ '\r' ∉ cs := by
  simp only [isLineBreak_eq_false_iff]
  constructor
  · intro h
    exact ⟨fun hc => (h _ hc).1 rfl, fun hc => (h _ hc).2 rfl⟩
  · rintro ⟨hfeed, hreturn⟩ c hc
    exact ⟨by rintro rfl; exact hfeed hc, by rintro rfl; exact hreturn hc⟩

/-- A line of no known shape that the parser classifies can stand below an error. -/
theorem IsEntry.isContinuation {line : String} (entry : IsEntry line)
    (hshape : classify line = .unmatched) : IsContinuation line :=
  ⟨entry.ne_empty, entry.trimmed, (forall_not_isLineBreak_iff.mp entry.one_line).2, hshape⟩

/-- A line without line breaks is the only one of itself. -/
theorem IsEntry.splitOn_eq {line : String} (entry : IsEntry line) : splitOn '\n' line = [line] :=
  splitOn_of_not_mem (forall_not_isLineBreak_iff.mp entry.one_line).1

/-! ## Lines -/

/-- The text of a line about a resource is part of the line. -/
theorem mem_of_mem_text {line id text : String} {kind : ResourceKind}
    (hline : IsResourceLine line kind id text) {c : Char} (hc : c ∈ text.toList) :
    c ∈ line.toList := by
  obtain ⟨_, _, _, _, _, _, _, _, _, _, _, _, _, _, _, _, happend⟩ := hline
  rw [happend]
  simp [hc]

/-- The message of a line's event, if it has one, is part of the line. -/
theorem mem_of_mem_message {line message : String} {event : Event}
    (hevent : (classify line).event? = some event) (hmessage : event.message = some message)
    {c : Char} (hc : c ∈ message.toList) : c ∈ line.toList := by
  cases hshape : classify line with
  | resource kind id text =>
    rw [hshape] at hevent
    cases hevent
    unfold Parser.resourceEvent at hmessage
    split at hmessage
    · cases hmessage
    · cases hmessage
      exact mem_of_mem_text (classify_eq_resource_iff.mp hshape) hc
  | unmatched => rw [hshape] at hevent; cases hevent
  | _ => rw [hshape] at hevent; cases hevent; cases hmessage

/-- The event of a line is printed. -/
theorem printed_of_event? {line : String} (entry : IsEntry line) {event : Event}
    (hevent : (classify line).event? = some event) : event.Printed where
  body herror message hmessage := by
    rw [message_of_event? hevent herror] at hmessage
    cases hmessage
  remark _ message hmessage :=
    forall_not_isLineBreak_iff.mp fun c hc =>
      entry.one_line c (mem_of_mem_message hevent hmessage hc)

/-- A general error is printed. -/
theorem printed_generalError {line : String} (entry : IsEntry line)
    (hshape : classify line = .unmatched) : (generalError line).Printed where
  body _ message hmessage l hl := by
    cases hmessage
    rw [entry.splitOn_eq, List.mem_singleton] at hl
    rw [hl]
    exact entry.isContinuation hshape
  remark hstatus := nomatch hstatus

/-- A line of no known shape keeps an error printed. -/
theorem Event.Printed.continuedBy {event : Event} (printed : event.Printed)
    (herror : event.isError = true) {line : String} (entry : IsEntry line)
    (hshape : classify line = .unmatched) : (event.continuedBy line).Printed where
  body _ message hmessage l hl := by
    have hline := entry.isContinuation hshape
    cases hbefore : event.message with
    | none =>
      simp only [Event.continuedBy, hbefore, Option.some_inj] at hmessage
      rw [← hmessage, entry.splitOn_eq, List.mem_singleton] at hl
      rw [hl]
      exact hline
    | some before =>
      simp only [Event.continuedBy, hbefore, Option.some_inj] at hmessage
      rw [← hmessage, splitOn_append rfl, entry.splitOn_eq, List.mem_append,
        List.mem_singleton] at hl
      rcases hl with hl | rfl
      · exact printed.body herror before hbefore l hl
      · exact hline
  remark hstatus := by
    rw [status_continuedBy, isError_iff.mp herror] at hstatus
    cases hstatus

/-! ## Texts -/

namespace Parser

/-- Every line keeps the events printed. -/
theorem printed_take {p : Parser} {line : String} (linked : p.Linked)
    (printed : ∀ event ∈ p.events, event.Printed) (entry : IsEntry line) :
    ∀ event ∈ (p.take line).1.events, event.Printed :=
  forall_mem_events_take linked printed (fun _ hevent => printed_of_event? entry hevent)
    (fun hshape _ => printed_generalError entry hshape)
    (fun hshape _ herror hprinted => hprinted.continuedBy herror entry hshape)

/-- Lines that the parser classifies keep its events in order and printed. -/
theorem canonical_takeAll {p : Parser} (orderly : p.Orderly)
    (printed : ∀ event ∈ p.events, event.Printed) {taken : List String}
    (entries : ∀ line ∈ taken, IsEntry line) : Canonical (p.takeAll taken).events := by
  induction taken generalizing p with
  | nil => exact ⟨orderly.wellFormed, printed, orderly.apart⟩
  | cons line rest ih =>
    have horderly := orderly_take p line orderly
    have hprinted := printed_take orderly.linked printed (entries line List.mem_cons_self)
    rw [takeAll_cons]
    exact ih horderly hprinted fun l hl => entries l (List.mem_cons_of_mem line hl)

end Parser

/-- Outside of a dry run the events of a text are canonical. -/
theorem canonical_read (text : String) : Canonical (read text false).events := by
  have hstart : ∀ event ∈ (Parser.start false).events, event.Printed :=
    fun _ hevent => absurd hevent List.not_mem_nil
  rw [events_read]
  exact Parser.canonical_takeAll (Parser.orderly_start false) hstart
    fun _ hline => isEntry_of_mem_entries hline

end ContainerOps.Progress
