import ContainerOps.Proofs.Progress.Blocks
import ContainerOps.Proofs.Progress.Canonical
import ContainerOps.Proofs.Progress.Notices

/-!
# Writing events down

An event is written as a line of its own, with the lines of its message below it if it is an
error.  Reading what was written gives the same events again, and there is something to write for
every text: the canonical events are those that some text has.

Main results:

- `event?_of_ownLine?`: the line of an event has that event, but for the lines below it.
- `Parser.takeAll_written`: the lines of an event add that event.
- `Parser.takeAll_flatMap_written`: the lines of canonical events add these events and have no
  notices.
- `read_writtenText`: reading undoes writing.
-/

namespace ContainerOps.Progress

open ContainerOps.Text

/-! ## Written events -/

namespace Event

/-- What an event says about its resource: its status, or the text in the place of one. -/
def standing (event : Event) : String :=
  match event.status with
  | some status => status.token
  | none => event.message.getD ""

/-- The line of an event itself: `<Kind> <id> <status or message>` if its kind of resource has a
word, and else `<id> <status>`.  There is none if the event is about nothing in particular. -/
def ownLine? (event : Event) : Option String :=
  match event.kind.word? with
  | some word => some (word ++ " " ++ event.id ++ " " ++ event.standing)
  | none => if event.id = "" then none else some (event.id ++ " " ++ event.standing)

/-- The lines of the message of an error. -/
def body (event : Event) : List String :=
  match event.message with
  | some message => if event.isError then splitOn '\n' message else []
  | none => []

/-- An event in lines. -/
def written (event : Event) : List String :=
  event.ownLine?.toList ++ event.body

/-- An event as its own line has it, without the message below. -/
def bare (event : Event) : Event :=
  if event.isError then { event with message := none } else event

end Event

/-- Events in lines, one below the other. -/
def writtenText (events : List Event) : String :=
  join "\n" (events.flatMap Event.written)

/-! ## Lines of their own -/

/-- A word can stand on a line. -/
theorem isEntry_of_isWord {text : String} (hword : IsWord text.toList) : IsEntry text := by
  refine ⟨?_, hword.isTrimmed, fun c hc => ?_⟩
  · rintro rfl
    exact hword.1 rfl
  · cases hbreak : isLineBreak c with
    | false => rfl
    | true =>
      have hblank := isBlank_of_isLineBreak hbreak
      rw [hword.2 c hc] at hblank
      cases hblank

/-- Two texts that can stand on lines can stand on one, with a space between them. -/
theorem IsEntry.append {first second : String} (hfirst : IsEntry first)
    (hsecond : IsEntry second) : IsEntry (first ++ " " ++ second) := by
  have hfirst_ne : first.toList ≠ [] := by simpa using hfirst.ne_empty
  have hsecond_ne : second.toList ≠ [] := by simpa using hsecond.ne_empty
  have hlist : (first ++ " " ++ second).toList = first.toList ++ ' ' :: second.toList := by simp
  refine ⟨?_, ?_, ?_⟩
  · rw [Ne, ← String.toList_inj, hlist]
    exact List.append_ne_nil_of_left_ne_nil hfirst_ne _
  · rw [hlist, isTrimmed_iff, List.head?_append_of_ne_nil _ hfirst_ne, List.getLast?_append_cons,
      List.getLast?_cons_of_ne_nil hsecond_ne]
    exact ⟨(isTrimmed_iff.mp hfirst.trimmed).1, (isTrimmed_iff.mp hsecond.trimmed).2⟩
  · rw [hlist, List.forall_mem_append, List.forall_mem_cons]
    exact ⟨hfirst.one_line, by decide, hsecond.one_line⟩

/-- Two words with a space between them are a line of two words. -/
theorem isTwoWords_append {first second : String} (hfirst : IsWord first.toList)
    (hsecond : IsWord second.toList) : IsTwoWords (first ++ " " ++ second) first second := by
  refine ⟨[], [' '], [], nofun, by decide, by decide, nofun, hfirst, hsecond, ?_⟩
  simp

namespace Event

/-- What a canonical event says about its resource fits at the end of a line. -/
theorem isEntry_standing {event : Event} (wellFormed : event.WellFormed)
    (printed : event.Printed) : IsEntry event.standing := by
  unfold standing
  cases hstatus : event.status with
  | some status => exact isEntry_of_isWord status.isWord_token
  | none =>
    obtain ⟨_, _, message, hmessage, hfree⟩ := wellFormed.isRemark hstatus
    rw [hmessage, Option.getD_some]
    refine ⟨hfree.ne_empty, hfree.trimmed, ?_⟩
    exact forall_not_isLineBreak_iff.mpr (printed.remark hstatus message hmessage)

/-- What an event says about its resource makes up the event, but for the lines below it. -/
theorem resourceEvent_standing {event : Event} {word : String}
    (wellFormed : event.WellFormed) (hword : event.kind.word? = some word) :
    Parser.resourceEvent event.kind event.id event.standing = event.bare := by
  obtain ⟨kind, id, status, message⟩ := event
  unfold Parser.resourceEvent standing bare isError
  rcases ((wellFormed_iff_of_word? hword).mp wellFormed).2 with h | h | h
  · obtain ⟨⟨found, rfl, hne⟩, rfl⟩ := h
    simp only [Status.ofToken?_token, ite_self]
  · obtain rfl : status = some .error := h
    simp only [Status.ofToken?_token]
    rfl
  · obtain ⟨rfl, text, rfl, hfree⟩ := h
    simp [hfree.no_token]

/-- An event that is about something is about a word. -/
theorem WellFormed.isWord_id {event : Event} (wellFormed : event.WellFormed)
    (hid : event.id ≠ "") : IsWord event.id.toList := by
  unfold WellFormed at wellFormed
  split at wellFormed
  case h_6 => exact wellFormed.2.resolve_right fun h => hid h.1
  all_goals exact wellFormed.1

/-- The line of an event has that event, but for the lines below it. -/
theorem event?_of_ownLine? {event : Event} (wellFormed : event.WellFormed)
    (printed : event.Printed) {line : String} (hown : event.ownLine? = some line) :
    (classify line).event? = some event.bare := by
  unfold ownLine? at hown
  cases hword : event.kind.word? with
  | some word =>
    rw [hword] at hown
    cases hown
    obtain ⟨hne, htrimmed, hline⟩ := isEntry_standing wellFormed printed
    have hid := ((wellFormed_iff_of_word? hword).mp wellFormed).1
    have hresource : IsResourceLine (word ++ " " ++ event.id ++ " " ++ event.standing)
        event.kind event.id event.standing := by
      refine ⟨word, [], [' '], [' '], [], hword, nofun, by decide, by decide, by decide,
        by decide, nofun, hid, hne, htrimmed, (forall_not_isLineBreak_iff.mp hline).1, ?_⟩
      simp
    rw [classify_eq_resource_iff.mpr hresource, Shape.event?,
      resourceEvent_standing wellFormed hword]
  | none =>
    rw [hword] at hown
    dsimp only at hown
    split at hown
    · cases hown
    · rename_i hne
      cases hown
      have hid := wellFormed.isWord_id hne
      obtain ⟨kind, id, status, message⟩ := event
      cases kind with
      | unknown =>
        obtain rfl : status = some .error := wellFormed.1
        have htwo := isTwoWords_append hid Status.error.isWord_token
        rw [show standing ⟨.unknown, id, some .error, message⟩ = Status.error.token from rfl,
          classify_eq_error_iff.mpr htwo]
        rfl
      | service =>
        obtain ⟨_, hpull, rfl⟩ := wellFormed
        obtain ⟨found, hfound, rfl⟩ : ∃ found ∈ Status.pull, status = some found := by
          rcases hpull with rfl | rfl
          · exact ⟨.pulled, by decide, rfl⟩
          · exact ⟨.pulling, by decide, rfl⟩
        have htwo := isTwoWords_append hid found.isWord_token
        have herror : found.isError = false := by
          cases found <;> first | rfl | exact absurd hfound (by decide)
        rw [show standing ⟨.service, id, some found, none⟩ = found.token from rfl,
          classify_eq_pull_iff.mpr ⟨hfound, htwo⟩]
        simp [Shape.event?, bare, isError, herror]
      | _ => cases hword

/-! ## Lines below -/

/-- Only an error has lines below its own. -/
theorem body_of_not_isError {event : Event} (herror : event.isError = false) :
    event.body = [] := by
  unfold body
  cases event.message <;> simp [herror]

/-- The lines below an error are its message. -/
theorem messageOf?_body {event : Event} (herror : event.isError = true) :
    messageOf? event.body = event.message := by
  unfold body messageOf?
  cases event.message with
  | none => rfl
  | some message =>
    have hne : splitOn '\n' message ≠ [] := by simpa [splitOn] using pieces_ne_nil _ _
    simp only [herror, if_true, List.isEmpty_iff, hne, if_false]
    rw [join_splitOn rfl]

/-- The lines below an error make it what it is. -/
theorem foldl_continuedBy_bare {event : Event} (herror : event.isError = true) :
    event.body.foldl Event.continuedBy event.bare = event := by
  rw [foldl_continuedBy, bare, if_pos herror, messageOf?_body herror]

/-- The line of an event is an error if the event is one. -/
theorem isError_bare (event : Event) : event.bare.isError = event.isError := by
  unfold bare
  split <;> rfl

/-- The lines below an error can stand there. -/
theorem Printed.isContinuation_of_mem_body {event : Event} (printed : event.Printed)
    {line : String} (hline : line ∈ event.body) : IsContinuation line := by
  unfold Event.body at hline
  split at hline
  · rename_i message hmessage
    split at hline
    · rename_i herror
      exact printed.body herror message hmessage line hline
    · cases hline
  · cases hline

/-- An event without a line of its own is a general error. -/
theorem WellFormed.general {event : Event} (wellFormed : event.WellFormed)
    (hown : event.ownLine? = none) :
    ∃ message, event = generalError message ∧ startsWith message generalErrorMark = true := by
  unfold ownLine? at hown
  split at hown
  · cases hown
  · split at hown
    · rename_i hid
      have hnot : ¬IsWord event.id.toList := by
        rw [hid]
        exact fun h => h.1 rfl
      obtain ⟨kind, id, status, message⟩ := event
      cases kind with
      | unknown =>
        obtain rfl : status = some .error := wellFormed.1
        obtain ⟨rfl, text, rfl, hmark⟩ := wellFormed.2.resolve_left hnot
        exact ⟨text, rfl, hmark⟩
      | _ => exact absurd wellFormed.1 hnot
    · cases hown

/-- The first line of a general error has its mark. -/
theorem exists_splitOn_of_mark {message : String}
    (hmark : startsWith message generalErrorMark = true) :
    ∃ first others, splitOn '\n' message = first :: others ∧
      startsWith first generalErrorMark = true := by
  obtain ⟨rest, hrest⟩ := Option.isSome_iff_exists.mp hmark
  rw [after?_eq_some_iff] at hrest
  obtain ⟨first, others, hpieces⟩ := List.exists_cons_of_ne_nil (pieces_ne_nil (· == '\n') rest)
  have hall : generalErrorMark.toList.all (fun c => !(c == '\n')) = true := by decide
  have huncut : ∀ c ∈ generalErrorMark.toList, (c == '\n') = false := by
    simpa only [List.all_eq_true, Bool.not_eq_true'] using hall
  refine ⟨String.ofList (generalErrorMark.toList ++ first), others.map String.ofList, ?_, ?_⟩
  · rw [splitOn, hrest, pieces_append_of_not_cut huncut hpieces]
    rfl
  · refine Option.isSome_iff_exists.mpr ⟨first, ?_⟩
    rw [after?_eq_some_iff, String.toList_ofList]

/-- The lines of a general error make that error. -/
theorem generalErrorOf?_splitOn {message : String}
    (hmark : startsWith message generalErrorMark = true) :
    generalErrorOf? (splitOn '\n' message) = some (generalError message) := by
  obtain ⟨first, others, hsplit, hfirst⟩ := exists_splitOn_of_mark hmark
  unfold generalErrorOf?
  rw [hsplit, List.dropWhile_cons_of_neg (by simp [hfirst])]
  dsimp only
  rw [← hsplit, join_splitOn rfl]

end Event

/-! ## Entries -/

namespace Event

/-- The line of an event is what the parser classifies. -/
theorem isEntry_ownLine? {event : Event} (wellFormed : event.WellFormed)
    (printed : event.Printed) {line : String} (hown : event.ownLine? = some line) :
    IsEntry line := by
  have hstanding := isEntry_standing wellFormed printed
  unfold ownLine? at hown
  cases hword : event.kind.word? with
  | some word =>
    rw [hword] at hown
    cases hown
    have hid := ((wellFormed_iff_of_word? hword).mp wellFormed).1
    have hfirst := isEntry_of_isWord (ResourceKind.isWord_word? hword)
    exact (hfirst.append (isEntry_of_isWord hid)).append hstanding
  | none =>
    rw [hword] at hown
    dsimp only at hown
    split at hown
    · cases hown
    · rename_i hid
      cases hown
      exact (isEntry_of_isWord (wellFormed.isWord_id hid)).append hstanding

/-- The lines of an event are what the parser classifies. -/
theorem isEntry_of_mem_written {event : Event} (wellFormed : event.WellFormed)
    (printed : event.Printed) {line : String} (hline : line ∈ event.written) : IsEntry line := by
  rcases List.mem_append.mp hline with hown | hbody
  · exact isEntry_ownLine? wellFormed printed (Option.mem_toList.mp hown)
  · obtain ⟨hne, htrimmed, hreturn, _⟩ := printed.isContinuation_of_mem_body hbody
    refine ⟨hne, htrimmed, forall_not_isLineBreak_iff.mpr ⟨?_, hreturn⟩⟩
    unfold body at hbody
    split at hbody
    · split at hbody
      · obtain ⟨piece, hpiece, rfl⟩ := List.mem_map.mp hbody
        intro hfeed
        rw [String.toList_ofList] at hfeed
        have hcut := (mem_of_mem_pieces hpiece _ hfeed).2
        cases hcut
      · cases hbody
    · cases hbody

end Event

/-- A line that the parser classifies is its own entry. -/
theorem IsEntry.entryOf_eq {line : String} (entry : IsEntry line) :
    entryOf false line = some line := by
  have htrimmed : Text.trimmed line = line := by
    rw [Text.trimmed, entry.trimmed, String.ofList_toList]
  rw [entryOf, htrimmed, if_neg entry.ne_empty]
  rfl

/-- Lines that the parser classifies, one below the other, are what it classifies of that text. -/
theorem entries_lines_join {printed : List String} (entry : ∀ line ∈ printed, IsEntry line) :
    entries false (lines (join "\n" printed)) = printed := by
  by_cases hnil : printed = []
  · subst hnil
    rfl
  · have huncut := fun line hline => (entry line hline).one_line
    have hlines : lines (join "\n" printed) = printed := map_pieces_join rfl rfl hnil huncut
    rw [hlines, entries, List.filterMap_congr fun line hline => (entry line hline).entryOf_eq,
      List.filterMap_some]

/-! ## Writing and reading -/

namespace Parser

/-- The lines of an event add that event and have no notices, if it is about something or nothing
is pending. -/
theorem takeAll_written {p : Parser} {event : Event} (wellFormed : event.WellFormed)
    (printed : event.Printed) (hpending : event.id = "" → p.pending = none) :
    p.takeAll event.written = p.push event ∧ p.noticesOf event.written = [] := by
  have hbody : ∀ line ∈ event.body, classify line = .unmatched :=
    fun line hline => (printed.isContinuation_of_mem_body hline).unmatched
  unfold Event.written
  cases hown : event.ownLine? with
  | some line =>
    have hevent := Event.event?_of_ownLine? wellFormed printed hown
    rw [Option.toList_some, List.singleton_append, takeAll_cons, noticesOf, take_of_event? hevent,
      List.nil_append]
    cases herror : event.isError with
    | true =>
      have hbare := event.isError_bare.trans herror
      constructor
      · rw [takeAll_push_of_isError p hbare hbody, Event.foldl_continuedBy_bare herror]
      · exact noticesOf_of_pending (pending_push_of_isError p hbare) hbody
    | false =>
      rw [Event.body_of_not_isError herror, Event.bare, herror]
      exact ⟨rfl, rfl⟩
  | none =>
    obtain ⟨message, rfl, hmark⟩ := wellFormed.general hown
    obtain ⟨first, others, hsplit, hfirst⟩ := Event.exists_splitOn_of_mark hmark
    have hnone : p.pending = none := hpending rfl
    rw [show (generalError message).body = splitOn '\n' message from rfl] at hbody ⊢
    rw [Option.toList_none, List.nil_append]
    constructor
    · rw [takeAll_of_pending_none hnone hbody, Event.generalErrorOf?_splitOn hmark]
    · rw [hsplit] at hbody ⊢
      rw [noticesOf, take_of_mark (hbody first List.mem_cons_self) hnone hfirst, List.nil_append]
      exact noticesOf_of_pending (pending_push_of_isError p rfl)
        fun line hline => hbody line (List.mem_cons_of_mem first hline)

/-- The lines of canonical events add these events and have no notices, if the first of them is
about something or nothing is pending. -/
theorem takeAll_flatMap_written {p : Parser} {events : List Event} (canonical : Canonical events)
    (hpending : ∀ event ∈ events.head?, event.id = "" → p.pending = none) :
    (p.takeAll (events.flatMap Event.written)).events = p.events ++ events ∧
      p.noticesOf (events.flatMap Event.written) = [] := by
  induction events generalizing p with
  | nil => exact ⟨(List.append_nil p.events).symm, rfl⟩
  | cons event rest ih =>
    obtain ⟨wellFormed, printed, apart⟩ := canonical
    have hevent : event.id = "" → p.pending = none := hpending event rfl
    obtain ⟨htake, hnotices⟩ := takeAll_written (wellFormed event List.mem_cons_self)
      (printed event List.mem_cons_self) hevent
    have hrest : Canonical rest :=
      ⟨fun e he => wellFormed e (List.mem_cons_of_mem event he),
        fun e he => printed e (List.mem_cons_of_mem event he), apart.tail⟩
    -- a general error comes next only if this event is no error
    have hnext : ∀ next ∈ rest.head?, next.id = "" → (p.push event).pending = none := by
      intro next hnext hid
      obtain ⟨others, rfl⟩ := List.head?_eq_some_iff.mp hnext
      exact pending_push_of_not_isError p ((List.isChain_cons_cons.mp apart).1 hid)
    obtain ⟨hevents, hquiet⟩ := ih hrest hnext
    rw [List.flatMap_cons, takeAll_append, noticesOf_append, htake, hnotices, hevents, hquiet]
    simp

end Parser

/-- The canonical events are those that some text has outside of a dry run.  Their written text
has them, and without any notices, so that writing down what was read loses nothing. -/
theorem read_writtenText :
    (∀ events, Canonical events →
      (read (writtenText events) false).events = events ∧
        (read (writtenText events) false).notices = []) ∧
    (∀ text, Canonical (read text false).events) ∧
    ∀ text, (read (writtenText (read text false).events) false).events =
      (read text false).events := by
  have hread : ∀ events, Canonical events →
      (read (writtenText events) false).events = events ∧
        (read (writtenText events) false).notices = [] := by
    intro events canonical
    have hentries : entries false (lines (writtenText events)) = events.flatMap Event.written := by
      refine entries_lines_join fun line hline => ?_
      obtain ⟨event, hevent, hline⟩ := List.mem_flatMap.mp hline
      exact event.isEntry_of_mem_written (canonical.wellFormed event hevent)
        (canonical.printed event hevent) hline
    rw [events_read, notices_read_false, hentries]
    exact Parser.takeAll_flatMap_written canonical fun _ _ _ => rfl
  exact ⟨hread, canonical_read, fun text => (hread _ (canonical_read text)).1⟩

/-- Events of every form, with a general error behind an event that is no error and with a line of
an error that would start a general error elsewhere. -/
theorem read_writtenText_of_every_form :
    ∃ events : List Event, Canonical events ∧
      events =
        [{ kind := .network, id := "n", status := none, message := some "is  old" },
          { kind := .unknown, id := "", status := some .error, message := some "Error a\nb" },
          { kind := .container, id := "c", status := some .error, message := some "Error d\ne" },
          { kind := .service, id := "s", status := some .pulling, message := none },
          { kind := .unknown, id := "u", status := some .error, message := none }] ∧
      writtenText events =
        "Network n is  old\nError a\nb\nContainer c Error\nError d\ne\ns Pulling\nu Error" ∧
      (read (writtenText events) false).events = events ∧
      (read (writtenText events) false).notices = [] := by
  obtain ⟨hread, hcanonical, _⟩ := read_writtenText
  have canonical := hcanonical
    "Network n is  old\r\nError a\n b\n\nContainer c Error\nError d\n e\ns Pulling\nu  Error"
  exact ⟨_, canonical, by decide, by decide, hread _ canonical⟩

end ContainerOps.Progress
