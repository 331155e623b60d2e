import ContainerOps.Proofs.Progress.Blocks
import ContainerOps.Proofs.Progress.Notices
import ContainerOps.Proofs.Progress.Pending
import Mathlib.Data.List.TakeWhile

/-!
# Parsers with a history

Of what a parser has read before, only a pending error matters to the lines that follow.  Without
one a parser does with them what a fresh parser does, behind the events it has already.  With one it
first adds lines of no known shape to that error, up to the first line of a known shape; from there
on it makes the events that a fresh parser makes.

Main results:

- `Parser.feedAll_behind`: a parser does the same behind any events.
- `Parser.feedAll_of_pending_none`: without a pending error the history does not matter.
- `Parser.Linked.events_feedAll_concat`: with one it takes some lines and does not matter to the
  rest.
- `read_append`: how a text is read whose first lines are those of another text.
-/

namespace ContainerOps.Progress

open ContainerOps.Text

/-! ## Lines that continue an error -/

/-- A line has no known shape, or nothing was printed on it. -/
def continues (dryRun : Bool) (raw : String) : Bool :=
  match entryOf dryRun raw with
  | none => true
  | some line => classify line = .unmatched

/-- The entries of the lines before the first one of a known shape. -/
def continuation (dryRun : Bool) (raws : List String) : List String :=
  entries dryRun (raws.takeWhile (continues dryRun))

/-- The lines from the first one of a known shape on. -/
def remainder (dryRun : Bool) (raws : List String) : List String :=
  raws.dropWhile (continues dryRun)

/-- An error event with more lines of message. -/
def Event.continuedByAll (event : Event) (body : List String) : Event :=
  { event with message := messageOf? (event.message.toList ++ body) }

/-- Continuing an event by several lines is continuing it line by line. -/
theorem foldl_continuedBy_eq (event : Event) (body : List String) :
    body.foldl Event.continuedBy event = event.continuedByAll body := by
  rw [foldl_continuedBy, Event.continuedByAll]
  cases event.message <;> rfl

/-- An event that is continued by no line stays as it is. -/
@[simp]
theorem Event.continuedByAll_nil (event : Event) : event.continuedByAll [] = event :=
  (foldl_continuedBy_eq event []).symm

/-- Lines are added behind the message that is there. -/
theorem Event.message_continuedByAll {event : Event} {message : String}
    (hmessage : event.message = some message) (body : List String) :
    ∃ more, (event.continuedByAll body).message = some (message ++ more) := by
  have hjoin : (event.continuedByAll body).message = some (join "\n" (message :: body)) := by
    rw [Event.continuedByAll, hmessage]
    rfl
  by_cases hnil : body = []
  · refine ⟨"", ?_⟩
    rw [hjoin, hnil, join_singleton, String.append_empty]
  · refine ⟨"\n" ++ join "\n" body, ?_⟩
    rw [hjoin, join_cons "\n" message hnil, String.append_assoc]

/-- Lines that continue an error have no known shape. -/
theorem unmatched_of_mem_continuation {dryRun : Bool} {raws : List String} {line : String}
    (hline : line ∈ continuation dryRun raws) : classify line = .unmatched := by
  obtain ⟨raw, hraw, hentry⟩ := List.mem_filterMap.mp hline
  have hcontinues := List.mem_takeWhile_imp hraw
  rw [continues, hentry] at hcontinues
  exact of_decide_eq_true hcontinues

/-- The lines from the first one of a known shape on begin with such a line. -/
theorem remainder_eq_cons {dryRun : Bool} {raws rest : List String} {raw : String}
    (hremainder : remainder dryRun raws = raw :: rest) :
    ∃ line event, entryOf dryRun raw = some line ∧ (classify line).event? = some event := by
  have hhead := List.head?_dropWhile_not (continues dryRun) raws
  rw [← remainder, hremainder, List.head?_cons] at hhead
  dsimp only [continues] at hhead
  cases hentry : entryOf dryRun raw with
  | none => rw [hentry] at hhead; cases hhead
  | some line =>
    rw [hentry] at hhead
    cases hevent : (classify line).event? with
    | some event => exact ⟨line, event, rfl, hevent⟩
    | none =>
      rw [Shape.event?_eq_none_iff] at hevent
      exact absurd hevent (of_decide_eq_false hhead)

/-- The lines of a text that is put together from lines. -/
theorem lines_join {raws : List String} (hne : raws ≠ [])
    (huncut : ∀ raw ∈ raws, ∀ c ∈ raw.toList, isLineBreak c = false) :
    lines (join "\n" raws) = raws :=
  map_pieces_join rfl rfl hne huncut

namespace Parser

/-! ## Events in front -/

/-- A parser that had other events before its own. -/
def behind (p : Parser) (earlier : List Event) : Parser :=
  { p with
    events := earlier ++ p.events
    pending := p.pending.map (earlier.length + ·) }

@[simp]
theorem dryRun_behind (p : Parser) (earlier : List Event) :
    (p.behind earlier).dryRun = p.dryRun := rfl

@[simp]
theorem events_behind (p : Parser) (earlier : List Event) :
    (p.behind earlier).events = earlier ++ p.events := rfl

/-- A parser without a pending error is a fresh one behind its events. -/
theorem eq_start_behind {p : Parser} (hpending : p.pending = none) :
    p = (start p.dryRun).behind p.events := by
  cases p
  simp_all [behind, start]

/-- New events go behind the others. -/
theorem push_behind (p : Parser) (earlier : List Event) (event : Event) :
    (p.behind earlier).push event = (p.push event).behind earlier := by
  cases herror : event.isError <;> simp [behind, push, herror]

/-- A change behind other events. -/
theorem modify_append_right (earlier events : List Event) (i : Nat) (change : Event → Event) :
    (earlier ++ events).modify (earlier.length + i) change = earlier ++ events.modify i change := by
  induction earlier with
  | nil => simp
  | cons event rest ih =>
    rw [List.length_cons, Nat.add_right_comm, List.cons_append, List.modify_succ_cons, ih]
    rfl

/-- A parser takes an entry in the same way behind any events. -/
theorem take_behind (p : Parser) (earlier : List Event) (line : String) :
    (p.behind earlier).take line = ((p.take line).1.behind earlier, (p.take line).2) := by
  have htaken := p.taken line
  generalize p.take line = result at htaken ⊢
  cases htaken with
  | recognised hevent => rw [take_of_event? hevent, push_behind]
  | opened hshape hpending hmark =>
    have hnone : (p.behind earlier).pending = none := by simp [behind, hpending]
    rw [take_of_mark hshape hnone hmark, push_behind]
  | reported hshape hpending hmark =>
    have hnone : (p.behind earlier).pending = none := by simp [behind, hpending]
    rw [take_of_no_mark hshape hnone hmark]
  | @continued i hshape hpending =>
    have hsome : (p.behind earlier).pending = some (earlier.length + i) := by
      simp [behind, hpending]
    rw [take_of_pending hshape hsome, events_behind, modify_append_right]
    rfl

/-- A parser reads a line in the same way behind any events. -/
theorem feed_behind (p : Parser) (earlier : List Event) (raw : String) :
    (p.behind earlier).feed raw = ((p.feed raw).1.behind earlier, (p.feed raw).2) := by
  have hmarker : (p.behind earlier).markerNotice raw = p.markerNotice raw := by
    simp [markerNotice, behind]
  refine Prod.ext ?_ ?_
  · rw [feed_fst, feed_fst, dryRun_behind]
    cases entryOf p.dryRun raw with
    | none => rfl
    | some line => simp only [take_behind]
  · rw [feed_snd, feed_snd, dryRun_behind, hmarker]
    cases entryOf p.dryRun raw with
    | none => rfl
    | some line => simp only [take_behind]

/-- A parser does the same behind any events. -/
theorem feedAll_behind (p : Parser) (earlier : List Event) (raws : List String) :
    (p.behind earlier).feedAll raws = ((p.feedAll raws).1.behind earlier, (p.feedAll raws).2) := by
  induction raws generalizing p with
  | nil => rfl
  | cons raw rest ih => simp only [feedAll, feed_behind, ih]

/-! ## After a history -/

/-- Lines are read one after another. -/
theorem feedAll_append (p : Parser) (before after : List String) :
    p.feedAll (before ++ after) =
      (((p.feedAll before).1.feedAll after).1,
        (p.feedAll before).2 ++ ((p.feedAll before).1.feedAll after).2) := by
  induction before generalizing p with
  | nil => rfl
  | cons raw rest ih => simp only [List.cons_append, feedAll, ih, List.append_assoc]

/-- Without a pending error a parser does what a fresh one does, behind its events. -/
theorem feedAll_of_pending_none {p : Parser} (hpending : p.pending = none) (raws : List String) :
    p.feedAll raws =
      (((start p.dryRun).feedAll raws).1.behind p.events, ((start p.dryRun).feedAll raws).2) := by
  conv_lhs => rw [eq_start_behind hpending, feedAll_behind]

/-- From a line of a known shape on, a parser makes the events that a fresh one makes. -/
theorem events_feedAll_remainder (p : Parser) (raws : List String) :
    (p.feedAll (remainder p.dryRun raws)).1.events =
      p.events ++ ((start p.dryRun).feedAll (remainder p.dryRun raws)).1.events := by
  cases hremainder : remainder p.dryRun raws with
  | nil => simp [feedAll, start]
  | cons raw rest =>
    obtain ⟨line, event, hentry, hevent⟩ := remainder_eq_cons hremainder
    -- the new event takes the place of the pending error, whichever that was
    have hpush : p.push event = ((start p.dryRun).push event).behind p.events := by
      rw [← push_behind]
      simp [push, behind, start]
    have hfeed : (p.feed raw).1 = p.push event := by
      rw [feed_fst, hentry]
      simp only [take_of_event? hevent]
    have hfresh : ((start p.dryRun).feed raw).1 = (start p.dryRun).push event := by
      rw [feed_fst, show (start p.dryRun).dryRun = p.dryRun from rfl, hentry]
      simp only [take_of_event? hevent]
    simp only [feedAll, hfeed, hfresh, hpush, feedAll_behind, events_behind]

section Linked

variable {p : Parser} {init : List Event} {last : Event}

/-- A pending error takes the lines of no known shape that follow. -/
theorem Linked.takeAll_of_concat (linked : p.Linked) (hevents : p.events = init ++ [last])
    (herror : last.isError = true) {body : List String}
    (hbody : ∀ line ∈ body, classify line = .unmatched) :
    (p.takeAll body).events = init ++ [last.continuedByAll body] := by
  let q : Parser := { dryRun := p.dryRun, events := init, pending := none }
  have hq : p = q.push last := linked.eq_of_events_eq (linked_push q last) rfl hevents
  rw [hq, takeAll_push_of_isError q herror hbody, foldl_continuedBy_eq]
  rfl

/-- A pending error takes the lines up to the first one of a known shape; what follows leads to the
events that it leads to by itself. -/
theorem Linked.events_feedAll_concat (linked : p.Linked) (hevents : p.events = init ++ [last])
    (herror : last.isError = true) (raws : List String) :
    (p.feedAll raws).1.events = init ++ [last.continuedByAll (continuation p.dryRun raws)] ++
      ((start p.dryRun).feedAll (remainder p.dryRun raws)).1.events := by
  have hsplit : raws = raws.takeWhile (continues p.dryRun) ++ remainder p.dryRun raws :=
    List.takeWhile_append_dropWhile.symm
  have htake : (p.takeAll (continuation p.dryRun raws)).events =
      init ++ [last.continuedByAll (continuation p.dryRun raws)] :=
    linked.takeAll_of_concat hevents herror fun _ => unmatched_of_mem_continuation
  have hrest := events_feedAll_remainder
    (p.feedAll (raws.takeWhile (continues p.dryRun))).1 raws
  rw [dryRun_feedAll] at hrest
  conv_lhs => rw [hsplit, feedAll_append]
  dsimp only
  rw [hrest, feedAll_fst p, ← htake]
  rfl

/-- The events before the last one stay, and so does the last one unless it is an error, which can
get more lines of message. -/
theorem Linked.exists_events_feedAll (linked : p.Linked) (hevents : p.events = init ++ [last])
    (raws : List String) :
    ∃ body later, (p.feedAll raws).1.events = init ++ last.continuedByAll body :: later ∧
      (last.isError = false → last.continuedByAll body = last) := by
  cases herror : last.isError with
  | true =>
    refine ⟨continuation p.dryRun raws,
      ((start p.dryRun).feedAll (remainder p.dryRun raws)).1.events, ?_, nofun⟩
    rw [linked.events_feedAll_concat hevents herror, List.append_assoc, List.singleton_append]
  | false =>
    have hpending : p.pending = none := by
      rw [linked.pending_eq_none_iff, hevents, List.getLast?_concat]
      simpa using herror
    refine ⟨[], ((start p.dryRun).feedAll raws).1.events, ?_, fun _ => last.continuedByAll_nil⟩
    rw [feedAll_of_pending_none hpending, events_behind, hevents, Event.continuedByAll_nil,
      List.append_assoc, List.singleton_append]

end Linked

end Parser

/-! ## Texts on different lines -/

/-- What a text leads to after the last line that is added to an error from before. -/
def restOf (dryRun : Bool) (text : String) : String :=
  join "\n" (remainder dryRun (lines text))

/-- The rest of a text is read as its lines are. -/
theorem events_read_restOf (dryRun : Bool) (text : String) :
    (read (restOf dryRun text) dryRun).events =
      ((Parser.start dryRun).feedAll (remainder dryRun (lines text))).1.events := by
  by_cases hnil : remainder dryRun (lines text) = []
  · have hblank : restOf dryRun text = "" := by rw [restOf, hnil]; rfl
    rw [hblank, hnil]
    rfl
  · have hlines : lines (restOf dryRun text) = remainder dryRun (lines text) :=
      lines_join hnil fun raw hraw =>
        isLineBreak_of_mem_lines (List.dropWhile_sublist _ |>.mem hraw)
    rw [read, hlines]

/-- A text is read as its first lines are, and then as the others are.  Only if the first lines end
in an error, this error is continued by the lines that follow, up to the first one of a known shape,
and what is left is read by itself.  So a parser keeps all its events but the last one, and of the
last one all but the message of an error, which is only added to. -/
theorem read_append :
    (∀ a b dryRun, (∀ event ∈ (read a dryRun).events.getLast?, event.isError = false) →
      (read (a ++ "\n" ++ b) dryRun).events =
          (read a dryRun).events ++ (read b dryRun).events ∧
        (read (a ++ "\n" ++ b) dryRun).notices =
          (read a dryRun).notices ++ (read b dryRun).notices) ∧
    (∀ a b dryRun init last, (read a dryRun).events = init ++ [last] → last.isError = true →
      (read (a ++ "\n" ++ b) dryRun).events =
        init ++ [last.continuedByAll (continuation dryRun (lines b))] ++
          (read (restOf dryRun b) dryRun).events) ∧
    ∀ p : Parser, p.Reachable → ∀ init last, p.events = init ++ [last] → ∀ raws,
      ∃ last' later, (p.feedAll raws).1.events = init ++ last' :: later ∧
        last'.kind = last.kind ∧ last'.id = last.id ∧ last'.status = last.status ∧
        (∀ message, last.message = some message →
          ∃ more, last'.message = some (message ++ more)) ∧
        (last.isError = false → last' = last) := by
  have hlinked : ∀ a dryRun, ((Parser.start dryRun).feedAll (lines a)).1.Linked := fun a dryRun =>
    ((Parser.Reachable.start dryRun).feedAll (lines a)).linked
  refine ⟨fun a b dryRun hlast => ?_, fun a b dryRun init last hevents herror => ?_,
    fun p reachable init last hevents raws => ?_⟩
  · have hpending := (hlinked a dryRun).pending_eq_none_iff.mpr hlast
    have hmode := (Parser.start dryRun).dryRun_feedAll (lines a)
    have hfeed := Parser.feedAll_of_pending_none hpending (lines b)
    rw [hmode] at hfeed
    unfold read
    rw [lines_append, Parser.feedAll_append, hfeed]
    exact ⟨rfl, rfl⟩
  · have hmode := (Parser.start dryRun).dryRun_feedAll (lines a)
    have hfeed := (hlinked a dryRun).events_feedAll_concat hevents herror (lines b)
    rw [hmode] at hfeed
    rw [events_read_restOf, read, lines_append, Parser.feedAll_append]
    exact hfeed
  · obtain ⟨body, later, hfeed, hsame⟩ :=
      reachable.linked.exists_events_feedAll hevents raws
    exact ⟨_, later, hfeed, rfl, rfl, rfl,
      fun message hmessage => Event.message_continuedByAll hmessage body, hsame⟩

/-- A dry run that breaks off in an error.  What follows goes to the error, with and without
markers, until a line of a known shape comes; behind that one a line of no known shape is left
alone. -/
theorem read_append_of_open_error :
    ∃ a b : String, a = "n Pulled\nDRY-RUN MODE - web Error\r\n one" ∧
      b = "two \n\nDRY-RUN MODE -  three\ndb Pulling\nfour" ∧
      restOf true b = "db Pulling\nfour" ∧
      (read (a ++ "\n" ++ b) true).events =
        [{ kind := .service, id := "n", status := some .pulled, message := none },
          { kind := .unknown, id := "web", status := some .error
            message := some "one\ntwo\nthree" },
          { kind := .service, id := "db", status := some .pulling, message := none }] := by
  obtain ⟨_, hopen, _⟩ := read_append
  have hread := hopen "n Pulled\nDRY-RUN MODE - web Error\r\n one"
    "two \n\nDRY-RUN MODE -  three\ndb Pulling\nfour" true
    [{ kind := .service, id := "n", status := some .pulled, message := none }]
    { kind := .unknown, id := "web", status := some .error, message := some "one" } (by decide) rfl
  exact ⟨_, _, rfl, rfl, by decide, hread.trans (by decide)⟩

end ContainerOps.Progress
