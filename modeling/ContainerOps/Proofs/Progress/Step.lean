import ContainerOps.Proofs.Progress.Shapes
import ContainerOps.Proofs.Text.Pieces

/-!
# Steps of the parser

Every line goes through three stages: it is trimmed and loses its marker, it is classified, and it
changes the parser in one of four ways.  The relation `Parser.Taken` lists these ways with all that
holds in each of them, so that a fact about the parser is a case analysis over it.

Main results:

- `Parser.taken`: taking a line changes the parser in one of four ways.
- `Parser.feedAll_fst`: what a parser has after some lines depends on their entries alone.
- `Parser.Reachable.invariant`: what holds at the start and after every entry holds always.
- `lines_append`: the lines of two texts on different lines.
-/

namespace ContainerOps.Progress

open ContainerOps.Text

/-! ## Entries -/

/-- A trimmed line, in a dry run without a leading marker and the blanks behind it. -/
def unmarked (dryRun : Bool) (line : String) : String :=
  if dryRun then (afterMarker? line).getD line else line

/-- The line that the parser classifies; none if nothing was printed on it. -/
def entryOf (dryRun : Bool) (raw : String) : Option String :=
  if trimmed raw = "" then none else some (unmarked dryRun (trimmed raw))

/-- The lines that the parser classifies. -/
def entries (dryRun : Bool) (raws : List String) : List String :=
  raws.filterMap (entryOf dryRun)

/-- Entries are found line by line. -/
theorem entries_append (dryRun : Bool) (before after : List String) :
    entries dryRun (before ++ after) = entries dryRun before ++ entries dryRun after :=
  List.filterMap_append

/-- The entries of a text stem from its lines that are not blank. -/
theorem mem_entries_iff {dryRun : Bool} {raws : List String} {line : String} :
    line ∈ entries dryRun raws ↔
      ∃ raw ∈ raws, trimmed raw ≠ "" ∧ unmarked dryRun (trimmed raw) = line := by
  unfold entries
  rw [List.mem_filterMap]
  constructor
  · rintro ⟨raw, hraw, hentry⟩
    unfold entryOf at hentry
    split at hentry
    · cases hentry
    · rename_i hblank
      exact ⟨raw, hraw, hblank, Option.some.inj hentry⟩
  · rintro ⟨raw, hraw, hblank, hline⟩
    exact ⟨raw, hraw, by rw [entryOf, if_neg hblank, hline]⟩

/-- The lines of two texts on different lines. -/
theorem lines_append (a b : String) : lines (a ++ "\n" ++ b) = lines a ++ lines b := by
  have hlist : (a ++ "\n" ++ b).toList = a.toList ++ '\n' :: b.toList := by simp
  have hcut : isLineBreak '\n' = true := rfl
  unfold lines
  rw [hlist, pieces_append_cons hcut, List.map_append]

/-- A line has no line break. -/
theorem isLineBreak_of_mem_lines {text line : String} (hline : line ∈ lines text) :
    ∀ c ∈ line.toList, isLineBreak c = false := by
  obtain ⟨piece, hpiece, rfl⟩ := List.mem_map.mp hline
  intro c hc
  rw [String.toList_ofList] at hc
  exact (mem_of_mem_pieces hpiece c hc).2

/-! ## General errors -/

/-- An error that belongs to no resource. -/
def generalError (message : String) : Event :=
  { kind := .unknown, id := "", status := some .error, message := some message }

/-- A general error is an error. -/
@[simp]
theorem isError_generalError (message : String) : (generalError message).isError = true := rfl

namespace Parser

/-! ## New events -/

@[simp]
theorem dryRun_push (p : Parser) (event : Event) : (p.push event).dryRun = p.dryRun := rfl

@[simp]
theorem events_push (p : Parser) (event : Event) :
    (p.push event).events = p.events ++ [event] := rfl

/-- A new error is pending. -/
theorem pending_push_of_isError (p : Parser) {event : Event} (herror : event.isError = true) :
    (p.push event).pending = some p.events.length := if_pos herror

/-- After a new event that is no error nothing is pending. -/
theorem pending_push_of_not_isError (p : Parser) {event : Event}
    (herror : event.isError = false) : (p.push event).pending = none := by
  simp [push, herror]

/-! ## One entry -/

/-- A change at the end of some events. -/
theorem modify_concat (init : List Event) (last : Event) (change : Event → Event) :
    (init ++ [last]).modify init.length change = init ++ [change last] := by
  induction init with
  | nil => rfl
  | cons event init ih => rw [List.cons_append, List.length_cons, List.modify_succ_cons, ih]; rfl

/-- What taking a line does, and what holds when it does so. -/
inductive Taken (p : Parser) (line : String) : Parser × List Notice → Prop where
  /-- A line of a known shape becomes an event. -/
  | recognised {event : Event} (shape : (classify line).event? = some event) :
      Taken p line (p.push event, [])
  /-- A line of no known shape goes to the pending error. -/
  | continued {i : Nat} (shape : classify line = .unmatched) (pending : p.pending = some i) :
      Taken p line ({ p with events := p.events.modify i (·.continuedBy line) }, [])
  /-- A line of no known shape starts a general error. -/
  | opened (shape : classify line = .unmatched) (pending : p.pending = none)
      (mark : startsWith line generalErrorMark = true) :
      Taken p line (p.push (generalError line), [])
  /-- A line of no known shape is reported. -/
  | reported (shape : classify line = .unmatched) (pending : p.pending = none)
      (mark : startsWith line generalErrorMark = false) :
      Taken p line (p, [.unrecognised line])

/-- A line of no known shape is added to the pending error. -/
theorem take_of_pending {p : Parser} {line : String} {i : Nat}
    (hshape : classify line = .unmatched) (hpending : p.pending = some i) :
    p.take line = ({ p with events := p.events.modify i (·.continuedBy line) }, []) := by
  simp only [take, takeUnmatched, hshape, hpending]

/-- A line of no known shape that begins with the mark starts a general error if none is
pending. -/
theorem take_of_mark {p : Parser} {line : String} (hshape : classify line = .unmatched)
    (hpending : p.pending = none) (hmark : startsWith line generalErrorMark = true) :
    p.take line = (p.push (generalError line), []) := by
  simp only [take, takeUnmatched, hshape, hpending, if_pos hmark, generalError]

/-- Any other line of no known shape is reported if no error is pending. -/
theorem take_of_no_mark {p : Parser} {line : String} (hshape : classify line = .unmatched)
    (hpending : p.pending = none) (hmark : startsWith line generalErrorMark = false) :
    p.take line = (p, [.unrecognised line]) := by
  simp [take, takeUnmatched, hshape, hpending, hmark]

/-- A line of a known shape becomes an event. -/
theorem take_of_event? {p : Parser} {line : String} {event : Event}
    (hevent : (classify line).event? = some event) : p.take line = (p.push event, []) := by
  unfold take
  cases hshape : classify line with
  | unmatched => rw [hshape] at hevent; cases hevent
  | _ => rw [hshape] at hevent; cases hevent; rfl

/-- Taking a line changes the parser in one of four ways. -/
theorem taken (p : Parser) (line : String) : Taken p line (p.take line) := by
  cases hevent : (classify line).event? with
  | some event =>
    rw [take_of_event? hevent]
    exact .recognised hevent
  | none =>
    have hshape : classify line = .unmatched := Shape.event?_eq_none_iff.mp hevent
    cases hpending : p.pending with
    | some i =>
      rw [take_of_pending hshape hpending]
      exact .continued hshape hpending
    | none =>
      cases hmark : startsWith line generalErrorMark with
      | true =>
        rw [take_of_mark hshape hpending hmark]
        exact .opened hshape hpending hmark
      | false =>
        rw [take_of_no_mark hshape hpending hmark]
        exact .reported hshape hpending hmark

/-- A parser stays in its mode. -/
@[simp]
theorem dryRun_take (p : Parser) (line : String) : (p.take line).1.dryRun = p.dryRun := by
  have htaken := p.taken line
  generalize p.take line = result at htaken ⊢
  cases htaken <;> rfl

/-! ## Lines and sequences of lines -/

/-- What a parser has after a line depends on its entry alone. -/
theorem feed_fst (p : Parser) (raw : String) :
    (p.feed raw).1 = match entryOf p.dryRun raw with
      | none => p
      | some line => (p.take line).1 := by
  unfold feed entryOf unmarked
  by_cases hblank : trimmed raw = ""
  · simp [hblank]
  · cases hmode : p.dryRun with
    | false => simp [hblank]
    | true =>
      cases hmarker : afterMarker? (trimmed raw) with
      | some rest => simp [hblank, hmarker]
      | none => cases hpending : p.pending <;> simp [hblank, hmarker]

/-- A parser stays in its mode, whatever it is fed. -/
@[simp]
theorem dryRun_feed (p : Parser) (raw : String) : (p.feed raw).1.dryRun = p.dryRun := by
  rw [feed_fst]
  split <;> simp

/-- Takes one entry after another. -/
def takeAll (p : Parser) (taken : List String) : Parser :=
  taken.foldl (fun p line => (p.take line).1) p

@[simp]
theorem takeAll_nil (p : Parser) : p.takeAll [] = p := rfl

@[simp]
theorem takeAll_cons (p : Parser) (line : String) (rest : List String) :
    p.takeAll (line :: rest) = (p.take line).1.takeAll rest := rfl

/-- Entries are taken in order. -/
theorem takeAll_append (p : Parser) (before after : List String) :
    p.takeAll (before ++ after) = (p.takeAll before).takeAll after :=
  List.foldl_append

/-- What a parser has after some lines depends on their entries alone. -/
theorem feedAll_fst (p : Parser) (raws : List String) :
    (p.feedAll raws).1 = p.takeAll (entries p.dryRun raws) := by
  induction raws generalizing p with
  | nil => rfl
  | cons raw rest ih =>
    simp only [feedAll, ih, dryRun_feed, entries, List.filterMap_cons]
    rw [feed_fst]
    cases entryOf p.dryRun raw <;> rfl

/-- A parser stays in its mode, however much it is fed. -/
@[simp]
theorem dryRun_feedAll (p : Parser) (raws : List String) :
    (p.feedAll raws).1.dryRun = p.dryRun := by
  induction raws generalizing p with
  | nil => rfl
  | cons raw rest ih => simp only [feedAll, ih, dryRun_feed]

/-! ## Reachable parsers -/

/-- The parsers that some lines and resets lead to. -/
inductive Reachable : Parser → Prop where
  /-- A parser that has read nothing. -/
  | start (dryRun : Bool) : Reachable (start dryRun)
  /-- A parser after one more line. -/
  | feed {p : Parser} (raw : String) (before : Reachable p) : Reachable (p.feed raw).1
  /-- A parser without its events. -/
  | reset {p : Parser} (before : Reachable p) : Reachable p.reset

/-- Several lines lead to a reachable parser too. -/
theorem Reachable.feedAll {p : Parser} (reachable : p.Reachable) (raws : List String) :
    (p.feedAll raws).1.Reachable := by
  induction raws generalizing p with
  | nil => exact reachable
  | cons raw rest ih =>
    have hfirst : (p.feed raw).1.Reachable := .feed raw reachable
    simp only [Parser.feedAll]
    exact ih hfirst

/-- What holds at the start and after every entry holds always. -/
theorem Reachable.invariant {Holds : Parser → Prop}
    (hstart : ∀ dryRun, Holds (Parser.start dryRun))
    (htake : ∀ p line, Holds p → Holds (p.take line).1) {p : Parser} (reachable : p.Reachable) :
    Holds p := by
  induction reachable with
  | start dryRun => exact hstart dryRun
  | reset _ _ => exact hstart _
  | @feed p raw _ ih =>
    rw [feed_fst]
    split
    · exact ih
    · exact htake p _ ih

end Parser

/-- The events of a text come from its entries. -/
theorem events_read (text : String) (dryRun : Bool) :
    (read text dryRun).events =
      ((Parser.start dryRun).takeAll (entries dryRun (lines text))).events := by
  have hdone := (Parser.start dryRun).feedAll_fst (lines text)
  exact congrArg Parser.events hdone

end ContainerOps.Progress
