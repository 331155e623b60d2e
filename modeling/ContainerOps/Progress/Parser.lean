import ContainerOps.Progress.Event
import ContainerOps.Progress.Line
import ContainerOps.Text.Quoted

/-!
# Reading progress output

The parser takes one line after another.  A line of a known shape becomes an event.  A line of no
known shape belongs to the error before it, if the last recognised line was an error; otherwise it
starts a general error if it begins with the word for one, and is reported if it does not.

Main results:

- `Parser.feed_blank`: a blank line changes nothing and is not reported.
-/

namespace ContainerOps.Progress

open ContainerOps.Text

/-! ## Notices -/

/-- A remark for the user that does not make the run fail. -/
inductive Notice where
  /-- A line of a dry run does not carry its marker. -/
  | missingMarker (line : String)
  /-- A line of no known shape. -/
  | unrecognised (line : String)
  /-- A message that compose prints in the place of a status. -/
  | remark (kind : ResourceKind) (id : String) (message : String)
deriving DecidableEq

/-- A notice in words. -/
def Notice.message : Notice → String
  | .missingMarker line =>
    "Event line is missing dry-run mode marker: " ++ quoted line ++
      ". The docker compose output format may have changed."
  | .unrecognised line =>
    "Cannot parse event from line: " ++ quoted line ++
      ". The docker compose output format may have changed."
  | .remark kind id message => "Docker compose: " ++ kind.name ++ " " ++ id ++ ": " ++ message

/-! ## Markers -/

/-- What compose puts in front of every progress line of a dry run. -/
def dryRunMarker : String := "DRY-RUN MODE -"

/-- What a line that reports a general error begins with. -/
def generalErrorMark : String := "Error "

/-- A line begins with a given text. -/
def startsWith (line : String) (mark : String) : Bool :=
  (after? mark.toList line.toList).isSome

/-- The line after the marker of a dry run and the blanks behind it; none without the marker. -/
def afterMarker? (line : String) : Option String :=
  (after? dryRunMarker.toList line.toList).map fun rest => String.ofList (trimStart rest)

/-! ## The parser -/

/-- The events so far, and which of them takes the lines that follow it. -/
structure Parser where
  /-- The lines are those of a dry run. -/
  dryRun : Bool
  /-- The events so far. -/
  events : List Event
  /-- The index of the error that lines of no known shape are added to. -/
  pending : Option Nat
deriving DecidableEq

namespace Parser

/-- A parser that has read nothing. -/
def start (dryRun : Bool) : Parser :=
  { dryRun := dryRun, events := [], pending := none }

/-- The parser without its events. -/
def reset (p : Parser) : Parser :=
  start p.dryRun

/-- The parser with one more event, which takes the lines after it if it is an error. -/
def push (p : Parser) (event : Event) : Parser :=
  { p with
    events := p.events ++ [event]
    pending := if event.isError then some p.events.length else none }

/-- The event of a line about a resource. -/
def resourceEvent (kind : ResourceKind) (id text : String) : Event :=
  match Status.ofToken? text with
  | some status => { kind := kind, id := id, status := some status, message := none }
  | none => { kind := kind, id := id, status := none, message := some text }

/-- Takes a line of no known shape. -/
def takeUnmatched (p : Parser) (line : String) : Parser × List Notice :=
  match p.pending with
  | some i => ({ p with events := p.events.modify i (·.continuedBy line) }, [])
  | none =>
    if startsWith line generalErrorMark then
      (p.push { kind := .unknown, id := "", status := some .error, message := some line }, [])
    else (p, [.unrecognised line])

/-- Takes a line without blanks around it and without a marker. -/
def take (p : Parser) (line : String) : Parser × List Notice :=
  match classify line with
  | .resource kind id text => (p.push (resourceEvent kind id text), [])
  | .pull service status =>
    (p.push { kind := .service, id := service, status := some status, message := none }, [])
  | .error id =>
    (p.push { kind := .unknown, id := id, status := some .error, message := none }, [])
  | .unmatched => p.takeUnmatched line

/-- Takes a line as it was printed. -/
def feed (p : Parser) (raw : String) : Parser × List Notice :=
  let line := trimmed raw
  if line.isEmpty then (p, [])
  else if !p.dryRun then p.take line
  else
    match afterMarker? line with
    | some rest => p.take rest
    | none =>
      let taken := p.take line
      if p.pending.isNone then (taken.1, .missingMarker line :: taken.2) else taken

/-- Takes one line after another. -/
def feedAll (p : Parser) : List String → Parser × List Notice
  | [] => (p, [])
  | raw :: rest =>
    let first := p.feed raw
    let more := first.1.feedAll rest
    (more.1, first.2 ++ more.2)

/-- A blank line changes nothing and is not reported. -/
theorem feed_blank (p : Parser) {raw : String} (blank : trimmed raw = "") :
    p.feed raw = (p, []) := by
  simp [feed, blank]

end Parser

/-! ## Whole outputs -/

/-- What was read from the progress output of a run. -/
structure Reading where
  /-- The events in order. -/
  events : List Event
  /-- The notices in order. -/
  notices : List Notice

/-- The lines of a text. -/
def lines (text : String) : List String :=
  (pieces isLineBreak text.toList).map String.ofList

/-- Reads the whole progress output of a run. -/
def read (text : String) (dryRun : Bool) : Reading :=
  let done := (Parser.start dryRun).feedAll (lines text)
  { events := done.1.events, notices := done.2 }

end ContainerOps.Progress
