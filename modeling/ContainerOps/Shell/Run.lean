import ContainerOps.Shell.Call
import ContainerOps.Shell.Start

/-!
# Running scripts

Commands run one after the other and leave an outcome.  Loops and functions are left by way of what
is to be skipped, and the shell itself by a stop.  Parts of a script run in children, which share
files and channels with their parent and nothing else.  Every function takes a bound on the depth of
its calls; a script that needs more ends where it is.
-/

namespace ContainerOps.Shell

open ContainerOps.World ContainerOps.Shell.Action

/-! ## Places -/

/-- Where a command stands. -/
structure Place where
  /-- Its outcome is tested, so that it may fail. -/
  tested : Bool
  /-- Its shell has nothing more to do behind it. -/
  last : Bool

/-- A command of which the outcome is tested. -/
def Place.test : Place :=
  { tested := true, last := false }

/-- A command of which the outcome is not tested. -/
def Place.plain : Place :=
  { tested := false, last := false }

/-- A command that others follow. -/
def Place.followed (p : Place) : Place :=
  { p with last := false }

/-- A command that is the last one. -/
def Place.final (p : Place) : Place :=
  { p with last := true }

/-- How deep functions may call each other. -/
def mostCalls : Nat := 1000

/-! ## Loops -/

/-- How a round of a loop has ended. -/
inductive Round where
  /-- At its end. -/
  | through
  /-- Before its end, but the loop goes on. -/
  | again
  /-- With the loop. -/
  | over
  /-- With the function, which may have been given an outcome. -/
  | returned (given : Bool)

/-- What is skipped at the end of a round: how it has ended, and what is skipped behind it. -/
def Skip.endRound : Skip → Round × Skip
  | .nothing => (.through, .nothing)
  | .breaking n => (.over, if n ≤ 1 then .nothing else .breaking (n - 1))
  | .continuing n => if n ≤ 1 then (.again, .nothing) else (.over, .continuing (n - 1))
  | .returning given => (.returned given, .returning given)

/-- Ends a round of a loop. -/
def endRound : Action Round :=
  modifyGet fun s => (s.skip.endRound.1, { s with skip := s.skip.endRound.2 })

/-- The state behind a function or a file, of which the end may have been skipped. -/
def State.returned (s : State) : State :=
  if s.skip matches .returning _ then { s with skip := .nothing } else s

/-- Does an action in one more loop. -/
def inLoop {α : Type} (action : Action α) : Action α := do
  modify fun s => { s with loops := s.loops + 1 }
  let value ← action
  modify fun s => { s with loops := s.loops - 1 }
  return value

/-! ## Children -/

/-- How a child has ended. -/
structure Ended where
  /-- The number of its process. -/
  process : Nat
  /-- Its outcome. -/
  status : Nat
  /-- The signal that has killed it. -/
  signal : Option Nat

/-- The state in which the innermost text was read up to a line. -/
def State.readTo (s : State) (line : Nat) : State :=
  { s with readingLines := line :: s.readingLines.drop 1 }

/-- The state of a child that begins. -/
def State.forked (s : State) : State :=
  { s with
    traps := s.traps.filter fun e => e.2.isEmpty
    pending := []
    isMain := false
    jobs := []
    held := []
    readingLines := s.readingLines.drop (s.readingLines.length - 1) }

/-- Commands are to run on some signals. -/
def State.hasTraps (s : State) : Bool :=
  s.traps.any fun e => !e.2.isEmpty

/-- The state of a parent once a child has ended. -/
def State.rejoined (s child : State) : State :=
  let channels := child.world.channels.take s.world.channels.size
  { s with world := { child.world with channels := channels } }

/-- The outcome of a child that was waited for; what a signal has done to it is said. -/
def outcome (e : Ended) : Action Nat := do
  match e.signal with
  | none => return e.status
  | some signal =>
    match signalCause? signal with
    | some cause => warn (octetsOf cause ++ ['\n'])
    | none => pure ()
    return 128 + signal

/-- Notes that a child is not waited for. -/
def noteJob (e : Ended) : Action Unit :=
  modify fun s =>
    let status := (e.signal.map (128 + ·)).getD e.status
    let job : Job := { process := e.process, status := status, awaited := false }
    { s with jobs := job :: s.jobs, background := some e.process }

/-- Opens a channel, and gives its number. -/
def openChannel (channel : Channel) : Action Nat :=
  modifyGet fun s => s.addChannel channel

/-- A channel that collects what is written. -/
def collecting : Channel :=
  { target := .collected [], readable := false, writable := true }

/-- A channel that a text is read from. -/
def giving (text : Octets) : Channel :=
  { target := .text text, readable := true, writable := false }

/-- The state of a child that is not waited for: its input is empty, and it cannot be
interrupted. -/
def State.unawaited (s : State) : State :=
  let (channel, s) := s.addChannel (giving [])
  { s.lead 0 (some channel) with deaf := 2 :: 3 :: s.deaf }

/-! ## Programs -/

/-- What a program takes over from this shell. -/
def State.origin (s : State) (name : Octets) (process parent : Nat) : Origin :=
  { name := name
    environment := s.values.filterMap fun e =>
      if e.2.exported then e.2.value.map fun value => (e.1, value) else none
    directory := s.directory
    mask := s.mask
    descriptors := s.descriptors
    ignored := s.deaf ++ s.traps.filterMap fun e =>
      if e.1 ≠ 0 && e.2.isEmpty then some e.1 else none
    process := process
    parent := parent
    world := s.world }

/-- The state in which a program begins in a child. -/
def State.started (s : State) (name : Octets) : State :=
  .start (s.origin name s.world.processes s.process)

/-- The state in which a program begins in place of the shell. -/
def State.replaced (s : State) (name : Octets) : State :=
  .start (s.origin name s.process s.parent)

/-- Why a program is not run, in words, and the outcome of that. -/
abbrev Refusal := String × Nat

/-- The path of a program that has a name, or why it is not run; the outcome differs when a program
takes the place of the shell. -/
def State.locate (s : State) (search name : Octets) (replaces : Bool) : Except Refusal Octets :=
  if name.contains '/' then
    match s.entryAt name with
    | .ok (.file _ true) => .ok name
    | .ok _ => .error ("Permission denied", 126)
    | .error _ => .error ("not found", 127)
  else
    match s.findProgram search name with
    | .program path => .ok path
    | .denied => .error ("Permission denied", if replaces then 126 else 127)
    | .missing => .error ("not found", 127)

/-- The path of the script that a name stands for: the file that it names if it has a slash, or else
a file in the directories for programs. -/
def dotPath (name : Octets) : Action Octets := do
  let s ← get
  if name.contains '/' then return name
  else
    let paths := (s.searchPath.splitOn ':').map fun directory =>
      if directory.isEmpty then name else directory ++ '/' :: name
    match paths.find? fun path => s.entryAt path matches .ok (.file _ _) with
    | some path => return path
    | none => raise (name ++ octetsOf ": not found")

/-! ## Texts -/

/-- The signal to act on next: the one with the least number. -/
def State.nextSignal? (s : State) : Option Nat :=
  s.pending.min?

/-- Shows the lines of a script as they are read. -/
def echoLines (text : Octets) : Action Unit := do
  if (← get).isOn .verbose then warn text

/-- The characters between two places in a text. -/
def between (before after : Cursor) : Octets :=
  (before.unread.take (before.unread.length - after.unread.length)).filterMap fun
    | .char c => some c
    | .endOfAlias _ _ => none

/-- The lines of a text up to a number. -/
def firstLines : Nat → Octets → Octets
  | 0, _ => []
  | n + 1, text =>
    let line := text.takeWhile (· != '\n')
    match text.drop line.length with
    | [] => line
    | c :: rest => line ++ c :: firstLines n rest

/-- The rest of the text from a place on. -/
def Cursor.rest (c : Cursor) : Octets :=
  c.unread.filterMap fun
    | .char x => some x
    | .endOfAlias _ _ => none

/-! ## Commands -/

mutual

/-- Runs a command, and acts on signals before and behind it. -/
def run : Nat → Place → Node → Action Nat
  | 0, _, _ => return 0
  | fuel + 1, place, node => do
    if (← get).isOn .noexec then
      act fuel
      return 0
    else
      act fuel
      let (status, counts) ← perform fuel place node
      setStatus status
      act fuel
      if status ≠ 0 && counts && !place.tested && (← get).isOn .errexit then throw .ended
      else return status
termination_by structural fuel => fuel

/-- Runs a command.  Gives its outcome, and whether that counts where the shell is to end on
failures. -/
def perform : Nat → Place → Node → Action (Nat × Bool)
  | 0, _, _ => return (0, false)
  | fuel + 1, place, node => do
    match node with
    | .simple line assignments words redirections => do
      let status ← simple fuel place line assignments words redirections
      return (status, true)
    | .pipeline awaited parts => do
      let kept := (← get).world.channels.size
      let ended ← stages fuel place.final awaited none parts
      modify fun s => s.forgetChannels kept
      return (ended, true)
    | .negation body => do
      let status ← run fuel .test body
      if (← get).skip ≠ .nothing then return (status, false)
      else return (if status = 0 then 1 else 0, false)
    | .both left right => do
      let status ← run fuel .test left
      if status ≠ 0 || (← get).skip ≠ .nothing then return (status, false)
      else return (← run fuel place right, false)
    | .either left right => do
      let status ← run fuel .test left
      if status = 0 || (← get).skip ≠ .nothing then return (status, false)
      else return (← run fuel place right, false)
    | .sequence left right => do
      let status ← run fuel place.followed left
      if (← get).skip ≠ .nothing then return (status, false)
      else return (← run fuel place right, false)
    | .choice test body alternative => do
      let status ← run fuel .test test
      if (← get).skip ≠ .nothing then return (status, false)
      else if status = 0 then return (← run fuel place body, false)
      else
        match alternative with
        | some alternative => return (← run fuel place alternative, false)
        | none => return (0, false)
    | .loop wanted test body => do
      return (← inLoop (runWhile fuel place.followed wanted test body 0), false)
    | .each line name words body => do
      modify fun s => { s with line := line }
      let found ← Expansion.fields (substitute fuel) words
      return (← inLoop (runFor fuel place.followed name body 0 found), false)
    | .cases line word arms => do
      modify fun s => { s with line := line }
      let text ← Expansion.text (substitute fuel) .whole word
      return (← runArms fuel place text arms, false)
    | .redirected line body redirections => do
      modify fun s => { s with line := line }
      let targets ← redirections.mapM (targetOf (substitute fuel))
      leadingBack false targets do
        match ← attempt (redirectAll (substitute fuel) true [] targets) with
        | none => return (2, true)
        | some _ => return (← run fuel place.followed body, false)
    | .subshell line body redirections => do
      modify fun s => { s with line := line }
      let targets ← redirections.mapM (targetOf (substitute fuel))
      let inside : Action Unit := do
        redirectAll (substitute fuel) false [] targets
        let _ ← run fuel place.final body
      if place.last && !(← get).hasTraps then
        modify State.forked
        inside
        return ((← get).status, true)
      else
        let ended ← inChild fuel id inside
        return (← outcome ended, true)
    | .background body redirections => do
      let targets ← redirections.mapM (targetOf (substitute fuel))
      let ended ← inChild fuel State.unawaited do
        redirectAll (substitute fuel) false [] targets
        let _ ← run fuel Place.plain.final body
      noteJob ended
      return (0, true)
    | .function name body => do
      modify fun s =>
        { s with functions := (name, body) :: s.functions.filter fun e => e.1 != name }
      return (0, false)
termination_by structural fuel => fuel

/-- Runs a loop while its test has the wanted outcome; the body had an outcome before. -/
def runWhile : Nat → Place → Bool → Node → Node → Nat → Action Nat
  | 0, _, _, _, _, status => return status
  | fuel + 1, place, wanted, test, body, status => do
    let tested ← run fuel .test test
    match ← endRound with
    | .returned given => return if given then tested else status
    | .over => return status
    | .again => runWhile fuel place wanted test body status
    | .through =>
      if (tested == 0) != wanted then return status
      else
        let status ← run fuel place body
        match ← endRound with
        | .through => runWhile fuel place wanted test body status
        | .again => runWhile fuel place wanted test body status
        | _ => return status
termination_by structural fuel => fuel

/-- Runs a loop over fields; the body had an outcome before. -/
def runFor : Nat → Place → Octets → Node → Nat → List Octets → Action Nat
  | 0, _, _, _, status, _ => return status
  | _, _, _, _, status, [] => return status
  | fuel + 1, place, name, body, _, field :: rest => do
    setVariable name field
    let status ← run fuel place body
    match ← endRound with
    | .through => runFor fuel place name body status rest
    | .again => runFor fuel place name body status rest
    | _ => return status
termination_by structural fuel => fuel

/-- Runs the first arm that has a pattern for a text. -/
def runArms : Nat → Place → Octets → List (List Word × Option Node) → Action Nat
  | 0, _, _, _ => return 0
  | _, _, _, [] => return 0
  | fuel + 1, place, text, (patterns, body) :: rest => do
    if ← anyFits (substitute fuel) text patterns then
      match body with
      | some body => run fuel place body
      | none => return 0
    else runArms fuel place text rest
termination_by structural fuel => fuel

/-- Runs commands of which each reads what the one before writes.  The first reads from a channel if
one is given. -/
def stages : Nat → Place → Bool → Option Nat → List Node → Action Nat
  | 0, _, _, _, _ => return 0
  | _, _, _, _, [] => return 0
  | fuel + 1, place, awaited, input, node :: rest => do
    let led (s : State) : State :=
      match input with
      | some channel => s.lead 0 (some channel)
      | none => if awaited then s else s.unawaited
    let body : Action Unit := do
      let _ ← run fuel place node
    match rest with
    | [] => do
      let ended ← inChild fuel led body
      if awaited then outcome ended
      else
        noteJob ended
        return 0
    | rest => do
      let written ← openChannel collecting
      let ended ← inChild fuel (fun s => (led s).lead 1 (some written)) body
      if awaited then
        let _ ← outcome ended
      let read ← openChannel (giving ((← get).collected written))
      stages fuel place awaited (some read) rest
termination_by structural fuel => fuel

/-- Runs a simple command. -/
def simple : Nat → Place → Nat → List Word → List Word → List Redirection → Action Nat
  | 0, _, _, _, _, _ => return 0
  | fuel + 1, place, line, assignments, words, redirections => do
    modify fun s => { s with line := line, substituted := 0 }
    let call ← choose (substitute fuel) fuel words
    let depth := (← get).frames.length
    if call.framed then modify fun s => { s with frames := [] :: s.frames }
    let errors := (← get).channelNumber? 2
    let targets ← redirections.mapM (targetOf (substitute fuel))
    let status ← leadingBack call.stays targets do
      match ← attempt (redirectAll (substitute fuel) true [] targets) with
      | none => if call.special then throw .failed else return 2
      | some _ => do
        let texts ← assignAll (substitute fuel) call assignments
        showCommand (substitute fuel) errors (texts ++ call.shown)
        invoke fuel place call
    dropFrames depth
    return status
termination_by structural fuel => fuel

/-- Runs what a simple command names. -/
def invoke : Nat → Place → Call → Action Nat
  | 0, _, _ => return 0
  | fuel + 1, place, call => do
    match call.runs, call.args with
    | .function body, _ :: args => callFunction fuel place body args
    | .builtin name, word :: args => do
      let before ← get
      modify fun s => { s with caller := some word }
      let done ← outcomeOf do
        let status ← builtin fuel place name args
        flush
        let s ← get
        if s.unwritten then complain ((s.caller.getD []) ++ octetsOf ": I/O error")
        return if s.unwritten then status ||| 1 else status
      modify fun s =>
        { s with
          caller := before.caller
          held := []
          unwritten := false
          readingLines := before.readingLines }
      match done with
      | .error .failed => if call.special then throw .failed else return (← get).status
      | done => resume done
    | .program, name :: args => do
      external fuel place (call.search.getD (← get).searchPath) name args
    | _, _ => return (← get).substituted
termination_by structural fuel => fuel

/-- Runs a function. -/
def callFunction : Nat → Place → Node → List Octets → Action Nat
  | 0, _, _, _ => return 0
  | fuel + 1, place, body, args => do
    let before ← get
    if mostCalls ≤ before.calls then
      raise (octetsOf "Maximum function recursion depth (" ++ numeral mostCalls ++
        octetsOf ") reached")
    else
      set { before with arguments := .of args, loops := 0, calls := before.calls + 1 }
      let done ← outcomeOf (run fuel place.followed body)
      modify fun s =>
        { s.returned with
          arguments := before.arguments, loops := before.loops, calls := before.calls }
      let _ ← resume done
      return (← get).status
termination_by structural fuel => fuel

/-- Runs a command of the shell. -/
def builtin : Nat → Place → String → List Octets → Action Nat
  | 0, _, _, _ => return 0
  | fuel + 1, place, name, args => do
    match name with
    | "eval" => evalText fuel place.followed false ([' '].intercalate args)
    | "." =>
      match args with
      | [] => return 0
      | name :: _ => do
        let path ← dotPath name
        let text ← scriptAt path
        modify fun s => { s with caller := some path }
        let status ← evalText fuel .plain true text
        modify State.returned
        return status
    | "exec" =>
      match args with
      | [] => return 0
      | name :: args => do
        let s ← get
        match s.locate s.searchPath name true with
        | .ok _ => replace fuel name args
        | .error (problem, status) => do
          complain (name ++ octetsOf (": " ++ problem))
          setStatus status
          throw .ended
    | name =>
      match builtin? name with
      | some action => action args
      | none => return 127
termination_by structural fuel => fuel

/-- Runs a program, in a child unless the shell has nothing more to do. -/
def external : Nat → Place → Octets → Octets → List Octets → Action Nat
  | 0, _, _, _, _ => return 0
  | fuel + 1, place, search, name, args => do
    let s ← get
    match s.locate search name false with
    | .error (problem, status) =>
      complain (name ++ octetsOf (": " ++ problem))
      return status
    | .ok path =>
      if !name.contains '/' then noteProgram name path
      if place.last && !s.hasTraps then replace fuel name args
      else
        let ended ← inChild fuel (fun s => s.started name) (runProgram fuel args)
        outcome ended
termination_by structural fuel => fuel

/-- Runs a program in place of the shell. -/
def replace : Nat → Octets → List Octets → Action Nat
  | 0, _, _ => return 0
  | fuel + 1, name, args => do
    modify fun s => s.replaced name
    let done ← outcomeOf (runProgram fuel args)
    match ← leave fuel done with
    | some signal => throw (.killed signal)
    | none => throw .ended
termination_by structural fuel => fuel

/-- Runs the script of a shell that has begun. -/
def runProgram : Nat → List Octets → Action Unit
  | 0, _ => return
  | fuel + 1, args => do
    let runInput : Action Unit := do
      let text ← allInput 0
      evalMain fuel (text.filter (· != nul))
    match ← task args with
    | .input => runInput
    | .file content => evalMain fuel content
    | .text script inputToo =>
      let _ ← evalText fuel .plain false script
      if inputToo then runInput
termination_by structural fuel => fuel

/-- Runs an action in a child, of which the state is prepared, up to the end of that. -/
def inChild : Nat → (State → State) → Action Unit → Action Ended
  | 0, _, _ => return { process := 0, status := 0, signal := none }
  | fuel + 1, prepare, body => do
    modify fun s =>
      { s with
        jobs := s.jobs.filter fun job => !job.awaited
        world := { s.world with processes := s.world.processes + 1 } }
    let s ← get
    set (prepare s.forked)
    let done ← outcomeOf body
    let signal ← leave fuel done
    let child ← get
    set (s.rejoined child)
    receive 17
    arrive
    return { process := s.world.processes, status := child.status % 256, signal := signal }
termination_by structural fuel => fuel

/-- Ends a shell, and gives the signal that has killed it. -/
def leave : Nat → Except Stop Unit → Action (Option Nat)
  | 0, _ => return none
  | fuel + 1, done => do
    match done with
    | .error (.killed signal) => return some signal
    | done => do
      modify fun s =>
        { s with
          status := if done matches .error .exited then s.statusBefore.getD s.status else s.status
          statusBefore := none
          skip := .nothing
          loops := 0
          showing := false
          caller := none }
      let s ← get
      match s.traps.lookup 0 with
      | none => return none
      | some action => do
        set { s with
          traps := s.traps.filter fun e => e.1 ≠ 0
          statusBefore := some s.status }
        match ← outcomeOf (evalText fuel .plain false action) with
        | .error (.killed signal) => return some signal
        | .ok _ => setStatus s.status
        | .error .exited => modify fun s => { s with status := s.statusBefore.getD s.status }
        | .error _ => pure ()
        return none
termination_by structural fuel => fuel

/-- What a command in place of a part of a word writes. -/
def substitute : Nat → Option Node → Action Octets
  | 0, _ => return []
  | _, none => return []
  | fuel + 1, some node => do
    let kept := (← get).world.channels.size
    let written ← openChannel collecting
    let ended ← inChild fuel (fun s => s.lead 1 (some written)) do
      let _ ← run fuel Place.plain.final node
    let status ← outcome ended
    let text := (← get).collected written
    modify fun s => { s.forgetChannels kept with substituted := status }
    return text
termination_by structural fuel => fuel

/-- Acts on the signals that came. -/
def act : Nat → Action Unit
  | 0 => return
  | fuel + 1 => do
    let s ← get
    match s.nextSignal? with
    | none => return
    | some signal =>
      if s.skip ≠ .nothing then return
      else
        let status := s.statusBefore.getD s.status
        set { s with
          pending := s.pending.filter (· ≠ signal)
          statusBefore := some status }
        match s.traps.lookup signal with
        | none => pure ()
        | some action =>
          let _ ← evalText fuel .plain false action
          modify fun t =>
            { t with status := if t.skip = .returning true then t.status else status }
        modify fun t => { t with statusBefore := s.statusBefore }
        act fuel
termination_by structural fuel => fuel

/-- Runs a text, of which the lines may be shown. -/
def evalText : Nat → Place → Bool → Octets → Action Nat
  | 0, _, _, _ => return 0
  | fuel + 1, place, shows, text => do
    let s ← get
    set { s with readingLines := 1 :: s.readingLines }
    let status ← evalFrom fuel place shows 0 (.ofText s.aliases s.documents text)
    modify fun t => { t with readingLines := s.readingLines }
    return status
termination_by structural fuel => fuel

/-- Runs the text that a shell was called for, whose children keep the line. -/
def evalMain : Nat → Octets → Action Unit
  | 0, _ => return
  | fuel + 1, text => do
    let s ← get
    let _ ← evalFrom fuel .plain true 0 (.ofText s.aliases s.documents text)
termination_by structural fuel => fuel

/-- Runs a text from some place on; what was run before had an outcome. -/
def evalFrom : Nat → Place → Bool → Nat → Cursor → Action Nat
  | 0, _, _, status, _ => return status
  | fuel + 1, place, shows, status, cursor => do
    let s ← get
    let cursor := { cursor with aliases := s.aliases, documents := s.documents }
    match Reader.nextCommand cursor with
    | .error e => do
      if shows then echoLines (firstLines (e.line + 1 - cursor.line) cursor.rest)
      modify fun s => { s.readTo e.line with line := e.line, atEnd := false }
      raise (octetsOf ("Syntax error: " ++ e.detail))
    | .ok (none, _) => do
      modify fun s => { s with atEnd := true }
      return status
    | .ok (some found, after) => do
      if shows then echoLines (between cursor after)
      modify fun s =>
        { s.readTo after.line with documents := after.documents, atEnd := after.isAtEnd }
      match found with
      | none => evalFrom fuel place shows status after
      | some node =>
        let status ← run fuel place node
        if (← get).skip ≠ .nothing then return status
        else evalFrom fuel place shows status after
termination_by structural fuel => fuel

end

end ContainerOps.Shell
