import ContainerOps.Shell.Builtin
import ContainerOps.Shell.Expansion
import ContainerOps.Shell.Reader

/-!
# Simple commands

The words of a simple command are expanded until the name of the command is known, because that
decides how the others are.  The word for plain commands in front of a name passes over functions.
Redirections are expanded before the first of them is made.
-/

namespace ContainerOps.Shell

/-! ## Names of commands -/

/-- What a simple command runs. -/
inductive Runs where
  /-- Nothing; it has no words. -/
  | nothing
  /-- A function. -/
  | function (body : Node)
  /-- A command of the shell. -/
  | builtin (name : String)
  /-- A program. -/
  | program

/-- A simple command with its words expanded. -/
structure Call where
  /-- What it runs. -/
  runs : Runs
  /-- All its fields. -/
  shown : List Octets
  /-- The fields from its name on. -/
  args : List Octets
  /-- Where its program is looked for, if that was said. -/
  search : Option Octets
  /-- Its errors end the shell. -/
  special : Bool
  /-- Its assignments hold for it alone. -/
  framed : Bool

/-- A call without words. -/
def Call.nothing : Call :=
  { runs := .nothing, shown := [], args := [], search := none, special := false, framed := false }

/-- What it runs takes the place of the shell, or what it redirects stays so. -/
def Call.stays (c : Call) : Bool :=
  c.runs matches .builtin "exec"

/-- Its assignments are seen by programs. -/
def Call.exports (c : Call) : Bool :=
  c.stays && 1 < c.args.length

/-- The fields of a command that were found so far. -/
structure Supply where
  /-- The fields that were passed, the last first. -/
  passed : List Octets
  /-- The other fields. -/
  ready : List Octets
  /-- The words that are not expanded yet. -/
  words : List Word

/-- The fields of the first word that has some, and the words behind it. -/
def Supply.fill (substitute : Substitution) : List Word → Action (List Octets × List Word)
  | [] => return ([], [])
  | word :: rest => do
    let found ← Expansion.wordFields substitute word
    if found.isEmpty then fill substitute rest else return (found, rest)

/-- Passes a field. -/
def Supply.advance (substitute : Substitution) (s : Supply) : Action Supply := do
  match s.ready with
  | [] => return s
  | [field] =>
    let (found, words) ← fill substitute s.words
    return { passed := field :: s.passed, ready := found, words := words }
  | field :: ready => return { s with passed := field :: s.passed, ready := ready }

/-- Passes the word for plain commands and its options.  Says where programs are looked for, and
whether a command follows; with other options none does. -/
def Supply.passPlain (substitute : Substitution) :
    Nat → Option Octets → Supply → Action (Option Octets × Bool × Supply)
  | 0, search, s => return (search, false, s)
  | fuel + 1, search, s => do
    let s ← s.advance substitute
    match s.ready with
    | [] => return (search, false, s)
    | ['-', '-'] :: _ => do
      let s ← s.advance substitute
      return (search, !s.ready.isEmpty, s)
    | ('-' :: c :: letters) :: _ =>
      if (c :: letters).all (· == 'p') then
        passPlain substitute fuel (some State.defaultSearchPath) s
      else return (search, false, s)
    | _ => return (search, true, s)

/-- The call that runs something under the name in front, once all other words are expanded; some
commands take assignments among them. -/
def Supply.call (substitute : Substitution) (s : Supply) (begins : Nat) (declares : Bool)
    (call : Call) : Action Call := do
  let more ←
    if declares then Expansion.declaredFields substitute s.words
    else Expansion.fields substitute s.words
  let all := s.passed.reverse ++ s.ready ++ more
  return { call with shown := all, args := all.drop begins }

/-- Finds out what the name in front means.  Behind the word for plain commands it is no function,
and what that word is decides about errors. -/
def Supply.choose (substitute : Substitution) :
    Nat → Bool → Option Octets → Supply → Action Call
  | 0, _, _, _ => return .nothing
  | fuel + 1, isPlain, search, s => do
    match s.ready with
    | [] => return .nothing
    | name :: _ =>
      let text := String.ofList name
      let begins := s.passed.length
      let call := { Call.nothing with search := search, framed := true }
      let functions := (← get).functions
      match if isPlain then none else functions.lookup name with
      | some body => s.call substitute begins false { call with runs := .function body }
      | none =>
        if text = "command" then
          match ← passPlain substitute fuel search s with
          | (search, true, s) => choose substitute fuel true search s
          | (_, false, s) => s.call substitute begins false { call with runs := .builtin text }
        else if text ∈ specialNames || text ∈ regularNames then
          let special := text ∈ specialNames && !isPlain
          s.call substitute begins (text ∈ declaringNames)
            { call with runs := .builtin text, special := special, framed := !special }
        else s.call substitute begins false { call with runs := .program }

/-- Expands the words of a simple command. -/
def choose (substitute : Substitution) (fuel : Nat) (words : List Word) : Action Call := do
  let (found, rest) ← Supply.fill substitute words
  Supply.choose substitute fuel false none { passed := [], ready := found, words := rest }

/-- Sets variables, for the command alone or to stay, and gives the assignments as texts. -/
def assignAll (substitute : Substitution) (call : Call) : List Word → Action (List Octets)
  | [] => return []
  | word :: rest => do
    let text ← Expansion.assignment substitute word
    if call.framed then Action.localize text true
    else
      let split := Action.splitAssignment text
      Action.assign split.1 (split.2.getD []) call.exports
    return text :: (← assignAll substitute call rest)

/-! ## Redirections -/

/-- A redirection with its words expanded. -/
inductive Target where
  /-- A descriptor leads to a file. -/
  | file (descriptor : Nat) (opening : Opening) (path : Octets)
  /-- A descriptor leads where another one leads, or nowhere. -/
  | duplicate (descriptor : Nat) (source : Option Nat)
  /-- A descriptor leads to a document. -/
  | document (descriptor number : Nat)

/-- The descriptor that is redirected. -/
def Target.descriptor : Target → Nat
  | .file descriptor _ _ => descriptor
  | .duplicate descriptor _ => descriptor
  | .document descriptor _ => descriptor

/-- Expands the word of a redirection. -/
def targetOf (substitute : Substitution) : Redirection → Action Target
  | .file descriptor opening path => do
    return .file descriptor opening (← Expansion.text substitute .whole path)
  | .duplicate descriptor source => return .duplicate descriptor source
  | .document descriptor number => return .document descriptor number
  | .duplicateNamed descriptor word => do
    match ← Expansion.text substitute .whole word with
    | ['-'] => return .duplicate descriptor none
    | [c] => if isDigit c then return .duplicate descriptor (some (c.toNat - 48)) else refused
    | _ => refused
where
  /-- Stops because a word names no descriptor. -/
  refused : Action Target := do
    modify fun s => { s with line := s.readingLines.headD 0 }
    Action.raise (octetsOf "Syntax error: Bad fd number")

/-- Leads a descriptor elsewhere.  One that will be led back leads nowhere as soon as it is known
that it is to follow another one; that shows if this is the one for messages. -/
def redirect (substitute : Substitution) (leadsBack : Bool) : Target → Action Unit
  | .file descriptor opening path => do
    let s ← get
    match s.openPath opening path with
    | .ok (channel, s) => set (s.lead descriptor (some channel))
    | .error fault =>
      let isNew := fault ≠ .isDirectory && fault ≠ .noDevice
      let creates := opening ≠ .input && (opening ≠ .output || !s.isOn .noclobber || isNew)
      let problem := if creates then "cannot create " else "cannot open "
      Action.raise (octetsOf problem ++ path ++ octetsOf (": " ++ fault.message opening))
  | .duplicate descriptor none => modify fun s => s.lead descriptor none
  | .duplicate descriptor (some source) => do
    let s ← get
    if source ≠ descriptor then
      match s.channelNumber? source with
      | some channel => set (s.lead descriptor (some channel))
      | none =>
        if leadsBack then set (s.lead descriptor none)
        Action.raise (numeral source ++ octetsOf ": Bad file descriptor")
  | .document descriptor number => do
    let document := ((← get).documents[number]?).getD { body := [], expands := false }
    let text ←
      if document.expands then Expansion.text substitute .document document.body
      else pure (Word.letters document.body)
    modify fun s =>
      let (channel, s) := s.addChannel { target := .text text, readable := true, writable := false }
      s.lead descriptor (some channel)

/-- Leads nowhere. -/
def Target.shuts : Target → Bool
  | .duplicate _ none => true
  | _ => false

/-- The state in which a descriptor counts as led nowhere, or does not. -/
def State.counted (s : State) (descriptor : Nat) (isShut : Bool) : State :=
  let others := s.shut.filter (· != descriptor)
  { s with shut := if isShut then descriptor :: others else others }

/-- Leads descriptors elsewhere, in order.  Each is led back once, if at all; some may have been led
elsewhere before. -/
def redirectAll (substitute : Substitution) (leadBack : Bool) (before : List Nat) :
    List Target → Action Unit
  | [] => return
  | target :: rest => do
    let descriptor := target.descriptor
    let isFirst := leadBack && !before.contains descriptor
    redirect substitute isFirst target
    if isFirst then modify fun s => s.counted descriptor target.shuts
    redirectAll substitute leadBack (descriptor :: before) rest

/-- The state in which descriptors lead where they led in another state. -/
def State.restored (s before : State) (descriptors : List Nat) : State :=
  descriptors.foldl (fun s n =>
    let isShut := before.shut.contains n
    (s.lead n (if isShut then none else before.channelNumber? n)).counted n isShut) s

/-- Does an action that leads descriptors elsewhere, which lead back afterwards, unless the action
succeeds and is to stay. -/
def leadingBack {α : Type} (stays : Bool) (targets : List Target) (action : Action α) :
    Action α := do
  if targets.isEmpty then action
  else
    let before ← get
    let outcome ← Action.outcomeOf action
    if !(stays && outcome matches .ok _) then
      modify fun s => (s.restored before (targets.map Target.descriptor)).forgetChannels
        before.world.channels.size
    Action.resume outcome

/-! ## Showing commands -/

/-- The text in front of commands that are shown.  Where the script was read to its end, so is the
first command in that text. -/
def showingFront (substitute : Substitution) : Action Octets := do
  let given := ((← get).find? (octetsOf "PS4")).getD []
  modify fun s => { s with showing := true }
  let found ← Action.attempt do
    let s ← get
    let cursor := Cursor.ofText s.aliases s.documents given
    match Reader.wholeText { cursor with again := s.atEnd, token := .endOfFile } with
    | .ok (word, after) =>
      modify fun s => { s with documents := after.documents, atEnd := after.isAtEnd }
      Expansion.text substitute .document word
    | .error e =>
      modify fun s => { s with line := e.line, atEnd := false }
      Action.raise (octetsOf ("Syntax error: " ++ e.detail))
  modify fun s => { s with showing := false }
  return found.getD given

/-- Shows a command where error texts go to. -/
def showCommand (substitute : Substitution) (channel : Option Nat) (texts : List Octets) :
    Action Unit := do
  let s ← get
  if s.isOn .xtrace && !s.showing then
    let front ← showingFront substitute
    let line := front ++ [' '].intercalate texts ++ ['\n']
    modify fun s =>
      match channel with
      | none => s
      | some n => ((s.world.channels[n]?).bind fun c => s.writeTo n c line).getD s

/-! ## Patterns -/

/-- Some pattern fits a text. -/
def anyFits (substitute : Substitution) (text : Octets) : List Word → Action Bool
  | [] => return false
  | word :: rest => do
    if (← Expansion.pattern substitute word).fitsAll text then return true
    else anyFits substitute text rest

end ContainerOps.Shell
