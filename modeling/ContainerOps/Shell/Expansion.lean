import ContainerOps.Shell.Arithmetic
import ContainerOps.Shell.PathPattern
import ContainerOps.Shell.Variables

/-!
# Expansion of words

What a word stands for is found out piece by piece, from left to right: parameters, commands and
expressions are replaced by what they amount to, and a tilde by a directory.  Where a word is taken
apart into fields, each of these is completed to the paths that it fits.  How a command in a word
runs is left to the caller.
-/

namespace ContainerOps.Shell

/-- Finds out what a command in a word writes. -/
abbrev Substitution := Option Node → Action Octets

namespace Expansion

/-! ## Manners -/

/-- How a word is expanded. -/
structure Manner where
  /-- It is taken apart into fields. -/
  splits : Bool
  /-- A tilde at its front stands for a directory. -/
  tilde : Bool
  /-- A tilde behind a colon does so too. -/
  colonTilde : Bool
  /-- It is quoted. -/
  quoted : Bool
  /-- It belongs to a parameter. -/
  nested : Bool

/-- What is written in the word is taken as it is. -/
def Manner.bare : Manner :=
  { splits := false, tilde := false, colonTilde := false, quoted := false, nested := false }

/-- The word is one text. -/
def Manner.whole : Manner :=
  { Manner.bare with tilde := true }

/-- The word is the value of a variable. -/
def Manner.value : Manner :=
  { Manner.whole with colonTilde := true }

/-- The word is the text of a document. -/
def Manner.document : Manner :=
  { Manner.bare with quoted := true }

/-- The word is taken apart into fields. -/
def Manner.fields : Manner :=
  { Manner.whole with splits := true }

/-- A word that belongs to a parameter in a word. -/
def Manner.inside (m : Manner) (quoted : Bool) : Manner :=
  { m with tilde := true, quoted := quoted, nested := true }

/-! ## Progress -/

/-- What is known at some place in a word. -/
structure Progress where
  /-- The cells that were found, the last first. -/
  cells : List Cell
  /-- The place is between quotation marks. -/
  inQuotes : Bool
  /-- These marks are left out, because all arguments stand between them and nothing else. -/
  marksHidden : Bool
  /-- A region of characters as they are written is open. -/
  inRegion : Bool
  /-- A tilde here stands for a directory. -/
  atFront : Bool
  /-- The number of pieces that were looked at already. -/
  passed : Nat
  /-- The rest of the word does not count. -/
  isOver : Bool

namespace Progress

/-- The front of a word behind some cells. -/
def start (m : Manner) (cells : List Cell) : Progress :=
  { cells := cells
    inQuotes := false
    marksHidden := false
    inRegion := false
    atFront := m.tilde
    passed := 0
    isOver := false }

/-- Closes the region of characters as they are written. -/
def closed (p : Progress) : Progress :=
  if p.inRegion then { p with cells := .ends :: p.cells, inRegion := false } else p

/-- Puts a quotation mark; `around` says that all arguments stand behind it and nothing else. -/
def mark (p : Progress) (around : Bool) : Progress :=
  let p := { p.closed with atFront := false }
  if p.inQuotes then
    { p with
      cells := if p.marksHidden then p.cells else .mark :: p.cells
      inQuotes := false
      marksHidden := false }
  else
    { p with
      cells := if around then p.cells else .mark :: p.cells
      inQuotes := true
      marksHidden := around }

/-- Puts a character that has no meaning of its own. -/
def escaped (p : Progress) (c : Char) : Progress :=
  let p := p.closed
  { p with cells := .char c true :: p.cells, atFront := false }

/-- Puts a character as it is written. -/
def plain (p : Progress) (m : Manner) (c : Char) : Progress :=
  let opens := m.nested && !m.quoted && !p.inQuotes && !p.inRegion
  let cells := if opens then .begins false :: p.cells else p.cells
  { p with
    cells := .char c false :: cells
    inRegion := p.inRegion || opens
    atFront := m.colonTilde && c == ':' }

/-- Puts a text without a region. -/
def text (p : Progress) (quoted : Bool) (text : Octets) : Progress :=
  { p with cells := text.foldl (fun cells c => .char c quoted :: cells) p.cells, atFront := false }

/-- Puts a text as a region. -/
def region (p : Progress) (quoted nullOnly : Bool) (text : Octets) : Progress :=
  let p := { p with cells := .begins nullOnly :: p.cells }.text quoted text
  { p with cells := .ends :: p.cells }

/-- Puts what a command or an expression amounts to. -/
def result (p : Progress) (quoted : Bool) (text : Octets) : Progress :=
  if quoted then p.closed.text true text else p.closed.region false false text

/-- Puts the value of a parameter.  When quoted, only all arguments are a region. -/
def value (p : Progress) (quoted : Bool) (anyArguments : Bool) (name text : Octets) : Progress :=
  if !quoted then p.closed.region false false text
  else if name = ['@'] && anyArguments then p.closed.region true true text
  else p.closed.text true text

end Progress

/-! ## Tildes -/

/-- The directories of users. -/
def homes : List (String × String) :=
  [("root", "/root"), ("daemon", "/usr/sbin"), ("bin", "/bin"), ("sys", "/dev"), ("sync", "/bin"),
    ("games", "/usr/games"), ("man", "/var/cache/man"), ("lp", "/var/spool/lpd"),
    ("mail", "/var/mail"), ("news", "/var/spool/news"), ("uucp", "/var/spool/uucp"),
    ("proxy", "/bin"), ("www-data", "/var/www"), ("backup", "/var/backups"), ("list", "/var/list"),
    ("irc", "/run/ircd"), ("_apt", "/nonexistent"), ("nobody", "/nonexistent")]

/-- The name of the user behind a tilde: all characters up to a slash or to the end.  Nothing else
may be part of it. -/
def userName? (colonTilde : Bool) : Word → Option Octets
  | [] => some []
  | .plain c :: rest =>
    if c == '/' || (colonTilde && c == ':') then some []
    else (userName? colonTilde rest).map (c :: ·)
  | _ => none

/-- The directory of a user; without a name, of the one who runs the shell. -/
def home? (s : State) (name : Octets) : Option Octets :=
  if name.isEmpty then s.find? (octetsOf "HOME")
  else (homes.lookup (String.ofList name)).map octetsOf

/-! ## Parameters -/

/-- What stands between the arguments where all of them are taken. -/
def argumentSeparator (s : State) (splits quoted : Bool) (name : Octets) : Option Char :=
  if name = ['@'] && quoted && splits then some nul
  else
    match s.find? (octetsOf "IFS") with
    | none => some ' '
    | some separators => if splits && !quoted then some nul else separators.head?

/-- The value of a parameter in a word. -/
def parameterValue? (s : State) (splits quoted : Bool) (name : Octets) : Option Octets :=
  if name = ['@'] || name = ['*'] then
    some (s.joinedArguments (argumentSeparator s splits quoted name))
  else s.parameter? name

/-- An empty value counts as none. -/
def emptyCounts : ParameterUse → Bool
  | .colon => true
  | .orElse emptyToo => emptyToo
  | .ifSet emptyToo => emptyToo
  | .assigned emptyToo => emptyToo
  | .demanded emptyToo => emptyToo
  | _ => false

/-- A part of a value without what a pattern fits. -/
def cutValue (atStart longest : Bool) (pattern : Pattern) (value : Octets) : Octets :=
  match pattern.cutPlace? atStart longest value with
  | some n => if atStart then value.drop n else value.take n
  | none => value

/-- A text without null octets, and without the ends of lines at its end. -/
def trimmed (text : Octets) : Octets :=
  ((text.filter (· != nul)).reverse.dropWhile (· == '\n')).reverse

/-- The value of an expression, which may set variables. -/
def evaluate (text : Octets) : Action Octets := do
  let s ← get
  let found := Arithmetic.eval (fun name => (s.find? name).getD []) text
  for (name, n) in found.2 do Action.assign name (numeral n) false
  match found.1 with
  | .ok n => return numeral n
  | .error fault => Action.raise (fault.message text)

/-- All arguments stand behind a quotation mark, and nothing else. -/
def isAllArguments : Word → Bool
  | .parameter ['@'] .plain _ :: .mark :: _ => true
  | _ => false

/-! ## Words -/

mutual

/-- Expands the pieces of a word. -/
def expandFrom (substitute : Substitution) (m : Manner) :
    List Piece → Progress → Action Progress
  | [], p => return p.closed
  | piece :: rest, p => do
    if p.isOver then return p.closed
    else if p.passed ≠ 0 then expandFrom substitute m rest { p with passed := p.passed - 1 }
    else expandFrom substitute m rest (← expandPiece substitute m rest p piece)

/-- Expands one piece of a word, in front of others. -/
def expandPiece (substitute : Substitution) (m : Manner) (rest : List Piece) (p : Progress) :
    Piece → Action Progress
  | .plain c => do
    let s ← get
    let name? := if c == '~' && p.atFront then userName? m.colonTilde rest else none
    match name?, name?.bind (home? s) with
    | some name, some home => return { p.closed.text true home with passed := name.length }
    | _, _ => return p.plain m c
  | .escaped c => return p.escaped c
  | .mark => return p.mark (!p.inQuotes && isAllArguments rest)
  | .command body => do
    return p.result (m.quoted || p.inQuotes) (trimmed (← substitute body))
  | .arithmetic expression => do
    let inner ← expandFrom substitute .bare expression (.start .bare [])
    let value ← evaluate (untilNul (Cell.text inner.cells.reverse))
    return p.result (m.quoted || p.inQuotes) value
  | .parameter name use word => do
    let quoted := m.quoted || p.inQuotes
    let s ← get
    let value? := (parameterValue? s m.splits quoted name).filter fun value =>
      !(emptyCounts use && value.isEmpty)
    let put := fun (value : Octets) =>
      p.value quoted (!s.arguments.values.isEmpty) name value
    let inner : Action Progress := do
      let inside := m.inside quoted
      let found ← expandFrom substitute inside word (.start inside p.closed.cells)
      return { p.closed with cells := found.cells, atFront := false }
    let missing : Action Unit :=
      if s.isOn .nounset && value?.isNone then
        Action.raise (name ++ octetsOf ": parameter not set")
      else pure ()
    match use with
    | .bad => Action.raise (octetsOf "Bad substitution")
    | .plain => do
      missing
      return (value?.map put).getD { p with atFront := false }
    | .colon => do
      missing
      let p := (value?.map put).getD { p with atFront := false }
      return { ← expandFrom substitute m word p with isOver := true }
    | .size => do
      missing
      return put (numeral ((value?.getD []).length))
    | .orElse _ =>
      match value? with
      | some value => return put value
      | none => inner
    | .ifSet _ => if value?.isSome then inner else return put []
    | .assigned _ =>
      match value? with
      | some value => return put value
      | none => do
        let found ← expandFrom substitute .whole word (.start .whole [])
        Action.setVariable name (untilNul (Cell.text found.cells.reverse))
        let after ← get
        return (((parameterValue? after m.splits quoted name).map put).getD p)
    | .demanded emptyToo =>
      match value? with
      | some value => return put value
      | none => do
        let found ← expandFrom substitute .whole word (.start .whole [])
        let message :=
          if !word.isEmpty then untilNul (Cell.text found.cells.reverse)
          else octetsOf (if emptyToo then "parameter not set or null" else "parameter not set")
        Action.raise (name ++ octetsOf ": " ++ message)
    | .cut atStart longest => do
      missing
      match value? with
      | none => return { p with atFront := false }
      | some value =>
        let found ← expandFrom substitute .whole word (.start .whole [])
        return put (cutValue atStart longest (Cell.pattern found.cells.reverse) value)

end

/-- The cells of a word. -/
def cells (substitute : Substitution) (m : Manner) (word : Word) : Action (List Cell) := do
  return (← expandFrom substitute m word (.start m [])).cells.reverse

/-- A word as one text. -/
def text (substitute : Substitution) (m : Manner) (word : Word) : Action Octets := do
  return untilNul (Cell.text (← cells substitute m word))

/-- A word as a pattern. -/
def pattern (substitute : Substitution) (word : Word) : Action Pattern := do
  return .of (untilNul (Cell.patternText false (← cells substitute .whole word)))

/-- An assignment as one text. -/
def assignment (substitute : Substitution) (word : Word) : Action Octets := do
  let name := Word.leadingName word
  let value ← text substitute .value (word.drop (name.length + 1))
  return name ++ '=' :: value

/-- The fields of a word. -/
def wordFields (substitute : Substitution) (word : Word) : Action (List Octets) := do
  let found ← cells substitute .fields word
  let s ← get
  return (Shell.fields s.separators none found).flatMap (completed s)

/-- The fields of some words. -/
def fields (substitute : Substitution) : List Word → Action (List Octets)
  | [] => return []
  | word :: rest => do
    let first ← wordFields substitute word
    return first ++ (← fields substitute rest)

/-- The fields of some arguments, of which assignments are not taken apart. -/
def declaredFields (substitute : Substitution) : List Word → Action (List Octets)
  | [] => return []
  | word :: rest => do
    let first ←
      if Word.isAssignment word then do pure [← assignment substitute word]
      else wordFields substitute word
    return first ++ (← declaredFields substitute rest)

end Expansion

end ContainerOps.Shell
