import ContainerOps.Yaml.Cursor

/-!
# The text of scalars

A scalar can run over several lines.  Inside quotes and in plain scalars a single line end counts
as a space, and of several line ends the first does not count.  Block scalars keep or fold their
line ends and say themselves what becomes of the last ones.

Every function here takes at least one character per step, so that the length of the text bounds
the number of steps.
-/

namespace ContainerOps.Yaml

/-! ## Gaps -/

/-- What stands between two words of a scalar. -/
structure Gap where
  /-- The spacing behind the word before, if the line does not end there. -/
  spacing : List Char
  /-- The first line end. -/
  first : List Char
  /-- The further line ends. -/
  further : List Char
  /-- A line ends in the gap. -/
  broken : Bool

namespace Gap

/-- Nothing between two words. -/
def none : Gap :=
  { spacing := [], first := [], further := [], broken := false }

/-- A line that ends in an escape, which counts for nothing. -/
def escapedBreak : Gap :=
  { none with broken := true }

/-- The text that a gap counts as. -/
def text (g : Gap) : List Char :=
  if g.broken then
    if g.first = ['\n'] then
      if g.further.isEmpty then [' '] else g.further
    else g.first ++ g.further
  else g.spacing

end Gap

/-- Reads on in a gap.  A tab may not stand to the left of `indent` on a further line. -/
def gap (indent : Nat) : Nat → Gap → Cursor → Option (Gap × Cursor)
  | 0, g, c => some (g, c)
  | fuel + 1, g, c =>
    match c.rest with
    | [] => some (g, c)
    | x :: _ =>
      if isSpacing x then
        if !g.broken then gap indent fuel { g with spacing := g.spacing ++ [x] } c.skip
        else if x == '\t' && c.column < indent then none
        else gap indent fuel g c.skip
      else if isBreak x then
        let ended := c.takeBreak
        if g.broken then gap indent fuel { g with further := g.further ++ ended.1 } ended.2
        else gap indent fuel { g with spacing := [], first := ended.1, broken := true } ended.2
      else some (g, c)

/-! ## Plain scalars -/

/-- A character that ends a plain scalar between brackets or braces. -/
def isFlowIndicator (c : Char) : Bool :=
  c == ',' || c == '[' || c == ']' || c == '\x7b' || c == '\x7d'

/-- The characters of a plain scalar up to the end of a word or of the scalar.  Between brackets
or braces, a colon may not stand directly before one of the characters that would end it. -/
def plainWord (inFlow : Bool) : Nat → Cursor → Option (List Char × Cursor)
  | 0, c => some ([], c)
  | fuel + 1, c =>
    match c.rest with
    | [] => some ([], c)
    | x :: _ =>
      if c.endsWord 0 then some ([], c)
      else if inFlow && x == ':' && c.sees (fun y => y == '?' || isFlowIndicator y) 1 then none
      else if (x == ':' && c.endsWord 1) || (inFlow && isFlowIndicator x) then some ([], c)
      else (plainWord inFlow fuel c.skip).map fun more => (x :: more.1, more.2)

/-- A scalar that was read. -/
structure ScalarText where
  /-- Its text. -/
  text : List Char
  /-- A line ended behind its last word. -/
  lineEnded : Bool
  /-- The cursor after it. -/
  after : Cursor

/-- The rest of a plain scalar after a gap. -/
def plainBody (inFlow : Bool) (indent : Nat) : Nat → Gap → Cursor → Option ScalarText
  | 0, g, c => some { text := [], lineEnded := g.broken, after := c }
  | fuel + 1, g, c =>
    if c.atMarker || c.has '#' 0 then some { text := [], lineEnded := g.broken, after := c }
    else
      match plainWord inFlow c.rest.length c with
      | none => none
      | some (word, c) =>
        let text := if word.isEmpty then [] else g.text ++ word
        let before := if word.isEmpty then g else Gap.none
        if !c.sees (fun x => isSpacing x || isBreak x) 0 then
          some { text := text, lineEnded := before.broken, after := c }
        else
          match gap indent c.rest.length before c with
          | none => none
          | some (g, c) =>
            if !inFlow && c.column < indent then
              some { text := text, lineEnded := g.broken, after := c }
            else
              (plainBody inFlow indent fuel g c).map fun more =>
                { more with text := text ++ more.text }

/-- A plain scalar, whose further lines are indented at least so far. -/
def plainScalar (inFlow : Bool) (indent : Nat) (c : Cursor) : Option ScalarText :=
  plainBody inFlow indent (c.rest.length + 1) Gap.none c

/-! ## Quoted scalars -/

/-- The value of a hexadecimal digit. -/
def hexDigit? (c : Char) : Option Nat :=
  if '0' ≤ c && c ≤ '9' then some (c.toNat - 48)
  else if 'a' ≤ c && c ≤ 'f' then some (c.toNat - 87)
  else if 'A' ≤ c && c ≤ 'F' then some (c.toNat - 55)
  else none

/-- The number that so many hexadecimal digits at the front of a text stand for. -/
def hexNumber : Nat → Nat → List Char → Option Nat
  | 0, n, _ => some n
  | _ + 1, _, [] => none
  | count + 1, n, x :: rest =>
    match hexDigit? x with
    | none => none
    | some d => hexNumber count (n * 16 + d) rest

/-- The character with a given code. -/
def charOfCode? (n : Nat) : Option Char :=
  if (0xD800 ≤ n && n ≤ 0xDFFF) || 0x10FFFF < n then none else some (Char.ofNat n)

/-- The character that one letter after a backslash stands for. -/
def simpleEscape? (x : Char) : Option Char :=
  match x with
  | '0' => some '\x00'
  | 'a' => some '\x07'
  | 'b' => some '\x08'
  | 't' => some '\t'
  | '\t' => some '\t'
  | 'n' => some '\n'
  | 'v' => some '\x0b'
  | 'f' => some '\x0c'
  | 'r' => some '\r'
  | 'e' => some '\x1b'
  | ' ' => some ' '
  | '"' => some '"'
  | '/' => some '/'
  | '\\' => some '\\'
  | 'N' => some '\u0085'
  | '_' => some '\u00a0'
  | 'L' => some '\u2028'
  | 'P' => some '\u2029'
  | _ => none

/-- The number of digits that a letter after a backslash asks for. -/
def escapeDigits? (x : Char) : Option Nat :=
  match x with
  | 'x' => some 2
  | 'u' => some 4
  | 'U' => some 8
  | _ => none

/-- The character of the escape at the front of a text, and the length of the escape. -/
def escape? : List Char → Option (Char × Nat)
  | _ :: x :: rest =>
    match simpleEscape? x, escapeDigits? x with
    | some y, _ => some (y, 2)
    | none, some count =>
      match (hexNumber count 0 rest).bind charOfCode? with
      | some y => some (y, 2 + count)
      | none => none
    | none, none => none
  | _ => none

/-- The quote around a scalar. -/
def quoteMark (double : Bool) : Char :=
  if double then '"' else '\''

/-- What was read of a quoted scalar up to the end of a word. -/
structure QuotedWord where
  /-- The characters that the word counts as. -/
  text : List Char
  /-- The gap that an escape at the end of the line begins. -/
  gap : Gap
  /-- The cursor after the word. -/
  after : Cursor

/-- The characters between quotes up to the end of a word, the closing quote or an escape at the
end of a line. -/
def quotedWord (double : Bool) : Nat → Cursor → Option QuotedWord
  | 0, c => some { text := [], gap := Gap.none, after := c }
  | fuel + 1, c =>
    match c.rest with
    | [] => some { text := [], gap := Gap.none, after := c }
    | x :: _ =>
      let more := fun (y : Char) (width : Nat) =>
        (quotedWord double fuel (c.advance width)).map fun w => { w with text := y :: w.text }
      if c.endsWord 0 then some { text := [], gap := Gap.none, after := c }
      else if !double && x == '\'' && c.has '\'' 1 then more '\'' 2
      else if x == quoteMark double then some { text := [], gap := Gap.none, after := c }
      else if double && x == '\\' then
        if c.sees isBreak 1 then
          some { text := [], gap := Gap.escapedBreak, after := c.skip.skipBreak }
        else
          match escape? c.rest with
          | none => none
          | some (y, width) => more y width
      else more x 1

/-- The rest of a quoted scalar up to its closing quote. -/
def quotedBody (double : Bool) : Nat → Cursor → Option ScalarText
  | 0, _ => none
  | fuel + 1, c =>
    if c.atMarker || c.atEnd then none
    else
      match quotedWord double c.rest.length c with
      | none => none
      | some w =>
        if w.after.has (quoteMark double) 0 then
          some { text := w.text, lineEnded := false, after := w.after.skip }
        else
          match gap 0 w.after.rest.length w.gap w.after with
          | none => none
          | some (g, c) =>
            (quotedBody double fuel c).map fun more =>
              { more with text := w.text ++ g.text ++ more.text }

/-- A quoted scalar from its opening quote on. -/
def quotedScalar (double : Bool) (c : Cursor) : Option ScalarText :=
  quotedBody double (c.rest.length + 1) c.skip

/-! ## Block scalars -/

/-- What becomes of the line ends at the end of a block scalar. -/
inductive Chomping where
  /-- All are dropped. -/
  | strip
  /-- The first is kept. -/
  | clip
  /-- All are kept. -/
  | keep
deriving DecidableEq

/-- The sign for what becomes of the last line ends. -/
def chomping? (c : Cursor) : Option Chomping :=
  if c.has '+' 0 then some .keep else if c.has '-' 0 then some .strip else none

/-- The digit for the depth of the indentation, which is not zero. -/
def depth? (c : Cursor) : Option Nat :=
  match c.rest with
  | x :: _ => if '0' ≤ x && x ≤ '9' then some (x.toNat - 48) else none
  | [] => none

/-- The signs after the mark of a block scalar, in either order; the depth is zero if it is not
given. -/
def blockSigns (c : Cursor) : Option (Chomping × Nat × Cursor) :=
  match chomping? c with
  | some sign =>
    let c := c.skip
    match depth? c with
    | some 0 => none
    | some n => some (sign, n, c.skip)
    | none => some (sign, 0, c)
  | none =>
    match depth? c with
    | some 0 => none
    | some n =>
      let c := c.skip
      match chomping? c with
      | some sign => some (sign, n, c.skip)
      | none => some (.clip, n, c)
    | none => some (.clip, 0, c)

/-- The rest of the first line of a block scalar, which may hold a comment only. -/
def endOfHeader (c : Cursor) : Option Cursor :=
  let c := (c.skipWhile isSpacing).skipComment
  if c.endsLine 0 then some c.skipBreak else none

/-- What stands before a line of a block scalar that is not empty. -/
structure BlockGap where
  /-- The greatest column at which a line was found to begin. -/
  widest : Nat
  /-- The line ends. -/
  breaks : List Char
  /-- The cursor after the indentation. -/
  after : Cursor

/-- Passes over indentation and empty lines.  No indentation is fixed yet if `indent` is zero. -/
def blockGap (indent : Nat) : Nat → Nat → Cursor → Option BlockGap
  | 0, widest, c => some { widest := widest, breaks := [], after := c }
  | fuel + 1, widest, c =>
    let spaces := (c.rest.takeWhile (· == ' ')).length
    let c := c.advance (if indent = 0 then spaces else min spaces (indent - c.column))
    let widest := max widest c.column
    if (indent = 0 || c.column < indent) && c.has '\t' 0 then none
    else if c.sees isBreak 0 then
      let ended := c.takeBreak
      (blockGap indent fuel widest ended.2).map fun more =>
        { more with breaks := ended.1 ++ more.breaks }
    else some { widest := widest, breaks := [], after := c }

/-- The lines of a block scalar. -/
structure BlockText where
  /-- The text without the last line ends. -/
  text : List Char
  /-- The first of the last line ends. -/
  first : List Char
  /-- The further ones. -/
  further : List Char
  /-- The cursor after the scalar. -/
  after : Cursor

/-- The text between two lines of a block scalar, apart from the further line ends. -/
def blockJoin (literal : Bool) (first further : List Char) (indented : Bool) : List Char :=
  if !literal && first = ['\n'] && !indented then
    if further.isEmpty then [' '] else []
  else first

/-- The lines of a block scalar after some line ends.  `indented` says that the line before began
with spacing of its own. -/
def blockLines (literal : Bool) (indent : Nat) :
    Nat → List Char → List Char → Bool → Cursor → Option BlockText
  | 0, first, further, _, c =>
    some { text := [], first := first, further := further, after := c }
  | fuel + 1, first, further, indented, c =>
    if c.column = indent && !c.atEnd then
      let spaced := c.sees isSpacing 0
      let joined := blockJoin literal first further (indented || spaced)
      let line := c.takeLine
      let ended := line.2.takeBreak
      match blockGap indent (ended.2.rest.length + 1) 0 ended.2 with
      | none => none
      | some g =>
        (blockLines literal indent fuel ended.1 g.breaks spaced g.after).map fun more =>
          { more with text := joined ++ further ++ line.1 ++ more.text }
    else some { text := [], first := first, further := further, after := c }

/-- The text of a block scalar with what is left of its last line ends. -/
def BlockText.chomped (b : BlockText) : Chomping → List Char
  | .strip => b.text
  | .clip => b.text ++ b.first
  | .keep => b.text ++ b.first ++ b.further

/-- A block scalar from its mark on, inside a block that is indented by `outer` columns; a depth
that is given counts from there, and otherwise the first line that is not empty decides. -/
def blockScalar (literal : Bool) (outer : Int) (c : Cursor) : Option ScalarText :=
  match blockSigns c.skip with
  | none => none
  | some (sign, depth, c) =>
    match endOfHeader c with
    | none => none
    | some c =>
      let given := if depth = 0 then 0 else outer.toNat + depth
      match blockGap given (c.rest.length + 1) 0 c with
      | none => none
      | some g =>
        let indent := if given = 0 then max g.widest (max (outer + 1).toNat 1) else given
        (blockLines literal indent (c.rest.length + 1) [] g.breaks false g.after).map fun b =>
          { text := b.chomped sign, lineEnded := false, after := b.after }

end ContainerOps.Yaml
