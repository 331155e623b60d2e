/-!
# A place in a YAML text

YAML depends on columns and lines, so its reader walks through the text with a cursor that counts
them.  A line ends at a line feed, at a carriage return with or without a line feed, and at the
three further line separators.
-/

namespace ContainerOps.Yaml

/-! ## Characters -/

/-- A space or a tab. -/
def isSpacing (c : Char) : Bool :=
  c == ' ' || c == '\t'

/-- A character that ends a line. -/
def isBreak (c : Char) : Bool :=
  c == '\n' || c == '\r' || c == '\u0085' || c == '\u2028' || c == '\u2029'

/-- A character of names: an ASCII letter, a digit, an underscore or a hyphen. -/
def isNameChar (c : Char) : Bool :=
  c.isAlphanum || c == '_' || c == '-'

/-- The mark that may stand at the start of a text. -/
def byteOrderMark : Char := '\uFEFF'

/-- A character that a YAML text may hold. -/
def isAllowed (c : Char) : Bool :=
  let n := c.toNat
  n == 0x09 || n == 0x0A || n == 0x0D || (0x20 ≤ n && n ≤ 0x7E) || n == 0x85 ||
    (0xA0 ≤ n && n ≤ 0xD7FF) || (0xE000 ≤ n && n ≤ 0xFFFD) || 0x10000 ≤ n

/-! ## Cursors -/

/-- The text that is left, and how far the reader has come. -/
structure Cursor where
  /-- The text that is left. -/
  rest : List Char
  /-- The number of octets before it. -/
  index : Nat
  /-- The number of lines that end before it. -/
  line : Nat
  /-- The number of characters before it on its line. -/
  column : Nat
deriving DecidableEq

namespace Cursor

/-- The start of a text. -/
def start (cs : List Char) : Cursor :=
  { rest := cs, index := 0, line := 0, column := 0 }

/-- Nothing is left. -/
def atEnd (c : Cursor) : Bool :=
  c.rest.isEmpty

/-- A character stands a given number of places ahead. -/
def has (c : Cursor) (x : Char) (ahead : Nat) : Bool :=
  c.rest[ahead]? == some x

/-- A character that satisfies a test stands a given number of places ahead. -/
def sees (c : Cursor) (test : Char → Bool) (ahead : Nat) : Bool :=
  match c.rest[ahead]? with
  | some x => test x
  | none => false

/-- A line ends a given number of places ahead, or the text does. -/
def endsLine (c : Cursor) (ahead : Nat) : Bool :=
  match c.rest[ahead]? with
  | some x => isBreak x
  | none => true

/-- A word ends a given number of places ahead: at spacing, or where a line ends. -/
def endsWord (c : Cursor) (ahead : Nat) : Bool :=
  c.sees isSpacing ahead || c.endsLine ahead

/-- The number of octets of the next characters. -/
def octetsOf (c : Cursor) (n : Nat) : Nat :=
  (c.rest.take n).foldl (fun size x => size + x.utf8Size) 0

/-- The cursor after so many characters of its line. -/
def advance (c : Cursor) (n : Nat) : Cursor :=
  { c with rest := c.rest.drop n, index := c.index + c.octetsOf n, column := c.column + n }

/-- The cursor after one character of its line. -/
def skip (c : Cursor) : Cursor :=
  c.advance 1

/-- The characters of the line that satisfy a test, and the cursor after them. -/
def takeWhile (c : Cursor) (test : Char → Bool) : List Char × Cursor :=
  let run := c.rest.takeWhile test
  (run, c.advance run.length)

/-- The cursor after the characters of the line that satisfy a test. -/
def skipWhile (c : Cursor) (test : Char → Bool) : Cursor :=
  (c.takeWhile test).2

/-- The rest of the line, and the cursor at its end. -/
def takeLine (c : Cursor) : List Char × Cursor :=
  c.takeWhile fun x => !isBreak x

/-- The cursor on the next line, the end of this one being so many characters long. -/
def nextLine (c : Cursor) (width : Nat) : Cursor :=
  { rest := c.rest.drop width
    index := c.index + c.octetsOf width
    line := c.line + 1
    column := 0 }

/-- The end of a line as it counts in a text, and the cursor after it.  The ends that are common
count as a line feed, and the two separators as themselves. -/
def takeBreak (c : Cursor) : List Char × Cursor :=
  match c.rest with
  | '\r' :: '\n' :: _ => (['\n'], c.nextLine 2)
  | x :: _ =>
    if x == '\u2028' || x == '\u2029' then ([x], c.nextLine 1)
    else if isBreak x then (['\n'], c.nextLine 1)
    else ([], c)
  | [] => ([], c)

/-- The cursor after the end of a line. -/
def skipBreak (c : Cursor) : Cursor :=
  c.takeBreak.2

/-- The cursor after a comment, up to the end of its line. -/
def skipComment (c : Cursor) : Cursor :=
  if c.has '#' 0 then c.takeLine.2 else c

/-- Three equal characters stand at the start of a line as a word of their own. -/
def marks (c : Cursor) (x : Char) : Bool :=
  c.column == 0 && c.has x 0 && c.has x 1 && c.has x 2 && c.endsWord 3

/-- The start or the end of a document is marked here. -/
def atMarker (c : Cursor) : Bool :=
  c.marks '-' || c.marks '.'

end Cursor

end ContainerOps.Yaml
