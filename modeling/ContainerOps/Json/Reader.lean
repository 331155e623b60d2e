import ContainerOps.Json.Outline
import ContainerOps.Text.Blank

/-!
# Reading JSON text

The reader is strict: no marks before the text, no comments, no commas before a closing bracket, no
single surrogates, no raw control characters in strings, and at most 127 arrays and objects inside
one another.  It answers with an outline and, where it has not met an error, the text that is left.
-/

namespace ContainerOps.Json.Reader

/-! ## White space and digits -/

/-- White space between the parts of a JSON text. -/
def isSpace (c : Char) : Bool :=
  c == ' ' || c == '\t' || c == '\n' || c == '\r'

/-- The text from its first character that is not white space. -/
def skipSpace (cs : List Char) : List Char :=
  cs.dropWhile isSpace

/-- The value of a decimal digit. -/
def digit? (c : Char) : Option Nat :=
  if '0' ≤ c && c ≤ '9' then some (c.toNat - 48) else none

/-- The digits at the front of a text, and the text after them. -/
def digits : List Char → List Nat × List Char
  | [] => ([], [])
  | c :: rest =>
    match digit? c with
    | none => ([], c :: rest)
    | some d => (d :: (digits rest).1, (digits rest).2)

/-- The value of a hexadecimal digit. -/
def hexDigit? (c : Char) : Option Nat :=
  if '0' ≤ c && c ≤ '9' then some (c.toNat - 48)
  else if 'a' ≤ c && c ≤ 'f' then some (c.toNat - 87)
  else if 'A' ≤ c && c ≤ 'F' then some (c.toNat - 55)
  else none

/-! ## Numbers -/

/-- The greatest integer that a number without sign can hold. -/
def maxWord : Nat := 0xffffffffffffffff

/-- The least integer that a number with a sign can hold. -/
def minSigned : Int := -0x8000000000000000

/-- The greatest power of ten that is told apart from larger ones. -/
def maxPower : Nat := 0x7fffffff

/-- Appends digits to a significand as long as it stays below a limit, and counts them. -/
def accumulate (limit : Nat) (significand : Nat) : List Nat → Nat × Nat
  | [] => (significand, 0)
  | d :: rest =>
    if significand * 10 + d ≤ limit then
      let more := accumulate limit (significand * 10 + d) rest
      (more.1, more.2 + 1)
    else (significand, 0)

/-- A double from a sign, a significand and a power of ten. -/
def double? (negative : Bool) (significand : Nat) (power : Int) : Option Number :=
  (Number.Binary64.ofScaled negative significand power).map .double

/-- The part of a number after its exponent mark. -/
def exponentPart (negative : Bool) (significand : Nat) (power : Int) (cs : List Char) :
    Option (Number × List Char) :=
  let signed : Bool × List Char :=
    match cs with
    | '+' :: rest => (false, rest)
    | '-' :: rest => (true, rest)
    | rest => (false, rest)
  let ds := digits signed.2
  if ds.1.isEmpty then none
  else
    let size := accumulate maxPower 0 ds.1
    if size.2 < ds.1.length then
      if significand != 0 && !signed.1 then none
      else some (.double (Number.Binary64.zero negative), ds.2)
    else
      let power := if signed.1 then power - size.1 else power + size.1
      (double? negative significand power).map fun n => (n, ds.2)

/-- The part of a number after its point. -/
def fractionPart (negative : Bool) (significand : Nat) (power : Int) (cs : List Char) :
    Option (Number × List Char) :=
  let ds := digits cs
  if ds.1.isEmpty then none
  else
    let more := accumulate maxWord significand ds.1
    let power := power - more.2
    match ds.2 with
    | 'e' :: rest => exponentPart negative more.1 power rest
    | 'E' :: rest => exponentPart negative more.1 power rest
    | rest => (double? negative more.1 power).map fun n => (n, rest)

/-- An integer that fits a word, and a double otherwise; minus zero is a double. -/
def integer? (negative : Bool) (significand : Nat) : Option Number :=
  if negative then
    if significand = 0 || -(significand : Int) < minSigned then double? true significand 0
    else some (.integer (-significand))
  else some (.integer significand)

/-- The part of a number after its sign. -/
def unsigned (negative : Bool) (cs : List Char) : Option (Number × List Char) :=
  let ds := digits cs
  match ds.1 with
  | [] => none
  | first :: others =>
    if first = 0 && !others.isEmpty then none
    else
      let whole := accumulate maxWord 0 ds.1
      let dropped := ds.1.length - whole.2
      match ds.2 with
      | '.' :: rest => fractionPart negative whole.1 dropped rest
      | 'e' :: rest => exponentPart negative whole.1 dropped rest
      | 'E' :: rest => exponentPart negative whole.1 dropped rest
      | rest =>
        if dropped = 0 then (integer? negative whole.1).map fun n => (n, rest)
        else (double? negative whole.1 dropped).map fun n => (n, rest)

/-- The number at the front of a text. -/
def number (cs : List Char) : Option (Number × List Char) :=
  match cs with
  | '-' :: rest => unsigned true rest
  | rest => unsigned false rest

/-! ## Strings -/

/-- Four hexadecimal digits. -/
def hex4 : List Char → Option (Nat × List Char)
  | a :: b :: c :: d :: rest =>
    match hexDigit? a, hexDigit? b, hexDigit? c, hexDigit? d with
    | some a, some b, some c, some d => some (((a * 16 + b) * 16 + c) * 16 + d, rest)
    | _, _, _, _ => none
  | _ => none

/-- The character after the escape mark for code units; two units make one character beyond the
basic plane. -/
def unicodeEscape (cs : List Char) : Option (Char × List Char) :=
  match hex4 cs with
  | none => none
  | some (unit, rest) =>
    if 0xDC00 ≤ unit && unit ≤ 0xDFFF then none
    else if 0xD800 ≤ unit && unit ≤ 0xDBFF then
      match rest with
      | '\\' :: 'u' :: rest =>
        match hex4 rest with
        | none => none
        | some (low, rest) =>
          if 0xDC00 ≤ low && low ≤ 0xDFFF then
            some (Char.ofNat ((unit - 0xD800) * 0x400 + (low - 0xDC00) + 0x10000), rest)
          else none
      | _ => none
    else some (Char.ofNat unit, rest)

/-- The character after a backslash. -/
def escape : List Char → Option (Char × List Char)
  | '"' :: rest => some ('"', rest)
  | '\\' :: rest => some ('\\', rest)
  | '/' :: rest => some ('/', rest)
  | 'b' :: rest => some ('\x08', rest)
  | 'f' :: rest => some ('\x0c', rest)
  | 'n' :: rest => some ('\n', rest)
  | 'r' :: rest => some ('\r', rest)
  | 't' :: rest => some ('\t', rest)
  | 'u' :: rest => unicodeEscape rest
  | _ => none

/-- The characters of a string up to its closing quote.  Each step takes at least one character,
so the length of the text bounds the steps. -/
def stringBody : Nat → List Char → Option (List Char × List Char)
  | 0, _ => none
  | _ + 1, [] => none
  | fuel + 1, c :: rest =>
    if c = '"' then some ([], rest)
    else if c = '\\' then
      match escape rest with
      | none => none
      | some (d, rest) => (stringBody fuel rest).map fun more => (d :: more.1, more.2)
    else if c.toNat < 0x20 then none
    else (stringBody fuel rest).map fun more => (c :: more.1, more.2)

/-- The string after an opening quote. -/
def string (cs : List Char) : Option (String × List Char) :=
  (stringBody (cs.length + 1) cs).map fun found => (String.ofList found.1, found.2)

/-! ## Values -/

/-- A part that was read, and the text after it unless an error was met. -/
abbrev Step (α : Type) := α × Option (List Char)

/-- A word with a meaning of its own. -/
def word (w : String) (meaning : Outline) (cs : List Char) : Step Outline :=
  match Text.after? w.toList cs with
  | some rest => (meaning, some rest)
  | none => (.broken, none)

/-- A string or a number as a step. -/
def leaf {α : Type} (wrap : α → Outline) : Option (α × List Char) → Step Outline
  | none => (.broken, none)
  | some (a, rest) => (wrap a, some rest)

mutual

/-- The value at the front of a text, with room for so many arrays and objects in one another. -/
def value : Nat → Nat → List Char → Step Outline
  | 0, _, _ => (.broken, none)
  | fuel + 1, room, cs =>
    match skipSpace cs with
    | '"' :: rest => leaf .string (string rest)
    | '[' :: rest =>
      match room with
      | 0 => (.broken, none)
      | room + 1 =>
        match skipSpace rest with
        | ']' :: rest => (.array [] true, some rest)
        | rest =>
          let found := items fuel room rest
          (.array found.1 found.2.isSome, found.2)
    | '\x7b' :: rest =>
      match room with
      | 0 => (.broken, none)
      | room + 1 =>
        match skipSpace rest with
        | '\x7d' :: rest => (.object [] true, some rest)
        | rest =>
          let found := members fuel room rest
          (.object found.1 found.2.isSome, found.2)
    | 'n' :: rest => word "null" .null ('n' :: rest)
    | 't' :: rest => word "true" (.bool true) ('t' :: rest)
    | 'f' :: rest => word "false" (.bool false) ('f' :: rest)
    | rest => leaf .number (number rest)

/-- The items of an array up to its closing bracket. -/
def items : Nat → Nat → List Char → Step (List Outline)
  | 0, _, _ => ([], none)
  | fuel + 1, room, cs =>
    match value fuel room cs with
    | (item, none) => ([item], none)
    | (item, some rest) =>
      match skipSpace rest with
      | ']' :: rest => ([item], some rest)
      | ',' :: rest =>
        match skipSpace rest with
        | ']' :: _ => ([item], none)
        | rest =>
          let more := items fuel room rest
          (item :: more.1, more.2)
      | _ => ([item], none)

/-- The members of an object up to its closing brace. -/
def members : Nat → Nat → List Char → Step (List (String × Outline))
  | 0, _, _ => ([], none)
  | fuel + 1, room, cs =>
    match skipSpace cs with
    | '"' :: rest =>
      match string rest with
      | none => ([], none)
      | some (key, rest) =>
        match skipSpace rest with
        | ':' :: rest =>
          match value fuel room rest with
          | (item, none) => ([(key, item)], none)
          | (item, some rest) =>
            match skipSpace rest with
            | '\x7d' :: rest => ([(key, item)], some rest)
            | ',' :: rest =>
              let more := members fuel room rest
              ((key, item) :: more.1, more.2)
            | _ => ([(key, item)], none)
        | _ => ([(key, .broken)], none)
    | _ => ([], none)

end

/-- The greatest number of arrays and objects inside one another. -/
def maxDepth : Nat := 127

/-- The outline of a whole text. -/
def document (text : String) : Document :=
  let cs := text.toList
  let found := value (2 * cs.length + 2) maxDepth cs
  { outline := found.1
    ended :=
      match found.2 with
      | none => false
      | some rest => (skipSpace rest).isEmpty }

end ContainerOps.Json.Reader

namespace ContainerOps.Json

/-- The value of a whole text, if it is JSON. -/
def parse? (text : String) : Option Json :=
  let d := Reader.document text
  if d.ended then d.outline.value? else none

end ContainerOps.Json
