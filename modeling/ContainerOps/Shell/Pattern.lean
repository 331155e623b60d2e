import ContainerOps.Shell.Octet

/-!
# Patterns

A pattern is a text in which some characters stand for others: a star for any text, a question mark
for any character, and brackets for some characters.  A backslash takes the meaning from the
character behind it.
-/

namespace ContainerOps.Shell

/-! ## Patterns -/

/-- The characters between brackets. -/
inductive Bracketed where
  /-- The characters from one to another, by their codes as bytes with a sign. -/
  | range (low high : Char)
  /-- The characters that a condition holds of. -/
  | kind (holds : Char → Bool)

/-- One part of a pattern. -/
inductive PatternPart where
  /-- A character that stands for itself. -/
  | exactly (c : Char)
  /-- Any character. -/
  | anyChar
  /-- Any text. -/
  | anyText
  /-- A character that is between brackets, or one that is not. -/
  | oneOf (negated : Bool) (items : List Bracketed)

/-- A text to compare others with. -/
abbrev Pattern := List PatternPart

namespace Pattern

/-! ## Reading -/

/-- A character that is printed and takes up ink. -/
def isGraph (c : Char) : Bool :=
  '!' ≤ c && c ≤ '~'

/-- The kinds of characters by name. -/
def kinds : List (String × (Char → Bool)) :=
  [("alnum", Char.isAlphanum), ("cntrl", fun c => c < ' ' || c == '\x7f'),
    ("lower", Char.isLower), ("space", isSpace), ("alpha", Char.isAlpha), ("digit", isDigit),
    ("print", fun c => isGraph c || c == ' '), ("upper", Char.isUpper),
    ("blank", fun c => c == ' ' || c == '\t'), ("graph", isGraph),
    ("punct", fun c => isGraph c && !c.isAlphanum), ("xdigit", isDigitIn 16)]

/-- The kind that is named at the front of a text, behind a bracket, and the text behind it. -/
def kind? (text : List Char) : Option (Bracketed × List Char) :=
  kinds.findSome? fun kind =>
    let name := ':' :: kind.1.toList ++ [':', ']']
    if name.isPrefixOf text then some (.kind kind.2, text.drop name.length) else none

/-- The next character, which a backslash may stand before. -/
def bareChar? : List Char → Option (Char × List Char)
  | '\\' :: c :: rest => some (c, rest)
  | ['\\'] => none
  | c :: rest => some (c, rest)
  | [] => none

/-- The item at the front of a text between brackets, and the text behind it. -/
def item? (text : List Char) : Option (Bracketed × List Char) :=
  let plain :=
    match bareChar? text with
    | none => none
    | some (c, '-' :: d :: rest) =>
      if d == ']' then some (Bracketed.range c c, '-' :: d :: rest)
      else (bareChar? (d :: rest)).map fun high => (.range c high.1, high.2)
    | some (_, ['-']) => none
    | some (c, rest) => some (.range c c, rest)
  match text with
  | '[' :: rest => (kind? rest).or plain
  | _ => plain

/-- The items up to a closing bracket, which does not close in front of the first, and the text
behind it. -/
def items? : Nat → List Char → Option (List Bracketed × List Char)
  | 0, _ => none
  | fuel + 1, text =>
    match item? text with
    | none => none
    | some (item, ']' :: rest) => some ([item], rest)
    | some (item, rest) => (items? fuel rest).map fun more => (item :: more.1, more.2)

/-- The pattern that a text is.  A bracket that is not closed stands for itself. -/
def read : Nat → List Char → Pattern
  | 0, _ => []
  | _, [] => []
  | fuel + 1, '\\' :: c :: rest => .exactly c :: read fuel rest
  | fuel + 1, '*' :: rest => .anyText :: read fuel rest
  | fuel + 1, '?' :: rest => .anyChar :: read fuel rest
  | fuel + 1, '[' :: rest =>
    let negated := rest.head? == some '!'
    match items? (rest.length + 1) (if negated then rest.tail else rest) with
    | some (items, behind) => .oneOf negated items :: read fuel behind
    | none => .exactly '[' :: read fuel rest
  | fuel + 1, c :: rest => .exactly c :: read fuel rest

/-- The pattern that a text is. -/
def of (text : List Char) : Pattern :=
  read (text.length + 1) text

/-! ## Comparing -/

/-- A character is between brackets. -/
def Bracketed.holds (item : Bracketed) (c : Char) : Bool :=
  match item with
  | .range low high => signed low ≤ signed c && signed c ≤ signed high
  | .kind holds => holds c

/-- A part of a pattern fits a character. -/
def fitsChar (part : PatternPart) (c : Char) : Bool :=
  match part with
  | .exactly d => c == d
  | .anyChar => true
  | .anyText => false
  | .oneOf negated items => items.any (Bracketed.holds · c) != negated

/-- A pattern fits a text. -/
def fits : Nat → Pattern → Octets → Bool
  | 0, _, _ => false
  | _, [], cs => cs.isEmpty
  | fuel + 1, .anyText :: rest, cs =>
    fits fuel rest cs ||
      (match cs with
      | [] => false
      | _ :: tail => fits fuel (.anyText :: rest) tail)
  | _, _ :: _, [] => false
  | fuel + 1, part :: rest, c :: cs => fitsChar part c && fits fuel rest cs

/-- A pattern fits a text as a whole. -/
def fitsAll (p : Pattern) (cs : Octets) : Bool :=
  fits (p.length + cs.length + 1) p cs

/-! ## Cutting -/

/-- The numbers up to another, downwards if the longest part is wanted. -/
def places (n : Nat) (downwards : Bool) : List Nat :=
  let upwards := List.range (n + 1)
  if downwards then upwards.reverse else upwards

/-- Where a value is cut so that a pattern fits what is cut off at its start, the part before the
place, or at its end, the part from there to a null octet. -/
def cutPlace? (p : Pattern) (atStart longest : Bool) (value : Octets) : Option Nat :=
  let downwards := atStart == longest
  let most := if downwards then value.length else (untilNul value).length
  (places most downwards).find? fun n =>
    p.fitsAll (untilNul (if atStart then value.take n else value.drop n))

end Pattern

end ContainerOps.Shell
