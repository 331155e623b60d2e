import ContainerOps.Yaml.Token
import ContainerOps.Yaml.Token.Scalar

/-!
# Names, tags and directives

A node can be given a name and a tag.  A tag is written in full between angle brackets, or with a
handle that stands for its beginning; a directive gives a handle its meaning.
-/

namespace ContainerOps.Yaml

/-! ## Names -/

/-- A character that may follow the name of a node directly. -/
def endsName (c : Char) : Bool :=
  c ∈ ['?', ':', ',', ']', '\x7d', '%', '@', '`']

/-- The name after the sign for one. -/
def nodeName (c : Cursor) : Option (String × Cursor) :=
  let found := c.skip.takeWhile isNameChar
  if found.1.isEmpty || !(found.2.endsWord 0 || found.2.sees endsName 0) then none
  else some (String.ofList found.1, found.2)

/-! ## Tags -/

/-- A character of tags beyond those of names; commas and brackets only where the tag stands
between angle brackets. -/
def isTagChar (verbatim : Bool) (c : Char) : Bool :=
  isNameChar c ||
    c ∈ [';', '/', '?', ':', '@', '&', '=', '+', '$', '.', '%', '!', '~', '*', '\'', '(', ')'] ||
    (verbatim && (c == ',' || c == '[' || c == ']'))

/-- The number of octets of a sequence, by its first octet. -/
def octetCount? (n : Nat) : Option Nat :=
  if n < 0x80 then some 1
  else if n / 0x20 = 0x6 then some 2
  else if n / 0x10 = 0xE then some 3
  else if n / 0x8 = 0x1E then some 4
  else none

/-- The octet written as a percent sign and two digits. -/
def octet? (c : Cursor) : Option Nat :=
  match c.rest with
  | '%' :: rest => hexNumber 2 0 rest
  | _ => none

/-- The further octets of a sequence.  An octet is kept as the character with its code. -/
def furtherOctets : Nat → Cursor → Option (List Char × Cursor)
  | 0, c => some ([], c)
  | count + 1, c =>
    match octet? c with
    | none => none
    | some n =>
      if n / 0x40 = 2 then
        (furtherOctets count (c.advance 3)).map fun more => (Char.ofNat n :: more.1, more.2)
      else none

/-- A sequence of escaped octets. -/
def octets (c : Cursor) : Option (List Char × Cursor) :=
  match octet? c with
  | none => none
  | some n =>
    match octetCount? n with
    | none => none
    | some count =>
      (furtherOctets (count - 1) (c.advance 3)).map fun more => (Char.ofNat n :: more.1, more.2)

/-- The characters of a tag. -/
def tagText (verbatim : Bool) : Nat → Cursor → Option (List Char × Cursor)
  | 0, c => some ([], c)
  | fuel + 1, c =>
    match c.rest with
    | [] => some ([], c)
    | x :: _ =>
      if !isTagChar verbatim x then some ([], c)
      else
        let part := if x == '%' then octets c else some ([x], c.skip)
        match part with
        | none => none
        | some (text, c) => (tagText verbatim fuel c).map fun more => (text ++ more.1, more.2)

/-- The characters of a tag, of which there has to be one. -/
def someTagText (verbatim : Bool) (c : Cursor) : Option (List Char × Cursor) :=
  match tagText verbatim c.rest.length c with
  | none => none
  | some found => if found.1.isEmpty then none else some found

/-- The text from an exclamation mark on that may be a handle: characters of names, and an
exclamation mark if one follows. -/
def handleText (c : Cursor) : List Char × Cursor :=
  let found := c.skip.takeWhile isNameChar
  if found.2.has '!' 0 then ('!' :: found.1 ++ ['!'], found.2.skip) else ('!' :: found.1, found.2)

/-- A text that may be a handle is one: it is longer than the mark and ends in one. -/
def isHandle (text : List Char) : Bool :=
  1 < text.length && text.getLast? == some '!'

/-- The tag without the check of what follows it. -/
def tagBody (c : Cursor) : Option (Token × Cursor) :=
  if c.has '<' 1 then
    match someTagText true (c.advance 2) with
    | none => none
    | some (text, c) =>
      if c.has '>' 0 then some (.tag "" (String.ofList text), c.skip) else none
  else
    let handle := handleText c
    if isHandle handle.1 then
      (someTagText false handle.2).map fun found =>
        (.tag (String.ofList handle.1) (String.ofList found.1), found.2)
    else
      match tagText false handle.2.rest.length handle.2 with
      | none => none
      | some (text, c) =>
        let rest := handle.1.drop 1 ++ text
        if rest.isEmpty then some (.tag "" "!", c) else some (.tag "!" (String.ofList rest), c)

/-- A tag, which has to end a word or, between brackets or braces, stand before a comma. -/
def tag (inFlow : Bool) (c : Cursor) : Option (Token × Cursor) :=
  match tagBody c with
  | none => none
  | some found =>
    if found.2.endsWord 0 || (inFlow && found.2.has ',' 0) then some found else none

/-- What every document knows of handles: a single mark stands for itself and a double one for the
tags of the language. -/
def defaultHandles : List (String × String) :=
  [("!", "!"), ("!!", "tag:yaml.org,2002:")]

/-! ## Directives -/

/-- The longest number in a version. -/
def maxVersionDigits : Nat := 9

/-- A number in a version. -/
def versionNumber (c : Cursor) : Option (Nat × Cursor) :=
  let found := c.takeWhile fun x => '0' ≤ x && x ≤ '9'
  if found.1.isEmpty || maxVersionDigits < found.1.length then none
  else some (found.1.foldl (fun n x => n * 10 + (x.toNat - 48)) 0, found.2)

/-- The version in a directive. -/
def versionDirective (c : Cursor) : Option (Token × Cursor) :=
  match versionNumber (c.skipWhile isSpacing) with
  | none => none
  | some (major, c) =>
    if c.has '.' 0 then
      (versionNumber c.skip).map fun minor => (.version major minor.1, minor.2)
    else none

/-- The handle and its meaning in a directive. -/
def handleDirective (c : Cursor) : Option (Token × Cursor) :=
  let c := c.skipWhile isSpacing
  if !c.has '!' 0 then none
  else
    let handle := handleText c
    if !(isHandle handle.1 || handle.1.length = 1) || !handle.2.sees isSpacing 0 then none
    else
      match someTagText true (handle.2.skipWhile isSpacing) with
      | none => none
      | some (meaning, c) =>
        if c.endsWord 0 then
          some (.handle (String.ofList handle.1) (String.ofList meaning), c)
        else none

/-- A directive from its sign on, up to the next line. -/
def directive (c : Cursor) : Option (Token × Cursor) :=
  let name := c.skip.takeWhile isNameChar
  let body :=
    if name.1.isEmpty || !name.2.endsWord 0 then none
    else if name.1 = "YAML".toList then versionDirective name.2
    else if name.1 = "TAG".toList then handleDirective name.2
    else none
  match body with
  | none => none
  | some (token, c) => (endOfHeader c).map fun c => (token, c)

end ContainerOps.Yaml
