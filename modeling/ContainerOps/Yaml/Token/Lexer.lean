import ContainerOps.Yaml.Token.Property

/-!
# From text to tokens

The lexer keeps the columns of the open blocks and, for every pair of open brackets or braces, the
token that may turn out to begin a key: only the colon after it tells.  Such a token must stand
on one line and not far before its colon.  A token is settled once no key can begin at it or before
it; if the text turns out to be faulty, only the settled tokens count.

Main results:

- `Lexer.settled_le`: no more tokens are settled than there are.
-/

namespace ContainerOps.Yaml

/-! ## State -/

/-- A token that may begin a key. -/
structure KeyStart where
  /-- The number of tokens before it. -/
  position : Nat
  /-- A colon has to follow, because the token stands where only a key can. -/
  required : Bool
  /-- Where it stands. -/
  place : Cursor

/-- The state of the lexer. -/
structure Lexer where
  /-- Where the lexer is. -/
  cursor : Cursor
  /-- The tokens so far. -/
  tokens : List Token
  /-- The column of the innermost open block, or `-1`. -/
  indent : Int
  /-- The columns of the blocks around it. -/
  outer : List Int
  /-- The token that may begin a key, outside of brackets and braces or in the innermost. -/
  keyStart : Option KeyStart
  /-- The same for the brackets and braces around. -/
  outerKeys : List (Option KeyStart)
  /-- A key may begin at the next token. -/
  keyAllowed : Bool

namespace Lexer

/-- The state before the first token. -/
def start (cs : List Char) : Lexer :=
  { cursor := .start cs
    tokens := []
    indent := -1
    outer := []
    keyStart := none
    outerKeys := []
    keyAllowed := true }

/-- The lexer is between brackets or braces. -/
def inFlow (l : Lexer) : Bool :=
  !l.outerKeys.isEmpty

/-- The column of the cursor. -/
def column (l : Lexer) : Int :=
  l.cursor.column

/-- The state with one more token. -/
def push (l : Lexer) (t : Token) : Lexer :=
  { l with tokens := l.tokens ++ [t] }

/-- The state with a token put before the tokens from a position on. -/
def insertAt (l : Lexer) (position : Nat) (t : Token) : Lexer :=
  { l with tokens := l.tokens.take position ++ t :: l.tokens.drop position }

/-- The state with a token, and the cursor after it. -/
def emit (l : Lexer) (t : Token) (after : Cursor) : Lexer :=
  { l.push t with cursor := after }

/-! ## Blocks -/

/-- Opens a block at a column, if none that is indented so far is open.  Its token is put at a
position. -/
def openBlock (l : Lexer) (column : Int) (position : Nat) (t : Token) : Lexer :=
  if l.inFlow || column ≤ l.indent then l
  else { l.insertAt position t with indent := column, outer := l.indent :: l.outer }

/-- Closes the blocks that are indented further than a column. -/
def closeBlocks (column : Int) : Nat → Lexer → Lexer
  | 0, l => l
  | fuel + 1, l =>
    if l.inFlow || l.indent ≤ column then l
    else
      match l.outer with
      | [] => l
      | indent :: outer =>
        closeBlocks column fuel { l.push .blockEnd with indent := indent, outer := outer }

/-- Closes the blocks that are indented further than a column, whatever their number. -/
def unwind (l : Lexer) (column : Int) : Lexer :=
  closeBlocks column (l.outer.length + 1) l

/-! ## Keys -/

/-- The greatest distance between the start of a key and its colon, in octets. -/
def maxKeyLength : Nat := 1024

/-- A token is too far back, or on an earlier line, to begin a key. -/
def isStale (cursor : Cursor) (k : KeyStart) : Bool :=
  k.place.line < cursor.line || k.place.index + maxKeyLength < cursor.index

/-- A token that may begin a key, unless it is too far back. -/
def refreshed (cursor : Cursor) : Option KeyStart → Option (Option KeyStart)
  | none => some none
  | some k =>
    if !isStale cursor k then some (some k) else if k.required then none else some none

/-- The same for several tokens. -/
def refreshedAll (cursor : Cursor) : List (Option KeyStart) → Option (List (Option KeyStart))
  | [] => some []
  | k :: rest =>
    match refreshed cursor k, refreshedAll cursor rest with
    | some k, some rest => some (k :: rest)
    | _, _ => none

/-- Gives up the tokens that are too far back to begin a key; it is an error if one has to. -/
def dropStale (l : Lexer) : Option Lexer :=
  match refreshed l.cursor l.keyStart, refreshedAll l.cursor l.outerKeys with
  | some keyStart, some outerKeys => some { l with keyStart := keyStart, outerKeys := outerKeys }
  | _, _ => none

/-- Gives up the token that may begin a key; it is an error if it has to. -/
def dropKey (l : Lexer) : Option Lexer :=
  match l.keyStart with
  | some k => if k.required then none else some { l with keyStart := none }
  | none => some l

/-- Notes that the next token may begin a key, where that is allowed. -/
def markKey (l : Lexer) : Option Lexer :=
  if !l.keyAllowed then some l
  else
    l.dropKey.map fun l =>
      { l with
        keyStart := some
          { position := l.tokens.length
            required := !l.inFlow && l.indent == l.column
            place := l.cursor } }

/-- The number of tokens that come before any that may begin a key. -/
def settled (l : Lexer) : Nat :=
  ((l.keyStart :: l.outerKeys).filterMap id).foldl (fun n k => min n k.position) l.tokens.length

/-- The least of some numbers and another is no more than the other. -/
theorem foldl_min_le (keys : List KeyStart) (n : Nat) :
    keys.foldl (fun n k => min n k.position) n ≤ n := by
  induction keys generalizing n with
  | nil => simp
  | cons k rest ih => exact Nat.le_trans (ih _) (Nat.min_le_left _ _)

/-- No more tokens are settled than there are. -/
theorem settled_le (l : Lexer) : l.settled ≤ l.tokens.length :=
  foldl_min_le _ _

/-! ## Between tokens -/

/-- Passes over blanks, comments, line ends, and a byte-order mark in the first column.  A tab
counts as a blank only where no key can begin. -/
def skipBlanks : Nat → Lexer → Lexer
  | 0, l => l
  | fuel + 1, l =>
    let c := l.cursor
    let c := if c.column = 0 && c.has byteOrderMark 0 then c.skip else c
    let c := c.skipWhile fun x => x == ' ' || ((l.inFlow || !l.keyAllowed) && x == '\t')
    let c := c.skipComment
    if c.sees isBreak 0 then
      skipBlanks fuel
        { l with cursor := c.skipBreak, keyAllowed := l.keyAllowed || !l.inFlow }
    else { l with cursor := c }

/-! ## Single tokens -/

/-- The end of the text, which ends its last line too. -/
def endOfText (l : Lexer) : Option Lexer :=
  let c := if l.cursor.column = 0 then l.cursor else l.cursor.nextLine 0
  (l.unwind (-1)).dropKey.map fun l => { l.emit .streamEnd c with keyAllowed := false }

/-- A directive. -/
def readDirective (l : Lexer) : Option Lexer :=
  match (l.unwind (-1)).dropKey with
  | none => none
  | some l =>
    (directive l.cursor).map fun found => { l.emit found.1 found.2 with keyAllowed := false }

/-- The mark for the start or the end of a document. -/
def readMarker (l : Lexer) (t : Token) : Option Lexer :=
  (l.unwind (-1)).dropKey.map fun l => { l.emit t (l.cursor.advance 3) with keyAllowed := false }

/-- An opening bracket or brace. -/
def readOpen (l : Lexer) (t : Token) : Option Lexer :=
  l.markKey.map fun l =>
    { l.emit t l.cursor.skip with
      keyStart := none
      outerKeys := l.keyStart :: l.outerKeys
      keyAllowed := true }

/-- A closing bracket or brace. -/
def readClose (l : Lexer) (t : Token) : Option Lexer :=
  l.dropKey.map fun l =>
    let l :=
      match l.outerKeys with
      | [] => l
      | k :: outer => { l with keyStart := k, outerKeys := outer }
    { l.emit t l.cursor.skip with keyAllowed := false }

/-- A comma. -/
def readComma (l : Lexer) : Option Lexer :=
  l.dropKey.map fun l => { l.emit .comma l.cursor.skip with keyAllowed := true }

/-- The hyphen before an item. -/
def readItem (l : Lexer) : Option Lexer :=
  if !l.inFlow && !l.keyAllowed then none
  else
    (l.openBlock l.column l.tokens.length .blockSequence).dropKey.map fun l =>
      { l.emit .item l.cursor.skip with keyAllowed := true }

/-- The sign before a key. -/
def readKey (l : Lexer) : Option Lexer :=
  if !l.inFlow && !l.keyAllowed then none
  else
    (l.openBlock l.column l.tokens.length .blockMapping).dropKey.map fun l =>
      { l.emit .key l.cursor.skip with keyAllowed := !l.inFlow }

/-- The colon before a value.  If a key may have begun before, it did. -/
def readValue (l : Lexer) : Option Lexer :=
  match l.keyStart with
  | some k =>
    let l := (l.insertAt k.position .key).openBlock k.place.column k.position .blockMapping
    some { l.emit .value l.cursor.skip with keyStart := none, keyAllowed := false }
  | none =>
    if !l.inFlow && !l.keyAllowed then none
    else
      let l := l.openBlock l.column l.tokens.length .blockMapping
      some { l.emit .value l.cursor.skip with keyAllowed := !l.inFlow }

/-- A reference to a node, or the name of one. -/
def readName (l : Lexer) (wrap : String → Token) : Option Lexer :=
  match l.markKey with
  | none => none
  | some l =>
    (nodeName l.cursor).map fun found =>
      { l.emit (wrap found.1) found.2 with keyAllowed := false }

/-- A tag. -/
def readTag (l : Lexer) : Option Lexer :=
  match l.markKey with
  | none => none
  | some l =>
    (tag l.inFlow l.cursor).map fun found => { l.emit found.1 found.2 with keyAllowed := false }

/-- A block scalar. -/
def readBlock (l : Lexer) (literal : Bool) : Option Lexer :=
  match l.dropKey with
  | none => none
  | some l =>
    (blockScalar literal l.indent l.cursor).map fun found =>
      { l.emit (.scalar (String.ofList found.text) (if literal then .literal else .folded))
          found.after with keyAllowed := true }

/-- A quoted scalar. -/
def readQuoted (l : Lexer) (double : Bool) : Option Lexer :=
  match l.markKey with
  | none => none
  | some l =>
    (quotedScalar double l.cursor).map fun found =>
      { l.emit (.scalar (String.ofList found.text) .quoted) found.after with keyAllowed := false }

/-- A plain scalar.  A key may begin after it if a line ended behind it. -/
def readPlain (l : Lexer) : Option Lexer :=
  match l.markKey with
  | none => none
  | some l =>
    (plainScalar l.inFlow (l.indent + 1).toNat l.cursor).map fun found =>
      { l.emit (.scalar (String.ofList found.text) .plain) found.after with
        keyAllowed := found.lineEnded }

/-! ## One token after another -/

/-- A character that never begins a plain scalar. -/
def isIndicator (c : Char) : Bool :=
  c ∈ ['-', '?', ':', ',', '[', ']', '\x7b', '\x7d', '#', '&', '*', '!', '|', '>', '\'', '"', '%',
    '@', '`']

/-- A plain scalar begins here.  A hyphen begins one if no spacing follows, and outside of
brackets and braces so do a question mark and a colon. -/
def beginsPlain (l : Lexer) (x : Char) : Bool :=
  !(l.cursor.endsWord 0 || isIndicator x) ||
    (x == '-' && !l.cursor.sees isSpacing 1) ||
    (!l.inFlow && (x == '?' || x == ':') && !l.cursor.endsWord 1)

/-- Reads the token at the cursor. -/
def readToken (l : Lexer) : Option Lexer :=
  let c := l.cursor
  match c.rest with
  | [] => l.endOfText
  | x :: _ =>
    if c.column = 0 && x == '%' then l.readDirective
    else if c.marks '-' then l.readMarker .documentStart
    else if c.marks '.' then l.readMarker .documentEnd
    else if x == '[' then l.readOpen .sequenceOpen
    else if x == '\x7b' then l.readOpen .mappingOpen
    else if x == ']' then l.readClose .sequenceClose
    else if x == '\x7d' then l.readClose .mappingClose
    else if x == ',' then l.readComma
    else if x == '-' && c.endsWord 1 then l.readItem
    else if x == '?' && (l.inFlow || c.endsWord 1) then l.readKey
    else if x == ':' && (l.inFlow || c.endsWord 1) then l.readValue
    else if x == '*' then l.readName .reference
    else if x == '&' then l.readName .anchor
    else if x == '!' then l.readTag
    else if x == '|' && !l.inFlow then l.readBlock true
    else if x == '>' && !l.inFlow then l.readBlock false
    else if x == '\'' then l.readQuoted false
    else if x == '"' then l.readQuoted true
    else if l.beginsPlain x then l.readPlain
    else none

/-- Reads the next token. -/
def next (l : Lexer) : Option Lexer :=
  match (skipBlanks (l.cursor.rest.length + 1) l).dropStale with
  | none => none
  | some l => (l.unwind l.column).readToken

/-- The tokens from a state on, up to the end or the last that is settled before an error. -/
def run : Nat → Lexer → List Token
  | 0, l => l.tokens.take l.settled
  | fuel + 1, l =>
    match l.next.bind dropStale with
    | none => l.tokens.take l.settled
    | some l => if l.tokens.getLast? = some .streamEnd then l.tokens else run fuel l

end Lexer

/-! ## Whole texts -/

/-- The tokens of a text, the last of which marks the end unless the text is faulty.  A text with a
character that may not stand in it has none. -/
def tokens (text : String) : List Token :=
  let cs := text.toList
  if cs.all isAllowed then Lexer.run (cs.length + 2) (.start cs) else []

end ContainerOps.Yaml
