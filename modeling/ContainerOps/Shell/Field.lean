import ContainerOps.Shell.Pattern

/-!
# Fields

A word that is expanded is a list of cells.  Values in it form regions, at whose separators it is
taken apart into fields.  Quotation marks stay in the cells, because a field with one in it is there
be it empty.
-/

namespace ContainerOps.Shell

/-! ## Cells -/

/-- A piece of an expanded word. -/
inductive Cell where
  /-- A character, which may be quoted. -/
  | char (c : Char) (quoted : Bool)
  /-- A quotation mark. -/
  | mark
  /-- A region begins; in some, null octets only are separators. -/
  | begins (nullOnly : Bool)
  /-- A region ends. -/
  | ends
deriving DecidableEq

namespace Cell

/-- A text as cells. -/
def ofText (quoted : Bool) (text : Octets) : List Cell :=
  text.map fun c => .char c quoted

/-- Cells as a region. -/
def region (nullOnly : Bool) (cells : List Cell) : List Cell :=
  .begins nullOnly :: cells ++ [.ends]

/-- The characters of cells. -/
def text (cells : List Cell) : Octets :=
  cells.filterMap fun
    | .char c _ => some c
    | _ => none

/-- Cells as the text of a pattern, in which quoted characters stand behind backslashes.  Behind a
backslash that is not quoted they do already. -/
def patternText (behindBackslash : Bool) : List Cell → Octets
  | [] => []
  | .char c quoted :: rest =>
    if c == '\\' && !quoted then c :: patternText true rest
    else if quoted && !behindBackslash then '\\' :: c :: patternText false rest
    else c :: patternText false rest
  | _ :: rest => patternText behindBackslash rest

/-- The pattern that cells are. -/
def pattern (cells : List Cell) : Pattern :=
  .of (patternText false cells)

end Cell

/-! ## Taking apart -/

/-- The fields that were found and what is known at some place in the cells. -/
structure Splitting where
  /-- The field that has begun, its last cell first. -/
  field : List Cell
  /-- What may be dropped at the end of the last field, its last cell first. -/
  tail : Option (List Cell)
  /-- The fields before, the last first. -/
  found : List (List Cell)
  /-- How many fields there may be, if that is bounded. -/
  most : Option Nat
  /-- The place is in a region. -/
  inside : Bool
  /-- In the last region null octets only are separators. -/
  nullOnly : Bool
  /-- In the region before, null octets only were separators. -/
  afterNull : Bool
  /-- A blank has ended the field before. -/
  afterBlank : Bool
  /-- There was a region. -/
  anyRegion : Bool

namespace Splitting

/-- Nothing is found yet. -/
def start (most : Option Nat) : Splitting :=
  { field := []
    tail := none
    found := []
    most := most
    inside := false
    nullOnly := false
    afterNull := false
    afterBlank := false
    anyRegion := false }

/-- Puts a cell to the field. -/
def put (s : Splitting) (cell : Cell) : Splitting :=
  match s.tail with
  | some tail => { s with tail := some (cell :: tail) }
  | none => { s with field := cell :: s.field }

/-- Puts what might have been dropped to the field. -/
def keepTail (s : Splitting) : Splitting :=
  { s with field := s.tail.getD [] ++ s.field, tail := none }

/-- Ends the field at a separator. -/
def endField (s : Splitting) (cell : Cell) : Splitting :=
  let done := { s with found := s.field :: s.found, field := [] }
  match s.most with
  | none => done
  | some 1 => { s with most := some 0, tail := some [cell] }
  | some n => { done with most := some (n - 1) }

/-- One more cell.  Blanks among the separators count as one, also around another separator. -/
def step (separators : Octets) (s : Splitting) (cell : Cell) : Splitting :=
  match cell with
  | .begins nullOnly =>
    { s with
      inside := true
      afterNull := s.nullOnly
      nullOnly := nullOnly
      afterBlank := false
      anyRegion := true }
  | .ends => { s with inside := false }
  | .mark => s.put cell
  | .char c _ =>
    if !s.inside then s.put cell
    else
      let separates := c == nul || (!s.nullOnly && separators.contains c)
      let blank := separates && (c == nul || isBlank c)
      if s.most = some 0 then
        if blank then { s with tail := some (cell :: s.tail.getD []) }
        else
          let s := if separates && s.afterBlank then s else s.keepTail
          { s.put cell with afterBlank := false }
      else if s.afterBlank then
        if blank then s
        else if separates then { s with afterBlank := false }
        else { s.put cell with afterBlank := false }
      else if separates then
        let blank := blank && !s.afterNull && !s.nullOnly
        if s.field.isEmpty && blank then s else { s.endField cell with afterBlank := blank }
      else s.put cell

/-- All fields at the end of the cells, the last first. -/
def all (s : Splitting) : List (List Cell) :=
  if (s.anyRegion && s.nullOnly) || !s.field.isEmpty then s.field :: s.found else s.found

end Splitting

/-- The fields of cells. -/
def fields (separators : Octets) (most : Option Nat) (cells : List Cell) : List (List Cell) :=
  ((cells.foldl (Splitting.step separators) (.start most)).all.map List.reverse).reverse

end ContainerOps.Shell
