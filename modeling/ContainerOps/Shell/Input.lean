import ContainerOps.Shell.Field
import ContainerOps.Shell.Options

/-!
# Reading input

A line of input is read into variables, the fields of it one by one and the rest into the last.  A
backslash takes the meaning from the character behind it, and joins two lines.
-/

namespace ContainerOps.Shell.Action

/-! ## Lines -/

/-- The next line of what a descriptor leads to, without its end, and whether it has one; nothing if
the descriptor cannot be read. -/
def nextLine (descriptor : Nat) : Action (Option (Octets × Bool)) := do
  let s ← get
  match s.unread? descriptor with
  | none => return none
  | some unread =>
    let line := unread.takeWhile (· != 10)
    let isEnded := line.length < unread.length
    set (s.advance descriptor (line.length + (if isEnded then 1 else 0)))
    return some ((octets line).filter (· != nul), isEnded)

/-- All that is left of what a descriptor leads to. -/
def allInput (descriptor : Nat) : Action Octets := do
  let s ← get
  let unread := (s.unread? descriptor).getD []
  set (s.advance descriptor unread.length)
  return octets unread

/-! ## Cells -/

/-- The cells of a region that is given with its last character first. -/
def regionOf (reversed : Octets) : List Cell :=
  Cell.region false (Cell.ofText false reversed.reverse)

/-- The cells of a line in which backslashes protect characters, behind the cells and the characters
found so far, and whether a backslash at its end joins it with the next. -/
def lineCells : List Cell → Octets → Octets → List Cell × Octets × Bool
  | cells, found, [] => (cells, found, false)
  | cells, found, ['\\'] => (cells, found, true)
  | cells, found, '\\' :: c :: rest =>
    lineCells (cells ++ regionOf found ++ [.char c false]) [] rest
  | cells, found, c :: rest => lineCells cells (c :: found) rest

/-- The cells of the next line, behind those of the lines that were joined to it, and the outcome:
the end of the input is a failure. -/
def readCells (raw : Bool) : Nat → List Cell → Action (List Cell × Nat)
  | 0, cells => return (cells, 1)
  | fuel + 1, cells => do
    match ← nextLine 0 with
    | none => return (cells, 1)
    | some (line, isEnded) =>
      if raw then return (cells ++ regionOf line.reverse, if isEnded then 0 else 1)
      else
        let (cells, found, joins) := lineCells cells [] line
        let cells := cells ++ regionOf found
        if isEnded && joins then readCells raw fuel cells
        else return (cells, if isEnded then 0 else 1)

/-! ## Variables -/

/-- Sets variables to fields; those without one are made empty. -/
def setFields : List Octets → List (List Cell) → Action Unit
  | [], _ => return
  | name :: names, fields => do
    setVariable name (untilNul (Cell.text (fields.headD [])))
    setFields names fields.tail

/-- Reads a line of input into variables. -/
def readLine (args : List Octets) : Action Nat := do
  let (given, names) ← options "p:r" args
  if names.isEmpty then raise (octetsOf "arg count")
  else
    let raw := given.any fun e => e.1 == 'r'
    let bound := (((← get).unread? 0).getD []).length + 1
    let (cells, status) ← readCells raw bound []
    setFields names (fields (← get).separators (some names.length) cells)
    return status

end ContainerOps.Shell.Action
