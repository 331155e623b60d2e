import ContainerOps.Shell.Descriptor
import ContainerOps.Shell.Field

/-!
# Patterns of paths

A field with the signs of a pattern in it stands for the paths that it fits.  The pattern is
compared step by step, so that none of its signs stands for a slash, and a point at the front of a
name has to be written.
-/

namespace ContainerOps.Shell

open ContainerOps.World

namespace PathPattern

/-! ## Steps -/

/-- A bracket, of which the text behind it is given, is closed in the same step; the first character
does not close it. -/
def closes : Bool → Octets → Bool
  | _, [] => false
  | _, '\\' :: c :: rest => c != '/' && closes false rest
  | first, c :: rest => (!first && c == ']') || (c != '/' && closes false rest)

/-- A pattern up to the step that has signs, that step, and the pattern behind its slash. -/
structure Parts where
  /-- The steps before, with the slash at their end. -/
  before : Octets
  /-- The step with signs. -/
  step : Octets
  /-- What is behind it; nothing if it is the last step. -/
  behind : Option Octets

/-- Looks for the first step with signs.  What was passed is given with its last character first,
apart from the step that has begun; `found` says that this has signs. -/
def firstStep : Octets → Octets → Bool → Octets → Option Parts
  | before, step, found, [] =>
    if found then some { before := before.reverse, step := step.reverse, behind := none } else none
  | before, step, found, '\\' :: c :: rest =>
    if c == '/' then
      if found then
        some { before := before.reverse, step := step.reverse, behind := some rest }
      else firstStep ('/' :: '\\' :: step ++ before) [] false rest
    else firstStep before (c :: '\\' :: step) found rest
  | before, step, found, c :: rest =>
    if c == '/' then
      if found then
        some { before := before.reverse, step := step.reverse, behind := some rest }
      else firstStep ('/' :: step ++ before) [] false rest
    else
      let body := if rest.head? == some '!' then rest.tail else rest
      let sign := c == '*' || c == '?' || (c == '[' && closes true body)
      firstStep before (c :: step) (found || sign) rest

/-- A text without the backslashes that protect characters. -/
def bare : Octets → Octets
  | '\\' :: c :: rest => c :: bare rest
  | c :: rest => c :: bare rest
  | [] => []

/-- The names in a directory that a step may stand for. -/
def namesFor (step : Octets) (names : List Octets) : List Octets :=
  let written := if step.head? == some '\\' then step.tail else step
  let p := Pattern.of step
  names.filter fun name =>
    (name.head? != some '.' || written.head? == some '.') && p.fitsAll name

/-! ## Paths -/

/-- The names in the directory that a path leads to; the empty path leads to the current one. -/
def namesAt (s : State) (path : Octets) : List Octets :=
  let path := if path.isEmpty then ['.'] else path
  match s.world.tree.resolve s.directory (State.pathText path) with
  | .ok location =>
    match s.world.tree.entryAt location with
    | some .directory =>
      ['.'] :: ['.', '.'] :: (s.world.tree.names location).map State.nameOctets
    | _ => []
  | .error _ => []

/-- The paths that a pattern fits behind a path. -/
def paths (s : State) : Nat → Octets → Octets → List Octets
  | 0, _, _ => []
  | fuel + 1, path, pattern =>
    match firstStep [] [] false pattern with
    | none =>
      let path := path ++ bare pattern
      match s.entryAt path with
      | .ok _ => [path]
      | .error _ => []
    | some parts =>
      let path := path ++ bare parts.before
      (namesFor parts.step (namesAt s path)).flatMap fun name =>
        match parts.behind with
        | none => [path ++ name]
        | some behind => paths s fuel (path ++ name ++ ['/']) behind

/-- One text is not behind another in the order of their octets. -/
def atMost (a b : Octets) : Bool :=
  !decide (b < a)

end PathPattern

/-- A sign that a pattern may have. -/
def isPatternSign (c : Char) : Bool :=
  c == '*' || c == '?' || c == '['

/-- What a field stands for: the paths that it fits, or itself if there are none. -/
def completed (s : State) (field : List Cell) : List Octets :=
  let text := untilNul (Cell.text field)
  if s.isOn .noglob || !text.any isPatternSign then [text]
  else
    let pattern := untilNul (Cell.patternText false field)
    if (PathPattern.firstStep [] [] false pattern).isNone then [text]
    else
      let found := PathPattern.paths s (pattern.length + 1) [] pattern
      if found.isEmpty then [text] else found.mergeSort PathPattern.atMost

end ContainerOps.Shell
