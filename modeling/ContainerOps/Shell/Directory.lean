import ContainerOps.Shell.Options

/-!
# The directory of a shell

A shell goes from directory to directory and remembers the path that it went.  Steps upwards undo
steps of that path, before anything is looked up.  The permissions that new files do not get are
kept as three octal digits.
-/

namespace ContainerOps.Shell.Action

open ContainerOps.World

/-! ## Paths -/

/-- The steps of a path that are not empty. -/
def stepsOf (path : Octets) : List Octets :=
  (path.splitOn '/').filter fun step => !step.isEmpty

/-- A step taken from the last of the steps before. -/
def takeStep (before : List Octets) (step : Octets) : List Octets :=
  if step = ['.'] then before
  else if step = ['.', '.'] then before.tail
  else step :: before

/-- A path, seen from the path of a directory, without steps that lead back.  Two slashes in front,
but not more, are kept. -/
def normalized (current path : Octets) : Octets :=
  let isAbsolute := path.head? == some '/'
  let whole := if isAbsolute then path else current
  let isDouble := "//".toList.isPrefixOf whole && !"///".toList.isPrefixOf whole
  let start := if isAbsolute then [] else (stepsOf current).reverse
  let steps := ((stepsOf path).foldl takeStep start).reverse
  (if isDouble then ['/', '/'] else ['/']) ++ ['/'].intercalate steps

/-- The way in which directories are looked at: step by step, or as they are. -/
def isPhysical (given : List (Char × Octets)) : Bool :=
  (given.getLast?.map Prod.fst) == some 'P'

/-- A location as a path. -/
def locationPath (location : Location) : Octets :=
  State.nameOctets (pathOf location)

/-! ## Going -/

/-- Goes to a directory, if there is one. -/
def goTo (physical : Bool) (path : Octets) : Action Bool := do
  let s ← get
  let target := if physical then path else normalized s.path path
  match s.world.tree.resolve s.directory (State.pathText target), s.isDirectory target with
  | .ok location, true => do
    assign (octetsOf "OLDPWD") s.path true
    let path := if physical then locationPath location else target
    modify fun s => { s with directory := location, path := path }
    assign (octetsOf "PWD") path true
    return true
  | _, _ => return false

/-- A path is not looked for elsewhere. -/
def isFixedPath (path : Octets) : Bool :=
  path.head? == some '/' || (path.splitOn '/').head? == some ['.'] ||
    (path.splitOn '/').head? == some ['.', '.']

/-- The first directory that a path leads to from one of some others, and whether that is said. -/
def findDirectory (s : State) (path : Octets) (search : Octets) : Option (Octets × Bool) :=
  (search.splitOn ':').findSome? fun start =>
    let found := if start.isEmpty then path else start ++ '/' :: path
    if s.isDirectory found then some (found, !start.isEmpty) else none

/-- Goes to the directory that the arguments name, to the one before, or home. -/
def changeDirectory (args : List Octets) : Action Nat := do
  let (given, args) ← options "LP" args
  let s ← get
  let isBack := args.head? == some ['-']
  let wanted :=
    match args with
    | [] => (s.find? (octetsOf "HOME")).getD []
    | path :: _ => if isBack then (s.find? (octetsOf "OLDPWD")).getD [] else path
  let isFixed := isFixedPath wanted
  let wanted := if wanted.isEmpty then ['.'] else wanted
  let search := if isFixed then none else s.find? (octetsOf "CDPATH")
  let found := (search.bind (findDirectory s wanted)).getD (wanted, false)
  if ← goTo (isPhysical given) found.1 then
    if isBack || found.2 then sayLine (← get).path
    return 0
  else raise (octetsOf "can't cd to " ++ wanted)

/-- Prints the directory. -/
def printDirectory (args : List Octets) : Action Nat := do
  let (given, _) ← options "LP" args
  let s ← get
  sayLine (if isPhysical given then locationPath s.directory else s.path)
  return 0

/-! ## Permissions -/

/-- The permissions of an octal digit as letters. -/
def permissionText (digit : Nat) : Octets :=
  (if digit.testBit 2 then ['r'] else []) ++ (if digit.testBit 1 then ['w'] else []) ++
    (if digit.testBit 0 then ['x'] else [])

/-- The permissions of the owner, the group and the others. -/
abbrev Permissions := Nat × Nat × Nat

/-- The permissions that a mask leaves. -/
def permissionsOf (mask : Nat) : Permissions :=
  (7 - mask / 64 % 8, 7 - mask / 8 % 8, 7 - mask % 8)

/-- The mask that leaves permissions. -/
def maskOf (p : Permissions) : Nat :=
  (7 - p.1) * 64 + (7 - p.2.1) * 8 + (7 - p.2.2)

/-- The permissions of a class by its letter. -/
def classDigit? (p : Permissions) (c : Char) : Option Nat :=
  if c == 'u' then some p.1 else if c == 'g' then some p.2.1
  else if c == 'o' then some p.2.2 else none

/-- What a letter adds to the permissions that are changed. -/
def permissionDigit? (p : Permissions) (c : Char) : Option Nat :=
  if c == 'r' then some 4
  else if c == 'w' then some 2
  else if c == 'x' then some 1
  else if c == 'X' then some (if (p.1 ||| p.2.1 ||| p.2.2) % 2 = 1 then 1 else 0)
  else if c == 's' then some 0
  else classDigit? p c

/-- Changes the permissions of some classes by a sign. -/
def changed (p : Permissions) (classes : Octets) (sign : Char) (digit : Nat) : Permissions :=
  let all := classes.isEmpty || classes.contains 'a'
  let one := fun (c : Char) (old : Nat) =>
    if !(all || classes.contains c) then old
    else if sign == '+' then old ||| digit
    else if sign == '-' then old - (old &&& digit)
    else digit
  (one 'u' p.1, one 'g' p.2.1, one 'o' p.2.2)

/-- The classes at the front of a clause of a symbolic mode, and what is behind them. -/
def splitClasses (text : Octets) : Octets × Octets :=
  let isClass := fun (c : Char) => c ∈ ['u', 'g', 'o', 'a']
  (text.takeWhile isClass, text.dropWhile isClass)

/-- The permissions that a symbolic mode asks for, read from a sign on.  What the permissions were
before the mode decides what its letters mean; a clause without a sign at the end changes
nothing. -/
def readMode (before : Permissions) :
    Nat → Octets → Octets → Permissions → Option Permissions
  | 0, _, _, _ => none
  | _, _, [], p => some p
  | fuel + 1, classes, sign :: rest, p =>
    if !(sign == '+' || sign == '-' || sign == '=') then none
    else
      let letters := rest.takeWhile fun c => (permissionDigit? before c).isSome
      let digit := (letters.filterMap (permissionDigit? before)).foldl (· ||| ·) 0
      let p := changed p classes sign digit
      match rest.drop letters.length with
      | ',' :: rest =>
        let clause := splitClasses rest
        readMode before fuel clause.1 clause.2 p
      | rest => readMode before fuel classes rest p

/-- The permissions that a symbolic mode asks for. -/
def mode? (text : Octets) (p : Permissions) : Option Permissions :=
  let clause := splitClasses text
  readMode p (text.length + 1) clause.1 clause.2 p

/-- Sets or prints the permissions that new files do not get. -/
def umask (args : List Octets) : Action Nat := do
  let (given, args) ← options "S" args
  let mask := (← get).mask
  match args with
  | [] =>
    let p := permissionsOf mask
    if given.isEmpty then
      let digits := Nat.toDigits 8 mask
      sayLine (List.replicate (4 - digits.length) '0' ++ digits)
    else
      sayLine (octetsOf "u=" ++ permissionText p.1 ++ octetsOf ",g=" ++ permissionText p.2.1 ++
        octetsOf ",o=" ++ permissionText p.2.2)
    return 0
  | text :: _ =>
    if (text.head?.map isDigit).getD false then
      if !text.all isOctal then illegalNumber text
      else
        modify fun s => { s with mask := numberIn 8 text % 512 }
        return 0
    else
      match mode? text (permissionsOf mask) with
      | none => raise (octetsOf "Illegal mode: " ++ text)
      | some p =>
        modify fun s => { s with mask := maskOf p }
        return 0

end ContainerOps.Shell.Action
