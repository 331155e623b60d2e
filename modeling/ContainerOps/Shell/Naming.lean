import ContainerOps.Shell.Cursor
import ContainerOps.Shell.Signal

/-!
# What names stand for

A name where a command begins may be a keyword, an alias, a function, a command of the shell, or a
program that is looked for in some directories.
-/

namespace ContainerOps.Shell

/-! ## Programs -/

/-- The other commands of the shell. -/
def regularNames : List String :=
  ["[", "alias", "bg", "cd", "chdir", "command", "echo", "false", "fg", "getopts", "hash", "jobs",
    "kill", "printf", "pwd", "read", "test", "true", "type", "ulimit", "umask", "unalias", "wait"]

/-- The commands of the shell of which arguments may be assignments. -/
def declaringNames : List String :=
  ["alias", "export", "local", "readonly"]

/-- How the search for a program ended. -/
inductive Found where
  /-- At a path. -/
  | program (path : Octets)
  /-- At something that cannot be run. -/
  | denied
  /-- Without one. -/
  | missing
deriving DecidableEq

/-- Looks for a program by its name in some directories. -/
def State.findProgram (s : State) (search name : Octets) : Found :=
  let paths := (search.splitOn ':').map fun directory =>
    if directory.isEmpty then name else directory ++ '/' :: name
  let isThere := fun (path : Octets) => (s.entryAt path).toOption.isSome
  match paths.find? s.isProgram with
  | some path => .program path
  | none => if name.isEmpty || paths.any isThere then .denied else .missing

/-- What a name means. -/
inductive Meaning where
  | keyword
  | alias (value : Octets)
  | function
  | builtin (special : Bool)
  | program (path : Octets)
deriving DecidableEq

/-- What a name means as a command, if anything; `noted` are programs that were found before. -/
def State.meaning? (s : State) (search name : Octets) : Option Meaning :=
  let text := String.ofList name
  if text ∈ keywords then some .keyword
  else
    match s.aliases.lookup name, s.functions.lookup name with
    | some value, _ => some (.alias value)
    | none, some _ => some .function
    | none, none =>
      if text ∈ specialNames then some (.builtin true)
      else if text ∈ regularNames then some (.builtin false)
      else if name.contains '/' then
        if (s.entryAt name).toOption.isSome then some (.program name) else none
      else
        match s.findProgram search name with
        | .program path => some (.program path)
        | _ => none

namespace Action

/-- Notes that a program was found by its name. -/
def noteProgram (name path : Octets) : Action Unit :=
  modify fun s =>
    if s.noted.any fun e => e.1 == name then s else { s with noted := s.noted ++ [(name, path)] }

/-- An alias as the command that would set it. -/
def aliasText (name value : Octets) : Octets :=
  name ++ '=' :: quoted value

/-- Says what a name means, briefly or in words. -/
def sayMeaning (briefly : Bool) (search name : Octets) : Action Nat := do
  let s ← get
  let sayOne (brief : Octets) (words : Octets) : Action Nat := do
    sayLine (if briefly then brief else name ++ words)
    return 0
  match s.meaning? search name with
  | some .keyword => sayOne name (octetsOf " is a shell keyword")
  | some (.alias value) =>
    sayOne (octetsOf "alias " ++ aliasText name value) (octetsOf " is an alias for " ++ value)
  | some .function => sayOne name (octetsOf " is a shell function")
  | some (.builtin true) => sayOne name (octetsOf " is a special shell builtin")
  | some (.builtin false) => sayOne name (octetsOf " is a shell builtin")
  | some (.program path) =>
    let isNoted := s.noted.any fun e => e.1 == name
    sayOne path (octetsOf (if isNoted then " is a tracked alias for " else " is ") ++ path)
  | none =>
    if !briefly then sayLine (name ++ octetsOf ": not found")
    return 127

/-- Says what names mean. -/
def sayMeanings : List Octets → Action Nat
  | [] => return 0
  | name :: rest => do
    let status ← sayMeaning false (← get).searchPath name
    let more ← sayMeanings rest
    return status ||| more

/-- Says what a name means, if that is asked for. -/
def describe (args : List Octets) : Action Nat := do
  let (given, names) ← options "pvV" args
  let has := fun (c : Char) => given.any fun e => e.1 == c
  match names with
  | [] => return 0
  | name :: _ =>
    if has 'v' || has 'V' then
      let s ← get
      sayMeaning (!has 'V') (if has 'p' then State.defaultSearchPath else s.searchPath) name
    else return 0

/-- Notes where programs are, or names those that were noted. -/
def hash (args : List Octets) : Action Nat := do
  let (given, names) ← options "r" args
  if !given.isEmpty then
    modify fun s => { s with noted := [] }
    return 0
  else if names.isEmpty then
    for e in (← get).noted do sayLine e.2
    return 0
  else noteAll 0 names
where
  /-- Notes where programs are, unless they mean something else. -/
  noteAll (status : Nat) : List Octets → Action Nat
    | [] => return status
    | name :: rest => do
      let s ← get
      let isKnown := String.ofList name ∈ specialNames || String.ofList name ∈ regularNames ||
        (s.functions.lookup name).isSome || name.contains '/'
      if isKnown then noteAll status rest
      else
        match s.findProgram s.searchPath name with
        | .program path =>
          noteProgram name path
          noteAll status rest
        | .denied =>
          complain (name ++ octetsOf ": Permission denied")
          noteAll 1 rest
        | .missing =>
          complain (name ++ octetsOf ": not found")
          noteAll 1 rest

/-! ## Aliases -/

/-- The order in which aliases are named. -/
def aliasKey (name : Octets) : Nat :=
  let sum := name.foldl (fun n c => n + c.toNat) 0
  ((name.head?.map Char.toNat).getD 0 * 16 + sum) % 39

/-- Sets an alias; a new one comes last. -/
def setAlias (name value : Octets) : Action Unit :=
  modify fun s =>
    if (s.aliases.lookup name).isSome then
      { s with aliases := s.aliases.map fun e => if e.1 == name then (name, value) else e }
    else { s with aliases := s.aliases ++ [(name, value)] }

/-- The name of an alias and its value, if one is given behind the first character. -/
def splitAlias (text : Octets) : Octets × Option Octets :=
  match text with
  | [] => ([], none)
  | c :: rest =>
    let split := splitAssignment rest
    (c :: split.1, split.2)

/-- Sets or names aliases. -/
def aliasAll (status : Nat) : List Octets → Action Nat
  | [] => return status
  | text :: rest => do
    match splitAlias text with
    | (name, some value) =>
      setAlias name value
      aliasAll status rest
    | (name, none) =>
      match (← get).aliases.lookup name with
      | some value =>
        sayLine (aliasText name value)
        aliasAll status rest
      | none =>
        warn (octetsOf "alias: " ++ name ++ octetsOf " not found\n")
        aliasAll 1 rest

/-- Sets or names aliases; without arguments all of them. -/
def setAliases (args : List Octets) : Action Nat := do
  if args.isEmpty then
    let sorted := (← get).aliases.mergeSort fun a b => aliasKey a.1 ≤ aliasKey b.1
    for e in sorted do sayLine (aliasText e.1 e.2)
    return 0
  else aliasAll 0 args

/-- Drops aliases. -/
def unalias (args : List Octets) : Action Nat := do
  let (given, names) ← options "a" args
  if !given.isEmpty then
    modify fun s => { s with aliases := [] }
    return 0
  else dropAll 0 names
where
  /-- Drops some aliases. -/
  dropAll (status : Nat) : List Octets → Action Nat
    | [] => return status
    | name :: rest => do
      let s ← get
      if (s.aliases.lookup name).isSome then
        set { s with aliases := s.aliases.filter fun e => e.1 != name }
        dropAll status rest
      else
        warn (octetsOf "unalias: " ++ name ++ octetsOf " not found\n")
        dropAll 1 rest

end Action

end ContainerOps.Shell
