import ContainerOps.Shell.Options

/-!
# The start of a shell

A shell takes over variables, descriptors and a directory from the program that starts it.  Its
arguments say what settings it begins with, and where its script is: in an argument, in a file or in
its input.

Main results:

- `isOn_start`: no setting is on at first.
-/

namespace ContainerOps.Shell

open ContainerOps.World

/-! ## What is taken over -/

/-- What a shell takes over from the program that starts it. -/
structure Origin where
  /-- The name under which it is started. -/
  name : Octets
  /-- The variables that programs see. -/
  environment : List (Octets × Octets)
  /-- The directory. -/
  directory : Location
  /-- The permissions that new files do not have. -/
  mask : Nat
  /-- The channels that descriptors lead to. -/
  descriptors : List (Nat × Nat)
  /-- The signals that are ignored. -/
  ignored : List Nat
  /-- The number of its process. -/
  process : Nat
  /-- The number of the process that starts it. -/
  parent : Nat
  /-- The files and the channels. -/
  world : Surroundings

/-- The variables that keep their other attributes when their values are dropped, with the values
that they have unless others are taken over. -/
def fixedVariables : List (Octets × Variable) :=
  let fixed := fun (name : String) (value : Option String) =>
    (octetsOf name, { Variable.of (value.map octetsOf) with fixed := true })
  [fixed "IFS" none, fixed "MAIL" none, fixed "MAILPATH" none, fixed "OPTIND" none,
    fixed "PATH" (some (String.ofList State.defaultSearchPath)), fixed "PS1" (some "# "),
    fixed "PS2" (some "> "), fixed "PS4" (some "+ ")]

namespace State

/-- The state in which a variable has a value, and its other attributes as before. -/
def give (s : State) (name value : Octets) (exported : Bool) : State :=
  let v := (s.variableOf? name).getD (.of none)
  s.putVariable name (some { v with value := some value, exported := v.exported || exported })

/-- The path of the directory: the one that was taken over if it leads there. -/
def startPath (s : State) : Octets :=
  let own := nameOctets (pathOf s.directory)
  match s.find? (octetsOf "PWD") with
  | none => own
  | some given =>
    let location := s.world.tree.resolve [] (pathText given)
    if given.head? == some '/' && location.toOption == some s.directory then given else own

/-- The shell before it has looked at its environment. -/
def blank (o : Origin) : State :=
  { name := o.name
    arguments := .of []
    values := fixedVariables
    frames := []
    functions := []
    aliases := []
    noted := []
    settings := []
    documents := []
    traps := []
    deaf := o.ignored
    pending := []
    isMain := true
    caller := none
    line := 0
    readingLines := [1]
    atEnd := false
    status := 0
    statusBefore := none
    substituted := 0
    skip := .nothing
    loops := 0
    calls := 0
    showing := false
    directory := o.directory
    path := []
    mask := o.mask
    descriptors := o.descriptors
    shut := []
    held := []
    unwritten := false
    process := o.process
    parent := o.parent
    background := none
    jobs := []
    world := o.world }

/-- The shell before it has looked at its arguments. -/
def start (o : Origin) : State :=
  let s := (o.environment.filter fun e => isName e.1).foldl
    (fun s e => s.give e.1 e.2 true) (blank o)
  let s := s.give (octetsOf "IFS") [' ', '\t', '\n'] false
  let s := s.give (octetsOf "OPTIND") ['1'] false
  let s := s.give (octetsOf "PPID") (numeral o.parent) false
  let path := s.startPath
  { s.give (octetsOf "PWD") path true with path := path }

/-- Giving a variable a value switches no setting. -/
@[simp]
theorem settings_give (s : State) (name value : Octets) (exported : Bool) :
    (s.give name value exported).settings = s.settings := rfl

/-- No setting is on at first. -/
theorem isOn_start (o : Origin) (setting : Setting) : (start o).isOn setting = false := by
  have kept : ∀ (given : List (Octets × Octets)) (s : State),
      (given.foldl (fun s e => s.give e.1 e.2 true) s).settings = s.settings := by
    intro given
    induction given with
    | nil => intro s; rfl
    | cons e given ih => intro s; simp [ih]
  simp [start, isOn, kept, blank]

end State

/-! ## What is asked for -/

/-- Where the script of a shell is. -/
inductive Task where
  /-- In an argument, and then in its input too if that is wanted. -/
  | text (script : Octets) (inputToo : Bool)
  /-- In a file with this content. -/
  | file (content : Octets)
  /-- In its input. -/
  | input

namespace Action

/-- Takes the options of the shell off its arguments, and says whether one of them announces a
script. -/
def startOptions : Nat → Bool → List Octets → Action (Bool × List Octets)
  | 0, announced, args => return (announced, args)
  | _, announced, [] => return (announced, [])
  | fuel + 1, announced, arg :: rest => do
    let switched (on : Bool) (letters : Octets) : Action (Bool × List Octets) := do
      let (others, rest) ← switchLetters ['c', 'l'] on letters rest
      startOptions fuel (announced || others.contains 'c') rest
    match arg with
    | ['-'] => return (announced, rest)
    | ['-', '-'] => return (announced, rest)
    | '-' :: letters => switched true letters
    | '+' :: letters => switched false letters
    | _ => return (announced, arg :: rest)

/-- What a path leads to, as a script. -/
def scriptAt (path : Octets) : Action Octets := do
  let s ← get
  match s.openPath .input path with
  | .error fault =>
    raise (octetsOf "cannot open " ++ path ++ octetsOf (": " ++ fault.message .input))
  | .ok (n, opened) =>
    let reading := opened.lead 0 (some n)
    return (octets ((reading.unread? 0).getD [])).filter (· != nul)

/-- Sets the name and the arguments of the shell. -/
def takeArguments (name : Octets) (values : List Octets) : Action Unit :=
  modify fun s => { s with name := name, arguments := .of values }

/-- Takes the options of the shell off its arguments.  Where they are shown, the settings that were
not switched yet are shown as on. -/
def takeOptions (args : List Octets) : Action (Bool × List Octets) := do
  let look := startOptions (args.length + 1) false args
  modify fun s => { s with settings := settingNames.map Prod.fst }
  let _ ← look
  flush
  modify fun s => { s with settings := [] }
  let found ← look
  modify fun s => { s with held := [] }
  return found

/-- Looks at the arguments of the shell. -/
def task (args : List Octets) : Action Task := do
  let (announced, rest) ← takeOptions args
  match announced, rest with
  | true, [] => raise (octetsOf "-c requires an argument")
  | true, script :: rest => do
    match rest with
    | [] => pure ()
    | name :: values => takeArguments name values
    giveUpMonitor
    return .text script ((← get).isOn .stdin)
  | false, [] => do
    modify fun s => s.switch .stdin true
    giveUpMonitor
    return .input
  | false, path :: values => do
    if (← get).isOn .stdin then
      takeArguments (← get).name (path :: values)
      giveUpMonitor
      return .input
    else
      let content ← scriptAt path
      takeArguments path values
      giveUpMonitor
      return .file content

end Action

end ContainerOps.Shell
