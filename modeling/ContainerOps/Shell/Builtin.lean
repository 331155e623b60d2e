import ContainerOps.Shell.Condition
import ContainerOps.Shell.Directory
import ContainerOps.Shell.Input
import ContainerOps.Shell.Naming
import ContainerOps.Shell.Printing

/-!
# Commands of the shell itself

Each of these commands takes its arguments and changes the state; it gives an outcome, and zero
means success.  Those that run other commands stand elsewhere.
-/

namespace ContainerOps.Shell.Action

/-! ## Outcomes -/

/-- Succeeds. -/
def succeed (_args : List Octets) : Action Nat :=
  return 0

/-- Fails. -/
def failAlways (_args : List Octets) : Action Nat :=
  return 1

/-- The outcome of a condition. -/
def conclude (condition : Action Bool) : Action Nat := do
  return if ← condition then 0 else 1

/-- Tests a condition. -/
def test (args : List Octets) : Action Nat :=
  conclude (Condition.holds args)

/-- Tests a condition up to an argument that begins with a closing bracket. -/
def bracketTest (args : List Octets) : Action Nat :=
  match args.getLast? with
  | some (']' :: _) => test args.dropLast
  | _ => raise (octetsOf "missing ]")

/-- Prints the arguments by a format. -/
def printFormat (args : List Octets) : Action Nat := do
  match ← withoutOptions args with
  | [] => raise (octetsOf "usage: printf format [arg ...]")
  | format :: args => Printing.printf format args

/-! ## Variables -/

/-- Prints variables in the order of their names, as commands if a word stands in front. -/
def sayVariables (word : Octets) (isShown : Variable → Bool) : Action Unit := do
  let shown := (← get).values.filter fun e => isShown e.2
  let front := if word.isEmpty then [] else word ++ [' ']
  for (name, v) in shown.mergeSort fun a b => !decide (b.1 < a.1) do
    sayLine (front ++ name ++ (v.value.map fun value => '=' :: quoted value).getD [])

/-- Gives variables an attribute, or prints those that have it. -/
def declareAll (word : String) (exported readOnly : Bool) (args : List Octets) : Action Nat := do
  let (given, names) ← options "p" args
  if names.isEmpty || !given.isEmpty then
    sayVariables (octetsOf word) fun v => (exported && v.exported) || (readOnly && v.readOnly)
  else
    for name in names do declare name exported readOnly
  return 0

/-- Makes variables local to the function. -/
def localizeAll (args : List Octets) : Action Nat := do
  if (← get).frames.isEmpty then raise (octetsOf "not in a function")
  else
    for text in args do
      if text = ['-'] then save (.settings (← get).settings)
      else localize text false
    return 0

/-- Drops variables or functions. -/
def unsetAll (args : List Octets) : Action Nat := do
  let (given, names) ← options "vf" args
  let isFunction := (given.getLast?.map Prod.fst) == some 'f'
  for name in names do
    if isFunction then
      modify fun s => { s with functions := s.functions.filter fun e => e.1 != name }
    else unset name
  return 0

/-! ## Settings and arguments -/

/-- Sets the arguments. -/
def setArguments (values : List Octets) : Action Unit :=
  modify fun s => { s with arguments := .of values }

/-- Switches settings and sets the arguments, or prints all variables. -/
def setAll (args : List Octets) : Action Nat := do
  if args.isEmpty then sayVariables [] fun v => v.value.isSome
  else
    let rest ← switchAll (args.length + 1) args
    giveUpMonitor
    match rest with
    | some values => setArguments values
    | none => pure ()
  return 0

/-- Drops the first arguments. -/
def shift (args : List Octets) : Action Nat := do
  let n ←
    match args with
    | [] => pure 1
    | count :: _ => number count
  let values := (← get).arguments.values
  if values.length < n then raise (octetsOf "can't shift that many")
  else
    setArguments (values.drop n)
    return 0

/-! ## Leaving -/

/-- Ends the shell. -/
def exit (args : List Octets) : Action Nat := do
  match args with
  | [] => pure ()
  | given :: _ =>
    let n ← number given
    modify fun s => { s with statusBefore := some n }
  throw .exited

/-- Ends the function or the file. -/
def leaveFunction (args : List Octets) : Action Nat := do
  let status ←
    match args with
    | [] => do pure (← get).status
    | given :: _ => number given
  modify fun s => { s with skip := .returning (!args.isEmpty) }
  return status

/-- Ends loops, or goes on with one. -/
def leaveLoop (skip : Nat → Skip) (args : List Octets) : Action Nat := do
  let n ←
    match args with
    | [] => pure 1
    | given :: _ => do
      let n ← number given
      if n = 0 then illegalNumber given else pure n
  modify fun s => if s.loops = 0 then s else { s with skip := skip (min n s.loops) }
  return 0

/-! ## Resources -/

/-- Prints the times that were used up. -/
def times (_args : List Octets) : Action Nat := do
  let none_ := octetsOf "0m0.000000s"
  sayLine (none_ ++ ' ' :: none_)
  sayLine (none_ ++ ' ' :: none_)
  return 0

/-- Prints a limit; there are none. -/
def limit (args : List Octets) : Action Nat := do
  let (_, values) ← options "HSatfdscmlpnvwr" args
  if values.isEmpty then sayLine (octetsOf "unlimited")
  return 0

/-! ## Names -/

/-- A command of the shell that runs no others. -/
def builtin? (name : String) : Option (List Octets → Action Nat) :=
  match name with
  | ":" => some succeed
  | "true" => some succeed
  | "false" => some failAlways
  | "echo" => some Printing.echo
  | "printf" => some printFormat
  | "read" => some readLine
  | "test" => some test
  | "[" => some bracketTest
  | "cd" => some changeDirectory
  | "chdir" => some changeDirectory
  | "pwd" => some printDirectory
  | "umask" => some umask
  | "ulimit" => some limit
  | "times" => some times
  | "kill" => some kill
  | "trap" => some trap
  | "wait" => some wait
  | "jobs" => some listJobs
  | "fg" => some resumeJob
  | "bg" => some resumeJob
  | "hash" => some hash
  | "type" => some sayMeanings
  | "command" => some describe
  | "alias" => some setAliases
  | "unalias" => some unalias
  | "getopts" => some getOption
  | "export" => some (declareAll "export" true false)
  | "readonly" => some (declareAll "readonly" false true)
  | "local" => some localizeAll
  | "unset" => some unsetAll
  | "set" => some setAll
  | "shift" => some shift
  | "exit" => some exit
  | "return" => some leaveFunction
  | "break" => some (leaveLoop .breaking)
  | "continue" => some (leaveLoop .continuing)
  | _ => none

end ContainerOps.Shell.Action
