import ContainerOps.Shell.Action

/-!
# Conditions

A condition is a row of arguments: comparisons, tests of texts and of files, and signs that join
them.  The same argument may be an operator or an operand, which its neighbours decide.
-/

namespace ContainerOps.Shell.Condition

open ContainerOps.World

/-! ## Operators -/

/-- The kinds of operators. -/
inductive Kind where
  /-- It stands before its operand. -/
  | test
  /-- It stands between its operands. -/
  | comparison
  /-- It joins conditions or stands around them. -/
  | sign
deriving DecidableEq

/-- The tests of one text or file. -/
def tests : List String :=
  ["-r", "-w", "-x", "-e", "-f", "-d", "-c", "-b", "-p", "-u", "-g", "-k", "-s", "-t", "-z", "-n",
    "-h", "-O", "-G", "-L", "-S"]

/-- The comparisons of two texts, numbers or files. -/
def comparisons : List String :=
  ["=", "!=", "<", ">", "-eq", "-ne", "-ge", "-gt", "-le", "-lt", "-nt", "-ot", "-ef"]

/-- The signs. -/
def signs : List String :=
  ["!", "-a", "-o", "(", ")"]

/-- The kind of operator that an argument is. -/
def kind? (arg : Octets) : Option Kind :=
  let text := String.ofList arg
  if text ∈ tests then some .test
  else if text ∈ comparisons then some .comparison
  else if text ∈ signs then some .sign
  else none

/-- An argument at a place is an operand although it looks like a test. -/
def isOperand (args : Array Octets) (i : Nat) : Bool :=
  match args[i + 1]?, args[i + 2]? with
  | none, _ => true
  | some _, none => false
  | some next, some _ => kind? next = some .comparison

/-- What an argument at a place is. -/
inductive Lexeme where
  /-- There is none. -/
  | missing
  /-- An operator. -/
  | operator (kind : Kind) (text : String)
  /-- An operand. -/
  | operand
deriving DecidableEq

/-- What the argument at a place is. -/
def lexeme (args : Array Octets) (i : Nat) : Lexeme :=
  match args[i]? with
  | none => .missing
  | some arg =>
    match kind? arg with
    | none => .operand
    | some kind =>
      if kind = .test && isOperand args i then .operand
      else if arg = ['('] && args[i + 1]?.isNone then .operand
      else .operator kind (String.ofList arg)

/-! ## Tests and comparisons -/

/-- A test of one argument. -/
def test (s : State) (name : String) (arg : Octets) : Action Bool := do
  let entry := s.entryAt arg
  let isThere := entry.toOption.isSome
  match name with
  | "-z" => return arg.isEmpty
  | "-n" => return !arg.isEmpty
  | "-t" =>
    let _ ← Action.integer arg
    return false
  | "-e" => return isThere
  | "-r" => return isThere
  | "-w" => return isThere
  | "-O" => return isThere
  | "-G" => return isThere
  | "-f" => return (entry.toOption matches some (.file _ _))
  | "-d" => return (entry.toOption matches some .directory)
  | "-c" => return (entry.toOption matches some (.device _))
  | "-s" =>
    match entry with
    | .ok (.file content _) => return !content.isEmpty
    | .ok .directory => return true
    | _ => return false
  | "-x" =>
    match entry with
    | .ok (.file _ executable) => return executable
    | .ok .directory => return true
    | _ => return false
  | _ => return false

/-- Two paths name the same. -/
def areSame (s : State) (a b : Octets) : Bool :=
  let at_ := fun (path : Octets) => s.world.tree.resolve s.directory (State.pathText path)
  match at_ a, at_ b with
  | .ok x, .ok y => (s.world.tree.entryAt x).isSome && x == y
  | _, _ => false

/-- A comparison of two arguments. -/
def compare (s : State) (name : String) (a b : Octets) : Action Bool := do
  let numbers := fun (holds : Int → Int → Bool) => do
    let x ← Action.integer a
    let y ← Action.integer b
    return holds x y
  match name with
  | "=" => return a == b
  | "!=" => return a != b
  | "<" => return decide (a < b)
  | ">" => return decide (b < a)
  | "-eq" => numbers (· == ·)
  | "-ne" => numbers (· != ·)
  | "-ge" => numbers (fun x y => y ≤ x)
  | "-gt" => numbers (fun x y => y < x)
  | "-le" => numbers (fun x y => x ≤ y)
  | "-lt" => numbers (fun x y => x < y)
  | "-ef" => return areSame s a b
  | _ => return false

/-! ## Joined conditions -/

/-- Stops because an operator has no argument. -/
def argumentExpected {α : Type} (name : String) : Action α :=
  Action.raise (octetsOf (name ++ ": argument expected"))

/-- Whether a comparison holds, of which the first operand is at a place, or an operand alone. -/
def operand (args : Array Octets) (i : Nat) : Action (Bool × Nat) := do
  let first := args[i]?.getD []
  match lexeme args (i + 1) with
  | .operator .comparison name =>
    match args[i + 2]? with
    | none => argumentExpected name
    | some second => return (← compare (← get) name first second, i + 2)
  | _ => return (!first.isEmpty, i)

mutual

/-- Whether one of some conditions holds, from a place on, and the place where they end. -/
def any (args : Array Octets) : Nat → Nat → Action (Bool × Nat)
  | 0, i => return (false, i)
  | fuel + 1, i => do
    let (first, i) ← all args fuel i
    if lexeme args (i + 1) = .operator .sign "-o" then
      let (rest, i) ← any args fuel (i + 2)
      return (first || rest, i)
    else return (first, i)
termination_by structural fuel => fuel

/-- Whether all of some conditions hold, from a place on, and the place where they end. -/
def all (args : Array Octets) : Nat → Nat → Action (Bool × Nat)
  | 0, i => return (false, i)
  | fuel + 1, i => do
    let (first, i) ← negated args fuel i
    if lexeme args (i + 1) = .operator .sign "-a" then
      let (rest, i) ← all args fuel (i + 2)
      return (first && rest, i)
    else return (first, i)
termination_by structural fuel => fuel

/-- Whether a condition holds or, behind a sign for that, whether it does not. -/
def negated (args : Array Octets) : Nat → Nat → Action (Bool × Nat)
  | 0, i => return (false, i)
  | fuel + 1, i => do
    if lexeme args i = .operator .sign "!" then
      if lexeme args (i + 1) = .missing then return (true, i)
      else
        let (holds, i) ← negated args fuel (i + 1)
        return (!holds, i)
    else primary args fuel i
termination_by structural fuel => fuel

/-- Whether a single condition holds. -/
def primary (args : Array Octets) : Nat → Nat → Action (Bool × Nat)
  | 0, i => return (false, i)
  | fuel + 1, i => do
    match lexeme args i with
    | .missing => return (false, i)
    | .operator .sign "(" =>
      if lexeme args (i + 1) = .operator .sign ")" then return (false, i + 1)
      else
        let (holds, i) ← any args fuel (i + 1)
        if lexeme args (i + 1) = .operator .sign ")" then return (holds, i + 1)
        else Action.raise (octetsOf "closing paren expected")
    | .operator .test name =>
      match args[i + 1]? with
      | none => argumentExpected name
      | some arg => return (← test (← get) name arg, i + 1)
    | _ => operand args i
termination_by structural fuel => fuel

end

/-- Whether the condition that the arguments are holds, read from an operand on if `isOperand` says
so. -/
def whole (args : List Octets) (isOperand : Bool) : Action Bool := do
  let args := args.toArray
  let fuel := 4 * args.size + 8
  let (holds, i) ← if isOperand then operand args 0 else any args fuel 0
  match args[i]?, args[i + 1]? with
  | some arg, some _ =>
    let front := if arg.isEmpty then [] else arg ++ [':', ' ']
    Action.raise (front ++ octetsOf "unexpected operator")
  | _, _ => return holds

/-- Whether the condition that the arguments are holds.  Up to four arguments are looked at as a
whole first. -/
def holds (args : List Octets) : Action Bool := do
  match args with
  | [] => return false
  | [a, op, b] =>
    if kind? op = some .comparison then whole args true
    else if a = ['('] && b = [')'] then whole [op] false
    else if a = ['!'] then return !(← whole [op, b] false)
    else whole args false
  | [a, b, c, d] =>
    if a = ['('] && d = [')'] then whole [b, c] false
    else if a = ['!'] then return !(← three b c d)
    else whole args false
  | args => whole args false
where
  /-- Whether three arguments behind a negation hold; a second negation changes nothing. -/
  three (a op b : Octets) : Action Bool := do
    if kind? op = some .comparison then whole [a, op, b] true
    else if a = ['('] && b = [')'] then whole [op] false
    else if a = ['!'] then whole [op, b] false
    else whole [a, op, b] false

end ContainerOps.Shell.Condition
