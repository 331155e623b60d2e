import ContainerOps.Shell.Descriptor

/-!
# Actions of a shell

An action changes the state of a shell and may stop it; what was done before the stop stays done.
What a command of the shell prints is held back until the command ends, but its messages are not.
-/

namespace ContainerOps.Shell

/-- Why a shell stops. -/
inductive Stop where
  /-- An error was found. -/
  | failed
  /-- There is nothing more to do. -/
  | ended
  /-- It was told to end. -/
  | exited
  /-- A signal has killed it. -/
  | killed (signal : Nat)
deriving DecidableEq

/-- Changes the state of a shell, and may stop it. -/
abbrev Action := ExceptT Stop (StateM State)

/-! ## Printing -/

namespace State

/-- The state once an error text was written, if that is possible. -/
def warned (s : State) (text : Octets) : State :=
  (s.write 2 text).getD s

/-- The front of a message: the name of the shell, the line, and the command or file. -/
def messageFront (s : State) : Octets :=
  s.name ++ [':', ' '] ++ numeral s.line ++ [':', ' '] ++
    (s.caller.map fun caller => caller ++ [':', ' ']).getD []

/-- The state once a message about the command that runs was written. -/
def complained (s : State) (message : Octets) : State :=
  s.warned (s.messageFront ++ message ++ ['\n'])

/-- The state once what was held back was written, if that is possible. -/
def flushed (s : State) : State :=
  if s.held.isEmpty then s
  else
    let text := s.held.reverse.flatten
    let s := { s with held := [] }
    match s.write 1 text with
    | some t => t
    | none => { s with unwritten := true }

end State

namespace Action

/-- Writes an error text. -/
def warn (text : Octets) : Action Unit :=
  modify fun s => s.warned text

/-- Writes a message about the command that runs. -/
def complain (message : Octets) : Action Unit :=
  modify fun s => s.complained message

/-- Prints a text when the command ends. -/
def say (text : Octets) : Action Unit :=
  modify fun s => if text.isEmpty then s else { s with held := text :: s.held }

/-- Prints a line when the command ends. -/
def sayLine (text : Octets) : Action Unit :=
  say (text ++ ['\n'])

/-- Writes what was held back. -/
def flush : Action Unit :=
  modify State.flushed

/-! ## Stops -/

/-- Sets the outcome. -/
def setStatus (status : Nat) : Action Unit :=
  modify fun s => { s with status := status }

/-- Stops with a message. -/
def raise {α : Type} (message : Octets) : Action α := fun s =>
  (.error .failed, ({ s with status := 2 }.complained message).flushed)

/-- How an action ends, be it by a stop. -/
def outcomeOf {α : Type} (action : Action α) : Action (Except Stop α) := fun s =>
  let done := action s
  (.ok done.1, done.2)

/-- Ends like another action. -/
def resume {α : Type} (outcome : Except Stop α) : Action α := fun s => (outcome, s)

/-- What an action gives, unless it finds an error. -/
def attempt {α : Type} (action : Action α) : Action (Option α) := fun s =>
  match action s with
  | (.ok a, s) => (.ok (some a), s)
  | (.error .failed, s) => (.ok none, s)
  | (.error stop, s) => (.error stop, s)

/-! ## Numbers -/

/-- Stops because a text is no number. -/
def illegalNumber {α : Type} (text : Octets) : Action α :=
  raise (octetsOf "Illegal number: " ++ text)

/-- The integer that a text is. -/
def integer (text : Octets) : Action Int :=
  match integer? false text with
  | some n => pure n
  | none => illegalNumber text

/-- The natural number that a text is, if it is small enough to count something. -/
def number (text : Octets) : Action Nat := do
  let n ← integer text
  if 0 ≤ n && n ≤ 0x7fffffff then return n.toNat
  else illegalNumber text

end Action

end ContainerOps.Shell
