import ContainerOps.Shell.Action

/-!
# Setting variables

A variable keeps its attributes when it is set.  In a function, variables can be made local: what
they were before is kept in a frame and comes back at the end of the function.
-/

namespace ContainerOps.Shell.Action

/-! ## Names -/

/-- The name in front of an equals sign, and the value behind it. -/
def splitAssignment (text : Octets) : Octets × Option Octets :=
  let name := text.takeWhile (· != '=')
  match text.drop name.length with
  | _ :: value => (name, some value)
  | [] => (name, none)

/-- Stops unless a text is the name of a variable. -/
def checkName (name : Octets) : Action Unit :=
  if isName name then pure () else raise (name ++ octetsOf ": bad variable name")

/-- The variable that tells at which argument options are looked for. -/
def optionIndexName : Octets := octetsOf "OPTIND"

/-- What setting or dropping a variable changes besides. -/
def noteChange (name value : Octets) : Action Unit := do
  if name = optionIndexName then
    let n ← number value
    modify fun s => { s with arguments :=
      { s.arguments with optionIndex := max n 1, optionOffset := none } }

/-! ## Values -/

/-- Sets a variable, which programs may see from then on. -/
def assign (name value : Octets) (exported : Bool) : Action Unit := do
  let before := ((← get).variableOf? name).getD (.of none)
  if before.readOnly then raise (name ++ octetsOf ": is read only")
  else
    noteChange name value
    modify fun s => s.putVariable name (some
      { before with
        value := some value
        exported := before.exported || exported || s.isOn .allexport })

/-- Sets the variable that a text names up to an equals sign, if it names one. -/
def setVariable (text value : Octets) : Action Unit := do
  let name := (splitAssignment text).1
  checkName name
  assign name value false

/-- Gives a variable attributes, with or without a value. -/
def declare (text : Octets) (exported readOnly : Bool) : Action Unit := do
  let split := splitAssignment text
  checkName split.1
  match split.2 with
  | some value => assign split.1 value exported
  | none => pure ()
  modify fun s =>
    let v := (s.variableOf? split.1).getD (.of none)
    s.putVariable split.1 (some
      { v with exported := v.exported || exported, readOnly := v.readOnly || readOnly })

/-- Drops the value of the variable that a text names up to an equals sign, and its attributes
unless they stay. -/
def unset (text : Octets) : Action Unit := do
  let name := (splitAssignment text).1
  checkName name
  match (← get).variableOf? name with
  | none => pure ()
  | some v =>
    if v.readOnly then raise (name ++ octetsOf ": is read only")
    else
      if name = optionIndexName then noteChange name []
      modify fun s => s.putVariable name
        (if v.fixed || s.isOn .allexport then
          some { v with value := none, exported := v.exported || s.isOn .allexport }
        else none)

/-! ## Frames -/

/-- Keeps something in the last frame. -/
def save (saved : Saved) : Action Unit :=
  modify fun s =>
    match s.frames with
    | [] => s
    | frame :: rest => { s with frames := (saved :: frame) :: rest }

/-- Makes a variable local, with a value if one is given. -/
def localize (text : Octets) (exported : Bool) : Action Unit := do
  let split := splitAssignment text
  let before := (← get).variableOf? split.1
  match before, split.2 with
  | none, some value => assign split.1 value exported
  | none, none => checkName split.1
  | some _, _ => pure ()
  modify fun s => s.putVariable split.1 (some
    { (s.variableOf? split.1).getD (.of none) with fixed := true })
  save (.variable_ split.1 before)
  match before, split.2 with
  | some _, some value => assign split.1 value exported
  | _, _ => pure ()

/-- The state with something as it was before. -/
def putBack (s : State) (saved : Saved) : State :=
  match saved with
  | .settings before => { s with settings := before }
  | .variable_ name before =>
    let s := s.putVariable name before
    let value := if name = optionIndexName then before.bind Variable.value else none
    match value.bind (integer? false) with
    | some n =>
      { s with arguments :=
        { s.arguments with optionIndex := max n.toNat 1, optionOffset := none } }
    | none => s

/-- The state without the last frame, and with what that keeps put back. -/
def withoutFrame (s : State) : State :=
  match s.frames with
  | [] => s
  | frame :: rest => { frame.foldl putBack s with frames := rest }

/-- What a frame keeps that cannot be put back, because it is no name. -/
def misnamed? (frame : List Saved) : Option Octets :=
  frame.findSome? fun
    | .variable_ name none => if isName name then none else some name
    | _ => none

/-- Drops the last frames until so many are left. -/
def dropFrames (kept : Nat) : Action Unit := do
  let s ← get
  let dropped := s.frames.take (s.frames.length - kept)
  set (dropped.foldl (fun s _ => withoutFrame s) s)
  match dropped.findSome? misnamed? with
  | some name => checkName name
  | none => pure ()

end ContainerOps.Shell.Action
