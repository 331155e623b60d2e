import ContainerOps.Shell.Variables

/-!
# Options

Options are letters behind a minus sign, some of which take an argument.  The settings of a shell
are switched by options too, on behind a minus sign and off behind a plus sign.
-/

namespace ContainerOps.Shell.Action

/-! ## Letters -/

/-- A letter among those that are known; a colon behind it says that it takes an argument. -/
def takesArgument? (known : Octets) (c : Char) : Option Bool :=
  match known with
  | [] => none
  | d :: ':' :: rest => if c == d then some true else takesArgument? rest c
  | d :: rest => if c == d then some false else takesArgument? rest c

/-- The options at the front of the arguments, with what they take, and the other arguments.  The
first letters that are given belong to an argument that has begun. -/
def optionsFrom (known : Octets) : Nat → Octets → List (Char × Octets) → List Octets →
    Action (List (Char × Octets) × List Octets)
  | 0, _, found, args => return (found.reverse, args)
  | fuel + 1, [], found, args =>
    match args with
    | ['-'] :: _ => return (found.reverse, args)
    | ['-', '-'] :: rest => return (found.reverse, rest)
    | ('-' :: letters) :: rest => optionsFrom known fuel letters found rest
    | args => return (found.reverse, args)
  | fuel + 1, c :: letters, found, args =>
    match takesArgument? known c with
    | none => raise (octetsOf "Illegal option -" ++ [c])
    | some false => optionsFrom known fuel letters ((c, []) :: found) args
    | some true =>
      match letters, args with
      | [], [] => raise (octetsOf "No arg for -" ++ c :: octetsOf " option")
      | [], arg :: rest => optionsFrom known fuel [] ((c, arg) :: found) rest
      | letters, args => optionsFrom known fuel [] ((c, letters) :: found) args

/-- The options at the front of the arguments, with what they take, and the other arguments. -/
def options (known : String) (args : List Octets) :
    Action (List (Char × Octets) × List Octets) :=
  optionsFrom (octetsOf known) (args.flatten.length + args.length + 1) [] [] args

/-- The arguments behind a mark for the end of options, where there are none. -/
def withoutOptions (args : List Octets) : Action (List Octets) := do
  return (← options "" args).2

/-! ## Settings -/

/-- Switches a setting by its letter. -/
def switchLetter (on : Bool) (c : Char) : Action Unit := do
  match settingNames.find? fun e => e.2.2 == some c with
  | none => raise (octetsOf "Illegal option -" ++ [c])
  | some (setting, _) =>
    modify fun s =>
      let s := s.switch setting on
      if on && setting = .vi then s.switch .emacs false
      else if on && setting = .emacs then s.switch .vi false
      else s

/-- Prints the settings, for reading or as commands. -/
def saySettings (asCommands : Bool) : Action Unit := do
  let s ← get
  if !asCommands then sayLine (octetsOf "Current option settings")
  for (setting, name, _) in settingNames do
    if asCommands then
      sayLine (octetsOf (if s.isOn setting then "set -o " else "set +o ") ++ octetsOf name)
    else
      let gap := List.replicate (16 - name.length) ' '
      sayLine (octetsOf name ++ gap ++ octetsOf (if s.isOn setting then "on" else "off"))

/-- Switches a setting by its name, or prints the settings if there is none. -/
def switchNamed (on : Bool) (name : Option Octets) : Action Unit := do
  match name with
  | none => saySettings (!on)
  | some name =>
    match settingNames.find? fun e => e.2.1.toList == name with
    | none => raise (octetsOf "Illegal option -o " ++ name)
    | some (setting, _) => modify fun s => s.switch setting on

/-- Switches settings by letters; a letter for names takes these from the arguments.  Letters of
which something else is to be made are given back. -/
def switchLetters (others : Octets) (on : Bool) : Octets → List Octets →
    Action (Octets × List Octets)
  | [], args => return ([], args)
  | c :: letters, args => do
    if others.contains c then
      let found ← switchLetters others on letters args
      return (c :: found.1, found.2)
    else if c == 'o' then
      switchNamed on args.head?
      switchLetters others on letters args.tail
    else
      switchLetter on c
      switchLetters others on letters args

/-- Job control needs a terminal. -/
def giveUpMonitor : Action Unit := do
  if (← get).isOn .monitor then
    modify fun s => s.switch .monitor false
    complain (octetsOf "can't access tty; job control turned off")

/-- Switches the settings that the arguments ask for, and gives the other arguments, if there were
any or a mark says that there are none. -/
def switchAll : Nat → List Octets → Action (Option (List Octets))
  | 0, _ => return none
  | _, [] => return none
  | fuel + 1, arg :: rest => do
    match arg with
    | ['-'] =>
      modify fun s => (s.switch .xtrace false).switch .verbose false
      return if rest.isEmpty then none else some rest
    | ['-', '-'] => return some rest
    | '-' :: letters => do switchAll fuel (← switchLetters [] true letters rest).2
    | '+' :: letters => do switchAll fuel (← switchLetters [] false letters rest).2
    | _ => return some (arg :: rest)

/-! ## Options among the arguments -/

/-- How the look for an option ended. -/
structure OptionFound where
  /-- What the variable is set to. -/
  letter : Char
  /-- What the option takes; `none` leaves that as it was. -/
  argument : Option (Option Octets)
  /-- What is said about it. -/
  message : Octets
  /-- The number of arguments that were passed. -/
  passed : Nat
  /-- The place in the last of them, if it has more options. -/
  offset : Option Nat
  /-- There was an option. -/
  found : Bool

/-- Looks for the next option.  Errors are not reported if the known letters begin with a colon. -/
def nextOption (known : Octets) (args : List Octets) (index : Nat) (offset : Option Nat) :
    OptionFound :=
  let silent := known.head? == some ':'
  let current := (args[index - 2]?).getD []
  let open_ :=
    match if index ≤ 1 then none else offset with
    | some n => if n < current.length then some n else none
    | none => none
  let next := (args[index - 1]?).getD []
  let nothing := fun (passed : Nat) =>
    { letter := '?', argument := none, message := [], passed := passed, offset := none,
      found := false : OptionFound }
  let at_ := fun (word : Octets) (place passed : Nat) =>
    let c := word[place]?.getD '?'
    let rest := word.drop (place + 1)
    let more : Option Nat := some (place + 1)
    let failed := fun (letter : Char) (problem : String) (behind : String) (offset : Option Nat) =>
      if silent then
        { letter := letter, argument := some (some [c]), message := [], passed := passed,
          offset := offset, found := true : OptionFound }
      else
        { letter := '?', argument := some none
          message := octetsOf problem ++ c :: octetsOf behind ++ ['\n']
          passed := passed, offset := offset, found := true }
    match takesArgument? known c with
    | none => failed '?' "Illegal option -" "" more
    | some false =>
      { letter := c, argument := some (some []), message := [], passed := passed, offset := more,
        found := true }
    | some true =>
      if !rest.isEmpty then
        { letter := c, argument := some (some rest), message := [], passed := passed,
          offset := none, found := true }
      else
        match args[passed]? with
        | some arg =>
          { letter := c, argument := some (some arg), message := [], passed := passed + 1,
            offset := none, found := true }
        | none => failed ':' "No arg for -" " option" none
  match open_ with
  | some n => at_ current n (index - 1)
  | none =>
    match next with
    | '-' :: '-' :: [] => nothing index
    | '-' :: _ :: _ => at_ next 1 index
    | _ => nothing (index - 1)

/-- Looks for the next option among the arguments, or among those of the shell. -/
def getOption (args : List Octets) : Action Nat := do
  match args with
  | known :: name :: given =>
    let s ← get
    let values := if given.isEmpty then s.arguments.values else given
    let isBeyond := values.length + 1 < s.arguments.optionIndex
    let index := if isBeyond then 1 else s.arguments.optionIndex
    let offset := if isBeyond then none else s.arguments.optionOffset
    let found := nextOption known values index offset
    warn found.message
    let argumentName := octetsOf "OPTARG"
    match found.argument with
    | none => pure ()
    | some none => unset argumentName
    | some (some text) => setVariable argumentName text
    setQuietly (numeral (found.passed + 1))
    setVariable name [found.letter]
    modify fun s => { s with arguments :=
      { s.arguments with optionIndex := found.passed + 1, optionOffset := found.offset } }
    return if found.found then 0 else 1
  | _ => raise (octetsOf "Usage: getopts optstring var [arg...]")
where
  /-- Sets the variable that tells where options are looked for. -/
  setQuietly (value : Octets) : Action Unit := do
    let v := ((← get).variableOf? optionIndexName).getD (.of none)
    if v.readOnly then raise (optionIndexName ++ octetsOf ": is read only")
    else modify fun s => s.putVariable optionIndexName (some { v with value := some value })

end ContainerOps.Shell.Action
