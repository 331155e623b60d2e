import ContainerOps.Shell.Options

/-!
# Signals

A shell can send signals to processes, of which it is the only one that gets any, and says what it
does on them.  What it is told to do is done behind the command that runs.
-/

namespace ContainerOps.Shell.Action

/-! ## Names -/

/-- The names of signals with their numbers. -/
def signalNames : List (String × Nat) :=
  [("HUP", 1), ("INT", 2), ("QUIT", 3), ("ILL", 4), ("TRAP", 5), ("ABRT", 6), ("BUS", 7),
    ("FPE", 8), ("KILL", 9), ("USR1", 10), ("SEGV", 11), ("USR2", 12), ("PIPE", 13), ("ALRM", 14),
    ("TERM", 15), ("CHLD", 17), ("CONT", 18), ("STOP", 19), ("TSTP", 20), ("TTIN", 21),
    ("TTOU", 22), ("URG", 23), ("XCPU", 24), ("XFSZ", 25), ("VTALRM", 26), ("PROF", 27),
    ("WINCH", 28), ("IO", 29), ("PWR", 30), ("SYS", 31)]

/-- What a process that a signal has ended is said to have died of, where that is said. -/
def signalCauses : List (Nat × String) :=
  [(1, "Hangup"), (3, "Quit"), (4, "Illegal instruction"), (5, "Trace/breakpoint trap"),
    (6, "Aborted"), (7, "Bus error"), (8, "Floating point exception"), (9, "Killed"),
    (10, "User defined signal 1"), (11, "Segmentation fault"), (12, "User defined signal 2"),
    (14, "Alarm clock"), (15, "Terminated"), (16, "Stack fault"), (24, "CPU time limit exceeded"),
    (25, "File size limit exceeded"), (26, "Virtual timer expired"),
    (27, "Profiling timer expired"), (29, "I/O possible"), (30, "Power failure"),
    (31, "Bad system call")]

/-- What a process that a signal has ended is said to have died of, if anything. -/
def signalCause? (signal : Nat) : Option String :=
  if signal = 2 || signal = 13 then none
  else if 34 ≤ signal then some ("Real-time signal " ++ toString (signal - 34))
  else some ((signalCauses.lookup signal).getD ("Unknown signal " ++ toString signal))

/-- The number of signals and of the end, which counts as one. -/
def signalCount : Nat := 65

/-- The name of a signal; some have none but their number. -/
def signalName (n : Nat) : String :=
  match signalNames.find? fun e => e.2 == n with
  | some e => e.1
  | none =>
    if n = 0 then "EXIT"
    else if n = 34 then "RTMIN"
    else if 34 < n && n < 50 then "RTMIN+" ++ toString (n - 34)
    else if 50 ≤ n && n < 64 then "RTMAX-" ++ toString (64 - n)
    else if n = 64 then "RTMAX"
    else toString n

/-- The signals that do not end a process. -/
def harmlessSignals : List Nat :=
  [0, 17, 18, 23, 28]

/-- The signal that has a text for its number. -/
def signalNumber? (text : Octets) : Option Nat :=
  if isNumeral text && numberOf text < signalCount then some (numberOf text) else none

/-- The signal that has a text for its number or for its name, among those from the least on. -/
def signal? (least : Nat) (text : Octets) : Option Nat :=
  match signalNumber? text with
  | some n => some n
  | none =>
    let name := String.ofList (text.map Char.toUpper)
    ((List.range signalCount).drop least).find? fun n => signalName n == name

/-! ## Sending -/

/-- What a signal to the shell does: nothing, it ends the shell, or it is acted on later. -/
def receive (signal : Nat) : Action Unit := do
  let s ← get
  if signal ≠ 9 && s.deaf.contains signal then pure ()
  else
    match if signal = 9 then none else s.traps.lookup signal with
    | some [] => pure ()
    | some _ =>
      if !s.pending.contains signal then set { s with pending := s.pending ++ [signal] }
    | none => if signal ∈ harmlessSignals then pure () else throw (.killed signal)

/-- Sends a signal to a process, and says whether there is one. -/
def send (signal process : Nat) : Action Bool := do
  let s ← get
  if process = s.process && s.isMain then
    receive signal
    return true
  else if process = s.process || process = s.parent then
    modify fun s =>
      let sent := s.world.sent ++ [(process, signal)]
      { s with world := { s.world with sent := sent } }
    return true
  else return false

/-- Acts on the signals that other processes have sent. -/
def arrive : Action Unit := do
  let s ← get
  if s.isMain then
    let (own, others) := s.world.sent.partition fun e => e.1 = s.process
    set { s with world := { s.world with sent := others } }
    for e in own do receive e.2

/-- How sending signals is used. -/
def sendingUsage : Octets :=
  octetsOf ("Usage: kill [-s sigspec | -signum | -sigspec] [pid | job]... or\n" ++
    "kill -l [exitstatus]")

/-- The number of the process that belongs to a job, by its place. -/
def jobProcess (text : Octets) : Action Nat := do
  let jobs := (← get).jobs.reverse
  let missing : Action Nat :=
    if text.length ≤ 1 then raise (octetsOf "No current job")
    else raise (octetsOf "No such job: " ++ text)
  let last (otherwise : Action Nat) : Action Nat :=
    (jobs.getLast?.map fun job => pure job.process).getD otherwise
  match text.drop 1 with
  | [] => last missing
  | ['%'] => last (raise (octetsOf "No current job"))
  | ['+'] => last (raise (octetsOf "No current job"))
  | digits =>
    if isNumeral digits && numberOf digits ≠ 0 then
      (jobs[numberOf digits - 1]?.map fun job => pure job.process).getD missing
    else missing

/-- Sends a signal to the processes that some texts name. -/
def sendAll (signal : Nat) : List Octets → Action Nat
  | [] => return 0
  | target :: rest => do
    let isThere ←
      match target with
      | '%' :: _ => do
        let _ ← jobProcess target
        pure false
      | '-' :: digits => do
        let _ ← number digits
        pure false
      | target => do send signal (← number target)
    if !isThere then complain (octetsOf "No such process\n")
    let more ← sendAll signal rest
    return if isThere then more else 1

/-- Names all signals, or the one that a process with an outcome got. -/
def nameSignals : List Octets → Action Nat
  | [] => do
    sayLine ['0']
    for n in (List.range signalCount).drop 1 do sayLine (octetsOf (signalName n))
    return 0
  | outcome :: _ => do
    let n ← number outcome
    let n := if 128 < n then n - 128 else n
    if 0 < n && n < signalCount then
      sayLine (octetsOf (signalName n))
      return 0
    else raise (octetsOf "invalid signal number or exit status: " ++ outcome)

/-- Sends or names signals. -/
def kill (args : List Octets) : Action Nat := do
  let chosen (signal : Nat) (targets : List Octets) : Action Nat :=
    if targets.isEmpty then raise sendingUsage else sendAll signal targets
  match args with
  | [] => raise sendingUsage
  | ('-' :: name) :: rest =>
    match signal? 1 name with
    | some signal => chosen signal rest
    | none =>
      let (given, targets) ← options "ls:" args
      let names := (given.filter fun e => e.1 == 's').map Prod.snd
      let signals ← names.mapM fun name =>
        match signal? 1 name with
        | some signal => pure signal
        | none => raise (octetsOf "invalid signal number or name: " ++ name)
      let isList := given.any fun e => e.1 == 'l'
      match isList, signals.getLast? with
      | true, none => nameSignals targets
      | true, some _ => if targets.isEmpty then nameSignals targets else raise sendingUsage
      | false, signal => chosen (signal.getD 15) targets
  | targets => chosen 15 targets

/-! ## Traps -/

/-- A text in quotes in which nothing has a meaning; quotes in it stand in quotes of the other
kind. -/
def inQuotes : Nat → Octets → Octets
  | 0, _ => []
  | fuel + 1, cs =>
    let plain := cs.takeWhile (· != '\'')
    let behind := cs.drop plain.length
    let marks := behind.takeWhile (· == '\'')
    let first := '\'' :: plain ++ ['\'']
    if marks.isEmpty then first
    else
      let quoted := first ++ '"' :: marks ++ ['"']
      if marks.length = behind.length then quoted
      else quoted ++ inQuotes fuel (behind.drop marks.length)

/-- A text in quotes in which nothing has a meaning. -/
def quoted (cs : Octets) : Octets :=
  inQuotes (cs.length + 1) cs

/-- Prints what is done on signals, as commands that would ask for it. -/
def sayTraps : Action Unit := do
  for n in List.range signalCount do
    match (← get).traps.lookup n with
    | some action =>
      sayLine (octetsOf "trap -- " ++ quoted action ++ ' ' :: octetsOf (signalName n))
    | none => pure ()

/-- Sets what is done on some signals; without an action, they do what they usually do. -/
def setTraps (action : Option Octets) : List Octets → Action Nat
  | [] => return 0
  | name :: rest => do
    match signal? 0 name with
    | none =>
      warn (octetsOf "trap: " ++ name ++ octetsOf ": bad trap\n")
      return 1
    | some n =>
      modify fun s =>
        { s with traps := (action.map fun action => (n, action)).toList ++
            s.traps.filter fun e => e.1 != n }
      setTraps action rest

/-- Sets or prints what is done on signals. -/
def trap (args : List Octets) : Action Nat := do
  match ← withoutOptions args with
  | [] => do
    sayTraps
    return 0
  | [name] => setTraps none [name]
  | first :: rest =>
    if (signalNumber? first).isSome then setTraps none (first :: rest)
    else setTraps (if first = ['-'] then none else some first) rest

/-! ## Waiting -/

/-- The outcome of the last of some processes that were not waited for. -/
def awaitAll (status : Nat) : List Octets → Action Nat
  | [] => return status
  | target :: rest => do
    let process ← if target.head? == some '%' then jobProcess target else number target
    match (← get).jobs.find? fun job => job.process = process with
    | some job =>
      modify fun s =>
        { s with jobs := s.jobs.map fun job =>
            if job.process = process then { job with awaited := true } else job }
      awaitAll job.status rest
    | none => awaitAll status rest

/-- Waits for processes; all of them have ended. -/
def wait (args : List Octets) : Action Nat := do
  match ← withoutOptions args with
  | [] => do
    modify fun s => { s with jobs := s.jobs.map fun job => { job with awaited := true } }
    return 0
  | targets => awaitAll 127 targets

/-- Names jobs; all that were started have ended. -/
def listJobs (args : List Octets) : Action Nat := do
  let (_, targets) ← options "lp" args
  for target in targets do
    let _ ← jobProcess target
  return 0

/-- Goes on with a job, of which there is none. -/
def resumeJob (args : List Octets) : Action Nat := do
  let targets ← withoutOptions args
  let _ ← jobProcess (targets.headD [])
  raise (octetsOf "job not created under job control")

end ContainerOps.Shell.Action
