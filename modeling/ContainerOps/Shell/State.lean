import ContainerOps.Shell.Syntax
import ContainerOps.Text.Utf8
import ContainerOps.World.FileTree

/-!
# The state of a shell

A shell has arguments, variables and functions, stands in a directory, and its descriptors lead to
channels.  The files and the channels are shared with the shells that it starts.
-/

namespace ContainerOps.Shell

open ContainerOps.World

/-! ## Variables -/

/-- A variable. -/
structure Variable where
  /-- Its value, if it has one. -/
  value : Option Octets
  /-- Programs see it. -/
  exported : Bool
  /-- It keeps its value. -/
  readOnly : Bool
  /-- It keeps its other attributes when its value is dropped. -/
  fixed : Bool

/-- A variable of which only the value is known. -/
def Variable.of (value : Option Octets) : Variable :=
  { value := value, exported := false, readOnly := false, fixed := false }

/-! ## Settings -/

/-- What can be switched on and off. -/
inductive Setting where
  | errexit | noglob | ignoreeof | interactive | monitor | noexec | stdin | xtrace | verbose | vi
  | emacs | noclobber | allexport | notify | nounset | privileged | nolog | debug
deriving DecidableEq

/-- All settings with their names and their letters, as far as they have one. -/
def settingNames : List (Setting × String × Option Char) :=
  [(.errexit, "errexit", some 'e'), (.noglob, "noglob", some 'f'),
    (.ignoreeof, "ignoreeof", some 'I'), (.interactive, "interactive", some 'i'),
    (.monitor, "monitor", some 'm'), (.noexec, "noexec", some 'n'), (.stdin, "stdin", some 's'),
    (.xtrace, "xtrace", some 'x'), (.verbose, "verbose", some 'v'), (.vi, "vi", some 'V'),
    (.emacs, "emacs", some 'E'), (.noclobber, "noclobber", some 'C'),
    (.allexport, "allexport", some 'a'), (.notify, "notify", some 'b'),
    (.nounset, "nounset", some 'u'), (.privileged, "privileged", some 'p'),
    (.nolog, "nolog", none), (.debug, "debug", none)]

/-! ## Channels -/

/-- What a channel leads to. -/
inductive ChannelEnd where
  /-- A text to read, what is left of it. -/
  | text (unread : Octets)
  /-- All that is written is collected, the last part first. -/
  | collected (parts : List Octets)
  /-- A file, at a position in it or always at its end. -/
  | file (location : Location) (position : Nat) (atEnd : Bool)
  /-- A directory. -/
  | directory
  /-- What is written is lost, and nothing can be read. -/
  | nothing
  /-- Nothing can be written or read. -/
  | full

/-- An open channel. -/
structure Channel where
  /-- What it leads to. -/
  target : ChannelEnd
  /-- It can be read. -/
  readable : Bool
  /-- It can be written. -/
  writable : Bool

/-! ## States -/

/-- Which of the next commands are left out. -/
inductive Skip where
  /-- None. -/
  | nothing
  /-- All up to the end of so many loops. -/
  | breaking (loops : Nat)
  /-- All up to the next round of the last of so many loops. -/
  | continuing (loops : Nat)
  /-- All up to the end of the function or file, which may have been given an outcome. -/
  | returning (given : Bool)
deriving DecidableEq

/-- The arguments of a shell or of a function. -/
structure Arguments where
  /-- The arguments. -/
  values : List Octets
  /-- The number of the argument at which options are looked for. -/
  optionIndex : Nat
  /-- The place in the argument before, if it has more options. -/
  optionOffset : Option Nat

/-- Arguments in which no options were looked for. -/
def Arguments.of (values : List Octets) : Arguments :=
  { values := values, optionIndex := 1, optionOffset := none }

/-- What is set back later. -/
inductive Saved where
  /-- A variable. -/
  | variable_ (name : Octets) (before : Option Variable)
  /-- The settings that are on. -/
  | settings (before : List Setting)

/-- A program that was started and not waited for. -/
structure Job where
  /-- Its number. -/
  process : Nat
  /-- Its outcome. -/
  status : Nat
  /-- Its outcome was asked for. -/
  awaited : Bool

/-- What a shell shares with the shells that it starts. -/
structure Surroundings where
  /-- The files. -/
  tree : FileTree
  /-- The channels that were opened so far. -/
  channels : Array Channel
  /-- The signals that were sent and did not arrive yet, with the numbers of their receivers. -/
  sent : List (Nat × Nat)
  /-- The last number of a process. -/
  processes : Nat

/-- The state of a shell. -/
structure State where
  /-- The name under which it runs. -/
  name : Octets
  /-- Its arguments, or those of the function that runs. -/
  arguments : Arguments
  /-- Its variables. -/
  values : List (Octets × Variable)
  /-- What is set back at the end of each command that runs inside another, the last first. -/
  frames : List (List Saved)
  /-- Its functions. -/
  functions : List (Octets × Node)
  /-- The words that stand for others, the first first. -/
  aliases : List (Octets × Octets)
  /-- The programs that were found by their names, with their paths. -/
  noted : List (Octets × Octets)
  /-- The settings that are on. -/
  settings : List Setting
  /-- The documents that its commands refer to. -/
  documents : List Document
  /-- What it does on which signal; nothing means that it ignores the signal.  The end of the shell
  counts as signal zero. -/
  traps : List (Nat × Octets)
  /-- The signals that are ignored whatever it does on them. -/
  deaf : List Nat
  /-- The signals that came and were not acted on yet. -/
  pending : List Nat
  /-- It is no part of another shell. -/
  isMain : Bool
  /-- The command or file that messages name first. -/
  caller : Option Octets
  /-- The line of the command that runs. -/
  line : Nat
  /-- The lines up to which the texts that it runs were read, the innermost first. -/
  readingLines : List Nat
  /-- The text that was read last was read to its end. -/
  atEnd : Bool
  /-- The outcome of the last command; zero means success. -/
  status : Nat
  /-- While it acts on a signal or ends, the outcome from before. -/
  statusBefore : Option Nat
  /-- The outcome of the last command in place of a part of a word. -/
  substituted : Nat
  /-- Which of the next commands are left out. -/
  skip : Skip
  /-- The number of loops around the command that runs. -/
  loops : Nat
  /-- The number of functions around it. -/
  calls : Nat
  /-- A command is being shown. -/
  showing : Bool
  /-- The directory that it is in. -/
  directory : Location
  /-- The path of that, as it was gone. -/
  path : Octets
  /-- The permissions that new files do not have. -/
  mask : Nat
  /-- The channels that its descriptors lead to, by their numbers. -/
  descriptors : List (Nat × Nat)
  /-- The descriptors that were led nowhere, which another redirection leads back there. -/
  shut : List Nat
  /-- What a command of the shell has printed so far, the last part first. -/
  held : List Octets
  /-- Some of that could not be written. -/
  unwritten : Bool
  /-- The number of its process. -/
  process : Nat
  /-- The number of the process that has started it. -/
  parent : Nat
  /-- The number of the last program that was not waited for. -/
  background : Option Nat
  /-- The programs that were not waited for, the last first. -/
  jobs : List Job
  /-- What it shares. -/
  world : Surroundings

namespace State

/-! ## Variables and settings -/

/-- A variable. -/
def variableOf? (s : State) (name : Octets) : Option Variable :=
  s.values.lookup name

/-- The value of a variable. -/
def find? (s : State) (name : Octets) : Option Octets :=
  (s.variableOf? name).bind Variable.value

/-- The state with a variable in place of one of that name. -/
def putVariable (s : State) (name : Octets) (variable_ : Option Variable) : State :=
  let others := s.values.filter fun e => e.1 != name
  { s with values := ((variable_.map fun v => (name, v)).toList) ++ others }

/-- The state with a variable set, whatever it was before. -/
def set (s : State) (name value : Octets) : State :=
  s.putVariable name (some (.of (some value)))

/-- A setting is on. -/
def isOn (s : State) (setting : Setting) : Bool :=
  s.settings.contains setting

/-- The state with a setting switched on or off. -/
def switch (s : State) (setting : Setting) (on : Bool) : State :=
  { s with settings :=
      if on then setting :: s.settings.filter (· != setting)
      else s.settings.filter (· != setting) }

/-- The letters of the settings that are on. -/
def settingLetters (s : State) : Octets :=
  (settingNames.reverse.filter fun e => s.isOn e.1).filterMap fun e => e.2.2

/-- The separators of fields. -/
def separators (s : State) : Octets :=
  (s.find? (octetsOf "IFS")).getD [' ', '\t', '\n']

/-- Where programs are looked for by name unless something else is said. -/
def defaultSearchPath : Octets :=
  octetsOf "/usr/local/sbin:/usr/local/bin:/usr/sbin:/usr/bin:/sbin:/bin"

/-- Where programs are looked for by name. -/
def searchPath (s : State) : Octets :=
  (s.find? (octetsOf "PATH")).getD []

/-! ## Parameters -/

/-- The arguments with a separator between them, if there is one. -/
def joinedArguments (s : State) (separator : Option Char) : Octets :=
  separator.toList.intercalate s.arguments.values

/-- The value of a parameter other than all arguments. -/
def parameter? (s : State) (name : Octets) : Option Octets :=
  match name with
  | ['#'] => some (numeral s.arguments.values.length)
  | ['?'] => some (numeral s.status)
  | ['$'] => some (numeral s.process)
  | ['-'] => some s.settingLetters
  | ['!'] => s.background.map fun process => numeral process
  | name =>
    if isNumeral name then
      match numberOf name with
      | 0 => some s.name
      | n + 1 => s.arguments.values[n]?
    else s.find? name

/-! ## Files -/

/-- Octets as a path. -/
def pathText (path : Octets) : String :=
  Text.Utf8.lossyText (bytes path)

/-- A name as octets. -/
def nameOctets (name : String) : Octets :=
  octets (Text.Utf8.encode name)

/-- What a path names. -/
def entryAt (s : State) (path : Octets) : Except FileTree.PathFault Entry :=
  s.world.tree.lookup s.directory (pathText path)

/-- A path names a directory. -/
def isDirectory (s : State) (path : Octets) : Bool :=
  s.world.tree.isDirectory s.directory (pathText path)

/-- A path names a program. -/
def isProgram (s : State) (path : Octets) : Bool :=
  match s.entryAt path with
  | .ok (.file _ true) => true
  | _ => false

end State

end ContainerOps.Shell
