import ContainerOps.Project.Operation
import ContainerOps.Shell.Program

/-!
# Running requests on a host

Operations take the outcomes of their requests from anywhere.  Here they come from a host: a tree of
files in which the shell is the only program, so that the shell is all that a request can start, and
what its script prints and leaves stands for what an installed program would.  A request goes to the
directory that it names first, and looks for its program from there.  Nothing that is known about
operations rests on the host or on its shell.

Main results:

- `searchIn_eq_ok_iff`: a name is found exactly where some directory has a program of that name.
- `run_eq_error`: an error is about the start of the program, and leaves the files as they are.
- `code_run`: the exit codes of a host.
-/

namespace ContainerOps.Project.Host

open ContainerOps.World ContainerOps.Command

/-! ## The host -/

/-- The directories that every host has. -/
def directories : List Location :=
  [["bin"], ["dev"], ["dev", "fd"], ["etc"], ["home"], ["lib"], ["opt"], ["proc"], ["root"],
    ["run"], ["sbin"], ["sys"], ["tmp"], ["usr"], ["usr", "bin"], ["usr", "lib"],
    ["usr", "local"], ["usr", "local", "bin"], ["usr", "sbin"], ["var"], ["var", "tmp"]]

/-- The locations of the shell. -/
def shellLocations : List Location :=
  [["bin", "sh"], ["bin", "dash"], ["usr", "bin", "sh"], ["usr", "bin", "dash"]]

/-- The devices of a host. -/
def devices : List (Location × Device) :=
  [(["dev", "null"], .null), (["dev", "full"], .full), (["dev", "tty"], .terminal),
    (["dev", "stdin"], .descriptor 0), (["dev", "stdout"], .descriptor 1),
    (["dev", "stderr"], .descriptor 2)] ++
    (List.range 10).map fun n => (["dev", "fd", toString n], .descriptor n)

/-- The files of a host: the shell, the devices and a few others. -/
def files : FileTree :=
  { entries := directories.map (fun location => (location, .directory))
      ++ shellLocations.map (fun location => (location, .file [] true))
      ++ devices.map (fun device => (device.1, .device device.2))
      ++ [(["etc", "passwd"], .file [] false), (["etc", "hostname"], .file [] false)] }

/-! ## Starting -/

/-- Why a program does not start. -/
inductive StartFault where
  /-- There is no such file or directory. -/
  | notFound
  /-- Some step of a path starts from a file. -/
  | notDirectory
  /-- The file cannot be run. -/
  | denied
  /-- Some text holds a null character. -/
  | nullCharacter
deriving DecidableEq

/-- Why a program does not start, in words. -/
def StartFault.message : StartFault → String
  | .notFound => "No such file or directory (os error 2)"
  | .notDirectory => "Not a directory (os error 20)"
  | .denied => "Permission denied (os error 13)"
  | .nullCharacter => "nul byte found in provided data"

/-- The fault of a path that leads nowhere. -/
def StartFault.ofPath : FileTree.PathFault → StartFault
  | .notFound => .notFound
  | .notDirectory => .notDirectory

/-- The directory that a request runs in, seen from the current one. -/
def directoryOf (tree : FileTree) (current : Location) (r : Request) :
    Except StartFault Location :=
  match r.directory with
  | none => .ok current
  | some path =>
    match tree.resolve current path, tree.lookup current path with
    | .ok location, .ok .directory => .ok location
    | _, .ok (.file _ _) => .error .notDirectory
    | _, .ok (.device _) => .error .notDirectory
    | _, .error fault => .error (.ofPath fault)
    | .error fault, _ => .error (.ofPath fault)

/-- The program at a path. -/
def programAt (tree : FileTree) (directory : Location) (path : String) :
    Except StartFault Unit :=
  match tree.lookup directory path with
  | .ok (.file _ true) => .ok ()
  | .ok _ => .error .denied
  | .error fault => .error (.ofPath fault)

/-- The first of some directories that has a program of a name; where one has a file of that name
that cannot be run, that is the fault. -/
def searchIn (tree : FileTree) (directory : Location) (name : String) (fault : StartFault) :
    List String → Except StartFault Unit
  | [] => .error fault
  | path :: rest =>
    match programAt tree directory (joinPath (if path.isEmpty then "." else path) name) with
    | .ok _ => .ok ()
    | .error .denied => searchIn tree directory name .denied rest
    | .error _ => searchIn tree directory name fault rest

/-- A name is found exactly where some directory has a program of that name. -/
theorem searchIn_eq_ok_iff (tree : FileTree) (directory : Location) (name : String)
    (fault : StartFault) (paths : List String) :
    searchIn tree directory name fault paths = .ok () ↔
      ∃ path ∈ paths, programAt tree directory
        (joinPath (if path.isEmpty then "." else path) name) = .ok () := by
  induction paths generalizing fault with
  | nil => simp [searchIn]
  | cons path rest ih =>
    simp only [searchIn, List.mem_cons, exists_eq_or_imp]
    split
    · next hprogram => exact iff_of_true rfl (.inl hprogram)
    · next hdenied => simp only [ih, hdenied, reduceCtorEq, false_or]
    · next _ hfault => simp only [ih, hfault, reduceCtorEq, false_or]

/-- Looks for the program of a request: at its path, or by its name. -/
def findProgram (tree : FileTree) (directory : Location) (r : Request) : Except StartFault Unit :=
  if r.binary.contains '/' || r.binary.isEmpty then programAt tree directory r.binary
  else
    let usual := String.ofList Shell.State.defaultSearchPath
    searchIn tree directory r.binary .notFound
      (Text.splitOn ':' ((r.environment.find? "PATH").getD usual))

/-- Some text of a request holds a null character. -/
def hasNull (r : Request) : Bool :=
  (r.binary :: r.args ++ r.directory.toList ++ r.environment.keys ++
    r.environment.entries.map Prod.snd).any fun text => text.contains '\x00'

/-- The directory to run a request in, if its program can be started there. -/
def startOf (tree : FileTree) (current : Location) (r : Request) : Except StartFault Location :=
  if hasNull r then .error .nullCharacter
  else
    match directoryOf tree current r with
    | .error fault => .error fault
    | .ok directory => (findProgram tree directory r).map fun _ => directory

/-! ## Running -/

/-- The output of a shell that has ended. -/
def outputOf (e : Shell.Ending) : Output :=
  { code := if e.signal.isSome then -1 else (e.status : Int)
    stdout := Shell.bytes e.output
    stderr := Shell.bytes e.errors }

/-- Runs a request, seen from the current directory, and gives the files after it. -/
def run (tree : FileTree) (current : Location) (r : Request) : Outcome × FileTree :=
  match startOf tree current r with
  | .error fault => (.error (.spawn r.binary fault.message), tree)
  | .ok directory =>
    let ended := Shell.program r.binary r.args r.environment tree directory
    (.ok (outputOf ended), ended.tree)

/-- An error is about the start of the program, and leaves the files as they are. -/
theorem run_eq_error {tree : FileTree} {current : Location} {r : Request} {e : Error}
    (herror : (run tree current r).1 = .error e) :
    (run tree current r).2 = tree ∧ ∃ fault : StartFault, e = .spawn r.binary fault.message := by
  unfold run at herror ⊢
  split at herror
  · next fault _ =>
    cases herror
    exact ⟨rfl, fault, rfl⟩
  · cases herror

/-- The exit code of a program is that of a byte, or that of a program ended by a signal. -/
theorem code_run {tree : FileTree} {current : Location} {r : Request} {output : Output}
    (hrun : (run tree current r).1 = .ok output) :
    output.code = -1 ∨ 0 ≤ output.code ∧ output.code < 256 := by
  unfold run at hrun
  split at hrun
  · cases hrun
  · next directory _ =>
    cases hrun
    have hstatus := Shell.status_program_lt r.binary r.args r.environment tree directory
    simp only [outputOf]
    split
    · exact .inl rfl
    · exact .inr (by omega)

end ContainerOps.Project.Host
