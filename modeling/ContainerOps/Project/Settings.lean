import ContainerOps.Project.Error
import ContainerOps.Project.Version
import ContainerOps.Table
import ContainerOps.World.FileTree

/-!
# Opening a project

The settings name a project directory and the options for all commands on it.  A project is opened
only with a known and sufficient version of the compose plugin, and only on a directory that holds
a compose file.  Paths are texts in valid UTF-8, as in requests.

Main results:

- `Settings.toProject_eq_error_iff`: the directory is to blame only where the version is not.
-/

namespace ContainerOps.Project

/-! ## Settings -/

/-- The options of a project. -/
structure Settings where
  /-- The path of the project directory. -/
  directory : String
  /-- The name of the project, where it is not that of the directory. -/
  name : Option String
  /-- The paths of the files with variables for the project. -/
  envFiles : List String
  /-- The profiles to enable. -/
  profiles : List String
  /-- The path or name of the program to run. -/
  binary : Option String
  /-- The version of the compose plugin; none means that the plugin is not installed. -/
  composeVersion : Option String
  /-- The least version of the plugin that will do. -/
  minVersion : String
  /-- Nothing is to be changed. -/
  checkMode : Bool
  /-- The variables set in the environment of each command. -/
  environment : Table String

/-- The least version that will do if nothing else is asked for. -/
def defaultMinVersion : String := "2.18.0"

/-- The program to run if nothing else is asked for. -/
def defaultBinary : String := "docker"

/-- The settings for a directory without any options. -/
def Settings.of (directory : String) : Settings :=
  { directory := directory
    name := none
    envFiles := []
    profiles := []
    binary := none
    composeVersion := none
    minVersion := defaultMinVersion
    checkMode := false
    environment := .empty }

end ContainerOps.Project

namespace ContainerOps

/-! ## Projects -/

/-- A project that commands can be run on. -/
structure Project where
  /-- The path or name of the program to run. -/
  binary : String
  /-- The path of the project directory. -/
  directory : String
  /-- The name of the project, where it is not that of the directory. -/
  name : Option String
  /-- The paths of the files with variables for the project. -/
  envFiles : List String
  /-- The profiles to enable. -/
  profiles : List String
  /-- The version of the compose plugin. -/
  version : Project.Version
  /-- Nothing is to be changed. -/
  checkMode : Bool
  /-- The variables set in the environment of each command. -/
  environment : Table String

end ContainerOps

namespace ContainerOps.Project

/-! ## Opening -/

/-- The program: the one asked for, else the one that a variable of the environment names and that
is not blank, else the default. -/
def pickBinary (explicit fromEnvironment : Option String) : String :=
  match explicit with
  | some binary => binary
  | none =>
    match fromEnvironment with
    | some value => if (Text.trimmed value).isEmpty then defaultBinary else value
    | none => defaultBinary

/-- Reads a version or names it as the culprit. -/
def requireVersion (raw : String) : Except Error Version :=
  match Version.parse? raw with
  | some v => .ok v
  | none => .error (.invalidVersion raw)

/-- The version of the plugin, if it is known and will do. -/
def Settings.checkVersion (s : Settings) (binary : String) : Except Error Version :=
  match s.composeVersion with
  | none => .error (.missingPlugin binary)
  | some raw => do
    let version ← requireVersion raw
    let minimum ← requireVersion s.minVersion
    if version.before minimum then
      .error (.unsupportedVersion binary version.shown minimum.shown)
    else .ok version

/-- The project directory is a directory with a compose file. -/
def Settings.checkDirectory (s : Settings) (tree : World.FileTree) (current : World.Location) :
    Except Error Unit :=
  if !tree.isDirectory current s.directory then .error (.notDirectory s.directory)
  else if composeFiles.any fun name =>
      tree.isFile current (World.joinPath s.directory name) then .ok ()
  else .error (.missingComposeFile s.directory)

/-- Opens a project.  `fromEnvironment` is what the environment names as the program. -/
def Settings.toProject (s : Settings) (tree : World.FileTree) (current : World.Location)
    (fromEnvironment : Option String) : Except Error Project :=
  let binary := pickBinary s.binary fromEnvironment
  match s.checkVersion binary with
  | .error e => .error e
  | .ok version =>
    match s.checkDirectory tree current with
    | .error e => .error e
    | .ok _ =>
      .ok
        { binary := binary
          directory := s.directory
          name := s.name
          envFiles := s.envFiles
          profiles := s.profiles
          version := version
          checkMode := s.checkMode
          environment := s.environment }

/-- The version is looked at first, and the directory is to blame only where the version is not. -/
theorem Settings.toProject_eq_error_iff (s : Settings) (tree : World.FileTree)
    (current : World.Location) (fromEnvironment : Option String) (e : Error) :
    s.toProject tree current fromEnvironment = .error e ↔
      s.checkVersion (pickBinary s.binary fromEnvironment) = .error e ∨
        (∃ version, s.checkVersion (pickBinary s.binary fromEnvironment) = .ok version) ∧
          s.checkDirectory tree current = .error e := by
  unfold Settings.toProject
  dsimp only
  cases s.checkVersion (pickBinary s.binary fromEnvironment) with
  | error _ => simp
  | ok _ => cases s.checkDirectory tree current <;> simp

end ContainerOps.Project
