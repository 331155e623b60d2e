import ContainerOps.Decoding.Fault
import ContainerOps.Text.Quoted
import ContainerOps.Text.Utf8

/-!
# What can go wrong with a project

Each cause is a constructor with the facts that its message shows.
-/

namespace ContainerOps.Project

/-- What a listing lists. -/
inductive Subject where
  /-- The containers of a project. -/
  | containers
  /-- The images of a project. -/
  | images
deriving DecidableEq

/-- The subcommand that lists a subject. -/
def Subject.subcommand : Subject → String
  | .containers => "ps"
  | .images => "images"

/-- The names of the files that make a directory a project. -/
def composeFiles : List String :=
  ["docker-compose.yml", "docker-compose.yaml"]

/-- Why a project cannot be opened or an operation on it fails. -/
inductive Error where
  /-- No version of the plugin is known. -/
  | missingPlugin (binary : String)
  /-- The plugin is older than required. -/
  | unsupportedVersion (binary version minimum : String)
  /-- A version has no numeral in front, or too great a one. -/
  | invalidVersion (raw : String)
  /-- The project directory is none. -/
  | notDirectory (path : String)
  /-- The project directory has no compose file. -/
  | missingComposeFile (directory : String)
  /-- The program did not start. -/
  | spawn (binary reason : String)
  /-- The program ended with an exit code other than zero. -/
  | nonZeroExit (command : String) (code : Int) (stderr : String)
  /-- The output is not text. -/
  | invalidUtf8 (fault : Text.Utf8.Fault)
  /-- The output, or the line of it that is kept, is not the listing that it should be. -/
  | listing (subject : Subject) (stdout : String) (fault : Decoding.Fault)

/-- An error in words; the text of a faulty listing is not fixed. -/
def Error.message? : Error → Option String
  | .missingPlugin binary =>
    some ("docker CLI " ++ Text.quoted binary ++ " does not have the compose plugin installed")
  | .unsupportedVersion binary version minimum =>
    some ("docker CLI " ++ Text.quoted binary ++ " has the compose plugin with version " ++ version
      ++ "; need version " ++ minimum ++ " or later")
  | .invalidVersion raw => some ("cannot parse compose version " ++ Text.quoted raw)
  | .notDirectory path => some (Text.quoted path ++ " is not a directory")
  | .missingComposeFile directory =>
    some (Text.quoted directory ++ " does not contain " ++ Text.join " or " composeFiles)
  | .spawn binary reason =>
    some ("failed to spawn docker process (binary=" ++ Text.quoted binary ++ "): " ++ reason)
  | .nonZeroExit command code stderr =>
    some ("`" ++ command ++ "` exited with return code " ++ toString code ++ ": " ++ stderr)
  | .invalidUtf8 fault => some ("docker output was not valid UTF-8: " ++ fault.message)
  | .listing _ _ _ => none

end ContainerOps.Project
