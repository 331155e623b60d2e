import ContainerOps.Decoding.Fault
import ContainerOps.Text.Quoted

/-!
# What can go wrong with an inventory

Each cause is a constructor with the facts that its message shows.
-/

namespace ContainerOps.Swarm

/-- Why an inventory cannot be built. -/
inductive Error where
  /-- The name of the file is not that of an inventory. -/
  | unsupportedFile (path : String)
  /-- The file cannot be read as text. -/
  | configRead (path : String)
  /-- The text of the file is no configuration. -/
  | configParse (fault : Decoding.Fault)
  /-- The configuration is for another plugin. -/
  | unknownPlugin (name : String)
  /-- The description of the nodes is none. -/
  | nodeParse (fault : Decoding.Fault)
  /-- A keyed group finds nothing at its path. -/
  | missingField (node key : String)
  /-- A keyed group finds a value that gives no names. -/
  | invalidKeyedValue (node key value : String)

/-- An error in words; the texts for files that cannot be read and for faulty documents are not
fixed. -/
def Error.message? : Error → Option String
  | .unsupportedFile path =>
    some (Text.quoted path ++ " is not a docker_swarm inventory file " ++
      "(expected docker_swarm.yml or docker_swarm.yaml)")
  | .configRead _ => none
  | .configParse _ => none
  | .unknownPlugin name => some ("unknown inventory plugin " ++ Text.quoted name)
  | .nodeParse _ => none
  | .missingField node key =>
    some ("keyed group key " ++ Text.quoted key ++ " is missing or empty for node " ++ node)
  | .invalidKeyedValue node key value =>
    some ("keyed group key " ++ Text.quoted key ++ " of node " ++ node ++
      " must be a string, list or mapping, got " ++ value)

end ContainerOps.Swarm
