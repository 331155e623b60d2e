import ContainerOps.Swarm.Config
import ContainerOps.Swarm.Error
import ContainerOps.Text.Utf8
import ContainerOps.World.FileTree
import ContainerOps.Yaml.Source

/-!
# Loading a configuration

A configuration file is known by the end of its name.  It holds one YAML document for one of the
names of the plugin.
-/

namespace ContainerOps.Swarm

/-- The names of the plugin. -/
def pluginNames : List String :=
  ["docker_swarm", "community.docker.docker_swarm"]

/-- What the name of a configuration file ends in. -/
def fileEndings : List String :=
  ["docker_swarm.yaml", "docker_swarm.yml"]

/-- The path is that of a configuration file, by its name. -/
def isConfigFile (path : String) : Bool :=
  fileEndings.any fun ending => path.endsWith ending

namespace Config

/-- The configuration, if it is for this plugin. -/
def forPlugin (c : Config) : Except Error Config :=
  if c.plugin ∈ pluginNames then .ok c else .error (.unknownPlugin c.plugin)

/-- Reads a configuration from a YAML text. -/
def ofYaml (text : String) : Except Error Config :=
  match (Yaml.Reader.document text).read read with
  | .error fault => .error (.configParse fault)
  | .ok c => c.forPlugin

/-- Loads the configuration file at a path, seen from a directory. -/
def load (tree : World.FileTree) (current : World.Location) (path : String) :
    Except Error Config :=
  if !isConfigFile path then .error (.unsupportedFile path)
  else
    match tree.read? current path with
    | none => .error (.configRead path)
    | some bytes =>
      match Text.Utf8.text bytes with
      | .error _ => .error (.configRead path)
      | .ok text => ofYaml text

end Config

end ContainerOps.Swarm
