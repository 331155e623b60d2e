import ContainerOps.Decoding.Record

/-!
# Inventory configuration

A configuration is a record of seventeen fields, some of them under several names.  Two fields are
required and the others have defaults.  It can be read from any source of values.

Main results:

- `Field.ofKey?_name`: the main name of a field stands for it.
-/

namespace ContainerOps.Swarm

open ContainerOps.Decoding

universe u

/-! ## Keyed groups -/

/-- A rule that puts hosts into groups named after an attribute. -/
structure KeyedGroup where
  /-- The dotted path of the attribute. -/
  key : String
  /-- What the names of the groups begin with. -/
  lead : String
  /-- What stands between the parts of a name. -/
  separator : String
deriving DecidableEq

namespace KeyedGroup

/-- A field of a keyed group. -/
inductive Field where
  | key
  | lead
  | separator
deriving DecidableEq

/-- The name of a field. -/
def Field.name : Field → String
  | .key => "key"
  | .lead => "prefix"
  | .separator => "separator"

/-- All fields in the order of declaration. -/
def Field.all : List Field :=
  [.key, .lead, .separator]

/-- How a keyed group is read. -/
def schema {α : Type u} [Source α] : Schema α Field (Field × String) where
  record := "KeyedGroup"
  declared := Field.all
  ofKey key := Field.all.find? fun f => f.name = key
  once f := some f.name
  read f value := (Source.text "a string" value).map fun s => (f, s)
  skip := Source.skip

/-- What stands between the parts of a name if nothing is set. -/
def defaultSeparator : String := "_"

/-- The keyed group of its fields. -/
def assemble (missing : Field → String → Problem) (settings : List (Field × String)) :
    Except Problem KeyedGroup :=
  match settings.lookup .key with
  | none => .error (missing .key Field.key.name)
  | some key =>
    .ok
      { key := key
        lead := (settings.lookup .lead).getD ""
        separator := (settings.lookup .separator).getD defaultSeparator }

/-- Reads a keyed group. -/
def read {α : Type u} [Source α] (value : α) : Except Fault KeyedGroup :=
  readRecord schema assemble value

end KeyedGroup

/-! ## Fields -/

/-- A field of the configuration. -/
inductive Field where
  | plugin
  | dockerHost
  | verboseOutput
  | tls
  | validateCerts
  | clientKey
  | caPath
  | clientCert
  | tlsHostname
  | sslVersion
  | apiVersion
  | timeout
  | useSshClient
  | includeHostUri
  | includeHostUriPort
  | strict
  | keyedGroups
deriving DecidableEq

namespace Field

/-- All fields in the order of declaration. -/
def all : List Field :=
  [.plugin, .dockerHost, .verboseOutput, .tls, .validateCerts, .clientKey, .caPath, .clientCert,
    .tlsHostname, .sslVersion, .apiVersion, .timeout, .useSshClient, .includeHostUri,
    .includeHostUriPort, .strict, .keyedGroups]

/-- The main name of a field. -/
def name : Field → String
  | .plugin => "plugin"
  | .dockerHost => "docker_host"
  | .verboseOutput => "verbose_output"
  | .tls => "tls"
  | .validateCerts => "validate_certs"
  | .clientKey => "client_key"
  | .caPath => "ca_path"
  | .clientCert => "client_cert"
  | .tlsHostname => "tls_hostname"
  | .sslVersion => "ssl_version"
  | .apiVersion => "api_version"
  | .timeout => "timeout"
  | .useSshClient => "use_ssh_client"
  | .includeHostUri => "include_host_uri"
  | .includeHostUriPort => "include_host_uri_port"
  | .strict => "strict"
  | .keyedGroups => "keyed_groups"

/-- The other names of a field. -/
def aliases : Field → List String
  | .dockerHost => ["docker_url"]
  | .validateCerts => ["tls_verify"]
  | .clientKey => ["tls_client_key", "key_path"]
  | .caPath => ["ca_cert", "tls_ca_cert", "cacert_path"]
  | .clientCert => ["tls_client_cert", "cert_path"]
  | .apiVersion => ["docker_api_version"]
  | .timeout => ["time_out"]
  | _ => []

/-- The names of a field, the main name first. -/
def names (f : Field) : List String :=
  f.name :: f.aliases

/-- The field with a given name. -/
def ofKey? (key : String) : Option Field :=
  all.find? fun f => key ∈ f.names

/-- The main name of a field stands for it. -/
@[simp]
theorem ofKey?_name (f : Field) : ofKey? f.name = some f := by
  cases f <;> decide

end Field

/-! ## Settings -/

/-- A field with its value. -/
inductive Setting where
  | plugin (value : String)
  | dockerHost (value : String)
  | verboseOutput (value : Bool)
  | tls (value : Bool)
  | validateCerts (value : Bool)
  | clientKey (value : Option String)
  | caPath (value : Option String)
  | clientCert (value : Option String)
  | tlsHostname (value : Option String)
  | sslVersion (value : Option String)
  | apiVersion (value : Option String)
  | timeout (value : Nat)
  | useSshClient (value : Bool)
  | includeHostUri (value : Bool)
  | includeHostUriPort (value : Option Nat)
  | strict (value : Bool)
  | keyedGroups (value : List KeyedGroup)
deriving DecidableEq

namespace Setting

variable {α : Type u} [Source α]

/-- The greatest port. -/
def maxPort : Nat := 0xffff

/-- The greatest number of seconds. -/
def maxSeconds : Nat := 0xffffffffffffffff

/-- Reads what a value holds, if it is not the one that stands for nothing. -/
def optional {result : Type} (read : α → Except Fault result) (value : α) :
    Except Fault (Option result) :=
  match Source.optional value with
  | .error fault => .error fault
  | .ok none => .ok none
  | .ok (some value) => (read value).map some

/-- Reads keyed groups. -/
def groups (value : α) : Except Fault (List KeyedGroup) :=
  match Source.items value with
  | .error fault => .error fault
  | .ok items => readItems KeyedGroup.read items

/-- Reads the value of a field. -/
def read (f : Field) (value : α) : Except Fault Setting :=
  match f with
  | .plugin => (Source.text "a string" value).map .plugin
  | .dockerHost => (Source.text "a string" value).map .dockerHost
  | .verboseOutput => (Source.flag value).map .verboseOutput
  | .tls => (Source.flag value).map .tls
  | .validateCerts => (Source.flag value).map .validateCerts
  | .clientKey => (optional (Source.text "path string") value).map .clientKey
  | .caPath => (optional (Source.text "path string") value).map .caPath
  | .clientCert => (optional (Source.text "path string") value).map .clientCert
  | .tlsHostname => (optional (Source.text "a string") value).map .tlsHostname
  | .sslVersion => (optional (Source.text "a string") value).map .sslVersion
  | .apiVersion => (optional (Source.text "a string") value).map .apiVersion
  | .timeout => (Source.natural maxSeconds "u64" value).map .timeout
  | .useSshClient => (Source.flag value).map .useSshClient
  | .includeHostUri => (Source.flag value).map .includeHostUri
  | .includeHostUriPort =>
    (optional (Source.natural maxPort "u16") value).map .includeHostUriPort
  | .strict => (Source.flag value).map .strict
  | .keyedGroups => (groups value).map .keyedGroups

end Setting

/-! ## Configurations -/

/-- The configuration of an inventory. -/
structure Config where
  /-- The plugin that the configuration is for. -/
  plugin : String
  /-- The address of the daemon. -/
  dockerHost : String
  /-- Hosts get all attributes of their nodes. -/
  verboseOutput : Bool
  /-- The daemon is reached over an encrypted connection. -/
  tls : Bool
  /-- The daemon is reached over an encrypted connection and has to prove its identity. -/
  validateCerts : Bool
  /-- The file with the key of the client. -/
  clientKey : Option String
  /-- The file with the certificate of the authority. -/
  caPath : Option String
  /-- The file with the certificate of the client. -/
  clientCert : Option String
  /-- The host name that the daemon has to prove. -/
  tlsHostname : Option String
  /-- The version of the encryption protocol. -/
  sslVersion : Option String
  /-- The version of the daemon interface. -/
  apiVersion : Option String
  /-- The seconds to wait for the daemon. -/
  timeout : Nat
  /-- The daemon is reached through a separate client program. -/
  useSshClient : Bool
  /-- Hosts get the address of their daemon. -/
  includeHostUri : Bool
  /-- The port in that address. -/
  includeHostUriPort : Option Nat
  /-- Keyed groups have to find a value on every node. -/
  strict : Bool
  /-- The rules for groups named after attributes. -/
  keyedGroups : List KeyedGroup
deriving DecidableEq

namespace Config

/-- The seconds to wait if nothing is set. -/
def defaultTimeout : Nat := 60

/-- The configuration of its settings. -/
def assemble (missing : Field → String → Problem) (settings : List Setting) :
    Except Problem Config :=
  match settings.findSome? fun | .plugin v => some v | _ => none with
  | none => .error (missing .plugin Field.plugin.name)
  | some plugin =>
    match settings.findSome? fun | .dockerHost v => some v | _ => none with
    | none => .error (missing .dockerHost Field.dockerHost.name)
    | some dockerHost =>
      .ok
        { plugin := plugin
          dockerHost := dockerHost
          verboseOutput :=
            (settings.findSome? fun | .verboseOutput v => some v | _ => none).getD true
          tls := (settings.findSome? fun | .tls v => some v | _ => none).getD false
          validateCerts :=
            (settings.findSome? fun | .validateCerts v => some v | _ => none).getD false
          clientKey := (settings.findSome? fun | .clientKey v => some v | _ => none).join
          caPath := (settings.findSome? fun | .caPath v => some v | _ => none).join
          clientCert := (settings.findSome? fun | .clientCert v => some v | _ => none).join
          tlsHostname := (settings.findSome? fun | .tlsHostname v => some v | _ => none).join
          sslVersion := (settings.findSome? fun | .sslVersion v => some v | _ => none).join
          apiVersion := (settings.findSome? fun | .apiVersion v => some v | _ => none).join
          timeout := (settings.findSome? fun | .timeout v => some v | _ => none).getD
            defaultTimeout
          useSshClient :=
            (settings.findSome? fun | .useSshClient v => some v | _ => none).getD false
          includeHostUri :=
            (settings.findSome? fun | .includeHostUri v => some v | _ => none).getD false
          includeHostUriPort :=
            (settings.findSome? fun | .includeHostUriPort v => some v | _ => none).join
          strict := (settings.findSome? fun | .strict v => some v | _ => none).getD false
          keyedGroups :=
            (settings.findSome? fun | .keyedGroups v => some v | _ => none).getD [] }

/-- How a configuration is read. -/
def schema {α : Type u} [Source α] : Schema α Field Setting where
  record := "InventoryConfig"
  declared := Field.all
  ofKey := Field.ofKey?
  once f := some f.name
  read := Setting.read
  skip := Source.skip

/-- Reads a configuration. -/
def read {α : Type u} [Source α] (value : α) : Except Fault Config :=
  readRecord schema assemble value

/-! ## Ports -/

/-- The port of a daemon on an encrypted connection. -/
def securePort : Nat := 2376

/-- The port of a daemon on an open connection. -/
def plainPort : Nat := 2375

/-- The port in the address of a host's daemon. -/
def hostPort (c : Config) : Nat :=
  match c.includeHostUriPort with
  | some port => port
  | none => if c.tls || c.validateCerts then securePort else plainPort

end Config

end ContainerOps.Swarm
