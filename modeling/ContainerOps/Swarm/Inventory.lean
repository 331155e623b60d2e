import ContainerOps.Json.Writer
import ContainerOps.Swarm.Config
import ContainerOps.Swarm.Node

/-!
# Inventories

An inventory puts hosts into groups and gives them variables.  The inventory of a swarm has a host
for each node, groups for its role and its position, and groups named after attributes.
-/

namespace ContainerOps.Swarm

/-! ## Group names -/

/-- The group of all hosts. -/
def allGroup : String := "all"

/-- The group of the hosts that lead. -/
def leaderGroup : String := "leader"

/-- The group of the hosts that do not lead. -/
def nonleaderGroup : String := "nonleaders"

/-- The groups that every inventory has. -/
def builtInGroups : List String :=
  [allGroup, Role.manager.name, Role.worker.name, leaderGroup, nonleaderGroup]

/-- A character that may stand in a group name: an ASCII letter, a digit or an underscore. -/
def isSafe (c : Char) : Bool :=
  c.isAlphanum || c == '_'

/-- A text as a group name, with an underscore for each character that may not stand in one. -/
def safeName (name : String) : String :=
  String.ofList (name.toList.map fun c => if isSafe c then c else '_')

/-! ## Inventories -/

/-- Hosts in groups, with variables. -/
structure Inventory where
  /-- The hosts of each group. -/
  groups : Table (Table Unit)
  /-- The variables of each host. -/
  hostvars : Table (Table Json)

namespace Inventory

/-- The inventory without groups and hosts. -/
def empty : Inventory :=
  { groups := .empty, hostvars := .empty }

/-- The inventory with a group, which has no hosts if it is new. -/
def addGroup (i : Inventory) (group : String) : Inventory :=
  { i with groups := i.groups.alter group .empty id }

/-- The inventory with a host in a group. -/
def join (i : Inventory) (host group : String) : Inventory :=
  { i with groups := i.groups.alter group .empty (·.insert host ()) }

/-- The inventory with a host in the group of all hosts and, if given, in one more. -/
def addHost (i : Inventory) (host : String) (group : Option String) : Inventory :=
  let joined := i.join host allGroup
  let joined :=
    match group with
    | some group => joined.join host group
    | none => joined
  { joined with hostvars := joined.hostvars.alter host .empty id }

/-- The inventory with a variable of a host set. -/
def setVariable (i : Inventory) (host key : String) (value : Json) : Inventory :=
  { i with hostvars := i.hostvars.alter host .empty (·.insert key value) }

/-- The hosts of a group in order. -/
def hosts (i : Inventory) (group : String) : List String :=
  match i.groups.find? group with
  | some members => members.keys
  | none => []

/-- A variable of a host. -/
def variableOf (i : Inventory) (host key : String) : Option Json :=
  match i.hostvars.find? host with
  | some values => values.find? key
  | none => none

end Inventory

/-! ## Keyed groups -/

/-- A value that counts as none: the value without content, an empty text, the false truth value
and zero. -/
def isEmptyKey : Json → Bool
  | .null => true
  | .string s => s.isEmpty
  | .bool b => !b
  | .number n => n.isZero
  | .array _ => false
  | .object _ => false

/-- The text of a simple value in a group name. -/
def scalarText : Json → Option String
  | .string s => some s
  | .bool b => some (if b then "true" else "false")
  | .number n => some n.text
  | _ => none

/-- The texts that a value gives to the names of groups; none if it is of a kind that gives no
names. -/
def keyedTexts (separator : String) : Json → Option (List String)
  | .string s => some [s]
  | .array items => some (items.filterMap scalarText)
  | .object members =>
    some (members.filterMap fun m => (scalarText m.2).map fun v => m.1 ++ separator ++ v)
  | _ => none

/-- The names of the groups that a rule puts a node into. -/
def keyedNames (rule : KeyedGroup) (node : Node) (strict : Bool) :
    Except Error (List String) :=
  let absent : Except Error (List String) :=
    if strict then .error (.missingField node.id rule.key) else .ok []
  match node.attributeAt rule.key with
  | none => absent
  | some value =>
    if isEmptyKey value then absent
    else
      match keyedTexts rule.separator value with
      | none => .error (.invalidKeyedValue node.id rule.key value.compact)
      | some texts =>
        .ok (texts.map fun text => safeName (rule.lead ++ rule.separator ++ text))

/-! ## The inventory of a swarm -/

/-- The variables that a node gives to its host. -/
def addVariables (c : Config) (node : Node) (i : Inventory) : Inventory :=
  let address := node.reachableAddress
  let i := i.setVariable node.id "ansible_host" (.string address)
  let i :=
    if c.includeHostUri then
      i.setVariable node.id "ansible_host_uri"
        (.string ("tcp://" ++ address ++ ":" ++ toString c.hostPort))
    else i
  if c.verboseOutput then
    i.setVariable node.id "docker_swarm_node_attributes" node.attributes
  else i

/-- Puts the host of a node into the groups of some rules. -/
def addKeyed (c : Config) (node : Node) : List KeyedGroup → Inventory → Except Error Inventory
  | [], i => .ok i
  | rule :: rest, i =>
    match keyedNames rule node c.strict with
    | .error e => .error e
    | .ok names =>
      addKeyed c node rest (names.foldl (fun i name => i.addHost node.id (some name)) i)

/-- Adds the host of a node. -/
def addNode (c : Config) (i : Inventory) (node : Node) : Except Error Inventory :=
  let i := i.addHost node.id (some node.role.name)
  let i := addVariables c node i
  let i := i.addHost node.id (some (if node.isLeader then leaderGroup else nonleaderGroup))
  addKeyed c node c.keyedGroups i

/-- Adds the hosts of some nodes. -/
def addNodes (c : Config) : List Node → Inventory → Except Error Inventory
  | [], i => .ok i
  | node :: rest, i =>
    match addNode c i node with
    | .error e => .error e
    | .ok i => addNodes c rest i

/-- The inventory of a swarm. -/
def build (c : Config) (nodes : List Node) : Except Error Inventory :=
  addNodes c nodes (builtInGroups.foldl Inventory.addGroup .empty)

end ContainerOps.Swarm
