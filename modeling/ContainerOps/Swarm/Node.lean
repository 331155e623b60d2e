import ContainerOps.Json.Reader
import ContainerOps.Json.Source
import ContainerOps.Swarm.Error

/-!
# Swarm nodes

A node is known by the document that describes it.  Managers report an address of their own, which
is the one to reach a leader at.

Main results:

- `Node.reachableAddress_of_not_leader`: a node that is no leader is reached at its own address.
-/

namespace ContainerOps.Swarm

open ContainerOps.Decoding

/-! ## Roles -/

/-- What a node does in its swarm. -/
inductive Role where
  | manager
  | worker
deriving DecidableEq

namespace Role

/-- The name of a role, which is that of the group of its nodes too. -/
def name : Role → String
  | .manager => "manager"
  | .worker => "worker"

/-- All roles. -/
def all : List Role :=
  [.manager, .worker]

/-- The role with a given name. -/
def ofName (name : String) : Except Problem Role :=
  match all.find? fun role => role.name = name with
  | some role => .ok role
  | none => .error (.unknownVariant name (all.map Role.name))

/-- A name, or a name with nothing under it. -/
def read (value : Json) : Except Fault Role :=
  match value with
  | .string name => (ofName name).mapError Json.fault
  | .object [(name, content)] =>
    match ofName name with
    | .error problem => .error (Json.fault problem)
    | .ok role =>
      match content with
      | .null => .ok role
      | content => .error (content.mismatch "unit")
  | .object _ => .error (Json.fault (.wrongValue .map "map with a single key"))
  | value => .error (value.mismatch "string or map")

end Role

/-! ## Parts of a description -/

/-- Reads a record of one field that has to be there. -/
def readOnly {result : Type} (record key : String) (read : Json → Except Fault result)
    (value : Json) : Except Fault result :=
  let schema : Schema Json Unit result :=
    { record := record
      declared := [()]
      ofKey := fun k => if k = key then some () else none
      once := fun _ => some key
      read := fun _ => read
      skip := Source.skip }
  readRecord schema (fun missing found =>
    match found with
    | [] => .error (missing () key)
    | r :: _ => .ok r) value

/-- What a manager reports about itself. -/
structure ManagerStatus where
  /-- The manager leads the swarm. -/
  leader : Bool
  /-- Its address, with a port. -/
  address : String
deriving DecidableEq

namespace ManagerStatus

/-- A field of a manager's status with its value. -/
inductive Setting where
  | leader (value : Bool)
  | address (value : String)

/-- How a manager's status is read; the fields are told apart by a truth value. -/
def schema : Schema Json Bool Setting where
  record := "ManagerStatus"
  declared := [true, false]
  ofKey key := if key = "Leader" then some true else if key = "Addr" then some false else none
  once isLeader := some (if isLeader then "Leader" else "Addr")
  read isLeader value :=
    if isLeader then (Source.flag value).map .leader
    else (Source.text "a string" value).map .address
  skip := Source.skip

/-- Reads a manager's status; both fields have defaults. -/
def read (value : Json) : Except Fault ManagerStatus :=
  readRecord schema (fun _ settings =>
    .ok
      { leader := (settings.findSome? fun | .leader v => some v | _ => none).getD false
        address := (settings.findSome? fun | .address v => some v | _ => none).getD "" }) value

end ManagerStatus

/-! ## Nodes -/

/-- A node of a swarm. -/
structure Node where
  /-- The identifier. -/
  id : String
  /-- What the node does in the swarm. -/
  role : Role
  /-- The address that the node reports. -/
  address : String
  /-- What the node reports as a manager, if it is one. -/
  managerStatus : Option ManagerStatus
  /-- The whole description. -/
  attributes : Json

namespace Node

/-- A field of a description. -/
inductive Field where
  | id
  | spec
  | status
  | managerStatus
deriving DecidableEq

/-- The name of a field. -/
def Field.name : Field → String
  | .id => "ID"
  | .spec => "Spec"
  | .status => "Status"
  | .managerStatus => "ManagerStatus"

/-- All fields in the order of declaration. -/
def Field.all : List Field :=
  [.id, .spec, .status, .managerStatus]

/-- A field with its value. -/
inductive Setting where
  | id (value : String)
  | spec (value : Role)
  | status (value : String)
  | managerStatus (value : Option ManagerStatus)

/-- Reads the value of a field. -/
def readField (f : Field) (value : Json) : Except Fault Setting :=
  match f with
  | .id => (Source.text "a string" value).map .id
  | .spec => (readOnly "NodeSpec" "Role" Role.read value).map .spec
  | .status => (readOnly "NodeStatus" "Addr" (Source.text "a string") value).map .status
  | .managerStatus =>
    match value with
    | .null => .ok (.managerStatus none)
    | value => (ManagerStatus.read value).map fun s => .managerStatus (some s)

/-- How a description is read. -/
def schema : Schema Json Field Setting where
  record := "NodeFields"
  declared := Field.all
  ofKey key := Field.all.find? fun f => f.name = key
  once f := some f.name
  read := readField
  skip := Source.skip

/-- The node of the fields of its description. -/
def assemble (attributes : Json) (missing : Field → String → Problem)
    (settings : List Setting) : Except Problem Node :=
  match settings.findSome? fun | .id v => some v | _ => none with
  | none => .error (missing .id Field.id.name)
  | some id =>
    match settings.findSome? fun | .spec v => some v | _ => none with
    | none => .error (missing .spec Field.spec.name)
    | some role =>
      match settings.findSome? fun | .status v => some v | _ => none with
      | none => .error (missing .status Field.status.name)
      | some address =>
        .ok
          { id := id
            role := role
            address := address
            managerStatus :=
              (settings.findSome? fun | .managerStatus v => some v | _ => none).join
            attributes := attributes }

/-- Reads a node from its description. -/
def ofJson (attributes : Json) : Except Fault Node :=
  readRecord schema (assemble attributes) attributes

/-- Reads the nodes from their descriptions, up to the first that is none. -/
def ofJsons : List Json → Except Fault (List Node)
  | [] => .ok []
  | attributes :: rest =>
    match ofJson attributes with
    | .error fault => .error fault
    | .ok node => (ofJsons rest).map (node :: ·)

/-- Reads the nodes from the text of an array of descriptions.  The text is read as a whole before
any description is looked at. -/
def parse (stdout : String) : Except Error (List Node) :=
  let values := (Json.Reader.document stdout).read fun outline =>
    match outline.items with
    | .error fault => .error fault
    | .ok items => readItems Json.Outline.complete items
  match values with
  | .error fault => .error (.nodeParse fault)
  | .ok values => (ofJsons values).mapError .nodeParse

/-! ## Addresses -/

/-- The host of an address: what stands between brackets, or before the only colon, or the whole
address. -/
def splitHost (address : String) : String :=
  match address.toList with
  | '[' :: rest =>
    match Text.cutAt? ']' rest with
    | some halves => String.ofList halves.1
    | none => String.ofList rest
  | cs =>
    match Text.cutAt? ':' cs with
    | some halves => if halves.2.contains ':' then address else String.ofList halves.1
    | none => address

/-- The node leads its swarm. -/
def isLeader (n : Node) : Bool :=
  match n.managerStatus with
  | some status => status.leader
  | none => false

/-- The address to reach the node at: for a leader the host of its manager address, unless that is
empty, and else the address that the node reports. -/
def reachableAddress (n : Node) : String :=
  match n.managerStatus with
  | some status =>
    if status.leader then
      let host := splitHost status.address
      if host.isEmpty then n.address else host
    else n.address
  | none => n.address

/-- A node that is no leader is reached at its own address. -/
theorem reachableAddress_of_not_leader {n : Node} (h : n.isLeader = false) :
    n.reachableAddress = n.address := by
  unfold isLeader at h
  unfold reachableAddress
  split
  · next status hs => simp [hs] at h; simp [h]
  · rfl

/-! ## Attributes -/

/-- The value at the end of some steps into a document. -/
def valueAt (value : Json) : List String → Option Json
  | [] => some value
  | key :: rest =>
    match value.member? key with
    | none => none
    | some inner => valueAt inner rest

/-- The attribute at a dotted path. -/
def attributeAt (n : Node) (path : String) : Option Json :=
  valueAt n.attributes (Text.splitOn '.' path)

end Node

end ContainerOps.Swarm
