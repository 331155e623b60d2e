import ContainerOps.Proofs.Table.Keys
import ContainerOps.Swarm.Inventory
import Mathlib.Tactic.Tauto

/-!
# Extending an inventory by a host

Everything that is done for a node puts its host into groups or sets variables of it.  The relation
`Inventory.Extends` says which groups and which variables, and that nothing else changes.  Two such
steps for one host make up a third, so what is done for a node follows from its parts.

Main results:

- `Inventory.extends_addHost` and `Inventory.extends_setVariable`: the single steps.
- `Inventory.Extends.trans`: two steps make up a third.
- `extends_addNode`: what is done for a node.
-/

namespace ContainerOps.Swarm

namespace Inventory

/-! ## Hosts and variables as values found -/

/-- The hosts of a group that does not exist are none. -/
theorem hosts_eq_keys (i : Inventory) (g : String) :
    i.hosts g = ((i.groups.find? g).getD .empty).keys := by
  unfold hosts
  cases i.groups.find? g <;> rfl

/-- The variables of a host that does not exist are none. -/
theorem variableOf_eq_find? (i : Inventory) (h key : String) :
    i.variableOf h key = ((i.hostvars.find? h).getD .empty).find? key := by
  unfold variableOf
  cases i.hostvars.find? h <;> rfl

/-- A host joins one group. -/
theorem mem_hosts_join {i : Inventory} {host group h g : String} :
    h ∈ (i.join host group).hosts g ↔ h = host ∧ g = group ∨ h ∈ i.hosts g := by
  rw [hosts_eq_keys, hosts_eq_keys, join, Table.find?_alter]
  by_cases hg : g = group
  · simp [hg, Table.mem_keys_insert]
  · simp [hg]

/-- A group that a host joins exists. -/
theorem mem_groups_join {i : Inventory} {host group g : String} :
    g ∈ (i.join host group).groups.keys ↔ g = group ∨ g ∈ i.groups.keys :=
  Table.mem_keys_alter

/-- A new group has no hosts. -/
theorem mem_hosts_addGroup {i : Inventory} {group h g : String} :
    h ∈ (i.addGroup group).hosts g ↔ h ∈ i.hosts g := by
  rw [hosts_eq_keys, hosts_eq_keys, addGroup, Table.find?_alter]
  by_cases hg : g = group
  · simp [hg]
  · simp [hg]

/-- A new group exists. -/
theorem mem_groups_addGroup {i : Inventory} {group g : String} :
    g ∈ (i.addGroup group).groups.keys ↔ g = group ∨ g ∈ i.groups.keys :=
  Table.mem_keys_alter

/-- A variable that is set has its value. -/
theorem variableOf_setVariable (i : Inventory) (host key h k : String) (value : Json) :
    (i.setVariable host key value).variableOf h k =
      if h = host ∧ k = key then some value else i.variableOf h k := by
  rw [variableOf_eq_find?, variableOf_eq_find?, setVariable, Table.find?_alter]
  by_cases hh : h = host
  · simp [hh, Table.find?_insert]
  · simp [hh]

/-- A host that is added keeps its variables. -/
theorem variableOf_addHost (i : Inventory) (host : String) (group : Option String)
    (h k : String) : (i.addHost host group).variableOf h k = i.variableOf h k := by
  rw [variableOf_eq_find?, variableOf_eq_find?]
  cases group <;>
  · simp only [addHost, join, Table.find?_alter]
    by_cases hh : h = host <;> simp [hh]

/-! ## Extensions -/

/-- An inventory has what another one has, and besides a host with more groups and variables. -/
structure Extends (i j : Inventory) (host : String) (groups : String → Prop)
    (values : String → Option Json) : Prop where
  hosts : ∀ h g, h ∈ j.hosts g ↔ h = host ∧ groups g ∨ h ∈ i.hosts g
  groups : ∀ g, g ∈ j.groups.keys ↔ groups g ∨ g ∈ i.groups.keys
  known : ∀ h, h ∈ j.hostvars.keys ↔ h = host ∨ h ∈ i.hostvars.keys
  variableOf : ∀ h key, j.variableOf h key =
    if h = host then (values key).or (i.variableOf h key) else i.variableOf h key

section Extends

variable {i j k : Inventory} {host : String} {groups more : String → Prop}
  {values overrides : String → Option Json}

/-- An inventory that knows a host extends itself. -/
theorem Extends.refl (hknown : host ∈ i.hostvars.keys) :
    Extends i i host (fun _ => False) (fun _ => none) where
  hosts h g := by simp
  groups g := by simp
  known h := by
    constructor
    · exact .inr
    · rintro (rfl | h)
      · exact hknown
      · exact h
  variableOf h key := by simp

/-- Two steps for one host make up a third. -/
theorem Extends.trans (first : Extends i j host groups values)
    (second : Extends j k host more overrides) :
    Extends i k host (fun g => groups g ∨ more g) (fun key => (overrides key).or (values key)) where
  hosts h g := by
    rw [second.hosts, first.hosts]
    tauto
  groups g := by
    rw [second.groups, first.groups]
    tauto
  known h := by
    rw [second.known, first.known]
    tauto
  variableOf h key := by
    rw [second.variableOf, first.variableOf]
    split
    · rw [Option.or_assoc]
    · rfl

/-- A step can be told in other words. -/
theorem Extends.congr (step : Extends i j host groups values) (hgroups : ∀ g, groups g ↔ more g)
    (hvalues : ∀ key, values key = overrides key) : Extends i j host more overrides := by
  obtain rfl : groups = more := funext fun g => propext (hgroups g)
  obtain rfl : values = overrides := funext hvalues
  exact step

/-- The host of a step is known after it. -/
theorem Extends.mem_known (step : Extends i j host groups values) : host ∈ j.hostvars.keys :=
  (step.known host).mpr (.inl rfl)

end Extends

/-! ## Single steps -/

/-- A host that is added to a group is in that group and in the group of all hosts. -/
theorem extends_addHost (i : Inventory) (host group : String) :
    Extends i (i.addHost host (some group)) host (fun g => g = allGroup ∨ g = group)
      (fun _ => none) where
  hosts h g := by
    rw [show (i.addHost host (some group)).hosts g =
      ((i.join host allGroup).join host group).hosts g from rfl, mem_hosts_join, mem_hosts_join]
    tauto
  groups g := by
    rw [show (i.addHost host (some group)).groups = ((i.join host allGroup).join host group).groups
      from rfl, mem_groups_join, mem_groups_join]
    tauto
  known _ := Table.mem_keys_alter
  variableOf h key := by
    rw [variableOf_addHost, Option.none_or, ite_self]

/-- A variable that is set changes nothing but that variable. -/
theorem extends_setVariable (i : Inventory) (host key : String) (value : Json) :
    Extends i (i.setVariable host key value) host (fun _ => False)
      (fun k => if k = key then some value else none) where
  hosts h g := by
    rw [show (i.setVariable host key value).hosts g = i.hosts g from rfl]
    simp
  groups g := by
    rw [show (i.setVariable host key value).groups = i.groups from rfl]
    simp
  known _ := Table.mem_keys_alter
  variableOf h k := by
    rw [variableOf_setVariable]
    by_cases hh : h = host <;> by_cases hk : k = key <;> simp [hh, hk]

/-- A variable of a known host that is set on a condition. -/
theorem extends_setVariable_if {i : Inventory} {host : String} (hknown : host ∈ i.hostvars.keys)
    (condition : Bool) (key : String) (value : Json) :
    Extends i (if condition then i.setVariable host key value else i) host (fun _ => False)
      (fun k => if k = key ∧ condition = true then some value else none) := by
  cases condition with
  | true => exact (extends_setVariable i host key value).congr (by simp) (by simp)
  | false => exact (Extends.refl hknown).congr (by simp) (by simp)

/-- A known host that is added to some groups is in these groups, and in the group of all hosts if
there are any. -/
theorem extends_foldl_addHost {i : Inventory} {host : String} (hknown : host ∈ i.hostvars.keys)
    (names : List String) :
    Extends i (names.foldl (fun i name => i.addHost host (some name)) i) host
      (fun g => ∃ name ∈ names, g = allGroup ∨ g = name) (fun _ => none) := by
  induction names generalizing i with
  | nil => exact (Extends.refl hknown).congr (by simp) fun _ => rfl
  | cons name rest ih =>
    have hfirst := extends_addHost i host name
    have hrest := ih hfirst.mem_known
    exact (hfirst.trans hrest).congr (fun g => by simp) fun _ => rfl

end Inventory

/-! ## Nodes -/

open Inventory

/-- The rules put a node into a group of this name. -/
def IsKeyedName (c : Config) (node : Node) (g : String) : Prop :=
  ∃ rule ∈ c.keyedGroups, ∃ names, keyedNames rule node c.strict = .ok names ∧ g ∈ names

/-- A node belongs into a group. -/
def Belongs (c : Config) (node : Node) (g : String) : Prop :=
  g = allGroup ∨ g = node.role.name ∨ (g = leaderGroup ∧ node.isLeader = true) ∨
    (g = nonleaderGroup ∧ node.isLeader = false) ∨ IsKeyedName c node g

/-- The variables that a node gives to its host. -/
def hostVariable? (c : Config) (node : Node) (key : String) : Option Json :=
  if key = "ansible_host" then some (.string node.reachableAddress)
  else if key = "ansible_host_uri" ∧ c.includeHostUri = true then
    some (.string ("tcp://" ++ node.reachableAddress ++ ":" ++ toString c.hostPort))
  else if key = "docker_swarm_node_attributes" ∧ c.verboseOutput = true then some node.attributes
  else none

/-- The variables of a node are set for its host. -/
theorem extends_addVariables (c : Config) (node : Node) (i : Inventory) :
    Extends i (addVariables c node i) node.id (fun _ => False) (hostVariable? c node) := by
  have haddress :=
    extends_setVariable i node.id "ansible_host" (.string node.reachableAddress)
  have huri := haddress.trans (extends_setVariable_if haddress.mem_known c.includeHostUri
    "ansible_host_uri"
    (.string ("tcp://" ++ node.reachableAddress ++ ":" ++ toString c.hostPort)))
  have hall := huri.trans (extends_setVariable_if huri.mem_known c.verboseOutput
    "docker_swarm_node_attributes" node.attributes)
  refine hall.congr (by simp) fun key => ?_
  unfold hostVariable?
  by_cases hhost : key = "ansible_host"
  · simp [hhost]
  · by_cases huri : key = "ansible_host_uri" ∧ c.includeHostUri = true
    · simp [huri]
    · simp [hhost, huri]

/-- The rules put the host of a node into the groups that they name. -/
theorem extends_addKeyed {c : Config} {node : Node} {rules : List KeyedGroup} {i j : Inventory}
    (hknown : node.id ∈ i.hostvars.keys) (hadd : addKeyed c node rules i = .ok j) :
    Extends i j node.id
      (fun g => ∃ rule ∈ rules, ∃ names, keyedNames rule node c.strict = .ok names ∧
        ∃ name ∈ names, g = allGroup ∨ g = name) (fun _ => none) := by
  induction rules generalizing i with
  | nil =>
    cases hadd
    exact (Extends.refl hknown).congr (by simp) fun _ => rfl
  | cons rule rest ih =>
    unfold addKeyed at hadd
    cases hnames : keyedNames rule node c.strict with
    | error e => rw [hnames] at hadd; cases hadd
    | ok names =>
      rw [hnames] at hadd
      have hfirst := extends_foldl_addHost hknown names
      exact (hfirst.trans (ih hfirst.mem_known hadd)).congr (fun g => by simp [hnames])
        fun _ => rfl

/-- The host of a node is put into the groups that the node belongs into, and gets the variables
that the node gives to it. -/
theorem extends_addNode {c : Config} {i j : Inventory} {node : Node}
    (hadd : addNode c i node = .ok j) :
    Extends i j node.id (Belongs c node) (hostVariable? c node) := by
  have hrole := extends_addHost i node.id node.role.name
  have hvariables := hrole.trans (extends_addVariables c node _)
  have hposition := hvariables.trans (extends_addHost _ node.id
    (if node.isLeader then leaderGroup else nonleaderGroup))
  have hkeyed := hposition.trans (extends_addKeyed hposition.mem_known hadd)
  refine hkeyed.congr (fun g => ?_) fun key => by simp
  constructor
  · rintro ((((hall | hrole) | hnone) | hall | hposition) | ⟨rule, hrule, names, hnames, hkeyed⟩)
    · exact .inl hall
    · exact .inr (.inl hrole)
    · exact hnone.elim
    · exact .inl hall
    · split at hposition
      · rename_i hleader
        exact .inr (.inr (.inl ⟨hposition, hleader⟩))
      · rename_i hleader
        exact .inr (.inr (.inr (.inl ⟨hposition, Bool.not_eq_true _ ▸ hleader⟩)))
    · obtain ⟨name, hname, rfl | rfl⟩ := hkeyed
      · exact .inl rfl
      · exact .inr (.inr (.inr (.inr ⟨rule, hrule, names, hnames, hname⟩)))
  · rintro (hall | hrole | ⟨rfl, hleader⟩ | ⟨rfl, hleader⟩ | ⟨rule, hrule, names, hnames, hname⟩)
    · exact .inl (.inl (.inl (.inl hall)))
    · exact .inl (.inl (.inl (.inr hrole)))
    · exact .inl (.inr (.inr (by rw [hleader]; rfl)))
    · exact .inl (.inr (.inr (by rw [hleader]; rfl)))
    · exact .inr ⟨rule, hrule, names, hnames, g, hname, .inr rfl⟩

end ContainerOps.Swarm
