import ContainerOps.Proofs.Swarm.Extension
import Mathlib.Data.List.Nodup

/-!
# The inventory of a swarm

The inventory is built node by node.  In the end a group has the hosts of the nodes that belong
into it, and a host has the variables that its last node gives to it.  Nothing is lost on the way:
later nodes only override the variables of earlier ones, and all nodes set the same variables.

Main results:

- `hostVariable?_or`: the variables of one node cover those of any other.
- `gathered_addNodes`: what adding several nodes does.
- `exists_build_iff`: when an inventory can be built.
- `mem_hosts_build` and `mem_groups_build`: the groups and their hosts.
- `isPartition_hosts`: two groups that split the nodes split the hosts.
- `build_eq_closed_form`: the inventory of some nodes in terms of the nodes.
-/

namespace ContainerOps.Swarm

open Inventory

/-! ## Variables -/

/-- The variables of one node cover those of any other. -/
theorem hostVariable?_or (c : Config) (node other : Node) (key : String) :
    (hostVariable? c node key).or (hostVariable? c other key) = hostVariable? c node key := by
  unfold hostVariable?
  split
  · rfl
  · split
    · rfl
    · split <;> rfl

/-- The last of some nodes that has a given identifier. -/
def lastNode? (nodes : List Node) (h : String) : Option Node :=
  nodes.reverse.find? fun node => node.id = h

/-- A node in front of others is the last one if none of the others is. -/
theorem lastNode?_cons (node : Node) (rest : List Node) (h : String) :
    lastNode? (node :: rest) h =
      (lastNode? rest h).or (if node.id = h then some node else none) := by
  unfold lastNode?
  rw [List.reverse_cons, List.find?_append, List.find?_singleton]
  simp

/-! ## Several nodes -/

/-- An inventory has what another one has, and besides the hosts of some nodes in the groups that
they belong into, with the variables of the last node of each host. -/
structure Gathered (c : Config) (nodes : List Node) (i j : Inventory) : Prop where
  hosts : ∀ h g, h ∈ j.hosts g ↔ (∃ node ∈ nodes, node.id = h ∧ Belongs c node g) ∨ h ∈ i.hosts g
  groups : ∀ g, g ∈ j.groups.keys ↔ (∃ node ∈ nodes, Belongs c node g) ∨ g ∈ i.groups.keys
  known : ∀ h, h ∈ j.hostvars.keys ↔ (∃ node ∈ nodes, node.id = h) ∨ h ∈ i.hostvars.keys
  variableOf : ∀ h key, j.variableOf h key =
    ((lastNode? nodes h).bind (hostVariable? c · key)).or (i.variableOf h key)

section Gathered

variable {c : Config} {nodes rest : List Node} {node : Node} {i next j : Inventory}

/-- Without nodes nothing is added. -/
theorem gathered_nil (c : Config) (i : Inventory) : Gathered c [] i i where
  hosts h g := by simp
  groups g := by simp
  known h := by simp
  variableOf h key := rfl

/-- One node is added before the others. -/
theorem Gathered.cons (first : Extends i next node.id (Belongs c node) (hostVariable? c node))
    (others : Gathered c rest next j) : Gathered c (node :: rest) i j where
  hosts h g := by
    rw [others.hosts, first.hosts, List.exists_mem_cons_iff, eq_comm, or_assoc]
    exact or_left_comm
  groups g := by
    rw [others.groups, first.groups, List.exists_mem_cons_iff, or_assoc]
    exact or_left_comm
  known h := by
    rw [others.known, first.known, List.exists_mem_cons_iff, eq_comm, or_assoc]
    exact or_left_comm
  variableOf h key := by
    rw [others.variableOf, first.variableOf, lastNode?_cons]
    by_cases hid : h = node.id
    · cases lastNode? rest h with
      | none => simp [hid]
      | some last =>
        -- the node sets no variable that the last node leaves alone
        rw [if_pos hid, Option.bind_some, ← Option.or_assoc, hostVariable?_or]
        rfl
    · simp [hid, Ne.symm hid]

/-- Adding nodes adds their hosts. -/
theorem gathered_addNodes (hadd : addNodes c nodes i = .ok j) : Gathered c nodes i j := by
  induction nodes generalizing i with
  | nil =>
    cases hadd
    exact gathered_nil c _
  | cons node rest ih =>
    unfold addNodes at hadd
    cases hnode : addNode c i node with
    | error e => rw [hnode] at hadd; cases hadd
    | ok next =>
      rw [hnode] at hadd
      exact (ih hadd).cons (extends_addNode hnode)

end Gathered

/-! ## When nodes can be added -/

section Success

variable {c : Config} {node : Node} {nodes : List Node} {rules : List KeyedGroup}

/-- A node can be put into keyed groups if every rule gives names for it. -/
theorem exists_addKeyed_iff (i : Inventory) :
    (∃ j, addKeyed c node rules i = .ok j) ↔
      ∀ rule ∈ rules, ∃ names, keyedNames rule node c.strict = .ok names := by
  induction rules generalizing i with
  | nil => simp [addKeyed]
  | cons rule rest ih =>
    rw [List.forall_mem_cons, addKeyed]
    cases keyedNames rule node c.strict with
    | error e => simp
    | ok names => simp [ih]

/-- A node can be added if every rule gives names for it. -/
theorem exists_addNode_iff (i : Inventory) :
    (∃ j, addNode c i node = .ok j) ↔
      ∀ rule ∈ c.keyedGroups, ∃ names, keyedNames rule node c.strict = .ok names :=
  exists_addKeyed_iff _

/-- Nodes can be added if every rule gives names for each of them. -/
theorem exists_addNodes_iff (i : Inventory) :
    (∃ j, addNodes c nodes i = .ok j) ↔
      ∀ node ∈ nodes, ∀ rule ∈ c.keyedGroups,
        ∃ names, keyedNames rule node c.strict = .ok names := by
  induction nodes generalizing i with
  | nil => simp [addNodes]
  | cons node rest ih =>
    rw [List.forall_mem_cons, ← exists_addNode_iff i, addNodes]
    cases addNode c i node with
    | error e => simp
    | ok next => simp [ih]

/-- The inventory of some nodes can be built if every rule gives names for each of them. -/
theorem exists_build_iff :
    (∃ i, build c nodes = .ok i) ↔
      ∀ node ∈ nodes, ∀ rule ∈ c.keyedGroups,
        ∃ names, keyedNames rule node c.strict = .ok names :=
  exists_addNodes_iff _

end Success

/-! ## Groups without hosts -/

/-- Groups that are added have no hosts of their own. -/
theorem mem_hosts_foldl_addGroup (groups : List String) (i : Inventory) (h g : String) :
    h ∈ (groups.foldl addGroup i).hosts g ↔ h ∈ i.hosts g := by
  induction groups generalizing i with
  | nil => rfl
  | cons group rest ih => rw [List.foldl_cons, ih, mem_hosts_addGroup]

/-- Groups that are added exist. -/
theorem mem_groups_foldl_addGroup (groups : List String) (i : Inventory) (g : String) :
    g ∈ (groups.foldl addGroup i).groups.keys ↔ g ∈ groups ∨ g ∈ i.groups.keys := by
  induction groups generalizing i with
  | nil => simp
  | cons group rest ih =>
    rw [List.foldl_cons, ih, mem_groups_addGroup, List.mem_cons, or_assoc]
    exact or_left_comm

/-- Groups that are added change no variables. -/
theorem hostvars_foldl_addGroup (groups : List String) (i : Inventory) :
    (groups.foldl addGroup i).hostvars = i.hostvars := by
  induction groups generalizing i with
  | nil => rfl
  | cons group rest ih =>
    rw [List.foldl_cons, ih]
    rfl

/-! ## Built inventories -/

/-- Two groups of hosts split a third. -/
def IsPartition (whole left right : List String) : Prop :=
  (∀ h, h ∈ whole ↔ h ∈ left ∨ h ∈ right) ∧ ∀ h ∈ left, h ∉ right

section Built

variable {c : Config} {nodes : List Node} {i : Inventory}

/-- The hosts of a group are those of the nodes that belong into it. -/
theorem mem_hosts_build (hbuild : build c nodes = .ok i) (h g : String) :
    h ∈ i.hosts g ↔ ∃ node ∈ nodes, node.id = h ∧ Belongs c node g := by
  rw [(gathered_addNodes hbuild).hosts, mem_hosts_foldl_addGroup]
  exact or_iff_left List.not_mem_nil

/-- Every node belongs into the group of all hosts. -/
theorem belongs_allGroup (c : Config) (node : Node) : Belongs c node allGroup :=
  .inl rfl

/-- A node belongs into the groups that rules name for it. -/
theorem IsKeyedName.belongs {node : Node} {g : String} (hname : IsKeyedName c node g) :
    Belongs c node g :=
  .inr (.inr (.inr (.inr hname)))

/-- Any group that a node belongs into is built in or named by a rule. -/
theorem Belongs.builtIn_or_keyed {node : Node} {g : String} (belongs : Belongs c node g) :
    g ∈ builtInGroups ∨ IsKeyedName c node g := by
  rcases belongs with rfl | rfl | ⟨rfl, _⟩ | ⟨rfl, _⟩ | hname
  · exact .inl (by decide)
  · left
    cases node.role <;> decide
  · exact .inl (by decide)
  · exact .inl (by decide)
  · exact .inr hname

/-- The groups are the built-in ones and those that rules name. -/
theorem mem_groups_build (hbuild : build c nodes = .ok i) (g : String) :
    g ∈ i.groups.keys ↔ g ∈ builtInGroups ∨ ∃ node ∈ nodes, IsKeyedName c node g := by
  rw [(gathered_addNodes hbuild).groups, mem_groups_foldl_addGroup]
  constructor
  · rintro (⟨node, hnode, hbelongs⟩ | hbuiltIn | hempty)
    · exact hbelongs.builtIn_or_keyed.imp_right fun hname => ⟨node, hnode, hname⟩
    · exact .inl hbuiltIn
    · exact absurd hempty List.not_mem_nil
  · rintro (hbuiltIn | ⟨node, hnode, hname⟩)
    · exact .inr (.inl hbuiltIn)
    · exact .inl ⟨node, hnode, hname.belongs⟩

/-- Two groups that split the nodes split their hosts, if every host has one node. -/
theorem isPartition_hosts (hbuild : build c nodes = .ok i) (hnodup : (nodes.map Node.id).Nodup)
    {left right : String} (side : Node → Bool)
    (hleft : ∀ node ∈ nodes, Belongs c node left ↔ side node = true)
    (hright : ∀ node ∈ nodes, Belongs c node right ↔ side node = false) :
    IsPartition (i.hosts allGroup) (i.hosts left) (i.hosts right) := by
  refine ⟨fun h => ?_, fun h hl hr => ?_⟩
  · rw [mem_hosts_build hbuild, mem_hosts_build hbuild, mem_hosts_build hbuild]
    constructor
    · rintro ⟨node, hnode, hid, _⟩
      cases hside : side node with
      | true => exact .inl ⟨node, hnode, hid, (hleft node hnode).mpr hside⟩
      | false => exact .inr ⟨node, hnode, hid, (hright node hnode).mpr hside⟩
    · rintro (⟨node, hnode, hid, _⟩ | ⟨node, hnode, hid, _⟩) <;>
        exact ⟨node, hnode, hid, belongs_allGroup c node⟩
  · obtain ⟨node, hnode, hid, hin⟩ := (mem_hosts_build hbuild h left).mp hl
    obtain ⟨other, hother, hid', hin'⟩ := (mem_hosts_build hbuild h right).mp hr
    obtain rfl : node = other :=
      List.inj_on_of_nodup_map hnodup hnode hother (hid.trans hid'.symm)
    have htrue := (hleft node hnode).mp hin
    rw [(hright node hnode).mp hin'] at htrue
    cases htrue

/-- Without keyed groups of that name, a built-in group has the nodes that it is meant for. -/
theorem belongs_builtIn_iff {node : Node} {g : String} (hg : g ∈ builtInGroups)
    (hkeyed : ∀ name, IsKeyedName c node name → name ∉ builtInGroups) :
    Belongs c node g ↔ g = allGroup ∨ g = node.role.name ∨
      (g = leaderGroup ∧ node.isLeader = true) ∨ (g = nonleaderGroup ∧ node.isLeader = false) := by
  have hnot : ¬ IsKeyedName c node g := fun hname => hkeyed g hname hg
  simp only [Belongs, hnot, or_false]

/-- What the inventory of some nodes is.  A group has the hosts of the nodes that belong into it;
the groups are the built-in ones and those that rules name; a host has the variables that its last
node gives to it, and no others.  If every host has one node and no rule names a built-in group,
the roles split the hosts, and so do the leaders and the others. -/
theorem build_eq_closed_form (hbuild : build c nodes = .ok i) :
    (∀ h g, h ∈ i.hosts g ↔ ∃ node ∈ nodes, node.id = h ∧ Belongs c node g) ∧
    (∀ g, g ∈ i.groups.keys ↔ g ∈ builtInGroups ∨ ∃ node ∈ nodes, IsKeyedName c node g) ∧
    (∀ h, h ∈ i.hostvars.keys ↔ ∃ node ∈ nodes, node.id = h) ∧
    (∀ h key, i.variableOf h key = (lastNode? nodes h).bind (hostVariable? c · key)) ∧
    ((nodes.map Node.id).Nodup →
      (∀ node ∈ nodes, ∀ g, IsKeyedName c node g → g ∉ builtInGroups) →
      IsPartition (i.hosts allGroup) (i.hosts Role.manager.name) (i.hosts Role.worker.name) ∧
        IsPartition (i.hosts allGroup) (i.hosts leaderGroup) (i.hosts nonleaderGroup)) := by
  have gathered := gathered_addNodes hbuild
  refine ⟨mem_hosts_build hbuild, mem_groups_build hbuild, fun h => ?_, fun h key => ?_,
    fun hnodup hkeyed => ⟨?_, ?_⟩⟩
  · rw [gathered.known, hostvars_foldl_addGroup]
    exact or_iff_left List.not_mem_nil
  · rw [gathered.variableOf, variableOf, hostvars_foldl_addGroup]
    exact Option.or_none
  · refine isPartition_hosts hbuild hnodup (fun node => decide (node.role = .manager))
      (fun node hnode => ?_) fun node hnode => ?_ <;>
    · rw [belongs_builtIn_iff (by decide) (hkeyed node hnode)]
      cases node.role <;> simp [Role.name, allGroup, leaderGroup, nonleaderGroup]
  · refine isPartition_hosts hbuild hnodup Node.isLeader
      (fun node hnode => ?_) fun node hnode => ?_ <;>
    · rw [belongs_builtIn_iff (by decide) (hkeyed node hnode)]
      cases node.role <;> simp [Role.name, allGroup, leaderGroup, nonleaderGroup]

/-- A leader and a worker with a keyed group, and then one more node with the identifier of the
leader, which belongs to the other role and overrides the address. -/
theorem build_of_repeated_identifier :
    ∃ (c : Config) (first second last : Node) (i j : Inventory),
      build c [first, second] = .ok i ∧ second.id ∈ i.hosts "z" ∧
      IsPartition (i.hosts allGroup) (i.hosts leaderGroup) (i.hosts nonleaderGroup) ∧
      build c [first, second, last] = .ok j ∧ last.id = first.id ∧
      first.id ∈ j.hosts Role.manager.name ∧ first.id ∈ j.hosts Role.worker.name ∧
      i.variableOf first.id "ansible_host" = some (.string "10.0.0.9") ∧
      j.variableOf first.id "ansible_host" = some (.string "10.0.0.3") ∧
      j.variableOf first.id "docker_swarm_node_attributes" = none := by
  obtain ⟨rule, hrule⟩ : ∃ rule : KeyedGroup,
      rule = { key := "Zone", lead := "", separator := "" } := ⟨_, rfl⟩
  obtain ⟨first, hfirst⟩ : ∃ node : Node, node =
      { id := "a", role := .manager, address := "10.0.0.1"
        managerStatus := some { leader := true, address := "10.0.0.9:2377" }
        attributes := .object [] } := ⟨_, rfl⟩
  obtain ⟨second, hsecond⟩ : ∃ node : Node, node =
      { id := "b", role := .worker, address := "10.0.0.2", managerStatus := none
        attributes := .object [("Zone", .string "z")] } := ⟨_, rfl⟩
  obtain ⟨last, hlast⟩ : ∃ node : Node, node =
      { id := "a", role := .worker, address := "10.0.0.3", managerStatus := none
        attributes := .object [] } := ⟨_, rfl⟩
  obtain ⟨c, hc⟩ : ∃ c : Config, c =
      { plugin := "docker_swarm", dockerHost := "", verboseOutput := false, tls := false
        validateCerts := false, clientKey := none, caPath := none, clientCert := none
        tlsHostname := none, sslVersion := none, apiVersion := none, timeout := 60
        useSshClient := false, includeHostUri := true, includeHostUriPort := none, strict := false
        keyedGroups := [rule] } := ⟨_, rfl⟩
  have hrules : c.keyedGroups = [rule] := by rw [hc]
  have hfirstNames : keyedNames rule first c.strict = .ok [] := by rw [hrule, hfirst, hc]; rfl
  have hsecondNames : keyedNames rule second c.strict = .ok ["z"] := by
    rw [hrule, hsecond, hc]
    rfl
  have hlastNames : keyedNames rule last c.strict = .ok [] := by rw [hrule, hlast, hc]; rfl
  obtain ⟨i, hbuild⟩ : ∃ i, build c [first, second] = .ok i := by
    rw [exists_build_iff, hrules]
    simp [hfirstNames, hsecondNames]
  obtain ⟨j, hmore⟩ : ∃ j, build c [first, second, last] = .ok j := by
    rw [exists_build_iff, hrules]
    simp [hfirstNames, hsecondNames, hlastNames]
  have hz : "z" ∉ builtInGroups := by decide
  have hkeyed : ∀ node ∈ [first, second], ∀ g, IsKeyedName c node g → g ∉ builtInGroups := by
    simp [IsKeyedName, hrules, hfirstNames, hsecondNames, hz]
  obtain ⟨hhosts, _, _, hvariables, hpartition⟩ := build_eq_closed_form hbuild
  obtain ⟨hhosts', _, _, hvariables', _⟩ := build_eq_closed_form hmore
  have hname : IsKeyedName c second "z" := ⟨rule, by simp [hrules], ["z"], hsecondNames, .head _⟩
  refine ⟨c, first, second, last, i, j, hbuild, ?_, (hpartition ?_ hkeyed).2, hmore, ?_, ?_, ?_, ?_,
    ?_, ?_⟩
  · exact (hhosts _ _).mpr ⟨second, by simp, rfl, hname.belongs⟩
  · rw [hfirst, hsecond]
    decide
  · rw [hfirst, hlast]
  · exact (hhosts' _ _).mpr ⟨first, by simp, rfl, .inr (.inl (by rw [hfirst]))⟩
  · exact (hhosts' _ _).mpr ⟨last, by simp, by rw [hfirst, hlast], .inr (.inl (by rw [hlast]))⟩
  · rw [hvariables, hfirst, hsecond]
    rfl
  · rw [hvariables', hfirst, hsecond, hlast]
    rfl
  · rw [hvariables', hfirst, hsecond, hlast, hc]
    rfl

end Built

end ContainerOps.Swarm
