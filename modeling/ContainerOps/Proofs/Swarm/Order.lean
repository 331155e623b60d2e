import ContainerOps.Proofs.Swarm.Building
import Mathlib.Data.List.Perm.Basic

/-!
# The order of nodes and rules

Which hosts a group has, and whether an inventory can be built at all, is a question of which nodes
and which rules there are.  The order of the nodes decides only between nodes with one identifier:
the last of them gives the variables.

Main results:

- `Inventory.groups_eq` and `Inventory.hostvars_eq`: inventories with the same hosts and variables
  are equal.
- `lastNode?_eq_of_perm`: without repeated identifiers the last node of a host is the only one.
- `toOption_build_eq`: which rules there are matters, not how often or in what order.
- `build_perm`: an inventory does not depend on the order of nodes and rules.
-/

namespace ContainerOps.Swarm

open Inventory

/-! ## Inventories with the same hosts -/

namespace Inventory

/-- Inventories with the same groups and the same hosts in each have equal tables of groups. -/
theorem groups_eq {i j : Inventory} (hgroups : ∀ g, g ∈ i.groups.keys ↔ g ∈ j.groups.keys)
    (hhosts : ∀ h g, h ∈ i.hosts g ↔ h ∈ j.hosts g) : i.groups = j.groups := by
  refine Table.ext_find? fun g => Table.find?_eq_of_getD_eq .empty (hgroups g) ?_
  refine Table.eq_of_mem_keys_iff fun h => ?_
  rw [← hosts_eq_keys, ← hosts_eq_keys]
  exact hhosts h g

/-- Inventories with the same known hosts and the same variables of each have equal tables of
variables. -/
theorem hostvars_eq {i j : Inventory} (hknown : ∀ h, h ∈ i.hostvars.keys ↔ h ∈ j.hostvars.keys)
    (hvariables : ∀ h key, i.variableOf h key = j.variableOf h key) : i.hostvars = j.hostvars := by
  refine Table.ext_find? fun h => Table.find?_eq_of_getD_eq .empty (hknown h) ?_
  refine Table.ext_find? fun key => ?_
  rw [← variableOf_eq_find?, ← variableOf_eq_find?]
  exact hvariables h key

end Inventory

/-! ## The node of a host -/

section LastNode

variable {nodes others : List Node}

/-- Without repeated identifiers every node is the last one of its host. -/
theorem lastNode?_eq_some_iff (hnodup : (nodes.map Node.id).Nodup) {h : String} {node : Node} :
    lastNode? nodes h = some node ↔ node ∈ nodes ∧ node.id = h := by
  constructor
  · intro hlast
    have hid := List.find?_some hlast
    exact ⟨List.mem_reverse.mp (List.mem_of_find?_eq_some hlast), of_decide_eq_true hid⟩
  · rintro ⟨hnode, hid⟩
    cases hlast : lastNode? nodes h with
    | none =>
      have hnone := List.find?_eq_none.mp hlast node (List.mem_reverse.mpr hnode)
      exact absurd (decide_eq_true hid) hnone
    | some last =>
      have hid' := List.find?_some hlast
      have hmem := List.mem_reverse.mp (List.mem_of_find?_eq_some hlast)
      rw [List.inj_on_of_nodup_map hnodup hmem hnode ((of_decide_eq_true hid').trans hid.symm)]

/-- Without repeated identifiers the last node of a host does not depend on the order. -/
theorem lastNode?_eq_of_perm (hperm : others.Perm nodes) (hnodup : (nodes.map Node.id).Nodup)
    (h : String) : lastNode? others h = lastNode? nodes h := by
  have hnodup' : (others.map Node.id).Nodup := (hperm.map Node.id).nodup_iff.mpr hnodup
  refine Option.ext fun node => ?_
  rw [lastNode?_eq_some_iff hnodup, lastNode?_eq_some_iff hnodup', hperm.mem_iff]

end LastNode

/-! ## Built inventories -/

section Known

variable {c : Config} {nodes : List Node} {i : Inventory}

/-- The known hosts are those of the nodes. -/
theorem mem_hostvars_build (hbuild : build c nodes = .ok i) (h : String) :
    h ∈ i.hostvars.keys ↔ ∃ node ∈ nodes, node.id = h := by
  rw [(gathered_addNodes hbuild).known, hostvars_foldl_addGroup]
  exact or_iff_left List.not_mem_nil

/-- A host has the variables of its last node. -/
theorem variableOf_build (hbuild : build c nodes = .ok i) (h key : String) :
    i.variableOf h key = (lastNode? nodes h).bind (hostVariable? c · key) := by
  rw [(gathered_addNodes hbuild).variableOf, variableOf, hostvars_foldl_addGroup]
  exact Option.or_none

end Known

/-! ## The same nodes and rules in another order -/

section Order

variable {c : Config} {rules : List KeyedGroup} {nodes others : List Node} {i j : Inventory}

/-- Rules name the same groups for a node, in whatever order they come and however often. -/
theorem isKeyedName_iff (hrules : ∀ rule, rule ∈ rules ↔ rule ∈ c.keyedGroups) (node : Node)
    (g : String) :
    IsKeyedName { c with keyedGroups := rules } node g ↔ IsKeyedName c node g := by
  unfold IsKeyedName
  simp only [hrules]

/-- A node belongs into the same groups. -/
theorem belongs_iff (hrules : ∀ rule, rule ∈ rules ↔ rule ∈ c.keyedGroups) (node : Node)
    (g : String) : Belongs { c with keyedGroups := rules } node g ↔ Belongs c node g := by
  unfold Belongs
  rw [isKeyedName_iff hrules]

/-- An inventory can be built from the same nodes by the same rules. -/
theorem exists_build_congr (hrules : ∀ rule, rule ∈ rules ↔ rule ∈ c.keyedGroups)
    (hnodes : ∀ node, node ∈ others ↔ node ∈ nodes) :
    (∃ j, build { c with keyedGroups := rules } others = .ok j) ↔
      ∃ i, build c nodes = .ok i := by
  rw [exists_build_iff, exists_build_iff]
  simp only [hrules, hnodes]

/-- The same nodes and rules make the same groups. -/
theorem groups_build_eq (hrules : ∀ rule, rule ∈ rules ↔ rule ∈ c.keyedGroups)
    (hnodes : ∀ node, node ∈ others ↔ node ∈ nodes)
    (hother : build { c with keyedGroups := rules } others = .ok j)
    (hbuild : build c nodes = .ok i) : j.groups = i.groups := by
  refine groups_eq (fun g => ?_) fun h g => ?_
  · rw [mem_groups_build hother, mem_groups_build hbuild]
    simp only [hnodes, isKeyedName_iff hrules]
  · rw [mem_hosts_build hother, mem_hosts_build hbuild]
    simp only [hnodes, belongs_iff hrules]

/-- If besides every host has the same last node, the whole inventory is the same. -/
theorem build_eq_of_lastNode? (hrules : ∀ rule, rule ∈ rules ↔ rule ∈ c.keyedGroups)
    (hnodes : ∀ node, node ∈ others ↔ node ∈ nodes)
    (hlast : ∀ h, lastNode? others h = lastNode? nodes h)
    (hother : build { c with keyedGroups := rules } others = .ok j)
    (hbuild : build c nodes = .ok i) : j = i := by
  have hgroups : j.groups = i.groups := groups_build_eq hrules hnodes hother hbuild
  have hhostvars : j.hostvars = i.hostvars := by
    refine hostvars_eq (fun h => ?_) fun h key => ?_
    · rw [mem_hostvars_build hother, mem_hostvars_build hbuild]
      simp only [hnodes]
    · -- the variables of a node do not depend on the rules
      rw [variableOf_build hother, variableOf_build hbuild, hlast]
      rfl
  cases i
  cases j
  simp_all

/-- Which rules there are matters, not how often or in what order. -/
theorem toOption_build_eq (hrules : ∀ rule, rule ∈ rules ↔ rule ∈ c.keyedGroups)
    (nodes : List Node) :
    (build { c with keyedGroups := rules } nodes).toOption = (build c nodes).toOption := by
  have hexists : (∃ j, build { c with keyedGroups := rules } nodes = .ok j) ↔
      ∃ i, build c nodes = .ok i := exists_build_congr hrules fun _ => Iff.rfl
  cases hother : build { c with keyedGroups := rules } nodes with
  | ok j =>
    obtain ⟨i, hbuild⟩ := hexists.mp ⟨j, hother⟩
    rw [hbuild, build_eq_of_lastNode? hrules (fun _ => Iff.rfl) (fun _ => rfl) hother hbuild]
  | error e =>
    cases hbuild : build c nodes with
    | error e' => rfl
    | ok i =>
      obtain ⟨j, hok⟩ := hexists.mpr ⟨i, hbuild⟩
      rw [hother] at hok
      cases hok

/-- An inventory does not depend on the order of nodes and rules.  In any order it can be built or
not, with the same groups, and with the same variables too if no identifier comes twice.  A rule
that is there already makes no difference when it is repeated. -/
theorem build_perm (hnodes : others.Perm nodes) (hrules : rules.Perm c.keyedGroups) :
    ((∃ j, build { c with keyedGroups := rules } others = .ok j) ↔
      ∃ i, build c nodes = .ok i) ∧
    (∀ i j, build c nodes = .ok i → build { c with keyedGroups := rules } others = .ok j →
      j.groups = i.groups ∧ ((nodes.map Node.id).Nodup → j = i)) ∧
    ∀ before after rule, c.keyedGroups = before ++ after → rule ∈ c.keyedGroups →
      (build { c with keyedGroups := before ++ rule :: after } nodes).toOption =
        (build c nodes).toOption := by
  have hsameRules : ∀ rule, rule ∈ rules ↔ rule ∈ c.keyedGroups := fun _ => hrules.mem_iff
  have hsameNodes : ∀ node, node ∈ others ↔ node ∈ nodes := fun _ => hnodes.mem_iff
  refine ⟨exists_build_congr hsameRules hsameNodes, fun i j hbuild hother => ⟨?_, fun hnodup => ?_⟩,
    fun before after rule hsplit hmem => ?_⟩
  · exact groups_build_eq hsameRules hsameNodes hother hbuild
  · have hlast := lastNode?_eq_of_perm hnodes hnodup
    exact build_eq_of_lastNode? hsameRules hsameNodes hlast hother hbuild
  · refine toOption_build_eq (fun other => ?_) nodes
    rw [hsplit] at hmem ⊢
    rw [List.mem_append, List.mem_append, List.mem_cons]
    constructor
    · rintro (hbefore | rfl | hafter)
      · exact .inl hbefore
      · exact List.mem_append.mp hmem
      · exact .inr hafter
    · exact .imp_right .inr

/-- Two nodes and two rules in the other order, one node that belongs to no keyed group.  With a
node of the same identifier in the place of the second the groups are still equal, but the variables
are those of the node that comes last. -/
theorem build_perm_of_swapped_nodes :
    ∃ (c : Config) (rules : List KeyedGroup) (first second again : Node) (i j k : Inventory),
      first.id = "a" ∧ second.id = "b" ∧ again.id = "a" ∧ rules = c.keyedGroups.reverse ∧
      build c [first, second] = .ok i ∧
      build { c with keyedGroups := rules } [second, first] = .ok i ∧
      build c [first, again] = .ok j ∧
      build { c with keyedGroups := rules } [again, first] = .ok k ∧
      k.groups = j.groups ∧
      j.variableOf "a" "ansible_host" = some (.string "10.0.0.3") ∧
      k.variableOf "a" "ansible_host" = some (.string "10.0.0.1") := by
  obtain ⟨zone, hzone⟩ : ∃ rule : KeyedGroup,
      rule = { key := "Zone", lead := "", separator := "" } := ⟨_, rfl⟩
  obtain ⟨rack, hrack⟩ : ∃ rule : KeyedGroup,
      rule = { key := "Rack", lead := "rack", separator := "_" } := ⟨_, rfl⟩
  obtain ⟨first, hfirst⟩ : ∃ node : Node, node =
      { id := "a", role := .manager, address := "10.0.0.1", managerStatus := none
        attributes := .object [("Rack", .string "7"), ("Zone", .string "z")] } := ⟨_, rfl⟩
  obtain ⟨second, hsecond⟩ : ∃ node : Node, node =
      { id := "b", role := .worker, address := "10.0.0.2", managerStatus := none
        attributes := .object [] } := ⟨_, rfl⟩
  obtain ⟨again, hagain⟩ : ∃ node : Node, node =
      { id := "a", role := .worker, address := "10.0.0.3", managerStatus := none
        attributes := .object [] } := ⟨_, rfl⟩
  obtain ⟨c, hc⟩ : ∃ c : Config, c =
      { plugin := "docker_swarm", dockerHost := "", verboseOutput := false, tls := false
        validateCerts := false, clientKey := none, caPath := none, clientCert := none
        tlsHostname := none, sslVersion := none, apiVersion := none, timeout := 60
        useSshClient := false, includeHostUri := false, includeHostUriPort := none, strict := false
        keyedGroups := [zone, rack] } := ⟨_, rfl⟩
  have hrules : c.keyedGroups = [zone, rack] := by rw [hc]
  have hnames : ∀ node ∈ [first, second, again], ∀ rule ∈ [zone, rack],
      ∃ names, keyedNames rule node c.strict = .ok names := by
    rw [hfirst, hsecond, hagain, hzone, hrack, hc]
    simp only [List.forall_mem_cons, List.not_mem_nil, false_implies, implies_true, and_true]
    exact ⟨⟨⟨_, rfl⟩, ⟨_, rfl⟩⟩, ⟨⟨_, rfl⟩, ⟨_, rfl⟩⟩, ⟨_, rfl⟩, ⟨_, rfl⟩⟩
  have hbuilds : ∀ nodes ⊆ [first, second, again], ∃ i, build c nodes = .ok i := by
    intro nodes hsubset
    rw [exists_build_iff, hrules]
    exact fun node hnode => hnames node (hsubset hnode)
  obtain ⟨i, hi⟩ := hbuilds [first, second] (by simp)
  obtain ⟨j, hj⟩ := hbuilds [first, again] (by simp)
  have hreverse : c.keyedGroups.reverse.Perm c.keyedGroups := List.reverse_perm _
  obtain ⟨hexists, hsame, _⟩ := build_perm (List.Perm.swap first second []) hreverse
  obtain ⟨hexists', hsame', _⟩ := build_perm (List.Perm.swap first again []) hreverse
  obtain ⟨i', hi'⟩ := hexists.mpr ⟨i, hi⟩
  obtain ⟨k, hk⟩ := hexists'.mpr ⟨j, hj⟩
  have hnodup : ([first, second].map Node.id).Nodup := by
    rw [hfirst, hsecond]
    decide
  obtain rfl : i' = i := (hsame i i' hi hi').2 hnodup
  refine ⟨c, _, first, second, again, i', j, k, ?_, ?_, ?_, rfl, hi, hi', hj, hk,
    (hsame' j k hj hk).1, ?_, ?_⟩
  · rw [hfirst]
  · rw [hsecond]
  · rw [hagain]
  · rw [variableOf_build hj, hfirst, hagain]
    rfl
  · rw [variableOf_build hk, hfirst, hagain]
    rfl

end Order

end ContainerOps.Swarm
