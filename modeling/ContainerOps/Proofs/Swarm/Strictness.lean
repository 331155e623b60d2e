import ContainerOps.Proofs.Swarm.Building
import ContainerOps.Proofs.Swarm.KeyedNames
import Mathlib.Data.List.ProdSigma

/-!
# Strict rules

The rules are applied to one node after the other, and the first node that a rule fails for ends the
building.  Which rule fails for which node depends on the two alone.  Rules that have to find a
value fail where the others pass over a node, and agree with them everywhere else; so being strict
makes more inventories impossible and changes none.

Main results:

- `keyedNames_lenient`: what not being strict changes for one rule and one node.
- `build_eq_error_iff`: the error of an inventory is the one of the first node and rule that fail.
- `build_lenient_of_ok`: an inventory that strict rules give is given without them as well.
- `strict_only_adds_failures`: how the two ways to build an inventory compare.
-/

namespace ContainerOps.Swarm

variable {c : Config} {rule : KeyedGroup} {node : Node} {nodes : List Node}
  {rules : List KeyedGroup} {strict : Bool} {i j : Inventory} {e : Error}

/-! ## One rule and one node -/

/-- What a rule comes to if it need not find a value. -/
def excused : Except Error (List String) → Except Error (List String)
  | .error (.missingField _ _) => .ok []
  | outcome => outcome

/-- A rule that need not find a value comes to the same as a strict one, but where that misses its
value. -/
theorem keyedNames_lenient (rule : KeyedGroup) (node : Node) :
    keyedNames rule node false = excused (keyedNames rule node true) := by
  obtain ⟨outcome, houtcome⟩ : ∃ outcome, keyedNames rule node true = outcome := ⟨_, rfl⟩
  rw [houtcome, keyedNames_eq_iff]
  cases (keyedNames_eq_iff _).mp houtcome with
  | missing hnone => exact .passed hnone
  | invalid hvalue hnameless => exact .invalid hvalue hnameless
  | named hvalue htexts hnames => exact .named hvalue htexts hnames

/-- A rule that gives names if it has to find a value gives them if it need not. -/
theorem keyedNames_lenient_of_ok {names : List String}
    (hnames : keyedNames rule node true = .ok names) : keyedNames rule node false = .ok names := by
  rw [keyedNames_lenient, hnames]
  rfl

/-- A rule fails because its value is of a kind that gives no names, or if it is strict because
there is no value. -/
theorem eq_of_keyedNames_error (herror : keyedNames rule node strict = .error e) :
    (∃ value, e = .invalidKeyedValue node.id rule.key value) ∨
      strict = true ∧ e = .missingField node.id rule.key := by
  cases (keyedNames_eq_iff _).mp herror with
  | missing hnone => exact .inr ⟨rfl, rfl⟩
  | invalid hvalue hnameless => exact .inl ⟨_, rfl⟩

/-! ## The first failure -/

/-- Why a rule fails for a node, if it does. -/
def fault? (strict : Bool) (pair : Node × KeyedGroup) : Option Error :=
  match keyedNames pair.2 pair.1 strict with
  | .error e => some e
  | .ok _ => none

/-- A rule with a fault fails. -/
theorem fault?_eq_some_iff {pair : Node × KeyedGroup} :
    fault? strict pair = some e ↔ keyedNames pair.2 pair.1 strict = .error e := by
  unfold fault?
  cases keyedNames pair.2 pair.1 strict <;> simp

/-- A rule without a fault gives names. -/
theorem fault?_eq_none_iff {pair : Node × KeyedGroup} :
    fault? strict pair = none ↔ ∃ names, keyedNames pair.2 pair.1 strict = .ok names := by
  unfold fault?
  cases keyedNames pair.2 pair.1 strict <;> simp

/-- Rules fail for a node with the fault of the first that has one. -/
theorem addKeyed_eq_error_iff :
    addKeyed c node rules i = .error e ↔
      (rules.map (Prod.mk node)).findSome? (fault? c.strict) = some e := by
  induction rules generalizing i with
  | nil => simp [addKeyed]
  | cons rule rest ih =>
    rw [addKeyed, List.map_cons, List.findSome?_cons, fault?]
    cases keyedNames rule node c.strict with
    | error e' => simp
    | ok names => exact ih

/-- Nodes cannot be added because of the first fault that a rule has for one of them. -/
theorem addNodes_eq_error_iff :
    addNodes c nodes i = .error e ↔
      (nodes ×ˢ c.keyedGroups).findSome? (fault? c.strict) = some e := by
  induction nodes generalizing i with
  | nil => simp [addNodes]
  | cons node rest ih =>
    rw [addNodes, List.product_cons, List.findSome?_append]
    cases hnode : addNode c i node with
    | error e' => simp [addKeyed_eq_error_iff.mp hnode]
    | ok next =>
      -- without a fault for the first node the others decide
      have hnone : (c.keyedGroups.map (Prod.mk node)).findSome? (fault? c.strict) = none := by
        rw [Option.eq_none_iff_forall_not_mem]
        intro e' he'
        cases hnode.symm.trans (addKeyed_eq_error_iff.mpr he')
      rw [hnone, Option.none_or]
      exact ih

/-- An inventory cannot be built because of the first node and rule that fail together, with the
nodes in order and for each of them the rules in order. -/
theorem build_eq_error_iff :
    build c nodes = .error e ↔
      ∃ before node rule after, nodes ×ˢ c.keyedGroups = before ++ (node, rule) :: after ∧
        (∀ earlier ∈ before, ∃ names, keyedNames earlier.2 earlier.1 c.strict = .ok names) ∧
        keyedNames rule node c.strict = .error e := by
  rw [build, addNodes_eq_error_iff, List.findSome?_eq_some_iff]
  constructor
  · rintro ⟨before, pair, after, hpairs, hfault, hbefore⟩
    exact ⟨before, pair.1, pair.2, after, hpairs,
      fun earlier hmem => fault?_eq_none_iff.mp (hbefore earlier hmem),
      fault?_eq_some_iff.mp hfault⟩
  · rintro ⟨before, node, rule, after, hpairs, hbefore, herror⟩
    exact ⟨before, (node, rule), after, hpairs, fault?_eq_some_iff.mpr herror,
      fun earlier hmem => fault?_eq_none_iff.mpr (hbefore earlier hmem)⟩

/-- An inventory cannot be built exactly if some rule fails for some node, seen alone. -/
theorem exists_build_eq_error_iff :
    (∃ e, build c nodes = .error e) ↔
      ∃ node ∈ nodes, ∃ rule ∈ c.keyedGroups, ∃ e, keyedNames rule node c.strict = .error e := by
  constructor
  · rintro ⟨e, herror⟩
    obtain ⟨before, node, rule, after, hpairs, _, hfault⟩ := build_eq_error_iff.mp herror
    have hmem : (node, rule) ∈ nodes ×ˢ c.keyedGroups := by simp [hpairs]
    obtain ⟨hnode, hrule⟩ := List.pair_mem_product.mp hmem
    exact ⟨node, hnode, rule, hrule, e, hfault⟩
  · rintro ⟨node, hnode, rule, hrule, e, hfault⟩
    cases hbuild : build c nodes with
    | error e' => exact ⟨e', rfl⟩
    | ok i =>
      obtain ⟨names, hnames⟩ := exists_build_iff.mp ⟨i, hbuild⟩ node hnode rule hrule
      cases hnames.symm.trans hfault

/-! ## Both ways to build -/

/-- Strict rules that give names for a node put its host into the same groups as the others. -/
theorem addKeyed_lenient_of_ok (hadd : addKeyed { c with strict := true } node rules i = .ok j) :
    addKeyed { c with strict := false } node rules i = .ok j := by
  induction rules generalizing i with
  | nil => exact hadd
  | cons rule rest ih =>
    rw [addKeyed] at hadd ⊢
    cases hnames : keyedNames rule node true with
    | error e => simp [hnames] at hadd
    | ok names =>
      rw [hnames] at hadd
      rw [keyedNames_lenient_of_ok hnames]
      exact ih hadd

/-- Nodes that can be added by strict rules are added in the same way without them. -/
theorem addNodes_lenient_of_ok (hadd : addNodes { c with strict := true } nodes i = .ok j) :
    addNodes { c with strict := false } nodes i = .ok j := by
  induction nodes generalizing i with
  | nil => exact hadd
  | cons node rest ih =>
    rw [addNodes] at hadd ⊢
    cases hnode : addNode { c with strict := true } i node with
    | error e => simp [hnode] at hadd
    | ok next =>
      have hlenient : addNode { c with strict := false } i node = .ok next :=
        addKeyed_lenient_of_ok hnode
      rw [hnode] at hadd
      rw [hlenient]
      exact ih hadd

/-- An inventory that strict rules give is given without them as well. -/
theorem build_lenient_of_ok (hbuild : build { c with strict := true } nodes = .ok i) :
    build { c with strict := false } nodes = .ok i :=
  addNodes_lenient_of_ok hbuild

/-- Without strict rules no value is missed. -/
theorem invalid_of_build_lenient_error
    (hbuild : build { c with strict := false } nodes = .error e) :
    ∃ node key value, e = .invalidKeyedValue node key value := by
  obtain ⟨_, node, rule, _, _, _, herror⟩ := build_eq_error_iff.mp hbuild
  rcases eq_of_keyedNames_error herror with ⟨value, hvalue⟩ | ⟨hstrict, _⟩
  · exact ⟨node.id, rule.key, value, hvalue⟩
  · cases hstrict

/-- What fails without strict rules fails with them. -/
theorem exists_build_strict_error (hbuild : build { c with strict := false } nodes = .error e) :
    ∃ e', build { c with strict := true } nodes = .error e' := by
  cases hstrict : build { c with strict := true } nodes with
  | error e' => exact ⟨e', rfl⟩
  | ok i => cases hbuild.symm.trans (build_lenient_of_ok hstrict)

/-- If strict rules first fail because of the kind of a value, so do the others. -/
theorem build_lenient_of_invalid {id key value : String}
    (hbuild : build { c with strict := true } nodes = .error (.invalidKeyedValue id key value)) :
    build { c with strict := false } nodes = .error (.invalidKeyedValue id key value) := by
  obtain ⟨before, node, rule, after, hpairs, hbefore, herror⟩ := build_eq_error_iff.mp hbuild
  refine build_eq_error_iff.mpr ⟨before, node, rule, after, hpairs, ?_, ?_⟩
  · intro earlier hmem
    obtain ⟨names, hnames⟩ := hbefore earlier hmem
    exact ⟨names, keyedNames_lenient_of_ok hnames⟩
  · change keyedNames rule node false = _
    rw [keyedNames_lenient, herror]
    rfl

/-- Being strict only adds failures.  What strict rules give, the others give too.  Without strict
rules the only failures are values of the wrong kind, and each is a failure of the strict rules; and
if these meet such a value first, so do the others.  In both ways the error is that of the first
node and rule that fail together, and there is one exactly if some rule fails for some node. -/
theorem strict_only_adds_failures (c : Config) (nodes : List Node) :
    (∀ i, build { c with strict := true } nodes = .ok i →
      build { c with strict := false } nodes = .ok i) ∧
    (∀ e, build { c with strict := false } nodes = .error e →
      (∃ node key value, e = .invalidKeyedValue node key value) ∧
      ∃ e', build { c with strict := true } nodes = .error e') ∧
    (∀ node key value,
      build { c with strict := true } nodes = .error (.invalidKeyedValue node key value) →
      build { c with strict := false } nodes = .error (.invalidKeyedValue node key value)) ∧
    ∀ strict,
      (∀ e, build { c with strict := strict } nodes = .error e ↔
        ∃ before node rule after, nodes ×ˢ c.keyedGroups = before ++ (node, rule) :: after ∧
          (∀ earlier ∈ before, ∃ names, keyedNames earlier.2 earlier.1 strict = .ok names) ∧
          keyedNames rule node strict = .error e) ∧
      ((∃ e, build { c with strict := strict } nodes = .error e) ↔
        ∃ node ∈ nodes, ∃ rule ∈ c.keyedGroups, ∃ e, keyedNames rule node strict = .error e) :=
  ⟨fun _ => build_lenient_of_ok,
    fun _ hbuild => ⟨invalid_of_build_lenient_error hbuild, exists_build_strict_error hbuild⟩,
    fun _ _ _ => build_lenient_of_invalid,
    fun _ => ⟨fun _ => build_eq_error_iff, exists_build_eq_error_iff⟩⟩

/-- A node without the attribute of a rule, one whose attribute is a number and one whose attribute
is a text.  Which of the first two comes first decides the error of the strict rule; the other rule
fails for the second node in either order. -/
theorem build_of_missing_and_invalid :
    ∃ (c : Config) (without number text : Node) (i : Inventory),
      build { c with strict := true } [without, number] =
        .error (.missingField "a" "Spec.Zone") ∧
      build { c with strict := false } [without, number] =
        .error (.invalidKeyedValue "b" "Spec.Zone" "3") ∧
      build { c with strict := true } [number, without] =
        .error (.invalidKeyedValue "b" "Spec.Zone" "3") ∧
      build { c with strict := false } [number, without] =
        .error (.invalidKeyedValue "b" "Spec.Zone" "3") ∧
      build { c with strict := true } [text] = .ok i ∧
      build { c with strict := false } [text] = .ok i := by
  obtain ⟨rule, hrule⟩ : ∃ rule : KeyedGroup,
      rule = { key := "Spec.Zone", lead := "zone", separator := "_" } := ⟨_, rfl⟩
  obtain ⟨without, hwithout⟩ : ∃ node : Node, node =
      { id := "a", role := .manager, address := "10.0.0.1", managerStatus := none
        attributes := .object [("Spec", .object [])] } := ⟨_, rfl⟩
  obtain ⟨number, hnumber⟩ : ∃ node : Node, node =
      { id := "b", role := .worker, address := "10.0.0.2", managerStatus := none
        attributes := .object [("Spec", .object [("Zone", Json.ofNat 3)])] } := ⟨_, rfl⟩
  obtain ⟨text, htext⟩ : ∃ node : Node, node =
      { id := "c", role := .worker, address := "10.0.0.3", managerStatus := none
        attributes := .object [("Spec", .object [("Zone", .string "z")])] } := ⟨_, rfl⟩
  obtain ⟨c, hc⟩ : ∃ c : Config, c =
      { plugin := "docker_swarm", dockerHost := "", verboseOutput := false, tls := false
        validateCerts := false, clientKey := none, caPath := none, clientCert := none
        tlsHostname := none, sslVersion := none, apiVersion := none, timeout := 60
        useSshClient := false, includeHostUri := true, includeHostUriPort := none, strict := false
        keyedGroups := [rule] } := ⟨_, rfl⟩
  have hrules : c.keyedGroups = [rule] := by rw [hc]
  have hmissing : keyedNames rule without true = .error (.missingField "a" "Spec.Zone") := by
    rw [hrule, hwithout]
    rfl
  have hnone : keyedNames rule without false = .ok [] := by
    rw [hrule, hwithout]
    rfl
  have hinvalid (strict : Bool) : keyedNames rule number strict =
      .error (.invalidKeyedValue "b" "Spec.Zone" "3") := by
    rw [hrule, hnumber]
    rfl
  have hnames : keyedNames rule text true = .ok ["zone_z"] := by
    rw [hrule, htext]
    rfl
  obtain ⟨i, hbuild⟩ : ∃ i, build { c with strict := true } [text] = .ok i := by
    rw [exists_build_iff, hrules]
    simp [hnames]
  obtain ⟨_, _, hsame, hfirst⟩ := strict_only_adds_failures c [number, without]
  have hstrict := ((hfirst true).1 _).mpr ⟨[], number, rule, [(without, rule)], by rw [hrules]; rfl,
    by simp, hinvalid true⟩
  refine ⟨c, without, number, text, i, ?_, ?_, hstrict, hsame _ _ _ hstrict, hbuild,
    (strict_only_adds_failures c [text]).1 i hbuild⟩
  · exact (((strict_only_adds_failures c [without, number]).2.2.2 true).1 _).mpr
      ⟨[], without, rule, [(number, rule)], by rw [hrules]; rfl, by simp, hmissing⟩
  · exact (((strict_only_adds_failures c [without, number]).2.2.2 false).1 _).mpr
      ⟨[(without, rule)], number, rule, [], by rw [hrules]; rfl, by simp [hnone], hinvalid false⟩

end ContainerOps.Swarm
