import ContainerOps.Proofs.Decoding.Success
import ContainerOps.Proofs.Json.Value
import ContainerOps.Proofs.Text.Pieces
import ContainerOps.Swarm.Node

/-!
# Attributes of a node

An attribute is what stands at the end of a dotted path into the description of a node.  Each step
of the path goes from an object to the member with the name of the step; names may be empty, but no
name has a dot.  A path that goes on behind a dot goes on from what stands at its first part.

Main results:

- `lookUp_append`: a path in two parts is followed part by part.
- `lookUp_eq_some_iff`: what stands at a path, step by step.
- `ordered_attributes_of_parse`: a description that is read lists the members of objects in order.
-/

namespace ContainerOps

/-! ## Paths -/

/-- A dotted path leads from a value to another, member by member. -/
inductive Json.LeadsTo : Json → String → Json → Prop where
  | last {value result : Json} {key : String} (hkey : '.' ∉ key.toList)
      (hmember : value.member? key = some result) : LeadsTo value key result
  | step {value inner result : Json} {key rest : String} (hkey : '.' ∉ key.toList)
      (hmember : value.member? key = some inner) (hrest : LeadsTo inner rest result) :
      LeadsTo value (key ++ "." ++ rest) result

namespace Swarm.Node

open Decoding

variable {value result : Json}

/-- What stands at a dotted path into a value. -/
def lookUp (value : Json) (path : String) : Option Json :=
  valueAt value (Text.splitOn '.' path)

/-- The first of some steps leads to a member, and the others go on from there. -/
theorem valueAt_cons_eq_some_iff {key : String} {rest : List String} :
    valueAt value (key :: rest) = some result ↔
      ∃ inner, value.member? key = some inner ∧ valueAt inner rest = some result := by
  rw [valueAt]
  cases value.member? key <;> simp

/-- Steps in two parts are taken part by part. -/
theorem valueAt_append (value : Json) (before after : List String) :
    valueAt value (before ++ after) = (valueAt value before).bind (valueAt · after) := by
  induction before generalizing value with
  | nil => rfl
  | cons key rest ih =>
    rw [List.cons_append, valueAt, valueAt]
    cases value.member? key with
    | none => rfl
    | some inner => exact ih inner

/-- A path in two parts is followed part by part. -/
theorem lookUp_append (value : Json) (before after : String) :
    lookUp value (before ++ "." ++ after) = (lookUp value before).bind (lookUp · after) := by
  rw [lookUp, Text.splitOn_append rfl, valueAt_append]
  rfl

/-- A path without a dot is the name of a member. -/
theorem lookUp_of_not_mem {key : String} (hkey : '.' ∉ key.toList) :
    lookUp value key = value.member? key := by
  rw [lookUp, Text.splitOn_of_not_mem hkey, valueAt]
  cases value.member? key <;> rfl

/-- Steps without dots lead along the path that they make together. -/
theorem leadsTo_of_valueAt {keys : List String} (hne : keys ≠ [])
    (hkeys : ∀ key ∈ keys, '.' ∉ key.toList) (hvalue : valueAt value keys = some result) :
    value.LeadsTo (Text.join "." keys) result := by
  induction keys generalizing value with
  | nil => exact absurd rfl hne
  | cons key rest ih =>
    have hkey : '.' ∉ key.toList := hkeys key List.mem_cons_self
    obtain ⟨inner, hmember, hrest⟩ := valueAt_cons_eq_some_iff.mp hvalue
    by_cases hnil : rest = []
    · subst hnil
      cases hrest
      exact .last hkey hmember
    · rw [Text.join_cons "." key hnil]
      exact .step hkey hmember
        (ih hnil (fun k hk => hkeys k (List.mem_cons_of_mem key hk)) hrest)

/-- What stands at a path is what the path leads to. -/
theorem lookUp_eq_some_iff (value : Json) (path : String) (result : Json) :
    lookUp value path = some result ↔ value.LeadsTo path result := by
  constructor
  · intro hvalue
    have hne : Text.splitOn '.' path ≠ [] := by simpa [Text.splitOn] using Text.pieces_ne_nil _ _
    have hkeys : ∀ key ∈ Text.splitOn '.' path, '.' ∉ key.toList := by
      intro key hkey hdot
      obtain ⟨piece, hpiece, rfl⟩ := List.mem_map.mp hkey
      rw [String.toList_ofList] at hdot
      have huncut := (Text.mem_of_mem_pieces hpiece '.' hdot).2
      cases huncut
    have hleads := leadsTo_of_valueAt hne hkeys hvalue
    rwa [Text.join_splitOn rfl] at hleads
  · intro hleads
    induction hleads with
    | last hkey hmember => rw [lookUp_of_not_mem hkey, hmember]
    | step hkey hmember _ ih =>
      rw [lookUp_append, lookUp_of_not_mem hkey, hmember, Option.bind_some, ih]

/-- An attribute is what the path leads to from the description. -/
theorem attributeAt_eq_some_iff (n : Node) (path : String) (result : Json) :
    n.attributeAt path = some result ↔ n.attributes.LeadsTo path result :=
  lookUp_eq_some_iff _ _ _

/-- What stands in an ordered value is ordered. -/
theorem ordered_of_valueAt {keys : List String} (hordered : value.Ordered)
    (hvalue : valueAt value keys = some result) : result.Ordered := by
  induction keys generalizing value with
  | nil =>
    cases hvalue
    exact hordered
  | cons key rest ih =>
    obtain ⟨inner, hmember, hrest⟩ := valueAt_cons_eq_some_iff.mp hvalue
    exact ih (hordered.of_member? hmember) hrest

/-! ## Descriptions -/

/-- A node keeps its description. -/
theorem attributes_of_ofJson {attributes : Json} {node : Node}
    (hread : ofJson attributes = .ok node) : node.attributes = attributes := by
  obtain ⟨missing, settings, hassemble⟩ := exists_of_readRecord hread
  unfold assemble at hassemble
  grind

/-- The nodes that are read keep their descriptions. -/
theorem attributes_mem_of_ofJsons {values : List Json} {nodes : List Node}
    (hread : ofJsons values = .ok nodes) : ∀ node ∈ nodes, node.attributes ∈ values := by
  induction values generalizing nodes with
  | nil =>
    cases hread
    exact List.forall_mem_nil _
  | cons attributes rest ih =>
    rw [ofJsons] at hread
    cases hfirst : ofJson attributes with
    | error fault => simp [hfirst] at hread
    | ok first =>
      rw [hfirst] at hread
      obtain ⟨others, hothers, rfl⟩ := map_eq_ok_iff.mp hread
      rw [List.forall_mem_cons, attributes_of_ofJson hfirst]
      exact ⟨List.mem_cons_self, fun node hnode => List.mem_cons_of_mem _ (ih hothers node hnode)⟩

/-- A description that is read lists the members of objects in order. -/
theorem ordered_attributes_of_parse {stdout : String} {nodes : List Node}
    (hparse : parse stdout = .ok nodes) : ∀ node ∈ nodes, node.attributes.Ordered := by
  intro node hnode
  unfold parse at hparse
  dsimp only at hparse
  split at hparse
  · cases hparse
  · next values hvalues =>
    have hmem := attributes_mem_of_ofJsons (mapError_eq_ok_iff.mp hparse) node hnode
    have hread := Json.Document.read_outline_of_read_ok hvalues
    split at hread
    · cases hread
    · obtain ⟨outline, _, hcomplete⟩ := exists_of_mem_readItems hread _ hmem
      exact Json.Outline.ordered_of_complete hcomplete

end Swarm.Node

end ContainerOps
