import ContainerOps.Yaml.Source
import ContainerOps.Proofs.Decoding.Simulation

/-!
# Values that say the same

Two values are alike if, references followed, both are the same scalar, or both are sequences or
mappings of parts that are alike.  Where the values stand and how their nodes are numbered does not
matter, so a value can be moved to another key or written out in place of a reference.  A node may
refer to one that it is a part of: being alike is the greatest such relation, and nothing is
unfolded.

Main results:

- `Value.respects_alike`: no question to a value tells it from one that is alike.
- `Document.lists_ofNodes`: a complete mapping of scalars to nodes lists its entries.
- `Document.Lists.fields`: the fields of a mapping that a complete document holds are its entries.
- `Document.lists_of_fields`: a root with fields, none of which is at fault, is such a mapping.
-/

namespace ContainerOps.Yaml

open ContainerOps.Decoding

/-! ## Nodes -/

/-- Two nodes have the same form, and their parts are related. -/
inductive Outline.Matches (R : Outline → Outline → Prop) : Outline → Outline → Prop where
  | broken : Matches R .broken .broken
  | reference (m n : Nat) : Matches R (.reference m) (.reference n)
  | scalar (m n : Option Nat) (s : Scalar) : Matches R (.scalar m s) (.scalar n s)
  | sequence (m n : Option Nat) (closed : Bool) {items items' : List Outline}
      (h : List.Forall₂ R items items') :
      Matches R (.sequence m items closed) (.sequence n items' closed)
  | mapping (m n : Option Nat) (closed : Bool) {entries entries' : List (Outline × Outline)}
      (h : List.Forall₂ (fun e e' => R e.1 e'.1 ∧ R e.2 e'.2) entries entries') :
      Matches R (.mapping m entries closed) (.mapping n entries' closed)

/-- Every node matches itself. -/
theorem Outline.Matches.refl (node : Outline) : Matches Eq node node := by
  cases node with
  | broken => exact .broken
  | reference n => exact .reference n n
  | scalar number s => exact .scalar number number s
  | sequence number items closed =>
    exact .sequence number number closed (List.forall₂_same.mpr fun _ _ => rfl)
  | mapping number entries closed =>
    exact .mapping number number closed (List.forall₂_same.mpr fun _ _ => ⟨rfl, rfl⟩)

/-- Related nodes break off alike, and match after references are followed. -/
structure IsMatching (targets targets' : List (Nat × Outline))
    (R : Outline → Outline → Prop) : Prop where
  /-- Either both nodes are complete or neither is. -/
  complete : ∀ node node', R node node' → node.isComplete = node'.isComplete
  /-- What the nodes refer to matches. -/
  target : ∀ node node', R node node' →
    Outline.Matches R (Value.deref targets node) (Value.deref targets' node')

namespace Value

/-! ## Values -/

/-- Two values say the same. -/
def Alike (v w : Value) : Prop :=
  ∃ R, IsMatching v.targets w.targets R ∧ R v.node w.node

/-- A value says the same as the same node at another place. -/
theorem alike_of_node_eq {v w : Value} (htargets : v.targets = w.targets)
    (hnode : v.node = w.node) : v.Alike w := by
  refine ⟨Eq, ⟨?_, ?_⟩, hnode⟩
  · rintro node _ rfl
    rfl
  · rintro node _ rfl
    rw [htargets]
    exact Outline.Matches.refl _

/-- Values that lead to the same scalar say the same. -/
theorem alike_of_scalar {v w : Value} {m n : Option Nat} {s : Scalar}
    (hv : v.target = .scalar m s) (hw : w.target = .scalar n s)
    (hcomplete : v.node.isComplete = w.node.isComplete) : v.Alike w := by
  refine ⟨fun node node' => node = v.node ∧ node' = w.node, ⟨?_, ?_⟩, rfl, rfl⟩
  · rintro _ _ ⟨rfl, rfl⟩
    exact hcomplete
  · rintro _ _ ⟨rfl, rfl⟩
    rw [← target, ← target, hv, hw]
    exact .scalar m n s

section Parts

variable {v w : Value} {R : Outline → Outline → Prop}

/-- Related parts of values are alike, whatever leads to them. -/
theorem alike_part (hR : IsMatching v.targets w.targets R) {node node' : Outline}
    (h : R node node') (step step' : Place.Step) :
    (v.part step node).Alike (w.part step' node') :=
  ⟨R, hR, h⟩

/-- The targets of alike values match. -/
theorem Alike.target (h : v.Alike w) :
    ∃ R, IsMatching v.targets w.targets R ∧ Outline.Matches R v.target w.target := by
  obtain ⟨R, hR, hnode⟩ := h
  exact ⟨R, hR, hR.target _ _ hnode⟩

/-! ## Questions -/

/-- Alike values have the same text. -/
theorem refines_text (expected : String) (h : v.Alike w) :
    Refines Eq (v.text expected) (w.text expected) := by
  obtain ⟨R, hR, htarget⟩ := h.target
  unfold text
  revert htarget
  generalize v.target = a, w.target = b
  rintro (_ | _ | _ | _ | _)
  case scalar => exact refines_ok_ok.mpr rfl
  all_goals exact refines_error _ _

/-- Alike values have the same truth value. -/
theorem refines_flag (h : v.Alike w) : Refines Eq v.flag w.flag := by
  obtain ⟨R, hR, htarget⟩ := h.target
  unfold flag
  revert htarget
  generalize v.target = a, w.target = b
  rintro (_ | _ | ⟨m, n, s⟩ | _ | _)
  case scalar =>
    dsimp only
    split
    · exact refines_ok_ok.mpr rfl
    · exact refines_error _ _
  all_goals exact refines_error _ _

/-- Alike values are the same natural number. -/
theorem refines_natural (limit : Nat) (expected : String) (h : v.Alike w) :
    Refines Eq (v.natural limit expected) (w.natural limit expected) := by
  obtain ⟨R, hR, htarget⟩ := h.target
  unfold natural
  revert htarget
  generalize v.target = a, w.target = b
  rintro (_ | _ | ⟨m, n, s⟩ | _ | _)
  case scalar =>
    dsimp only
    split
    · split
      · exact refines_ok_ok.mpr rfl
      · exact refines_error _ _
    · exact refines_error _ _
  all_goals exact refines_error _ _

/-- Either both of two alike values stand for nothing or neither does. -/
theorem refines_optional (h : v.Alike w) :
    Refines (Option.Rel Alike) v.optional w.optional := by
  obtain ⟨R, hR, htarget⟩ := h.target
  unfold optional
  revert htarget
  generalize v.target = a, w.target = b
  rintro (_ | _ | ⟨m, n, s⟩ | _ | _)
  case broken => exact refines_error _ _
  case scalar =>
    dsimp only
    cases s.isAbsent with
    | error problem => exact refines_error _ _
    | ok absent =>
      cases absent
      · exact refines_ok_ok.mpr (.some h)
      · exact refines_ok_ok.mpr .none
  all_goals exact refines_ok_ok.mpr (.some h)

/-- If one of two alike values can be passed over, so can the other. -/
theorem refines_skip (h : v.Alike w) : Refines Eq v.skip w.skip := by
  obtain ⟨R, hR, hnode⟩ := h
  unfold skip
  rw [hR.complete _ _ hnode]
  split
  · exact refines_ok_ok.mpr rfl
  · exact refines_error _ _

/-- Related parts break off after related parts. -/
theorem forall₂_parts {α β : Type} {S : α → β → Prop} {found : List (Except Fault α)}
    {found' : List (Except Fault β)} (h : List.Forall₂ (Refines S) found found')
    (closed : Bool) : List.Forall₂ (Refines S) (parts found closed) (parts found' closed) := by
  unfold parts
  cases closed
  · exact List.rel_append h (.cons (refines_error _ _) .nil)
  · simpa using h

/-- The items of related sequences are alike. -/
theorem forall₂_itemsFrom (hR : IsMatching v.targets w.targets R) {nodes nodes' : List Outline}
    (h : List.Forall₂ R nodes nodes') (i j : Nat) :
    List.Forall₂ (Refines Alike) (v.itemsFrom i nodes) (w.itemsFrom j nodes') := by
  induction h generalizing i j with
  | nil => exact .nil
  | cons hnode hrest ih =>
    exact .cons (refines_ok_ok.mpr (alike_part hR hnode _ _)) (ih (i + 1) (j + 1))

/-- The items of alike values are alike. -/
theorem refines_items (h : v.Alike w) :
    Refines (List.Forall₂ (Refines Alike)) v.items w.items := by
  obtain ⟨R, hR, htarget⟩ := h.target
  unfold items
  revert htarget
  generalize v.target = a, w.target = b
  rintro (_ | _ | ⟨m, n, s⟩ | ⟨m, n, closed, hitems⟩ | _)
  case scalar =>
    dsimp only
    split
    · exact refines_ok_ok.mpr .nil
    · exact refines_error _ _
  case sequence =>
    exact refines_ok_ok.mpr (forall₂_parts (forall₂_itemsFrom hR hitems 0 0) closed)
  all_goals exact refines_error _ _

/-- Related keys and related values make related fields. -/
theorem refines_entry (hR : IsMatching v.targets w.targets R) {e e' : Outline × Outline}
    (h : R e.1 e'.1 ∧ R e.2 e'.2) :
    Refines (SameKey Alike) (v.entry e.1 e.2) (w.entry e'.1 e'.2) := by
  have hkey : Value.Alike { v with node := e.1 } { w with node := e'.1 } := ⟨R, hR, h.1⟩
  refine (refines_text _ hkey).map ?_
  rintro name _ rfl
  exact ⟨rfl, alike_part hR h.2 _ _⟩

/-- The fields of alike values are alike. -/
theorem refines_fields (record : String) (h : v.Alike w) :
    Refines (Fields.Related Alike) (v.fields record) (w.fields record) := by
  obtain ⟨R, hR, htarget⟩ := h.target
  unfold fields
  revert htarget
  generalize v.target = a, w.target = b
  rintro (_ | _ | ⟨m, n, s⟩ | _ | ⟨m, n, closed, hentries⟩)
  case scalar =>
    dsimp only
    split
    · exact refines_ok_ok.mpr (.named .nil)
    · exact refines_error _ _
  case mapping =>
    refine refines_ok_ok.mpr (.named (forall₂_parts ?_ closed))
    rw [List.forall₂_map_left_iff, List.forall₂_map_right_iff]
    exact hentries.imp fun _ _ he => refines_entry hR he
  all_goals exact refines_error _ _

end Parts

/-- No question to a value tells it from one that is alike. -/
theorem respects_alike : Respects Alike where
  text expected _ _ h := refines_text expected h
  flag _ _ h := refines_flag h
  natural limit expected _ _ h := refines_natural limit expected h
  optional _ _ h := refines_optional h
  items _ _ h := refines_items h
  fields record _ _ h := refines_fields record h
  skip _ _ h := refines_skip h

end Value

/-! ## Documents that are mappings -/

/-- A record is never written as a sequence. -/
theorem Value.exists_named_of_fields {v : Value} {record : String} {found : Fields Value}
    (h : v.fields record = .ok found) : ∃ entries, found = .named entries := by
  unfold Value.fields at h
  split at h
  · cases h
    exact ⟨_, rfl⟩
  · split at h <;> cases h
    exact ⟨_, rfl⟩
  · cases h

namespace Document

/-- The document is complete, and its root is a mapping of texts to values, in their order. -/
structure Lists (d : Document) (entries : List (String × Value)) : Prop where
  /-- Nothing follows the document. -/
  ended : d.ended = true
  /-- The root is a mapping that is closed, and its keys are texts. -/
  root : ∃ number nodes, d.root = .mapping number nodes true ∧
    nodes.map (fun e => (Value.root d.root).entry e.1 e.2) = entries.map .ok

/-- A complete document with a mapping of scalars to nodes. -/
def ofNodes (nodes : List (Scalar × Outline)) : Document :=
  { root := .mapping none (nodes.map fun e => (.scalar none e.1, e.2)) true
    ended := true }

/-- The nodes of such a document as values under the texts of their keys. -/
def entriesOf (nodes : List (Scalar × Outline)) : List (String × Value) :=
  nodes.map fun e => (e.1.text, (Value.root (ofNodes nodes).root).part (.field e.1.text) e.2)

/-- A complete document with a mapping of scalars to nodes lists these. -/
theorem lists_ofNodes (nodes : List (Scalar × Outline)) :
    (ofNodes nodes).Lists (entriesOf nodes) := by
  refine ⟨rfl, none, _, rfl, ?_⟩
  simp only [entriesOf, List.map_map, List.map_inj_left]
  intro e _
  rfl

/-- A document is read as what its root is read as, if it is complete. -/
theorem read_eq_ok_iff {α : Type} {d : Document} {read : Value → Except Fault α} {a : α} :
    d.read read = .ok a ↔ read (.root d.root) = .ok a ∧ d.ended = true := by
  unfold Document.read
  cases read (.root d.root) with
  | error fault => simp
  | ok found =>
    dsimp only
    split <;> simp_all

variable {d : Document} {entries : List (String × Value)}

/-- The fields of a mapping that a complete document holds are its entries. -/
theorem Lists.fields (h : d.Lists entries) (record : String) :
    (Value.root d.root).fields record = .ok (.named (entries.map .ok)) := by
  obtain ⟨number, nodes, hroot, hentries⟩ := h.root
  rw [Value.fields_mapping _ record number nodes hroot, hentries]

/-- Fields that are all read do not break off. -/
theorem closed_of_parts_eq {α : Type} {found : List (Except Fault α)} {closed : Bool}
    {read : List α} (h : Value.parts found closed = read.map .ok) : closed = true := by
  cases closed with
  | true => rfl
  | false =>
    have hfault : .error .malformed ∈ (read.map .ok : List (Except Fault α)) := by
      simp [← h, Value.parts]
    simp at hfault

/-- A root with some fields, none of which is at fault, is a mapping of texts to values. -/
theorem lists_of_fields (hended : d.ended = true) {record : String}
    (hsome : entries ≠ [])
    (hfields : (Value.root d.root).fields record = .ok (.named (entries.map .ok))) :
    d.Lists entries := by
  refine ⟨hended, ?_⟩
  unfold Value.fields Value.target at hfields
  cases hroot : d.root with
  | mapping number nodes closed =>
    simp only [hroot, Value.root, Value.deref, Except.ok.injEq, Fields.named.injEq] at hfields
    obtain rfl := closed_of_parts_eq hfields
    exact ⟨number, nodes, rfl, by simpa [Value.parts, Value.root] using hfields⟩
  | scalar number s =>
    simp only [hroot, Value.root, Value.deref] at hfields
    split at hfields
    · simp only [Except.ok.injEq, Fields.named.injEq, List.nil_eq, List.map_eq_nil_iff] at hfields
      exact absurd hfields hsome
    · cases hfields
  | _ =>
    simp [hroot, Value.root, Value.deref, Outline.targets, Outline.target?] at hfields

end Document

end ContainerOps.Yaml
