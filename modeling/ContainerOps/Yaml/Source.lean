import ContainerOps.Decoding.Record
import ContainerOps.Yaml.Reader
import ContainerOps.Yaml.Scalar

/-!
# YAML documents as sources

A record is written in YAML as a mapping, never as a sequence.  Any scalar is a text as it is
written.  Every value knows its place in the document, and references count as the node that they
refer to.

Main results:

- `Value.fields_mapping`: the entries of a complete mapping with texts as keys are its fields.
-/

namespace ContainerOps.Yaml

open ContainerOps.Decoding

/-! ## Values -/

/-- A node at its place in a document. -/
structure Value where
  /-- The node. -/
  node : Outline
  /-- Its place. -/
  place : Place
  /-- The nodes that can be referred to. -/
  targets : List (Nat × Outline)

namespace Value

/-- The root of a document. -/
def root (node : Outline) : Value :=
  { node := node, place := [], targets := node.targets }

/-- A part of a value, one step away. -/
def part (v : Value) (step : Place.Step) (node : Outline) : Value :=
  { v with node := node, place := v.place ++ [step] }

/-- The node that a node refers to, or the node itself. -/
def deref (targets : List (Nat × Outline)) (node : Outline) : Outline :=
  match node with
  | .reference number => (Outline.target? targets number).getD .broken
  | node => node

/-- The node of a value, references followed. -/
def target (v : Value) : Outline :=
  deref v.targets v.node

/-- A fault of a value as a whole. -/
def blame (v : Value) (problem : Problem) : Fault :=
  .data problem v.place

/-- The fault of a value in place of something else. -/
def mismatch (v : Value) (expected : String) : Fault :=
  match v.target with
  | .scalar _ s => v.blame (s.mismatch expected)
  | .sequence _ _ _ => v.blame (.wrongType .sequence expected)
  | .mapping _ _ _ => v.blame (.wrongType .map expected)
  | .broken => .malformed
  | .reference _ => .malformed

/-! ## Scalars -/

/-- The text of a scalar. -/
def text (expected : String) (v : Value) : Except Fault String :=
  match v.target with
  | .scalar _ s => .ok s.text
  | _ => .error (v.mismatch expected)

/-- The truth value of a scalar. -/
def flag (v : Value) : Except Fault Bool :=
  match v.target with
  | .scalar _ s =>
    match if s.admits boolTag then truth? s.text else none with
    | some b => .ok b
    | none => .error (v.mismatch "a boolean")
  | _ => .error (v.mismatch "a boolean")

/-- The natural number of a scalar. -/
def natural (limit : Nat) (expected : String) (v : Value) : Except Fault Nat :=
  match v.target with
  | .scalar _ s =>
    match if s.admits intTag then natural? maxWord s.text else none with
    | some n =>
      if n ≤ limit then .ok n
      else .error (v.blame (.wrongValue (.integer (toString n)) expected))
    | none => .error (v.mismatch expected)
  | _ => .error (v.mismatch expected)

/-- The value, unless it stands for nothing.  A tag that is at odds with the text is a fault of
the value around. -/
def optional (v : Value) : Except Fault (Option Value) :=
  match v.target with
  | .broken => .error .malformed
  | .scalar _ s =>
    match s.isAbsent with
    | .error problem => .error (.data problem v.place.dropLast)
    | .ok absent => .ok (if absent then none else some v)
  | _ => .ok (some v)

/-! ## Sequences and mappings -/

/-- Some parts, with the place where they break off at the end. -/
def parts {α : Type} (found : List (Except Fault α)) (closed : Bool) : List (Except Fault α) :=
  found ++ if closed then [] else [.error .malformed]

/-- The items of a sequence from an index on. -/
def itemsFrom (v : Value) : Nat → List Outline → List (Except Fault Value)
  | _, [] => []
  | i, node :: rest => .ok (v.part (.index i) node) :: itemsFrom v (i + 1) rest

/-- The items of a sequence; nothing written is an empty one. -/
def items (v : Value) : Except Fault (List (Except Fault Value)) :=
  match v.target with
  | .sequence _ items closed => .ok (parts (v.itemsFrom 0 items) closed)
  | .scalar _ s => if s.isBlank then .ok [] else .error (v.mismatch "a sequence")
  | _ => .error (v.mismatch "a sequence")

/-- The step to the value under a key: by the name that stands there, if one does. -/
def keyStep (key : Outline) : Place.Step :=
  match key with
  | .scalar _ s => .field s.text
  | _ => .unnamed

/-- An entry of a mapping as a field. -/
def entry (v : Value) (key node : Outline) : Except Fault (String × Value) :=
  (text "field identifier" { v with node := key }).map fun name =>
    (name, v.part (keyStep key) node)

/-- The fields of a mapping; nothing written is an empty one. -/
def fields (record : String) (v : Value) : Except Fault (Fields Value) :=
  match v.target with
  | .mapping _ entries closed =>
    .ok (.named (parts (entries.map fun e => v.entry e.1 e.2) closed))
  | .scalar _ s =>
    if s.isBlank then .ok (.named []) else .error (v.mismatch ("struct " ++ record))
  | _ => .error (v.mismatch ("struct " ++ record))

/-- Passes over a value without following references. -/
def skip (v : Value) : Except Fault Unit :=
  if v.node.isComplete then .ok () else .error .malformed

/-- The entries of a complete mapping with texts as keys are its fields. -/
theorem fields_mapping (v : Value) (record : String) (number : Option Nat)
    (entries : List (Outline × Outline)) (h : v.node = .mapping number entries true) :
    v.fields record = .ok (.named (entries.map fun e => v.entry e.1 e.2)) := by
  simp [fields, target, deref, h, parts]

end Value

instance : Source Value where
  text := Value.text
  flag := Value.flag
  natural := Value.natural
  optional := Value.optional
  items := Value.items
  fields := Value.fields
  skip := Value.skip
  blame := Value.blame

/-- Reads the value of a whole text: what its root is read as, if nothing follows it. -/
def Document.read {α : Type} (d : Document) (read : Value → Except Fault α) : Except Fault α :=
  match read (.root d.root) with
  | .error fault => .error fault
  | .ok a => if d.ended then .ok a else .error .malformed

end ContainerOps.Yaml
