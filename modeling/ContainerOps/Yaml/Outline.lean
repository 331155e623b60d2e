import ContainerOps.Yaml.Token

/-!
# Outlines of YAML documents

An outline is what can be read of a document up to its first error in form, with references still
unresolved.  A consumer that looks for certain fields can then report whichever comes first: a
value of the wrong kind, or the place where the text stops being YAML.
-/

namespace ContainerOps.Yaml

/-- A scalar with its tag. -/
structure Scalar where
  /-- Its text. -/
  text : String
  /-- How it is written. -/
  style : Style
  /-- Its tag. -/
  tag : Option String
deriving DecidableEq

/-- The scalar that stands where nothing is written. -/
def Scalar.empty : Scalar :=
  { text := "", style := .plain, tag := none }

/-- The scalar is written without quotes and has no characters. -/
def Scalar.isBlank (s : Scalar) : Bool :=
  s.style = .plain && s.text.isEmpty

/-- A document as far as it can be read.  A node that has a name carries the number of the name. -/
inductive Outline where
  /-- Nothing readable stands here. -/
  | broken
  /-- A reference to the node with a number. -/
  | reference (number : Nat)
  /-- A scalar. -/
  | scalar (number : Option Nat) (s : Scalar)
  /-- The items of a sequence, which is closed or breaks off after them. -/
  | sequence (number : Option Nat) (items : List Outline) (closed : Bool)
  /-- The entries of a mapping, which is closed or breaks off after them. -/
  | mapping (number : Option Nat) (entries : List (Outline × Outline)) (closed : Bool)

namespace Outline

instance : Inhabited Outline :=
  ⟨broken⟩

/-- The node where nothing is written. -/
def blank : Outline :=
  scalar none .empty

/-! ## Completeness -/

mutual

/-- The outline breaks off nowhere. -/
def isComplete : Outline → Bool
  | .broken => false
  | .reference _ => true
  | .scalar _ _ => true
  | .sequence _ items closed => closed && areComplete items
  | .mapping _ entries closed => closed && entriesComplete entries

/-- No item breaks off. -/
def areComplete : List Outline → Bool
  | [] => true
  | item :: rest => isComplete item && areComplete rest

/-- No entry breaks off. -/
def entriesComplete : List (Outline × Outline) → Bool
  | [] => true
  | (key, value) :: rest => isComplete key && isComplete value && entriesComplete rest

end

/-! ## Named nodes -/

/-- A node under its number, if it has one. -/
def numbered (number : Option Nat) (node : Outline) : List (Nat × Outline) :=
  match number with
  | some n => [(n, node)]
  | none => []

mutual

/-- The nodes that have a number, in the order in which they begin. -/
def targets : Outline → List (Nat × Outline)
  | .broken => []
  | .reference _ => []
  | .scalar number s => numbered number (.scalar number s)
  | .sequence number items closed =>
    numbered number (.sequence number items closed) ++ itemTargets items
  | .mapping number entries closed =>
    numbered number (.mapping number entries closed) ++ entryTargets entries

/-- The numbered nodes of some items. -/
def itemTargets : List Outline → List (Nat × Outline)
  | [] => []
  | item :: rest => targets item ++ itemTargets rest

/-- The numbered nodes of some entries. -/
def entryTargets : List (Outline × Outline) → List (Nat × Outline)
  | [] => []
  | (key, value) :: rest => targets key ++ targets value ++ entryTargets rest

end

/-- The node with a number, the last if there are several. -/
def target? (targets : List (Nat × Outline)) (number : Nat) : Option Outline :=
  targets.reverse.lookup number

end Outline

/-! ## Whole texts -/

/-- A YAML text: its first document, and whether it is complete and the only one. -/
structure Document where
  /-- The root of the document. -/
  root : Outline
  /-- The document is complete and the text ends after it. -/
  ended : Bool

end ContainerOps.Yaml
