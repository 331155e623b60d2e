import ContainerOps.Decoding.Record
import ContainerOps.Json.Outline

/-!
# JSON values and outlines as sources

A record is written in JSON as an object or as an array of its fields.  Places are not tracked.
-/

namespace ContainerOps.Json

open ContainerOps.Decoding

/-! ## What a value is found to be -/

/-- A number in words. -/
def Number.found : Number → Found
  | .integer n => .integer (toString n)
  | .double d => .float d.mixed

/-- A value in words. -/
def found : Json → Found
  | .null => .null
  | .bool b => .boolean b
  | .number n => n.found
  | .string s => .string s
  | .array _ => .sequence
  | .object _ => .map

/-- The part of a text at the front of an outline in words; none where nothing is readable. -/
def Outline.found? : Outline → Option Found
  | .broken => none
  | .null => some .null
  | .bool b => some (.boolean b)
  | .number n => some n.found
  | .string s => some (.string s)
  | .array _ _ => some .sequence
  | .object _ _ => some .map

/-! ## Faults -/

/-- A fault of a whole value. -/
def fault (problem : Problem) : Fault :=
  .data problem []

/-- A value of another kind than expected. -/
def mismatch (value : Json) (expected : String) : Fault :=
  fault (.wrongType value.found expected)

/-- A part of another kind than expected, or a part that is not readable. -/
def Outline.mismatch (outline : Outline) (expected : String) : Fault :=
  match outline.found? with
  | none => .malformed
  | some found => fault (.wrongType found expected)

/-! ## Values as sources -/

/-- A natural number up to a limit. -/
def natural (limit : Nat) (expected : String) (value : Json) : Except Fault Nat :=
  match value with
  | .number (.integer n) =>
    if 0 ≤ n && n ≤ limit then .ok n.toNat
    else .error (fault (.wrongValue value.found expected))
  | _ => .error (mismatch value expected)

instance : Source Json where
  text expected
    | .string s => .ok s
    | value => .error (mismatch value expected)
  flag
    | .bool b => .ok b
    | value => .error (mismatch value "a boolean")
  natural := natural
  optional
    | .null => .ok none
    | value => .ok (some value)
  items
    | .array items => .ok (items.map .ok)
    | value => .error (mismatch value "a sequence")
  fields name
    | .object members => .ok (.named (members.map .ok))
    | .array items => .ok (.positional items)
    | value => .error (mismatch value ("struct " ++ name))
  skip _ := .ok ()
  blame _ := fault

/-! ## Outlines -/

/-- The parts of a sequence or map, with the place where it breaks off at the end. -/
def Outline.parts {α : Type} (parts : List α) (closed : Bool) : List (Except Fault α) :=
  parts.map .ok ++ if closed then [] else [.error .malformed]

/-- The complete value of an outline. -/
def Outline.complete (outline : Outline) : Except Fault Json :=
  match outline.value? with
  | some value => .ok value
  | none => .error .malformed

/-- The text of an outline. -/
def Outline.text (outline : Outline) : Except Fault String :=
  match outline with
  | .string s => .ok s
  | outline => .error (outline.mismatch "a string")

/-- The items of an outline. -/
def Outline.items (outline : Outline) : Except Fault (List (Except Fault Outline)) :=
  match outline with
  | .array items closed => .ok (Outline.parts items closed)
  | outline => .error (outline.mismatch "a sequence")

/-- Reads the value of a whole text: what its outline is read as, if nothing follows it. -/
def Document.read {α : Type} (d : Document) (read : Outline → Except Fault α) : Except Fault α :=
  match read d.outline with
  | .error fault => .error fault
  | .ok a => if d.ended then .ok a else .error .malformed

end ContainerOps.Json
