import ContainerOps.Text.Blank
import ContainerOps.Text.Quoted

/-!
# Why a document is not what was asked for

A document can be malformed, or it can be well formed and of the wrong shape.  In the second case
the fault names what was found, what was expected and, where the format keeps track of it, the
place.
-/

namespace ContainerOps.Decoding

/-! ## Problems -/

/-- What was found in place of something else.  Numbers are given by their text. -/
inductive Found where
  /-- The value without content of a format that names it. -/
  | null
  /-- The value without content of a format that leaves it out. -/
  | unit
  /-- A truth value. -/
  | boolean (b : Bool)
  /-- An integer of 64 bits. -/
  | integer (text : String)
  /-- An integer that needs more than 64 bits, with the name of its width. -/
  | wideInteger (text : String) (width : String)
  /-- A number that is not an integer. -/
  | float (text : String)
  /-- A text. -/
  | string (s : String)
  /-- A list of values. -/
  | sequence
  /-- Values under keys. -/
  | map

/-- What was found, in words. -/
def Found.describe : Found → String
  | .null => "null"
  | .unit => "unit value"
  | .boolean b => "boolean `" ++ (if b then "true" else "false") ++ "`"
  | .integer text => "integer `" ++ text ++ "`"
  | .wideInteger text width => "integer `" ++ text ++ "` as " ++ width
  | .float text => "floating point `" ++ text ++ "`"
  | .string s => "string " ++ Text.quoted s
  | .sequence => "sequence"
  | .map => "map"

/-- A wrong shape. -/
inductive Problem where
  /-- A value of another kind. -/
  | wrongType (found : Found) (expected : String)
  /-- A value of the right kind that is not allowed. -/
  | wrongValue (found : Found) (expected : String)
  /-- A list of the wrong length. -/
  | wrongLength (length : Nat) (expected : String)
  /-- A field that must be there is not. -/
  | missingField (field : String)
  /-- A field is there twice. -/
  | duplicateField (field : String)
  /-- A name that is none of the choices. -/
  | unknownVariant (name : String) (choices : List String)

/-- A wrong shape, in words. -/
def Problem.message : Problem → String
  | .wrongType found expected => "invalid type: " ++ found.describe ++ ", expected " ++ expected
  | .wrongValue found expected => "invalid value: " ++ found.describe ++ ", expected " ++ expected
  | .wrongLength length expected =>
    "invalid length " ++ toString length ++ ", expected " ++ expected
  | .missingField field => "missing field `" ++ field ++ "`"
  | .duplicateField field => "duplicate field `" ++ field ++ "`"
  | .unknownVariant name choices =>
    "unknown variant `" ++ name ++ "`, expected " ++
      Text.join " or " (choices.map fun choice => "`" ++ choice ++ "`")

/-! ## Places -/

/-- One step from a value to a part of it. -/
inductive Place.Step where
  /-- To the value under a key. -/
  | field (name : String)
  /-- To an item, counted from zero. -/
  | index (i : Nat)
  /-- To the value under a key that is no text. -/
  | unnamed

/-- The steps from the whole document to a part of it. -/
abbrev Place := List Place.Step

/-- The text of the steps after a text for the steps before them. -/
def Place.describeFrom (before : String) : Place → String
  | [] => before
  | .field name :: rest =>
    describeFrom (if before.isEmpty then name else before ++ "." ++ name) rest
  | .index i :: rest => describeFrom (before ++ "[" ++ toString i ++ "]") rest
  | .unnamed :: rest => describeFrom (if before.isEmpty then "?" else before ++ ".?") rest

/-- A place in words; empty for the whole document. -/
def Place.describe (place : Place) : String :=
  place.describeFrom ""

/-! ## Faults -/

/-- Why a document could not be read. -/
inductive Fault where
  /-- The text does not have the form of its format. -/
  | malformed
  /-- The text has the form, but not the shape that was asked for, at a place. -/
  | data (problem : Problem) (place : Place)

/-- The wording of a fault in shape; a fault in form has none. -/
def Fault.message? : Fault → Option String
  | .malformed => none
  | .data problem [] => some problem.message
  | .data problem place => some (place.describe ++ ": " ++ problem.message)

end ContainerOps.Decoding
