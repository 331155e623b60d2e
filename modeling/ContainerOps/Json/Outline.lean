import ContainerOps.Json.Value

/-!
# Outlines of JSON text

An outline is what can be read of a JSON text up to its first error in form.  A consumer that
looks for certain fields can then report whichever comes first in the text: a value of the wrong
kind, or the place where the text stops being JSON.
-/

namespace ContainerOps.Json

/-- A JSON text as far as it can be read, with the members of objects in the order of the text. -/
inductive Outline where
  /-- Nothing readable stands here. -/
  | broken
  /-- The value without content. -/
  | null
  /-- A truth value. -/
  | bool (b : Bool)
  /-- A number. -/
  | number (n : Number)
  /-- A text. -/
  | string (s : String)
  /-- The items of an array, which is closed or breaks off after them. -/
  | array (items : List Outline) (closed : Bool)
  /-- The members of an object, which is closed or breaks off after them. -/
  | object (members : List (String × Outline)) (closed : Bool)

namespace Outline

mutual

/-- The value, if the outline breaks off nowhere. -/
def value? : Outline → Option Json
  | .broken => none
  | .null => some .null
  | .bool b => some (.bool b)
  | .number n => some (.number n)
  | .string s => some (.string s)
  | .array items closed =>
    if closed then (values? items).map .array else none
  | .object members closed =>
    if closed then (memberValues? members).map .ofMembers else none

/-- The values of some items, if none breaks off. -/
def values? : List Outline → Option (List Json)
  | [] => some []
  | item :: rest =>
    match value? item, values? rest with
    | some v, some vs => some (v :: vs)
    | _, _ => none

/-- The values of some members, if none breaks off. -/
def memberValues? : List (String × Outline) → Option (List (String × Json))
  | [] => some []
  | (key, item) :: rest =>
    match value? item, memberValues? rest with
    | some v, some vs => some ((key, v) :: vs)
    | _, _ => none

end

end Outline

/-! ## Whole texts -/

/-- A JSON text: its first value, and whether nothing but white space follows it. -/
structure Document where
  /-- The first value as far as it can be read. -/
  outline : Outline
  /-- The value is complete and the text ends after it. -/
  ended : Bool

end ContainerOps.Json
