import ContainerOps.Number.Shortest
import ContainerOps.Table

/-!
# JSON values

A JSON value with its numbers kept apart: integers of 64 bits, with or without a sign, stay
integers, and every other number is a double.  The members of an object are listed in ascending
order of their keys.

Main results:

- `Number.isZero_iff`: which numbers are zero.
-/

namespace ContainerOps

/-! ## Numbers -/

/-- A JSON number. -/
inductive Json.Number where
  /-- An integer between `-2^63` and `2^64 - 1`. -/
  | integer (n : Int)
  /-- Any other number. -/
  | double (d : Number.Binary64)
deriving DecidableEq

/-! ## Values -/

/-- A JSON value. -/
inductive Json where
  /-- The value without content. -/
  | null
  /-- A truth value. -/
  | bool (b : Bool)
  /-- A number. -/
  | number (n : Json.Number)
  /-- A text. -/
  | string (s : String)
  /-- A list of values. -/
  | array (items : List Json)
  /-- Values under keys. -/
  | object (members : List (String × Json))

namespace Json

instance : Inhabited Json :=
  ⟨null⟩

/-- The object with the members of a table. -/
def ofTable (t : Table Json) : Json :=
  object t.entries

/-- The object with given members, in any order; of two with one key the later counts. -/
def ofMembers (members : List (String × Json)) : Json :=
  object (Entries.sorted members)

/-- An integer as a value. -/
def ofInt (n : Int) : Json :=
  number (.integer n)

/-- A natural number as a value. -/
def ofNat (n : Nat) : Json :=
  number (.integer n)

/-- The value under a key, in an object. -/
def member? (key : String) : Json → Option Json
  | object members => Entries.find? key members
  | _ => none

/-! ## Zero and number text -/

/-- A number equal to zero, minus zero included. -/
def Number.isZero : Number → Bool
  | .integer n => n == 0
  | .double d => d.isZero

/-- A number is zero when it is the integer zero or a double with significand zero. -/
theorem Number.isZero_iff (n : Number) :
    n.isZero = true ↔ n = .integer 0 ∨ ∃ d, n = .double d ∧ d.significand = 0 := by
  cases n with
  | integer k => simp [isZero]
  | double d => simp [isZero, Number.Binary64.isZero]

/-- The text of a number: an integer in decimal digits, a double in mixed form. -/
def Number.text : Number → String
  | .integer n => toString n
  | .double d => d.mixed

end Json

end ContainerOps
