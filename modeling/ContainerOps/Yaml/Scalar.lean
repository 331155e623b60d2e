import ContainerOps.Decoding.Fault
import ContainerOps.Number.Shortest
import ContainerOps.Yaml.Outline
import ContainerOps.Yaml.Token.Scalar

/-!
# What scalars mean

A plain scalar without a tag is nothing, a truth value, an integer, another number or a text: the
first of these whose form it has.  Some tags ask for one of them, and with any other tag of the
language the scalar is a text.

Main results:

- `truth?_of_isNothing`: a word for nothing is no truth value.
-/

namespace ContainerOps.Yaml

open ContainerOps.Decoding

/-! ## Words -/

/-- The words that stand for nothing. -/
def isNothing (text : String) : Bool :=
  text ∈ ["null", "Null", "NULL", "~"]

/-- The truth value that a word stands for. -/
def truth? (text : String) : Option Bool :=
  if text ∈ ["true", "True", "TRUE"] then some true
  else if text ∈ ["false", "False", "FALSE"] then some false
  else none

/-- A word for nothing is no truth value. -/
theorem truth?_of_isNothing {text : String} (h : isNothing text = true) : truth? text = none := by
  simp only [isNothing, decide_eq_true_eq, List.mem_cons, List.not_mem_nil, or_false] at h
  rcases h with rfl | rfl | rfl | rfl <;> rfl

/-! ## Integers -/

/-- A decimal digit. -/
def isDigit (c : Char) : Bool :=
  '0' ≤ c && c ≤ '9'

/-- Reads digits of a base behind a number; none if some character is no such digit. -/
def digitsFrom (base : Nat) : Nat → List Char → Option Nat
  | n, [] => some n
  | n, c :: rest =>
    match hexDigit? c with
    | none => none
    | some d => if d < base then digitsFrom base (n * base + d) rest else none

/-- The number that some digits of a base stand for; there has to be one. -/
def numeral? (base : Nat) (cs : List Char) : Option Nat :=
  if cs.isEmpty then none else digitsFrom base 0 cs

/-- The number of a numeral that names its base. -/
def basedNumeral? : List Char → Option Nat
  | '0' :: 'x' :: rest => numeral? 16 rest
  | '0' :: 'o' :: rest => numeral? 8 rest
  | '0' :: 'b' :: rest => numeral? 2 rest
  | _ => none

/-- Several digits of which the first is a zero, with or without a sign.  They are a text. -/
def isPadded (text : String) : Bool :=
  let cs :=
    match text.toList with
    | '-' :: rest => rest
    | '+' :: rest => rest
    | cs => cs
  1 < cs.length && cs.head? == some '0' && cs.all isDigit

/-- The magnitude after a sign, up to a limit. -/
def magnitude? (limit : Nat) (text : String) (cs : List Char) : Option Nat :=
  match (basedNumeral? cs).filter (· ≤ limit) with
  | some n => some n
  | none => if isPadded text then none else (numeral? 10 cs).filter (· ≤ limit)

/-- The natural number that a text stands for, up to a limit. -/
def natural? (limit : Nat) (text : String) : Option Nat :=
  match text.toList with
  | '+' :: rest => magnitude? limit text rest
  | cs => magnitude? limit text cs

/-- The magnitude of the negative number that a text stands for, up to a limit. -/
def negative? (limit : Nat) (text : String) : Option Nat :=
  match text.toList with
  | '-' :: rest => magnitude? limit text rest
  | _ => none

/-- The greatest number of 64 bits without a sign. -/
def maxWord : Nat := 0xffffffffffffffff

/-- The integer that a text stands for, in words. -/
def integerFound? (text : String) : Option Found :=
  match natural? maxWord text with
  | some n => some (.integer (toString n))
  | none =>
    match negative? 0x8000000000000000 text with
    | some n => some (.integer (toString (-(n : Int))))
    | none =>
      match natural? 0xffffffffffffffffffffffffffffffff text with
      | some n => some (.wideInteger (toString n) "u128")
      | none =>
        (negative? 0x80000000000000000000000000000000 text).map fun n =>
          .wideInteger (toString (-(n : Int))) "i128"

/-! ## Other numbers -/

/-- The exponent of a decimal number; zero if there is none. -/
def exponent? : List Char → Option Int
  | [] => some 0
  | mark :: rest =>
    if mark != 'e' && mark != 'E' then none
    else
      match rest with
      | '-' :: ds => (numeral? 10 ds).map fun n => -(n : Int)
      | '+' :: ds => (numeral? 10 ds).map Int.ofNat
      | ds => (numeral? 10 ds).map Int.ofNat

/-- The double that a decimal number without a sign stands for, if it is not too great. -/
def decimal? (negative : Bool) (cs : List Char) : Option Number.Binary64 :=
  let whole := cs.takeWhile isDigit
  let rest := cs.dropWhile isDigit
  let parts : List Char × List Char :=
    match rest with
    | '.' :: rest => (rest.takeWhile isDigit, rest.dropWhile isDigit)
    | rest => ([], rest)
  match numeral? 10 (whole ++ parts.1), exponent? parts.2 with
  | some digits, some power =>
    Number.Binary64.ofDecimal negative digits (power - parts.1.length)
  | _, _ => none

/-- The number that a text stands for, in words. -/
def floatFound? (text : String) : Option Found :=
  if text ∈ [".inf", ".Inf", ".INF", "+.inf", "+.Inf", "+.INF"] then some (.float "inf")
  else if text ∈ ["-.inf", "-.Inf", "-.INF"] then some (.float "-inf")
  else if text ∈ [".nan", ".NaN", ".NAN"] then some (.float "NaN")
  else
    let number :=
      match text.toList with
      | '-' :: rest => decimal? true rest
      | '+' :: rest => decimal? false rest
      | cs => decimal? false cs
    number.map fun d => .float d.positional

/-! ## Tags -/

/-- The tag for a kind of scalar. -/
def tagOf (kind : String) : String :=
  "tag:yaml.org,2002:" ++ kind

/-- The tag of truth values. -/
def boolTag : String := tagOf "bool"

/-- The tag of integers. -/
def intTag : String := tagOf "int"

/-- The tag of other numbers. -/
def floatTag : String := tagOf "float"

/-- The tag of nothing. -/
def nullTag : String := tagOf "null"

namespace Scalar

/-- A scalar that can be read as of a kind: it is plain, or a literal block with the tag of that
kind. -/
def admits (s : Scalar) (tag : String) : Bool :=
  s.style = .plain || (s.style = .literal && s.tag = some tag)

/-- A plain scalar in words, whatever its tag. -/
def plainFound (s : Scalar) : Found :=
  if s.text.isEmpty || isNothing s.text then .unit
  else
    match truth? s.text with
    | some b => .boolean b
    | none =>
      match integerFound? s.text with
      | some found => found
      | none =>
        if isPadded s.text then .string s.text else (floatFound? s.text).getD (.string s.text)

/-- The problem of a scalar whose tag asks for something. -/
def tagged (s : Scalar) (found : Option Found) (kind expected : String) : Problem :=
  match found with
  | some found => .wrongType found expected
  | none => .wrongValue (.string s.text) kind

/-- The problem of a scalar in place of something else. -/
def mismatch (s : Scalar) (expected : String) : Problem :=
  let asPlain := if s.style = .plain then s.plainFound else .string s.text
  match s.tag with
  | none => .wrongType asPlain expected
  | some tag =>
    if tag = boolTag then s.tagged ((truth? s.text).map .boolean) "a boolean" expected
    else if tag = intTag then s.tagged (integerFound? s.text) "an integer" expected
    else if tag = floatTag then s.tagged (floatFound? s.text) "a float" expected
    else if tag = nullTag then
      s.tagged (if isNothing s.text then some .unit else none) "null" expected
    else if tag.startsWith "!" then .wrongType asPlain expected
    else .wrongType (.string s.text) expected

/-- Whether a scalar stands for nothing, where that is allowed. -/
def isAbsent (s : Scalar) : Except Problem Bool :=
  if s.style ≠ .plain then .ok false
  else
    match s.tag with
    | none => .ok (s.text.isEmpty || isNothing s.text)
    | some tag =>
      if tag ≠ nullTag then .ok false
      else if isNothing s.text then .ok true
      else .error (.wrongValue (.string s.text) "null")

end Scalar

end ContainerOps.Yaml
