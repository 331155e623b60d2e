/-!
# Double-precision numbers

A finite double is a sign, a significand below `2^53` and a power of two.  Arithmetic is exact on
ratios of natural numbers and then rounded once, to the nearest double and in a tie to the even
significand; a result beyond the largest double has no value.

Main results:

- `isZero_iff`: a number is zero exactly when its significand is, whatever its sign.
-/

namespace ContainerOps.Number

/-- A finite double: the significand times two to the exponent, with a sign. -/
structure Binary64 where
  /-- The sign, which zero has too. -/
  negative : Bool
  /-- Below `2^53`. -/
  significand : Nat
  /-- Between `-1074` and `971`. -/
  exponent : Int
deriving DecidableEq

/-- The quotient of two numbers, rounded to the nearest integer and in a tie to the even one. -/
def roundRatio (num den : Nat) : Nat :=
  let q := num / den
  let twice := 2 * (num % den)
  if twice < den || (twice == den && q % 2 == 0) then q else q + 1

/-- Two to a power that may be negative, as the factor of a numerator and of a denominator. -/
def twoTo (e : Int) : Nat × Nat :=
  if 0 ≤ e then (Nat.pow 2 e.toNat, 1) else (1, Nat.pow 2 (-e).toNat)

/-- Ten to a power that may be negative, as the factor of a numerator and of a denominator. -/
def tenTo (e : Int) : Nat × Nat :=
  if 0 ≤ e then (Nat.pow 10 e.toNat, 1) else (1, Nat.pow 10 (-e).toNat)

namespace Binary64

/-- The least exponent of a double. -/
def minExponent : Int := -1074

/-- The greatest exponent of a double. -/
def maxExponent : Int := 971

/-- The least significand of 53 binary digits. -/
def leastFull : Nat := 0x10000000000000

/-- Zero with a sign. -/
def zero (negative : Bool) : Binary64 :=
  { negative := negative, significand := 0, exponent := minExponent }

/-- The number is zero or minus zero. -/
def isZero (d : Binary64) : Bool :=
  d.significand == 0

/-- A number is zero exactly when its significand is. -/
theorem isZero_iff (d : Binary64) : d.isZero = true ↔ d.significand = 0 := by
  simp [isZero]

/-- The exponent at which a positive ratio has a significand of 53 binary digits. -/
def exponentOf (num den : Nat) : Int :=
  let size : Int := (Nat.log2 num : Int) - (Nat.log2 den : Int)
  let power := twoTo size
  let full := if den * power.1 ≤ num * power.2 then size - 52 else size - 53
  if full < minExponent then minExponent else full

/-- The double nearest to a ratio; none beyond the largest double. -/
def ofRatio (negative : Bool) (num den : Nat) : Option Binary64 :=
  if num = 0 then some (zero negative)
  else
    let e := exponentOf num den
    let power := twoTo e
    let m := roundRatio (num * power.2) (den * power.1)
    let carried := m == 2 * leastFull
    let e := if carried then e + 1 else e
    let m := if carried then leastFull else m
    if maxExponent < e then none
    else some { negative := negative, significand := m, exponent := e }

/-- The magnitude as a ratio. -/
def ratio (d : Binary64) : Nat × Nat :=
  let power := twoTo d.exponent
  (d.significand * power.1, power.2)

/-- The product, rounded. -/
def times (a b : Binary64) : Option Binary64 :=
  let x := a.ratio
  let y := b.ratio
  ofRatio (a.negative != b.negative) (x.1 * y.1) (x.2 * y.2)

/-- The quotient by a number that is not zero, rounded. -/
def dividedBy (a b : Binary64) : Option Binary64 :=
  let x := a.ratio
  let y := b.ratio
  ofRatio (a.negative != b.negative) (x.1 * y.2) (x.2 * y.1)

/-- The double nearest to a power of ten. -/
def tenPow (k : Nat) : Option Binary64 :=
  ofRatio false (Nat.pow 10 k) 1

/-- The greatest power of ten that is a double. -/
def maxTenPow : Nat := 308

/-- Scales a number by a power of ten, in steps of at most `10^308` that are rounded each. -/
def scale (d : Binary64) (exponent : Int) : Nat → Option Binary64
  | 0 => some (zero d.negative)
  | steps + 1 =>
    if d.isZero then some d
    else if exponent.natAbs ≤ maxTenPow then
      match tenPow exponent.natAbs with
      | none => none
      | some p => if 0 ≤ exponent then d.times p else d.dividedBy p
    else if 0 < exponent then none
    else
      match (tenPow maxTenPow).bind d.dividedBy with
      | none => none
      | some smaller => scale smaller (exponent + maxTenPow) steps

/-- A decimal significand below `2^64` and a power of ten, read in two roundings: the significand
to a double, then the scaled value.  Three steps of scaling reach zero from any such significand. -/
def ofScaled (negative : Bool) (significand : Nat) (exponent : Int) : Option Binary64 :=
  match ofRatio negative significand 1 with
  | none => none
  | some d => scale d exponent 4

/-- The number of decimal digits of a natural number. -/
def decimalLength (n : Nat) : Nat :=
  (Nat.toDigits 10 n).length

/-- The double nearest to a decimal number, whatever its size. -/
def ofDecimal (negative : Bool) (digits : Nat) (exponent : Int) : Option Binary64 :=
  let size := (decimalLength digits : Int) + exponent
  if digits = 0 || size < -400 then some (zero negative)
  else if 400 < size then none
  else
    let power := tenTo exponent
    ofRatio negative (digits * power.1) power.2

end Binary64

end ContainerOps.Number
