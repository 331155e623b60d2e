import ContainerOps.Number.Shortest

/-!
# Numbers with a chosen count of digits

A ratio is rounded to so many digits behind the point, once and to the nearest, in a tie to the
even digit.  The point stands at its place, or behind the first digit with a power next to it.

Main results:

- `length_fraction_fixed`: a fraction has as many digits as were chosen.
-/

namespace ContainerOps.Number

/-! ## Digits around a point -/

/-- Digits before a point and behind it. -/
structure PointDigits where
  /-- The digits before the point, at least one. -/
  whole : List Char
  /-- The digits behind it. -/
  fraction : List Char
deriving DecidableEq

/-- A number in some base with a point before so many of its digits. -/
def pointed (base n places : Nat) : PointDigits :=
  let ds := Nat.toDigits base n
  let ds := List.replicate (places + 1 - ds.length) '0' ++ ds
  { whole := ds.take (ds.length - places), fraction := ds.drop (ds.length - places) }

/-- There are as many digits behind the point as there should be. -/
theorem length_fraction_pointed (base n places : Nat) :
    (pointed base n places).fraction.length = places := by
  simp only [pointed, List.length_drop, List.length_append, List.length_replicate]
  omega

/-- The digits without zeros at the end of the fraction. -/
def PointDigits.trimmed (d : PointDigits) : PointDigits :=
  { d with fraction := (d.fraction.reverse.dropWhile (· == '0')).reverse }

/-- The digits with a point between them, which may be left out before nothing. -/
def PointDigits.text (d : PointDigits) (keepsPoint : Bool) : List Char :=
  d.whole ++ (if d.fraction.isEmpty && !keepsPoint then [] else '.' :: d.fraction)

/-! ## Rounding -/

/-- A ratio with so many digits behind the point. -/
def fixed (num den places : Nat) : PointDigits :=
  pointed 10 (roundRatio (num * Nat.pow 10 places) den) places

/-- A fraction has as many digits as were chosen. -/
@[simp]
theorem length_fraction_fixed (num den places : Nat) :
    (fixed num den places).fraction.length = places :=
  length_fraction_pointed 10 _ places

/-- A ratio with one digit before the point and so many behind it, and the power of ten. -/
def scientific (num den places : Nat) : PointDigits × Int :=
  if num = 0 then (pointed 10 0 places, 0)
  else
    let leading := leadingPower num den
    let power := tenTo (places - leading)
    let n := roundRatio (num * power.1) (den * power.2)
    if n = Nat.pow 10 (places + 1) then (pointed 10 (Nat.pow 10 places) places, leading + 1)
    else (pointed 10 n places, leading)

/-- A double in base sixteen, and the power of two: with so many digits behind the point, or with
all that are not zero. -/
def Binary64.hexadecimal (d : Binary64) (places : Option Nat) : PointDigits × Int :=
  let power := if d.isZero then 0 else d.exponent + 52
  match places with
  | none => ((pointed 16 d.significand 13).trimmed, power)
  | some places =>
    (pointed 16 (roundRatio (d.significand * Nat.pow 16 places) leastFull) places, power)

end ContainerOps.Number
