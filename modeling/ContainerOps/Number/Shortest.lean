import ContainerOps.Number.Binary64

/-!
# The shortest decimal text of a double

A double is written with the fewest decimal digits that read back as it, and of those with the ones
nearest to it.  The digits are found on decimal grids of growing precision: on each grid the two
neighbours of the value are tested against the interval of the reals that round to the value.
-/

namespace ContainerOps.Number

/-! ## Digits -/

/-- Decimal digits as a number, and the power of ten that it is multiplied by. -/
structure Decimal where
  /-- The digits, the last of which is not zero unless all are. -/
  digits : Nat
  /-- The power of ten. -/
  exponent : Int
deriving DecidableEq

/-- The reals that round to a double, over a common denominator. -/
structure Interval where
  /-- The least of them. -/
  low : Nat
  /-- The double itself. -/
  value : Nat
  /-- The greatest of them. -/
  high : Nat
  /-- The denominator of all three. -/
  den : Nat
  /-- The ends belong to the interval. -/
  closed : Bool

/-- The interval of a double, in quarters of its last binary place. -/
def intervalOf (d : Binary64) : Interval :=
  let m := d.significand
  let power := twoTo (d.exponent - 2)
  let narrow := m == Binary64.leastFull && Binary64.minExponent < d.exponent
  { low := (4 * m - (if narrow then 1 else 2)) * power.1
    value := 4 * m * power.1
    high := (4 * m + 2) * power.1
    den := power.2
    closed := m % 2 == 0 }

/-- A decimal number lies in an interval. -/
def Interval.contains (i : Interval) (c : Nat) (unit : Int) : Bool :=
  let power := tenTo unit
  let x := c * power.1 * i.den
  let low := i.low * power.2
  let high := i.high * power.2
  if i.closed then low ≤ x && x ≤ high else low < x && x < high

/-- The power of ten of the leading digit of a positive ratio. -/
def leadingPower (num den : Nat) : Int :=
  let guess := Int.fdiv (((Nat.log2 num : Int) - (Nat.log2 den : Int)) * 30103) 100000
  let reached (k : Int) : Bool :=
    let power := tenTo k
    power.1 * den ≤ num * power.2
  if reached (guess + 2) then guess + 2
  else if reached (guess + 1) then guess + 1
  else if reached guess then guess
  else if reached (guess - 1) then guess - 1
  else guess - 2

/-- The grid point of one precision in the interval, the nearer to the value if there are two. -/
def Interval.hit? (i : Interval) (leading : Int) (precision : Nat) : Option Decimal :=
  let unit := leading - precision + 1
  let power := tenTo unit
  let below := i.value * power.2 / (i.den * power.1)
  let above := below + 1
  match i.contains below unit, i.contains above unit with
  | false, false => none
  | true, false => some { digits := below, exponent := unit }
  | false, true => some { digits := above, exponent := unit }
  | true, true =>
    let x := 2 * i.value * power.2
    let middle := (below + above) * i.den * power.1
    if x < middle || (x == middle && below % 2 == 0) then
      some { digits := below, exponent := unit }
    else some { digits := above, exponent := unit }

/-- Moves the zeros at the end of the digits into the power of ten. -/
def Decimal.stripZeros (d : Decimal) : Nat → Decimal
  | 0 => d
  | fuel + 1 =>
    if d.digits != 0 && d.digits % 10 == 0 then
      stripZeros { digits := d.digits / 10, exponent := d.exponent + 1 } fuel
    else d

/-- The shortest decimal number that reads back as a double. -/
def shortest (d : Binary64) : Decimal :=
  if d.isZero then { digits := 0, exponent := 0 }
  else
    let i := intervalOf d
    let leading := leadingPower i.value i.den
    match (List.range 17).findSome? fun n => i.hit? leading (n + 1) with
    | some found => found.stripZeros 20
    | none => { digits := 0, exponent := 0 }

/-! ## Layouts -/

/-- A run of zeros. -/
def zeros (n : Nat) : String :=
  String.ofList (List.replicate n '0')

/-- The text with a point and at least one digit on either side of it. -/
def Decimal.positional (d : Decimal) : String :=
  let ds := toString d.digits
  let point : Int := ds.length + d.exponent
  if 0 ≤ d.exponent then ds ++ zeros d.exponent.toNat ++ ".0"
  else if 0 < point then
    String.ofList (ds.toList.take point.toNat) ++ "." ++ String.ofList (ds.toList.drop point.toNat)
  else "0." ++ zeros (-point).toNat ++ ds

/-- The text with one digit before the point, no point after a single digit, and a signed power
of ten. -/
def Decimal.scientific (d : Decimal) : String :=
  let ds := toString d.digits
  let power : Int := ds.length + d.exponent - 1
  let mantissa :=
    match ds.toList with
    | [] => ""
    | [c] => String.ofList [c]
    | c :: rest => String.ofList (c :: '.' :: rest)
  mantissa ++ "e" ++ (if power < 0 then "-" else "+") ++ toString power.natAbs

/-- Positional from `10^-5` to below `10^16`, and with a power of ten outside. -/
def Decimal.mixed (d : Decimal) : String :=
  let point : Int := (toString d.digits).length + d.exponent
  if d.digits = 0 || (-5 < point && point ≤ 16) then d.positional else d.scientific

/-- The sign in front of the text of a magnitude. -/
def signed (negative : Bool) (text : String) : String :=
  if negative then "-" ++ text else text

/-- A double in positional form. -/
def Binary64.positional (d : Binary64) : String :=
  signed d.negative (shortest d).positional

/-- A double in mixed form. -/
def Binary64.mixed (d : Binary64) : String :=
  signed d.negative (shortest d).mixed

end ContainerOps.Number
