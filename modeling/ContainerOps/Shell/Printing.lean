import ContainerOps.Number.Rounded
import ContainerOps.Shell.Action

/-!
# Printing

Arguments are printed with blanks between them, or by a format.  A format is used again and again
as long as there are arguments; an argument that is missing counts as empty.  Arguments that are no
numbers are reported when they are used.

Main results:

- `length_padded`: a value fills its field.
-/

namespace ContainerOps.Shell.Printing

open ContainerOps.Shell.Action
open ContainerOps.Number

/-! ## Escapes -/

/-- The octet that a letter behind a backslash stands for. -/
def letterEscape? (c : Char) : Option Char :=
  match c with
  | '\\' => some '\\'
  | 'a' => some '\x07'
  | 'b' => some '\x08'
  | 'e' => some '\x1b'
  | 'f' => some '\x0c'
  | 'n' => some '\n'
  | 'r' => some '\r'
  | 't' => some '\t'
  | 'v' => some '\x0b'
  | _ => none

/-- The octet that the text behind a backslash stands for, and the text behind that. -/
def escape (cs : Octets) : Char × Octets :=
  match cs with
  | [] => ('\\', [])
  | c :: rest =>
    match letterEscape? c with
    | some d => (d, rest)
    | none =>
      let digits := (cs.take 3).takeWhile isOctal
      if digits.isEmpty then ('\\', cs)
      else (Char.ofNat (numberIn 8 digits % 256), cs.drop digits.length)

/-- A text with its escapes replaced, behind what was found of it with the last first, and whether
an escape ends all output. -/
def unescapeFrom : Nat → Octets → Octets → Octets × Bool
  | 0, found, _ => (found.reverse, false)
  | _, found, [] => (found.reverse, false)
  | fuel + 1, found, '\\' :: rest =>
    match rest with
    | 'c' :: _ => (found.reverse, true)
    | '0' :: d :: behind =>
      let part := escape (if isOctal d then d :: behind else rest)
      unescapeFrom fuel (part.1 :: found) part.2
    | rest =>
      let part := escape rest
      unescapeFrom fuel (part.1 :: found) part.2
  | fuel + 1, found, c :: rest => unescapeFrom fuel (c :: found) rest

/-- A text with its escapes replaced, and whether an escape ends all output. -/
def unescape (cs : Octets) : Octets × Bool :=
  unescapeFrom (cs.length + 1) [] cs

/-! ## Arguments with blanks -/

/-- Prints texts with blanks between them and another text behind them. -/
def sayAll (last : Octets) : List Octets → Action Unit
  | [] => say last
  | arg :: rest => do
    let text := unescape arg
    say text.1
    if text.2 then return
    else if rest.isEmpty then say last
    else
      say [' ']
      sayAll last rest

/-- Prints the arguments. -/
def echo (args : List Octets) : Action Nat := do
  if args.head? = some ['-', 'n'] then sayAll [] args.tail else sayAll ['\n'] args
  return 0

/-! ## Fields -/

/-- How wide a field is, or how many digits there are. -/
inductive Measure where
  /-- Nothing is said. -/
  | absent
  /-- A number. -/
  | given (n : Nat)
  /-- The number that is the next argument. -/
  | taken
  /-- It makes no sense. -/
  | senseless

/-- The measure that a text is. -/
def Measure.of (text : Octets) : Measure :=
  if text.isEmpty then .absent
  else if text.contains '*' then .senseless
  else .given (numberOf text)

/-- What stands behind a percent sign. -/
structure Conversion where
  /-- Its text from the percent sign on. -/
  text : Octets
  /-- The signs in front. -/
  flags : Octets
  /-- The width of the field. -/
  width : Measure
  /-- The most characters or the least digits. -/
  precision : Measure
  /-- The letter for the kind of value. -/
  letter : Char

/-- The measure at the front of a text, and the text behind it. -/
def readMeasure (cs : Octets) : Measure × Octets :=
  match cs with
  | '*' :: rest => (.taken, rest)
  | cs =>
    let text := cs.takeWhile fun c => c == '*' || isDigit c
    (.of text, cs.drop text.length)

/-- The conversion behind a percent sign, and the text behind it. -/
def conversion? (cs : Octets) : Option (Conversion × Octets) :=
  let flags := cs.takeWhile fun c => c ∈ ['-', '+', ' ', '0', '#']
  let width := readMeasure (cs.drop flags.length)
  let precision : Measure × Octets :=
    match width.2 with
    | '.' :: rest =>
      match readMeasure rest with
      | (.absent, rest) => (.given 0, rest)
      | found => found
    | rest => (.absent, rest)
  match precision.2 with
  | [] => none
  | letter :: rest =>
    some
      ({ text := '%' :: cs.take (cs.length - rest.length)
         flags := flags
         width := width.1
         precision := precision.1
         letter := letter }, rest)

/-- The field of a value. -/
structure Field where
  /-- The signs in front. -/
  flags : Octets
  /-- The width. -/
  width : Nat
  /-- The most characters or the least digits. -/
  precision : Option Nat
  /-- The letter for the kind of value. -/
  letter : Char

namespace Field

/-- Some sign stands in front. -/
def has (f : Field) (flag : Char) : Bool :=
  f.flags.contains flag

/-- A value in its field: at the left, or at the right behind blanks, or with zeros behind the sign
in front of it. -/
def padded (f : Field) (sign body : Octets) (zeros : Bool) : Octets :=
  let count := f.width - (sign.length + body.length)
  if f.has '-' then sign ++ body ++ List.replicate count ' '
  else if zeros && f.has '0' then sign ++ List.replicate count '0' ++ body
  else List.replicate count ' ' ++ sign ++ body

/-- A value fills its field. -/
theorem length_padded (f : Field) (sign body : Octets) (zeros : Bool) :
    (f.padded sign body zeros).length = max f.width (sign.length + body.length) := by
  unfold padded
  dsimp only
  split
  · simp; omega
  · split <;> simp <;> omega

/-- A text in its field. -/
def text (f : Field) (value : Octets) : Octets :=
  f.padded [] (match f.precision with
    | some n => value.take n
    | none => value) false

/-- The sign of a number. -/
def sign (f : Field) (negative : Bool) : Octets :=
  if negative then ['-'] else if f.has '+' then ['+'] else if f.has ' ' then [' '] else []

/-- Digits, capital ones where the letter is. -/
def cased (f : Field) (digits : Octets) : Octets :=
  if f.letter.isUpper then digits.map Char.toUpper else digits

/-- The base of an integer. -/
def base (f : Field) : Nat :=
  if f.letter == 'o' then 8 else if f.letter == 'x' || f.letter == 'X' then 16 else 10

/-- An integer in its field. -/
def integer (f : Field) (n : Int) : Octets :=
  let digits := if n = 0 && f.precision = some 0 then [] else Nat.toDigits f.base n.natAbs
  let digits := List.replicate (f.precision.getD 0 - digits.length) '0' ++ digits
  let marked := f.letter == 'o' && f.has '#' && digits.head? != some '0'
  let digits := if marked then '0' :: digits else digits
  let isSigned := f.letter == 'd' || f.letter == 'i'
  let sign :=
    if isSigned then f.sign (n < 0)
    else if f.base = 16 && f.has '#' && n ≠ 0 then ['0', 'x']
    else []
  f.padded (f.cased sign) (f.cased digits) f.precision.isNone

/-- A power behind a letter, with a sign and at least so many digits. -/
def power (letter : Char) (least : Nat) (n : Int) : Octets :=
  let digits := Nat.toDigits 10 n.natAbs
  letter :: (if n < 0 then '-' else '+') :: List.replicate (least - digits.length) '0' ++ digits

/-- The digits of a double as the letter asks for them, without the sign. -/
def realDigits (f : Field) (d : Binary64) : Octets :=
  let ratio := d.ratio
  let keeps := f.has '#'
  let places := f.precision.getD 6
  match f.letter.toLower with
  | 'f' => (fixed ratio.1 ratio.2 places).text keeps
  | 'e' =>
    let found := scientific ratio.1 ratio.2 places
    found.1.text keeps ++ power 'e' 2 found.2
  | 'g' =>
    let count := max places 1
    let found := scientific ratio.1 ratio.2 (count - 1)
    let trimmed := fun (d : PointDigits) => (if keeps then d else d.trimmed).text keeps
    if -4 ≤ found.2 && found.2 < count then
      trimmed (fixed ratio.1 ratio.2 (count - 1 - found.2).toNat)
    else trimmed found.1 ++ power 'e' 2 found.2
  | _ =>
    let found := d.hexadecimal f.precision
    found.1.text keeps ++ power 'p' 1 found.2

/-- A double in its field. -/
def real (f : Field) (d : Binary64) : Octets :=
  let lead := if f.letter.toLower == 'a' then ['0', 'x'] else []
  f.padded (f.sign d.negative ++ f.cased lead) (f.cased (f.realDigits d)) true

/-- The name of something that is no finite number in its field. -/
def named (f : Field) (negative : Bool) (name : String) : Octets :=
  f.padded (f.sign negative) (f.cased name.toList) false

end Field

/-! ## Arguments as numbers -/

/-- What is wrong with an argument that should be a number. -/
inductive NumberFault where
  | noNumber | partly | outOfRange
deriving DecidableEq

/-- What is wrong with an argument, in words. -/
def NumberFault.message : NumberFault → String
  | .noNumber => "expected numeric value"
  | .partly => "not completely converted"
  | .outOfRange => "Numerical result out of range"

/-- What is wrong with an argument, by what is left of it behind a number and by whether that is
too large. -/
def faultOf (text rest : Octets) (tooLarge : Bool) : Option NumberFault :=
  if !rest.isEmpty then some (if rest.length = text.length then .noNumber else .partly)
  else if tooLarge then some .outOfRange
  else none

/-- The code of the octet behind a quotation mark. -/
def quotedCode? (text : Octets) : Option Nat :=
  match text with
  | q :: rest => if q == '"' || q == '\'' then some ((rest.head?.getD nul).toNat) else none
  | [] => none

/-- The integer that an argument stands for, as a word with or without a sign. -/
def integerOf (isSigned : Bool) (text : Octets) : Int × Option NumberFault :=
  match quotedCode? text, readNumeral? true text with
  | some code, _ => (code, none)
  | none, none => (0, faultOf text text false)
  | none, some r =>
    if isSigned then
      let n := max minInteger (min maxInteger r.value)
      (n, faultOf text r.rest (n ≠ r.value))
    else
      let most : Nat := 0xffffffffffffffff
      let n : Int := if most < r.magnitude then most else r.value % 0x10000000000000000
      (n, faultOf text r.rest (most < r.magnitude))

/-- A number that need not be finite. -/
inductive Real where
  /-- A double. -/
  | finite (d : Binary64)
  /-- A number that is too large. -/
  | infinite (negative : Bool)
  /-- No number at all. -/
  | undefined (negative : Bool)

/-- The ratio nearest to which a double is taken, and whether that is out of range. -/
def realOfRatio (negative : Bool) (num den : Nat) : Real × Bool :=
  match Binary64.ofRatio negative num den with
  | none => (.infinite negative, true)
  | some d =>
    let small := d.significand < Binary64.leastFull
    (.finite d, small && d.ratio.1 * den != num * d.ratio.2)

/-- The exponent behind a letter, as far as there is one, and the text behind it. -/
def readExponent (letter : Char) (cs : Octets) : Int × Octets :=
  match cs with
  | c :: rest =>
    if c.toLower != letter then (0, cs)
    else
      let body :=
        match rest with
        | '+' :: rest => rest
        | '-' :: rest => rest
        | rest => rest
      let digits := body.takeWhile isDigit
      if digits.isEmpty then (0, cs)
      else
        let n : Int := numberOf digits
        (if rest.head? == some '-' then -n else n, body.drop digits.length)
  | [] => (0, cs)

/-- Digits around a point at the front of a text: all of them, how many stand behind the point, and
the text behind them. -/
def readPointed (isDigit : Char → Bool) (cs : Octets) : Octets × Nat × Octets :=
  let whole := cs.takeWhile isDigit
  match cs.drop whole.length with
  | '.' :: rest =>
    let fraction := rest.takeWhile isDigit
    if whole.isEmpty && fraction.isEmpty then ([], 0, cs)
    else (whole ++ fraction, fraction.length, rest.drop fraction.length)
  | rest => (whole, 0, rest)

/-- The most that an exponent matters. -/
def maxPower : Int := 5000

/-- The number at the front of a text without its sign, whether it is out of range, and the text
behind it. -/
def readReal? (negative : Bool) (cs : Octets) : Option ((Real × Bool) × Octets) :=
  let lower := cs.map Char.toLower
  let begins := fun (name : String) => name.toList.isPrefixOf lower
  let decimal :=
    let found := readPointed isDigit cs
    if found.1.isEmpty then none
    else
      let exponent := readExponent 'e' found.2.2
      let digits := found.1.dropWhile (· == '0')
      let power := exponent.1 - found.2.1
      let real :=
        if digits.isEmpty then (Real.finite (.zero negative), false)
        else if maxPower < digits.length + power then (.infinite negative, true)
        else if digits.length + power < -maxPower then (.finite (.zero negative), true)
        else
          let scale := tenTo power
          realOfRatio negative (numberOf digits * scale.1) scale.2
      some (real, exponent.2)
  if begins "infinity" then some ((.infinite negative, false), cs.drop 8)
  else if begins "inf" then some ((.infinite negative, false), cs.drop 3)
  else if begins "nan" then
    let rest := cs.drop 3
    let name := rest.tail.takeWhile isNameChar
    let behind := rest.drop (name.length + 1)
    let closed := rest.head? == some '(' && behind.head? == some ')'
    some ((.undefined negative, false), if closed then behind.tail else rest)
  else if begins "0x" then
    let found := readPointed (isDigitIn 16) (cs.drop 2)
    if found.1.isEmpty then decimal
    else
      let exponent := readExponent 'p' found.2.2
      let digits := found.1.dropWhile (· == '0')
      let power := exponent.1 - 4 * found.2.1
      let real :=
        if digits.isEmpty then (Real.finite (.zero negative), false)
        else if maxPower < 4 * digits.length + power then (.infinite negative, true)
        else if 4 * digits.length + power < -maxPower then (.finite (.zero negative), true)
        else
          let scale := twoTo power
          realOfRatio negative (numberIn 16 digits * scale.1) scale.2
      some (real, exponent.2)
  else decimal

/-- The number that an argument stands for. -/
def realOf (text : Octets) : Real × Option NumberFault :=
  let body := text.dropWhile isSpace
  let found :=
    match body with
    | '-' :: rest => readReal? true rest
    | '+' :: rest => readReal? false rest
    | rest => readReal? false rest
  match quotedCode? text, found with
  | some code, _ => ((realOfRatio false code 1).1, none)
  | none, none => (.finite (.zero false), faultOf text text false)
  | none, some (real, rest) => (real.1, faultOf text rest real.2)

/-! ## Formats -/

/-- What a pass over a format is at. -/
structure Pass where
  /-- The arguments that are left. -/
  args : List Octets
  /-- Some argument was asked for. -/
  took : Bool
  /-- Some argument was not what it should be. -/
  failed : Bool
  /-- An escape has ended all output. -/
  ended : Bool

/-- Takes the next argument, which may be missing. -/
def Pass.take (p : Pass) : Octets × Pass :=
  (p.args.headD [], { p with args := p.args.tail, took := true })

/-- Reports what is wrong with an argument. -/
def report (p : Pass) (arg : Octets) (fault : Option NumberFault) : Action Pass := do
  match fault with
  | none => return p
  | some fault =>
    complain (arg ++ octetsOf ": " ++ octetsOf fault.message)
    return { p with failed := true }

/-- A measure as a number, which may be the next argument. -/
def measured (p : Pass) (m : Measure) : Action (Option Int × Pass) := do
  match m with
  | .given n => return (some n, p)
  | .taken =>
    let (arg, p) := p.take
    let found := integerOf true arg
    let p ← report p arg found.2
    return (some (Int.bmod found.1 0x100000000), p)
  | _ => return (none, p)

/-- The letters of integers with and without a sign, and of other numbers. -/
def integerLetters : List Char := ['d', 'i', 'o', 'u', 'x', 'X']

/-- The letters of numbers with a point. -/
def realLetters : List Char := ['a', 'A', 'e', 'E', 'f', 'F', 'g', 'G']

/-- Prints the next argument in its field. -/
def sayValue (f : Field) (p : Pass) : Action Pass := do
  let (arg, p) := p.take
  if f.letter == 's' then
    say (f.text arg)
    return p
  else if f.letter == 'b' then
    let text := unescape arg
    say (f.text text.1)
    return { p with ended := text.2 }
  else if f.letter == 'c' then
    say (f.padded [] [arg.head?.getD nul] false)
    return p
  else if f.letter ∈ integerLetters then
    let found := integerOf (f.letter == 'd' || f.letter == 'i') arg
    let p ← report p arg found.2
    say (f.integer found.1)
    return p
  else
    let found := realOf arg
    let p ← report p arg found.2
    say (match found.1 with
      | .finite d => f.real d
      | .infinite negative => f.named negative "inf"
      | .undefined negative => f.named negative "nan")
    return p

/-- The greatest width of a field. -/
def maxWidth : Int := 0x7fffffff

/-- Prints by a conversion. -/
def convert (c : Conversion) (p : Pass) : Action Pass := do
  let (width, p) ← measured p c.width
  let (precision, p) ← measured p c.precision
  if !(c.letter ∈ ['s', 'b', 'c'] || c.letter ∈ integerLetters || c.letter ∈ realLetters) then
    raise (c.text ++ octetsOf ": invalid directive")
  else if maxWidth < width.getD 0 || maxWidth < precision.getD 0 then
    raise (octetsOf "xvsnprintf failed")
  else if c.width matches .senseless || c.precision matches .senseless then
    let long := if c.letter ∈ integerLetters then ['l'] else []
    say (c.text.dropLast ++ long ++ [c.letter])
    return p.take.2
  else
    let width := width.getD 0
    sayValue
      { flags := if width < 0 then '-' :: c.flags else c.flags
        width := width.natAbs
        precision := precision.bind fun n => if n < 0 then none else some n.toNat
        letter := c.letter } p

/-- One pass over a format. -/
def passFrom : Nat → Octets → Pass → Action Pass
  | 0, _, p => return p
  | _, [], p => return p
  | fuel + 1, '\\' :: rest, p => do
    let part := escape rest
    say [part.1]
    passFrom fuel part.2 p
  | fuel + 1, '%' :: '%' :: rest, p => do
    say ['%']
    passFrom fuel rest p
  | fuel + 1, '%' :: rest, p => do
    match conversion? rest with
    | none => raise (octetsOf "missing format character")
    | some (c, rest) =>
      let p ← convert c p
      if p.ended then return p
      else passFrom fuel rest p
  | fuel + 1, cs, p => do
    let plain := cs.takeWhile fun c => c != '\\' && c != '%'
    say plain
    passFrom fuel (cs.drop plain.length) p

/-- Passes over a format as long as there are arguments and it takes some. -/
def passes : Nat → Octets → Pass → Action Pass
  | 0, _, p => return p
  | fuel + 1, format, p => do
    let q ← passFrom (format.length + 1) format { p with took := false }
    if q.ended || q.args.isEmpty || !q.took then return q
    else passes fuel format q

/-- Prints the arguments by a format. -/
def printf (format : Octets) (args : List Octets) : Action Nat := do
  let p ← passes (args.length + 1) format
    { args := args, took := false, failed := false, ended := false }
  return if p.failed then 1 else 0

end ContainerOps.Shell.Printing
