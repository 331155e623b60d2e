/-!
# Octets

A shell handles text as octets, each being the character with its code, so that any bytes pass
through unchanged.  Names and numerals are made of the characters of ASCII only.
-/

namespace ContainerOps.Shell

/-! ## Octets and bytes -/

/-- Bytes as characters with the same codes. -/
abbrev Octets := List Char

/-- Bytes as octets. -/
def octets (bytes : List UInt8) : Octets :=
  bytes.map fun b => Char.ofNat b.toNat

/-- Octets as bytes. -/
def bytes (cs : Octets) : List UInt8 :=
  cs.map fun c => UInt8.ofNat c.toNat

/-- The octets of a text in ASCII. -/
abbrev octetsOf (text : String) : Octets :=
  text.toList

/-- The octet that ends texts in the world outside. -/
def nul : Char := '\x00'

/-- The back quote. -/
def backQuote : Char := Char.ofNat 96

/-- The text up to its first null octet. -/
def untilNul (cs : Octets) : Octets :=
  cs.takeWhile (· != nul)

/-- The code of an octet as a byte with a sign. -/
def signed (c : Char) : Int :=
  if c.toNat < 128 then c.toNat else (c.toNat : Int) - 256

/-! ## Classes -/

/-- A digit. -/
def isDigit (c : Char) : Bool :=
  '0' ≤ c && c ≤ '9'

/-- An octal digit. -/
def isOctal (c : Char) : Bool :=
  '0' ≤ c && c ≤ '7'

/-- A blank or the end of a line. -/
def isBlank (c : Char) : Bool :=
  c == ' ' || c == '\t' || c == '\n'

/-- White space: a blank, or one of the controls that move to a place on the page. -/
def isSpace (c : Char) : Bool :=
  c == ' ' || ('\t' ≤ c && c ≤ '\r')

/-- A character that can begin a name. -/
def isNameStart (c : Char) : Bool :=
  c.isAlpha || c == '_'

/-- A character of a name. -/
def isNameChar (c : Char) : Bool :=
  c.isAlphanum || c == '_'

/-- A text that is a name. -/
def isName : Octets → Bool
  | [] => false
  | c :: rest => isNameStart c && rest.all isNameChar

/-- The name of a parameter that is neither a name nor a number. -/
def isSpecial (c : Char) : Bool :=
  c ∈ ['#', '?', '$', '!', '-', '*', '@'] || isDigit c

/-! ## Numerals -/

/-- Some digits. -/
def isNumeral (cs : Octets) : Bool :=
  !cs.isEmpty && cs.all isDigit

/-- The number that some digits stand for. -/
def numberOf (digits : Octets) : Nat :=
  digits.foldl (fun n c => n * 10 + (c.toNat - 48)) 0

/-- A number as octets. -/
def numeral (n : Int) : Octets :=
  (toString n).toList

/-- The least number of a word. -/
def minInteger : Int := -0x8000000000000000

/-- The greatest number of a word. -/
def maxInteger : Int := 0x7fffffffffffffff

/-- The value of a digit in bases up to sixteen. -/
def digitValue? (c : Char) : Option Nat :=
  if isDigit c then some (c.toNat - 48)
  else if 'a' ≤ c && c ≤ 'f' then some (c.toNat - 87)
  else if 'A' ≤ c && c ≤ 'F' then some (c.toNat - 55)
  else none

/-- A digit in some base. -/
def isDigitIn (base : Nat) (c : Char) : Bool :=
  match digitValue? c with
  | some d => d < base
  | none => false

/-- The number that some digits in a base stand for. -/
def numberIn (base : Nat) (digits : Octets) : Nat :=
  digits.foldl (fun n c => n * base + (digitValue? c).getD 0) 0

/-- The digits at the front of a text as a number, and the text behind them.  How a text begins
tells its base. -/
def leadingNumber (cs : Octets) : Nat × Octets :=
  let read := fun (base : Nat) (cs : Octets) =>
    (numberIn base (cs.takeWhile (isDigitIn base)), cs.dropWhile (isDigitIn base))
  match cs with
  | '0' :: x :: d :: rest =>
    if (x == 'x' || x == 'X') && isDigitIn 16 d then read 16 (d :: rest) else read 8 cs
  | '0' :: _ => read 8 cs
  | cs => read 10 cs

/-- A numeral with a sign at the front of a text, behind white space. -/
structure Numeral where
  /-- The number without its sign. -/
  magnitude : Nat
  /-- It has a minus sign. -/
  negative : Bool
  /-- The text behind it. -/
  rest : Octets

/-- The number. -/
def Numeral.value (r : Numeral) : Int :=
  if r.negative then -r.magnitude else r.magnitude

/-- The numeral at the front of a text, of base ten or of the base that its beginning tells. -/
def readNumeral? (anyBase : Bool) (text : Octets) : Option Numeral :=
  let body := text.dropWhile isSpace
  let unsigned := fun (negative : Bool) (cs : Octets) =>
    if (cs.head?.map isDigit).getD false then
      let found :=
        if anyBase then leadingNumber cs
        else (numberOf (cs.takeWhile isDigit), cs.dropWhile isDigit)
      some { magnitude := found.1, negative := negative, rest := found.2 : Numeral }
    else none
  match body with
  | '-' :: rest => unsigned true rest
  | '+' :: rest => unsigned false rest
  | rest => unsigned false rest

/-- The number that a text is, white space around it aside, if it fits a word. -/
def integer? (anyBase : Bool) (text : Octets) : Option Int :=
  match readNumeral? anyBase text with
  | some r =>
    if r.rest.all isSpace && minInteger ≤ r.value && r.value ≤ maxInteger then some r.value
    else none
  | none => none

end ContainerOps.Shell
