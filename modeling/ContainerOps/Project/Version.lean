import ContainerOps.Text.Blank

/-!
# Compose versions

Plugin versions come in loose forms such as `v2.24.5`, `2.21.0-desktop.1` and `2.20`.  Up to three
numerals at the front, with points between them, take part in comparisons; what follows is shown
but otherwise ignored.

Main results:

- `eq_iff`: versions are equal exactly when their numbers agree, whatever is shown of them.
- `order_eq_iff`: equality agrees with the order.
- `atLeast_iff`: a version suffices exactly when it does not come before the required one.
-/

namespace ContainerOps.Project

/-! ## Versions -/

/-- A version with the text it was read from. -/
structure Version where
  /-- The first number. -/
  major : Nat
  /-- The second number; zero if there is none. -/
  minor : Nat
  /-- The third number; zero if there is none. -/
  patch : Nat
  /-- The version as it was reported, without blanks around it and letters `v` in front. -/
  shown : String
deriving DecidableEq

namespace Version

/-- The greatest number in a version. -/
def maxNumber : Nat := 0xffffffffffffffff

/-- The three numbers as text. -/
def numbers (v : Version) : String :=
  toString v.major ++ "." ++ toString v.minor ++ "." ++ toString v.patch

/-- The version of three numbers. -/
def of (major minor patch : Nat) : Version :=
  { major := major
    minor := minor
    patch := patch
    shown := toString major ++ "." ++ toString minor ++ "." ++ toString patch }

/-! ## Reading -/

/-- A decimal digit. -/
def isDigit (c : Char) : Bool :=
  '0' ≤ c && c ≤ '9'

/-- The number that some digits stand for. -/
def numberOf (digits : List Char) : Nat :=
  digits.foldl (fun n c => n * 10 + (c.toNat - 48)) 0

/-- The numerals at the front of a text, at most so many, with points between them. -/
def numerals : Nat → List Char → List (List Char)
  | 0, _ => []
  | count + 1, cs =>
    let digits := cs.takeWhile isDigit
    if digits.isEmpty then []
    else
      match cs.dropWhile isDigit with
      | '.' :: rest => digits :: numerals count rest
      | _ => [digits]

/-- The text of a version without blanks around it and letters `v` in front. -/
def strip (raw : String) : List Char :=
  (Text.trim raw.toList).dropWhile (· == 'v')

/-- Reads a version.  There is none without a numeral in front, or if a numeral is too great. -/
def parse? (raw : String) : Option Version :=
  let cs := strip raw
  let found := (numerals 3 cs).map numberOf
  if found.any fun n => maxNumber < n then none
  else
    match found with
    | [] => none
    | major :: rest =>
      some
        { major := major
          minor := rest.getD 0 0
          patch := rest.getD 1 0
          shown := String.ofList cs }

/-! ## Order -/

/-- Versions are equal: by their numbers, while what is shown of them may differ. -/
def eq (a b : Version) : Bool :=
  a.major == b.major && a.minor == b.minor && a.patch == b.patch

/-- The order of versions: by their first numbers that differ. -/
def order (a b : Version) : Ordering :=
  ((compare a.major b.major).then (compare a.minor b.minor)).then (compare a.patch b.patch)

/-- A version comes before another. -/
def before (a b : Version) : Bool :=
  a.order b == .lt

/-- A version has the given numbers or greater ones. -/
def atLeast (v : Version) (major minor patch : Nat) : Bool :=
  !v.before (of major minor patch)

/-- The versions in ascending order; equal ones stay in their order. -/
def sort (versions : List Version) : List Version :=
  versions.mergeSort fun a b => !b.before a

/-- The greatest of some versions, the last of equal ones. -/
def greatest? : List Version → Option Version
  | [] => none
  | v :: rest => some (rest.foldl (fun best w => if w.before best then best else w) v)

/-- Versions are equal exactly when their numbers agree. -/
theorem eq_iff (a b : Version) :
    a.eq b = true ↔ a.major = b.major ∧ a.minor = b.minor ∧ a.patch = b.patch := by
  simp [eq, and_assoc]

/-- The order takes versions as equal exactly when they are. -/
theorem order_eq_iff (a b : Version) : a.order b = .eq ↔ a.eq b = true := by
  rw [eq_iff]
  simp [order, Ordering.then_eq_eq, and_assoc]

/-- A version suffices exactly when it does not come before the required one. -/
theorem atLeast_iff (v : Version) (major minor patch : Nat) :
    v.atLeast major minor patch = true ↔ v.before (of major minor patch) = false := by
  simp [atLeast]

end Version

end ContainerOps.Project
