import ContainerOps.Json.Reader
import ContainerOps.Proofs.Text.Words

/-!
# Numbers, strings and words in front of more text

What the reader takes from the front of a text does not depend on the text behind it.  A number is
the exception: it goes on as long as digits, a point or an exponent mark follow, so the text behind
it has to begin with something else.

Main results:

- `number_append`: a number is read so before any text that cannot belong to it.
- `string_append`: a string is read so before any text.
- `skipSpace_append`: white space is passed over so before any text, unless nothing else is there.
-/

namespace ContainerOps.Json.Reader

open ContainerOps.Text

variable {cs rest tail : List Char}

/-! ## Steps and room -/

/-- A bound above one more step is one more than a bound above the steps. -/
theorem exists_bound_of_succ_le {n bound : Nat} (h : n + 1 ≤ bound) :
    ∃ k, bound = k + 1 ∧ n ≤ k :=
  ⟨bound - 1, by omega, by omega⟩

/-! ## White space -/

/-- A text of white space only. -/
def IsSpaceText (cs : List Char) : Prop :=
  ∀ c ∈ cs, isSpace c = true

/-- White space in front of a text is passed over. -/
theorem skipSpace_append_of_space {gap : List Char} (hgap : IsSpaceText gap) (cs : List Char) :
    skipSpace (gap ++ cs) = skipSpace cs :=
  List.dropWhile_append_of_pos hgap

/-- Nothing but white space is passed over as a whole. -/
theorem skipSpace_eq_nil_iff : skipSpace cs = [] ↔ IsSpaceText cs :=
  List.dropWhile_eq_nil_iff

/-- A text that begins with something else is not shortened. -/
theorem skipSpace_cons_of_not_space {c : Char} (hc : isSpace c = false) (cs : List Char) :
    skipSpace (c :: cs) = c :: cs := by
  rw [skipSpace, List.dropWhile_cons, if_neg (by simp [hc])]

/-- White space is passed over in front of what it ends at, whatever follows. -/
theorem skipSpace_append (hne : skipSpace cs ≠ []) (tail : List Char) :
    skipSpace (cs ++ tail) = skipSpace cs ++ tail := by
  rw [skipSpace, List.dropWhile_append, if_neg (by simpa [skipSpace] using hne)]
  rfl

/-- The first character after white space stays the first, whatever follows. -/
theorem skipSpace_append_of_eq_cons {c : Char} (h : skipSpace cs = c :: rest) (tail : List Char) :
    skipSpace (cs ++ tail) = c :: (rest ++ tail) := by
  rw [skipSpace_append (by simp [h]), h, List.cons_append]

/-! ## Numbers -/

/-- A text that cannot belong to a number in front of it. -/
def Delimited (tail : List Char) : Prop :=
  ∀ c ∈ tail.head?, digit? c = none ∧ c ≠ '.' ∧ c ≠ 'e' ∧ c ≠ 'E'

/-- White space cannot belong to a number. -/
theorem delimited_of_isSpace {c : Char} (hc : isSpace c = true) (cs : List Char) :
    Delimited (c :: cs) := by
  intro d hd
  obtain rfl : c = d := Option.some.inj hd
  simp only [isSpace, Bool.or_eq_true, beq_iff_eq] at hc
  rcases hc with ((rfl | rfl) | rfl) | rfl <;> decide

/-- The digits at the front of a text end where the text behind it begins, if not before. -/
theorem digits_append (htail : Delimited tail) (cs : List Char) :
    digits (cs ++ tail) = ((digits cs).1, (digits cs).2 ++ tail) := by
  induction cs with
  | nil =>
    cases tail with
    | nil => rfl
    | cons c tail => simp [digits, (htail c rfl).1]
  | cons c cs ih =>
    cases hc : digit? c with
    | none => simp [digits, hc]
    | some d => simp [digits, hc, ih]

/-- The sign of an exponent, and the text after it. -/
def exponentSign : List Char → Bool × List Char
  | '+' :: rest => (false, rest)
  | '-' :: rest => (true, rest)
  | rest => (false, rest)

/-- A number with an exponent, by the sign of the exponent and the digits in front of a text. -/
def exponentOf (negative : Bool) (significand : Nat) (power : Int) (signed : Bool)
    (ds : List Nat × List Char) : Option (Number × List Char) :=
  if ds.1.isEmpty then none
  else
    let size := accumulate maxPower 0 ds.1
    if size.2 < ds.1.length then
      if significand != 0 && !signed then none
      else some (.double (Number.Binary64.zero negative), ds.2)
    else
      let power := if signed then power - size.1 else power + size.1
      (double? negative significand power).map fun n => (n, ds.2)

/-- The number after whose digits a text stands: with an exponent, or as it is. -/
def exponentOr (negative : Bool) (significand : Nat) (power : Int) (plain : Option Number) :
    List Char → Option (Number × List Char)
  | 'e' :: rest => exponentPart negative significand power rest
  | 'E' :: rest => exponentPart negative significand power rest
  | rest => plain.map fun n => (n, rest)

/-- The number after the digits of whose whole part a text stands: with a fraction, with an
exponent, or as it is. -/
def pointOr (negative : Bool) (significand : Nat) (power : Int) (plain : Option Number) :
    List Char → Option (Number × List Char)
  | '.' :: rest => fractionPart negative significand power rest
  | rest => exponentOr negative significand power plain rest

/-- The exponent of a number is its sign and its digits. -/
theorem exponentPart_eq (negative : Bool) (significand : Nat) (power : Int) (cs : List Char) :
    exponentPart negative significand power cs =
      exponentOf negative significand power (exponentSign cs).1 (digits (exponentSign cs).2) := rfl

/-- The fraction of a number is its digits and perhaps an exponent. -/
theorem fractionPart_eq (negative : Bool) (significand : Nat) (power : Int) (cs : List Char) :
    fractionPart negative significand power cs =
      if (digits cs).1.isEmpty then none
      else
        let more := accumulate maxWord significand (digits cs).1
        exponentOr negative more.1 (power - more.2) (double? negative more.1 (power - more.2))
          (digits cs).2 := rfl

/-- A number without its sign is its digits and perhaps a fraction or an exponent. -/
theorem unsigned_eq (negative : Bool) (cs : List Char) :
    unsigned negative cs =
      match (digits cs).1 with
      | [] => none
      | first :: others =>
        if first = 0 && !others.isEmpty then none
        else
          let whole := accumulate maxWord 0 (digits cs).1
          let dropped := (digits cs).1.length - whole.2
          pointOr negative whole.1 dropped
            (if dropped = 0 then integer? negative whole.1 else double? negative whole.1 dropped)
            (digits cs).2 := by
  unfold unsigned
  generalize digits cs = ds
  obtain ⟨ds, after⟩ := ds
  cases ds with
  | nil => rfl
  | cons first others =>
    dsimp only
    split_ifs
    · rfl
    all_goals
      unfold pointOr exponentOr
      split <;> simp_all

variable {negative : Bool} {significand : Nat} {power : Int} {n : Number} {plain : Option Number}

/-- A text that does not begin with a mark does not so with a text behind it that does not begin
with the mark either. -/
theorem append_ne_cons {mark : Char} (hcs : ∀ rest, cs ≠ mark :: rest)
    (htail : ∀ c ∈ tail.head?, c ≠ mark) (rest : List Char) : cs ++ tail ≠ mark :: rest := by
  intro heq
  cases cs with
  | nil => exact htail mark (by rw [← List.nil_append tail, heq]; rfl) rfl
  | cons c cs => exact hcs cs (by rw [(List.cons.inj heq).1])

/-- The sign of an exponent is read so before any text. -/
theorem exponentSign_append (hne : cs ≠ []) (tail : List Char) :
    exponentSign (cs ++ tail) = ((exponentSign cs).1, (exponentSign cs).2 ++ tail) := by
  obtain ⟨c, cs, rfl⟩ := List.exists_cons_of_ne_nil hne
  unfold exponentSign
  split <;> simp_all

/-- The digits of an exponent decide it, and the text after them is left. -/
theorem exponentOf_append {signed : Bool} {ds : List Nat × List Char}
    (h : exponentOf negative significand power signed ds = some (n, rest)) (tail : List Char) :
    exponentOf negative significand power signed (ds.1, ds.2 ++ tail) = some (n, rest ++ tail) := by
  simp only [exponentOf] at h ⊢
  split_ifs at h ⊢
  · cases h
    rfl
  all_goals
    obtain ⟨m, hm, heq⟩ := Option.map_eq_some_iff.mp h
    cases heq
    rw [hm, Option.map_some]

/-- An exponent is read so before any delimited text. -/
theorem exponentPart_append (htail : Delimited tail)
    (h : exponentPart negative significand power cs = some (n, rest)) :
    exponentPart negative significand power (cs ++ tail) = some (n, rest ++ tail) := by
  have hne : cs ≠ [] := by
    rintro rfl
    cases h
  rw [exponentPart_eq, exponentSign_append hne, digits_append htail]
  exact exponentOf_append h tail

/-- Delimited text begins no exponent. -/
theorem exponentOr_append (htail : Delimited tail)
    (h : exponentOr negative significand power plain cs = some (n, rest)) :
    exponentOr negative significand power plain (cs ++ tail) = some (n, rest ++ tail) := by
  unfold exponentOr at h
  split at h
  · exact exponentPart_append htail h
  · exact exponentPart_append htail h
  · rename_i hlower hupper
    obtain ⟨m, hm, heq⟩ := Option.map_eq_some_iff.mp h
    cases heq
    unfold exponentOr
    split
    · rename_i heq
      exact absurd heq (append_ne_cons hlower (fun c hc => (htail c hc).2.2.1) _)
    · rename_i heq
      exact absurd heq (append_ne_cons hupper (fun c hc => (htail c hc).2.2.2) _)
    · rw [hm, Option.map_some]

/-- A fraction is read so before any delimited text. -/
theorem fractionPart_append (htail : Delimited tail)
    (h : fractionPart negative significand power cs = some (n, rest)) :
    fractionPart negative significand power (cs ++ tail) = some (n, rest ++ tail) := by
  rw [fractionPart_eq] at h ⊢
  rw [digits_append htail]
  split_ifs at h ⊢ with hdigits
  exact exponentOr_append htail h

/-- Delimited text begins no fraction. -/
theorem pointOr_append (htail : Delimited tail)
    (h : pointOr negative significand power plain cs = some (n, rest)) :
    pointOr negative significand power plain (cs ++ tail) = some (n, rest ++ tail) := by
  unfold pointOr at h
  split at h
  · exact fractionPart_append htail h
  · rename_i hpoint
    unfold pointOr
    split
    · rename_i heq
      exact absurd heq (append_ne_cons hpoint (fun c hc => (htail c hc).2.1) _)
    · exact exponentOr_append htail h

/-- A number without its sign is read so before any delimited text. -/
theorem unsigned_append (htail : Delimited tail) (h : unsigned negative cs = some (n, rest)) :
    unsigned negative (cs ++ tail) = some (n, rest ++ tail) := by
  rw [unsigned_eq] at h ⊢
  rw [digits_append htail]
  cases hdigits : (digits cs).1 with
  | nil =>
    rw [hdigits] at h
    cases h
  | cons first others =>
    simp only [hdigits] at h ⊢
    by_cases hzero : (first = 0 && !others.isEmpty) = true
    · rw [if_pos hzero] at h
      cases h
    · rw [if_neg hzero] at h ⊢
      exact pointOr_append htail h

/-- A number that does not begin with a minus sign has none. -/
theorem number_cons_of_ne {c : Char} (hc : c ≠ '-') (cs : List Char) :
    number (c :: cs) = unsigned false (c :: cs) := by
  unfold number
  split
  · rename_i heq
    exact absurd (List.cons.inj heq).1 hc
  · rfl

/-- A number is read so before any delimited text. -/
theorem number_append (htail : Delimited tail) (h : number cs = some (n, rest)) :
    number (cs ++ tail) = some (n, rest ++ tail) := by
  cases cs with
  | nil => cases h
  | cons c cs =>
    by_cases hc : c = '-'
    · subst hc
      have hunsigned : unsigned true cs = some (n, rest) := h
      exact unsigned_append htail hunsigned
    · rw [number_cons_of_ne hc] at h
      rw [List.cons_append, number_cons_of_ne hc]
      exact unsigned_append htail h

/-! ## Strings -/

/-- Four hexadecimal digits are read so before any text. -/
theorem hex4_append {unit : Nat} (h : hex4 cs = some (unit, rest)) (tail : List Char) :
    hex4 (cs ++ tail) = some (unit, rest ++ tail) := by
  unfold hex4 at h
  split at h
  · split at h
    · cases h
      simp_all [hex4]
    · cases h
  · cases h

/-- A character given by its code units is read so before any text. -/
theorem unicodeEscape_append {c : Char} (h : unicodeEscape cs = some (c, rest))
    (tail : List Char) : unicodeEscape (cs ++ tail) = some (c, rest ++ tail) := by
  unfold unicodeEscape at h ⊢
  cases hunit : hex4 cs with
  | none =>
    rw [hunit] at h
    cases h
  | some found =>
    obtain ⟨unit, after⟩ := found
    rw [hunit] at h
    simp only [hex4_append hunit] at h ⊢
    split_ifs at h ⊢
    · -- the first half of a character: its second half has to follow
      split at h
      · rename_i second
        cases hlow : hex4 second with
        | none =>
          rw [hlow] at h
          cases h
        | some found =>
          obtain ⟨low, after⟩ := found
          rw [hlow] at h
          simp only [List.cons_append, hex4_append hlow] at h ⊢
          split_ifs at h ⊢
          obtain ⟨rfl, rfl⟩ := Prod.mk.inj (Option.some.inj h)
          rfl
      · cases h
    · obtain ⟨rfl, rfl⟩ := Prod.mk.inj (Option.some.inj h)
      rfl

/-- An escaped character is read so before any text. -/
theorem escape_append {c : Char} (h : escape cs = some (c, rest)) (tail : List Char) :
    escape (cs ++ tail) = some (c, rest ++ tail) := by
  unfold escape at h
  split at h
  case h_9 => exact unicodeEscape_append h tail
  case h_10 => cases h
  all_goals
    cases h
    rfl

/-- The characters of a string are read so before any text and with more steps. -/
theorem stringBody_append {fuel fuel' : Nat} {found : List Char} (hfuel : fuel ≤ fuel')
    (h : stringBody fuel cs = some (found, rest)) (tail : List Char) :
    stringBody fuel' (cs ++ tail) = some (found, rest ++ tail) := by
  induction fuel generalizing fuel' cs found with
  | zero => cases h
  | succ fuel ih =>
    obtain ⟨fuel', rfl, hle⟩ := exists_bound_of_succ_le hfuel
    cases cs with
    | nil => cases h
    | cons c cs =>
      simp only [stringBody, List.cons_append] at h ⊢
      split_ifs at h ⊢ with hquote hescape hcontrol
      · cases h
        rfl
      · cases hchar : escape cs with
        | none =>
          rw [hchar] at h
          cases h
        | some escaped =>
          obtain ⟨d, after⟩ := escaped
          rw [hchar] at h
          simp only [escape_append hchar] at h ⊢
          obtain ⟨more, hmore, heq⟩ := Option.map_eq_some_iff.mp h
          cases heq
          rw [ih hle hmore, Option.map_some]
      · obtain ⟨more, hmore, heq⟩ := Option.map_eq_some_iff.mp h
        cases heq
        rw [ih hle hmore, Option.map_some]

/-- A string is read so before any text. -/
theorem string_append {s : String} (h : string cs = some (s, rest)) (tail : List Char) :
    string (cs ++ tail) = some (s, rest ++ tail) := by
  obtain ⟨found, hfound, heq⟩ := Option.map_eq_some_iff.mp h
  cases heq
  rw [string, stringBody_append (by simp) hfound tail, Option.map_some]

end ContainerOps.Json.Reader
