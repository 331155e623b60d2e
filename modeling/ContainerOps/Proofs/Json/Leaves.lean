import ContainerOps.Json.Writer
import ContainerOps.Proofs.Json.Scalar

/-!
# Strings and integers that are read back

What is written of a string or an integer is read as the same again.  In a string, a character that
must not stand there is written as a mark and a letter, or as its code.  The digits of an integer
have no zero in front, which the reader would refuse, and their number stays below its limit.

Main results:

- `Reader.string_quoted`: a text that is written as a string is read back, whatever follows.
- `Number.readsBack_integer`: so is every integer that can be a number.
-/


namespace ContainerOps.Json

open ContainerOps.Text

namespace Reader

variable {cs rest : List Char}

/-! ## Strings -/

/-- The value of a hexadecimal digit that is written. -/
theorem hexDigit?_hexDigit {d : Nat} (hd : d < 16) : hexDigit? (hexDigit d) = some d := by
  have hall : ∀ d < 16, hexDigit? (hexDigit d) = some d := by decide
  exact hall d hd

/-- A control character is read from its code. -/
theorem escape_code {c : Char} (hc : c.toNat < 0x20) (rest : List Char) :
    escape ('u' :: '0' :: '0' :: hexDigit (c.toNat / 16) :: hexDigit (c.toNat % 16) :: rest) =
      some (c, rest) := by
  have hzero : hexDigit? '0' = some 0 := by decide
  have hfirst : c.toNat / 16 < 16 := by omega
  have hsecond : c.toNat % 16 < 16 := Nat.mod_lt _ (by decide)
  have hunit : ((0 * 16 + 0) * 16 + c.toNat / 16) * 16 + c.toNat % 16 = c.toNat := by omega
  simp only [escape, unicodeEscape, hex4, hzero, hexDigit?_hexDigit hfirst,
    hexDigit?_hexDigit hsecond, hunit]
  rw [if_neg (by simp; omega), if_neg (by simp; omega), Char.ofNat_toNat]

/-- A character that is written inside a string is read as that character. -/
theorem stringBody_escapedChar (fuel : Nat) (c : Char) (rest : List Char) :
    stringBody (fuel + 1) (escapedChar c ++ rest) =
      (stringBody fuel rest).map fun more => (c :: more.1, more.2) := by
  unfold escapedChar
  split
  case h_8 hquote hbackslash _ _ _ _ _ =>
    split
    · next hcontrol =>
      simp only [List.cons_append, List.nil_append, stringBody, escape_code hcontrol]
      rw [if_neg (by decide), if_true]
    · next hcontrol =>
      rw [List.singleton_append, stringBody, if_neg hquote, if_neg hbackslash, if_neg hcontrol]
  all_goals rfl

/-- The characters that are written inside a string are read up to the quote behind them. -/
theorem stringBody_flatMap_escapedChar {fuel : Nat} (cs : List Char) (hfuel : cs.length < fuel)
    (tail : List Char) :
    stringBody fuel (cs.flatMap escapedChar ++ '"' :: tail) = some (cs, tail) := by
  induction cs generalizing fuel with
  | nil =>
    obtain ⟨fuel, rfl, -⟩ := exists_bound_of_succ_le hfuel
    rfl
  | cons c cs ih =>
    obtain ⟨fuel, rfl, hle⟩ := exists_bound_of_succ_le hfuel
    rw [List.flatMap_cons, List.append_assoc, stringBody_escapedChar, ih hle, Option.map_some]

/-- A character is written with one character at least. -/
theorem length_le_flatMap_escapedChar (cs : List Char) :
    cs.length ≤ (cs.flatMap escapedChar).length := by
  have hone : ∀ c, 1 ≤ (escapedChar c).length := by
    intro c
    unfold escapedChar
    split <;> try decide
    split <;> simp
  induction cs with
  | nil => exact Nat.zero_le _
  | cons c cs ih =>
    have hc := hone c
    rw [List.flatMap_cons, List.length_append, List.length_cons]
    omega

/-- A text that is written as a string is read from behind the first quote. -/
theorem string_quoted (s : String) (tail : List Char) :
    string (s.toList.flatMap escapedChar ++ '"' :: tail) = some (s, tail) := by
  have hlength := length_le_flatMap_escapedChar s.toList
  rw [string, stringBody_flatMap_escapedChar _ (by rw [List.length_append]; omega),
    Option.map_some, String.ofList_toList]

/-! ## Numbers -/

/-- A decimal digit is read as its value. -/
theorem digit?_of_isDigit {c : Char} (hc : c.isDigit = true) : digit? c = some (c.toNat - 48) := by
  have hrange : ('0' ≤ c && c ≤ '9') = true := hc
  rw [digit?, if_pos hrange]

/-- Decimal digits are read one by one. -/
theorem digits_of_isDigit (hcs : ∀ c ∈ cs, c.isDigit = true) :
    digits cs = (cs.map fun c => c.toNat - 48, []) := by
  induction cs with
  | nil => rfl
  | cons c cs ih =>
    obtain ⟨hc, hcs⟩ := List.forall_mem_cons.mp hcs
    simp only [digits, digit?_of_isDigit hc, ih hcs, List.map_cons]

/-- Digits behind a number make it no smaller. -/
theorem le_foldl_digits (s : Nat) (ds : List Nat) :
    s ≤ ds.foldl (fun n d => n * 10 + d) s := by
  induction ds generalizing s with
  | nil => exact Nat.le_refl s
  | cons d ds ih =>
    have hle := ih (s * 10 + d)
    rw [List.foldl_cons]
    omega

/-- Where the number of some digits stays below the limit, all of them are taken. -/
theorem accumulate_of_le {limit s : Nat} {ds : List Nat}
    (hle : ds.foldl (fun n d => n * 10 + d) s ≤ limit) :
    accumulate limit s ds = (ds.foldl (fun n d => n * 10 + d) s, ds.length) := by
  induction ds generalizing s with
  | nil => rfl
  | cons d ds ih =>
    rw [List.foldl_cons] at hle ⊢
    have hfirst := (le_foldl_digits (s * 10 + d) ds).trans hle
    rw [accumulate, if_pos hfirst, ih hle, List.length_cons]

/-- The digits of a number stand for it. -/
theorem foldl_toDigits (n : Nat) :
    ((Nat.toDigits 10 n).map fun c => c.toNat - 48).foldl (fun n d => n * 10 + d) 0 = n := by
  have hvalue := Nat.ofDigitChars_ten_toDigits (n := n)
  have hzero : '0'.toNat = 48 := rfl
  rw [Nat.ofDigitChars_eq_foldl] at hvalue
  rw [List.foldl_map]
  simpa only [Nat.mul_comm, hzero] using hvalue

/-- The first digit of a number other than zero is not zero. -/
theorem head?_toDigits_ne_zero {n : Nat} (hn : 0 < n) :
    ∀ c ∈ (Nat.toDigits 10 n).head?, c.toNat - 48 ≠ 0 := by
  induction n using Nat.strongRecOn with
  | ind n ih =>
    rw [Nat.toDigits_eq_if (by decide)]
    split
    · next hlt =>
      have hall : ∀ n < 10, 0 < n → n.digitChar.toNat - 48 ≠ 0 := by decide
      intro c hc
      cases hc
      exact hall n hlt hn
    · rw [List.head?_append_of_ne_nil _ Nat.toDigits_ne_nil]
      exact ih (n / 10) (by omega) (by omega)

/-- The digits of a number are read as that number, with a sign or without one. -/
theorem unsigned_toDigits (negative : Bool) {n : Nat} (hn : n ≤ maxWord) :
    unsigned negative (Nat.toDigits 10 n) = (integer? negative n).map fun n => (n, []) := by
  have hdigits : digits (Nat.toDigits 10 n) = ((Nat.toDigits 10 n).map fun c => c.toNat - 48, []) :=
    digits_of_isDigit fun c hc => Nat.isDigit_of_mem_toDigits (by decide) (by decide) hc
  have hle : ((Nat.toDigits 10 n).map fun c => c.toNat - 48).foldl (fun n d => n * 10 + d) 0 ≤
      maxWord := (foldl_toDigits n).symm ▸ hn
  have hwhole := accumulate_of_le hle
  rw [foldl_toDigits] at hwhole
  obtain ⟨c, cs, hcs⟩ := List.exists_cons_of_ne_nil (Nat.toDigits_ne_nil (n := n) (b := 10))
  -- a zero in front is the only digit
  have hleading : c.toNat - 48 = 0 → cs = [] := by
    intro hzero
    obtain rfl : n = 0 := by
      by_contra hne
      exact head?_toDigits_ne_zero (Nat.pos_of_ne_zero hne) c (by rw [hcs]; rfl) hzero
    exact (List.cons.inj hcs).2.symm
  rw [unsigned_eq, hdigits, hwhole, hcs]
  simp only [List.map_cons]
  rw [if_neg (by simpa using hleading)]
  simp [pointOr, exponentOr]

end Reader

/-- The digits of a number are read as that number. -/
def Number.ReadsBack (n : Number) : Prop :=
  Reader.number n.text.toList = some (n, [])

/-- Every integer that can be a number is read back. -/
theorem Number.readsBack_integer {n : Int} (hleast : Reader.minSigned ≤ n)
    (hgreatest : n ≤ Reader.maxWord) : (Number.integer n).ReadsBack := by
  unfold ReadsBack
  cases n with
  | ofNat m =>
    have htext : (Number.text (.integer (.ofNat m))).toList = Nat.toDigits 10 m := Nat.toList_repr
    have hm : m ≤ Reader.maxWord := Int.ofNat_le.mp hgreatest
    obtain ⟨c, cs, hcs⟩ := List.exists_cons_of_ne_nil (Nat.toDigits_ne_nil (n := m) (b := 10))
    have hdigit : c.isDigit = true :=
      Nat.isDigit_of_mem_toDigits (by decide) (by decide) (hcs ▸ List.mem_cons_self)
    have hminus : c ≠ '-' := by
      rintro rfl
      exact absurd hdigit (by decide)
    rw [htext, hcs, Reader.number_cons_of_ne hminus, ← hcs, Reader.unsigned_toDigits false hm]
    rfl
  | negSucc m =>
    have htext : (Number.text (.integer (.negSucc m))).toList =
        '-' :: Nat.toDigits 10 (m + 1) := by
      change ("-" ++ Nat.repr (m + 1)).toList = _
      rw [String.toList_append, Nat.toList_repr]
      rfl
    have hm : m + 1 ≤ Reader.maxWord := by
      simp only [Reader.minSigned, Reader.maxWord] at hleast ⊢
      omega
    have hinteger : Reader.integer? true (m + 1) = some (.integer (.negSucc m)) := by
      rw [Reader.integer?, if_pos rfl, if_neg]
      · rfl
      · simp only [Bool.or_eq_true, decide_eq_true_eq]
        omega
    rw [htext]
    change Reader.unsigned true (Nat.toDigits 10 (m + 1)) = _
    rw [Reader.unsigned_toDigits true hm, hinteger]
    rfl

end ContainerOps.Json
