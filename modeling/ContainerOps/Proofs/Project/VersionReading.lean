import ContainerOps.Project.Settings
import ContainerOps.Proofs.Text.Words
import Mathlib.Data.Nat.Digits.Defs

/-!
# Which version a text has

A version is read from numerals at the front of a text.  They are told here by what the text
consists of, and not by how it is gone along: they are the longest front of one to three numerals
with points between them.  What comes behind them, a suffix, an empty component or a fourth one,
plays no part, not even where it has a numeral that is too great.

Main results:

- `leads_cons_iff`: how numerals lead a text, one numeral at a time.
- `longest_iff`: the numerals that are read are the longest that lead a text.
- `strippedTo_iff`: what is left of a text without blanks and letters `v`.
- `requireVersion_reads_longest`: which version is read, and when there is none.
-/

namespace ContainerOps.Project.Version

open ContainerOps.Text

/-! ## Numerals -/

/-- A numeral: decimal digits, at least one. -/
def IsNumeral (n : List Char) : Prop :=
  n ≠ [] ∧ ∀ c ∈ n, isDigit c = true

/-- A text that no numeral in front of it goes on into. -/
def Stops (rest : List Char) : Prop :=
  ∀ c ∈ rest.head?, isDigit c = false

/-- No numeral goes on into a point. -/
theorem stops_point (after : List Char) : Stops ('.' :: after) := by
  intro c hc
  cases hc
  decide

/-- Numerals with points between them. -/
def pointed (ns : List (List Char)) : List Char :=
  ['.'].intercalate ns

/-- The number that a numeral stands for in base ten. -/
def value (n : List Char) : Nat :=
  Nat.ofDigits 10 ((n.map fun c => c.toNat - '0'.toNat).reverse)

variable {count : Nat} {s n m rest : List Char} {ns ms : List (List Char)}

/-- Reading the digits one after another amounts to their value in base ten. -/
theorem numberOf_eq_value (n : List Char) : numberOf n = value n := by
  induction n using List.reverseRecOn with
  | nil => rfl
  | append_singleton n c ih =>
    have hzero : '0'.toNat = 48 := rfl
    rw [numberOf, List.foldl_concat, ← numberOf, ih, value, value, List.map_append,
      List.map_singleton, List.reverse_append, List.reverse_singleton, List.singleton_append,
      Nat.ofDigits_cons, hzero]
    omega

/-- A numeral and what it does not go on into can be told apart in a text. -/
theorem takeWhile_numeral (hn : IsNumeral n) (hrest : Stops rest) :
    (n ++ rest).takeWhile isDigit = n ∧ (n ++ rest).dropWhile isDigit = rest := by
  rw [List.takeWhile_append_of_pos hn.2, List.dropWhile_append_of_pos hn.2]
  cases rest with
  | nil => simp
  | cons c rest =>
    have hc : isDigit c = false := hrest c rfl
    simp [hc]

/-- There is only one way to take a numeral from the front of a text. -/
theorem numeral_inj {rest' : List Char} (hn : IsNumeral n) (hrest : Stops rest)
    (hm : IsNumeral m) (hrest' : Stops rest') (heq : n ++ rest = m ++ rest') :
    n = m ∧ rest = rest' := by
  have htake := (takeWhile_numeral hn hrest).1
  rw [heq, (takeWhile_numeral hm hrest').1] at htake
  subst htake
  exact ⟨rfl, List.append_cancel_left heq⟩

/-- A text has a numeral in front unless it starts with no digit. -/
theorem stops_or_numeral (s : List Char) :
    Stops s ∨ ∃ n rest, IsNumeral n ∧ Stops rest ∧ s = n ++ rest := by
  by_cases hdigits : s.takeWhile isDigit = []
  · left
    intro c hc
    cases s with
    | nil => cases hc
    | cons d s =>
      cases hc
      by_contra hdigit
      simp [hdigit] at hdigits
  · exact .inr ⟨s.takeWhile isDigit, s.dropWhile isDigit,
      ⟨hdigits, fun c hc => List.mem_takeWhile_imp hc⟩, head?_dropWhile isDigit s,
      List.takeWhile_append_dropWhile.symm⟩

/-! ## Numerals that lead a text -/

/-- Some numerals, at most so many, lead a text: they stand in front of it with points between
them, and the last of them is complete, as the others are for their points. -/
structure Leads (count : Nat) (s : List Char) (ns : List (List Char)) : Prop where
  /-- There are some. -/
  some : ns ≠ []
  /-- They are not too many. -/
  atMost : ns.length ≤ count
  /-- They are numerals. -/
  numeral : ∀ n ∈ ns, IsNumeral n
  /-- They stand in front of the text. -/
  front : ∃ rest, s = pointed ns ++ rest ∧ Stops rest

/-- The numerals that lead a text farthest. -/
structure Longest (count : Nat) (s : List Char) (ns : List (List Char)) : Prop
    extends Leads count s ns where
  /-- None lead it farther. -/
  longest : ∀ ms, Leads count s ms → (pointed ms).length ≤ (pointed ns).length

@[simp]
theorem pointed_singleton (n : List Char) : pointed [n] = n :=
  List.intercalate_singleton

theorem pointed_cons (n : List Char) (hns : ns ≠ []) :
    pointed (n :: ns) = n ++ '.' :: pointed ns := by
  rw [pointed, List.intercalate_cons_of_ne_nil hns, List.append_assoc, List.singleton_append,
    ← pointed]

/-- A point stands between numerals and more numerals. -/
theorem pointed_append (hms : ms ≠ []) (hns : ns ≠ []) :
    pointed (ms ++ ns) = pointed ms ++ '.' :: pointed ns := by
  induction ms with
  | nil => exact absurd rfl hms
  | cons m rest ih =>
    by_cases hrest : rest = []
    · rw [hrest, List.singleton_append, pointed_cons m hns, pointed_singleton]
    · rw [List.cons_append, pointed_cons m (List.append_ne_nil_of_left_ne_nil hrest ns), ih hrest,
        pointed_cons m hrest, List.append_assoc, List.cons_append]

/-- A text without a digit in front is led by nothing. -/
theorem not_leads_of_stops (hstops : Stops s) : ¬Leads count s ns := by
  rintro ⟨hsome, -, hnumeral, rest, rfl, -⟩
  obtain ⟨n, ns, rfl⟩ := List.exists_cons_of_ne_nil hsome
  obtain ⟨⟨hne, hdigits⟩, -⟩ := List.forall_mem_cons.mp hnumeral
  obtain ⟨c, n, rfl⟩ := List.exists_cons_of_ne_nil hne
  have hc : isDigit c = false := hstops c (by cases ns <;> rfl)
  rw [hdigits c List.mem_cons_self] at hc
  cases hc

/-- A text with a numeral in front is led by this numeral, and by others behind it that lead what
follows a point. -/
theorem leads_cons_iff (hn : IsNumeral n) (hrest : Stops rest) :
    Leads (count + 1) (n ++ rest) (m :: ms) ↔
      m = n ∧ (ms = [] ∨ ∃ after, rest = '.' :: after ∧ Leads count after ms) := by
  constructor
  · rintro ⟨-, hlength, hnumeral, tail, heq, htail⟩
    obtain ⟨hm, hms⟩ := List.forall_mem_cons.mp hnumeral
    by_cases hnil : ms = []
    · rw [hnil, pointed_singleton] at heq
      exact ⟨(numeral_inj hn hrest hm htail heq).1.symm, .inl hnil⟩
    · rw [pointed_cons m hnil, List.append_assoc, List.cons_append] at heq
      obtain ⟨rfl, rfl⟩ := numeral_inj hn hrest hm (stops_point _) heq
      exact ⟨rfl, .inr ⟨_, rfl, hnil, Nat.le_of_succ_le_succ hlength, hms, tail, rfl, htail⟩⟩
  · rintro ⟨rfl, rfl | ⟨after, rfl, hsome, hlength, hnumeral, tail, rfl, htail⟩⟩
    · exact ⟨List.cons_ne_nil m [], Nat.succ_le_succ (Nat.zero_le count),
        List.forall_mem_singleton.mpr hn, rest, by rw [pointed_singleton], hrest⟩
    · refine ⟨List.cons_ne_nil m ms, Nat.succ_le_succ hlength,
        List.forall_mem_cons.mpr ⟨hn, hnumeral⟩, tail, ?_, htail⟩
      rw [pointed_cons m hsome, List.append_assoc, List.cons_append]

/-! ## Longest numerals -/

/-- Nothing is read of a text without a digit in front. -/
theorem numerals_of_stops (count : Nat) (hstops : Stops s) : numerals count s = [] := by
  cases count with
  | zero => rfl
  | succ count =>
    cases s with
    | nil => rfl
    | cons c s => simp [numerals, hstops c rfl]

/-- A numeral in front is read, and behind a point what follows it. -/
theorem numerals_append_point (count : Nat) (hn : IsNumeral n) (after : List Char) :
    numerals (count + 1) (n ++ '.' :: after) = n :: numerals count after := by
  obtain ⟨htake, hdrop⟩ := takeWhile_numeral hn (stops_point after)
  rw [numerals]
  simp [htake, hdrop, hn.1]

/-- Without a point behind it, a numeral is the only one that is read. -/
theorem numerals_append_of_ne_point (count : Nat) (hn : IsNumeral n) (hrest : Stops rest)
    (hpoint : ∀ after, rest ≠ '.' :: after) : numerals (count + 1) (n ++ rest) = [n] := by
  obtain ⟨htake, hdrop⟩ := takeWhile_numeral hn hrest
  rw [numerals]
  simp only [htake, hdrop, List.isEmpty_eq_false_iff.mpr hn.1, Bool.false_eq_true, if_false]

/-- The numerals that are read lead the text, if there are any. -/
theorem leads_numerals (hsome : numerals count s ≠ []) : Leads count s (numerals count s) := by
  induction count generalizing s with
  | zero => exact absurd rfl hsome
  | succ count ih =>
    rcases stops_or_numeral s with hstops | ⟨n, rest, hn, hrest, rfl⟩
    · exact absurd (numerals_of_stops (count + 1) hstops) hsome
    · by_cases hpoint : ∃ after, rest = '.' :: after
      · obtain ⟨after, rfl⟩ := hpoint
        rw [numerals_append_point count hn, leads_cons_iff hn hrest]
        by_cases hafter : numerals count after = []
        · exact ⟨rfl, .inl hafter⟩
        · exact ⟨rfl, .inr ⟨after, rfl, ih hafter⟩⟩
      · rw [numerals_append_of_ne_point count hn hrest (not_exists.mp hpoint),
          leads_cons_iff hn hrest]
        exact ⟨rfl, .inl rfl⟩

/-- Whatever leads a text is read first. -/
theorem Leads.isPrefixOf (leads : Leads count s ms) : ms <+: numerals count s := by
  induction count generalizing s ms with
  | zero => exact absurd (List.eq_nil_of_length_eq_zero (Nat.le_zero.mp leads.atMost)) leads.some
  | succ count ih =>
    rcases stops_or_numeral s with hstops | ⟨n, rest, hn, hrest, rfl⟩
    · exact absurd leads (not_leads_of_stops hstops)
    · obtain ⟨m, ms, rfl⟩ := List.exists_cons_of_ne_nil leads.some
      obtain ⟨rfl, hms⟩ := (leads_cons_iff hn hrest).mp leads
      by_cases hpoint : ∃ after, rest = '.' :: after
      · obtain ⟨after, rfl⟩ := hpoint
        rw [numerals_append_point count hn, List.prefix_cons_inj]
        rcases hms with rfl | ⟨after', heq, hleads⟩
        · exact List.nil_prefix
        · cases heq
          exact ih hleads
      · have hnil : ms = [] := hms.resolve_right fun ⟨after, heq, _⟩ => hpoint ⟨after, heq⟩
        have hread := numerals_append_of_ne_point count hn hrest (not_exists.mp hpoint)
        exact ⟨[], by rw [hread, hnil, List.append_nil]⟩

/-- Further numerals lead a text farther. -/
theorem length_pointed_lt (hms : ms ≠ []) (hmore : ms <+: ns) (hne : ms ≠ ns) :
    (pointed ms).length < (pointed ns).length := by
  obtain ⟨more, rfl⟩ := hmore
  have hsome : more ≠ [] := fun hnil => hne (by rw [hnil, List.append_nil])
  rw [pointed_append hms hsome, List.length_append, List.length_cons]
  omega

/-- The numerals that are read are the longest that lead a text. -/
theorem longest_iff : Longest count s ns ↔ ns = numerals count s ∧ ns ≠ [] := by
  constructor
  · intro hlongest
    refine ⟨?_, hlongest.some⟩
    have hfront := hlongest.toLeads.isPrefixOf
    have hread : numerals count s ≠ [] := fun hnil =>
      hlongest.some (List.prefix_nil.mp (hnil ▸ hfront))
    by_contra hne
    have hshort := hlongest.longest _ (leads_numerals hread)
    exact absurd (length_pointed_lt hlongest.some hfront hne) (Nat.not_lt.mpr hshort)
  · rintro ⟨rfl, hsome⟩
    refine ⟨leads_numerals hsome, fun ms hleads => ?_⟩
    by_cases heq : ms = numerals count s
    · rw [heq]
    · exact (length_pointed_lt hleads.some hleads.isPrefixOf heq).le

/-! ## Texts of versions -/

/-- What is left of a text without the blanks around it and then the letters `v` in front. -/
def StrippedTo (raw : String) (s : List Char) : Prop :=
  ∃ before letters after, raw.toList = before ++ ((letters ++ s) ++ after) ∧
    IsBlankText before ∧ IsTrimmed (letters ++ s) ∧ IsBlankText after ∧
    (∀ c ∈ letters, c = 'v') ∧ ∀ c ∈ s.head?, c ≠ 'v'

/-- Every text has one such rest. -/
theorem strippedTo_iff {raw : String} : StrippedTo raw s ↔ s = strip raw := by
  constructor
  · rintro ⟨before, letters, after, hraw, hbefore, htrimmed, hafter, hletters, hhead⟩
    rw [strip, hraw, trim_append_append hbefore htrimmed hafter,
      List.dropWhile_append_of_pos fun c hc => by simp [hletters c hc]]
    cases s with
    | nil => rfl
    | cons c s => rw [List.dropWhile_cons_of_neg (by simpa using hhead c rfl)]
  · rintro rfl
    obtain ⟨before, after, hbefore, hafter, hraw⟩ := exists_trim raw.toList
    have hsplit : (trim raw.toList).takeWhile (· == 'v') ++ strip raw = trim raw.toList :=
      List.takeWhile_append_dropWhile
    refine ⟨before, (trim raw.toList).takeWhile (· == 'v'), after, ?_, hbefore, ?_, hafter, ?_, ?_⟩
    · rw [hsplit, ← hraw]
    · rw [hsplit]
      exact isTrimmed_trim raw.toList
    · intro c hc
      simpa using List.mem_takeWhile_imp hc
    · intro c hc
      simpa using head?_dropWhile (· == 'v') (trim raw.toList) c hc

/-! ## Versions -/

/-- The version with some numerals, of which those that are missing stand for zero. -/
def ofNumerals (ns : List (List Char)) (s : List Char) : Version :=
  { major := (ns.map value).getD 0 0
    minor := (ns.map value).getD 1 0
    patch := (ns.map value).getD 2 0
    shown := String.ofList s }

/-- A numeral that is not too great. -/
def Fits (n : List Char) : Prop :=
  value n ≤ 2 ^ 64 - 1

instance (n : List Char) : Decidable (Fits n) :=
  inferInstanceAs (Decidable (value n ≤ 2 ^ 64 - 1))

/-- What is compared of a version that was read. -/
def numbersOf? (read : Except Error Version) : Option (Nat × Nat × Nat) :=
  read.toOption.map fun v => (v.major, v.minor, v.patch)

/-- Some numeral is too great exactly when its number is. -/
theorem any_maxNumber_lt (ns : List (List Char)) :
    ((ns.map numberOf).any fun n => maxNumber < n) = true ↔ ∃ n ∈ ns, ¬Fits n := by
  have hfits : ∀ n, ¬Fits n ↔ maxNumber < numberOf n := by
    intro n
    rw [Fits, Nat.not_le, numberOf_eq_value]
    rfl
  simp only [List.any_map, List.any_eq_true, Function.comp_apply, decide_eq_true_eq, hfits]

/-- A version is read where there are numerals, and all of them fit. -/
theorem requireVersion_of_fits {raw : String} (hlongest : Longest 3 (strip raw) ns)
    (hfit : ∀ n ∈ ns, Fits n) : requireVersion raw = .ok (ofNumerals ns (strip raw)) := by
  obtain ⟨rfl, hsome⟩ := longest_iff.mp hlongest
  have hnot : ¬∃ n ∈ numerals 3 (strip raw), ¬Fits n := by simpa using hfit
  obtain ⟨n, ns, hread⟩ := List.exists_cons_of_ne_nil hsome
  rw [requireVersion, parse?, if_neg (mt (any_maxNumber_lt _).mp hnot),
    List.map_congr_left fun n _ => numberOf_eq_value n, hread]
  rfl

/-- There is no version where one of the numerals does not fit. -/
theorem requireVersion_of_not_fits {raw : String} (hlongest : Longest 3 (strip raw) ns)
    (hgreat : ∃ n ∈ ns, ¬Fits n) : requireVersion raw = .error (.invalidVersion raw) := by
  obtain ⟨rfl, -⟩ := longest_iff.mp hlongest
  rw [requireVersion, parse?, if_pos ((any_maxNumber_lt _).mpr hgreat)]

/-- There is no version where there is no numeral. -/
theorem requireVersion_of_not_leads {raw : String} (hnone : ¬∃ ns, Longest 3 (strip raw) ns) :
    requireVersion raw = .error (.invalidVersion raw) := by
  have hnil : numerals 3 (strip raw) = [] := by
    by_contra hsome
    exact hnone ⟨_, longest_iff.mpr ⟨rfl, hsome⟩⟩
  rw [requireVersion, parse?, hnil]
  rfl

/-- Texts with the same numerals in front have the same version, if they have one. -/
theorem numbersOf?_congr {raw raw' : String} (hlongest : Longest 3 (strip raw) ns)
    (hlongest' : Longest 3 (strip raw') ns) :
    numbersOf? (requireVersion raw') = numbersOf? (requireVersion raw) := by
  by_cases hgreat : ∃ n ∈ ns, ¬Fits n
  · rw [requireVersion_of_not_fits hlongest' hgreat, requireVersion_of_not_fits hlongest hgreat]
    rfl
  · have hfit : ∀ n ∈ ns, Fits n := by simpa using hgreat
    rw [requireVersion_of_fits hlongest' hfit, requireVersion_of_fits hlongest hfit]
    rfl

/-- A version is read from the longest numerals in front of what is left of a text without blanks
and letters `v`.  There is none exactly where there are no such numerals, or one of them is too
great; and texts with the same numerals in front have the same version, whatever follows them. -/
theorem requireVersion_reads_longest (raw : String) :
    ∃ s, (∀ t, StrippedTo raw t ↔ t = s) ∧
      (requireVersion raw = .error (.invalidVersion raw) ↔
        (¬∃ ns, Longest 3 s ns) ∨ ∃ ns, Longest 3 s ns ∧ ∃ n ∈ ns, ¬Fits n) ∧
      (∀ ns, Longest 3 s ns → (∀ n ∈ ns, Fits n) → requireVersion raw = .ok (ofNumerals ns s)) ∧
      ∀ raw' s' ns, StrippedTo raw' s' → Longest 3 s ns → Longest 3 s' ns →
        numbersOf? (requireVersion raw') = numbersOf? (requireVersion raw) := by
  refine ⟨strip raw, fun t => strippedTo_iff, ⟨fun herror => ?_, ?_⟩,
    fun ns hlongest hfit => requireVersion_of_fits hlongest hfit, ?_⟩
  · by_cases hsome : ∃ ns, Longest 3 (strip raw) ns
    · obtain ⟨ns, hlongest⟩ := hsome
      refine .inr ⟨ns, hlongest, ?_⟩
      by_contra hfit
      rw [requireVersion_of_fits hlongest (by simpa using hfit)] at herror
      cases herror
    · exact .inl hsome
  · rintro (hnone | ⟨ns, hlongest, hgreat⟩)
    · exact requireVersion_of_not_leads hnone
    · exact requireVersion_of_not_fits hlongest hgreat
  · intro raw' s' ns hstripped hlongest hlongest'
    rw [strippedTo_iff.mp hstripped] at hlongest'
    exact numbersOf?_congr hlongest hlongest'

/-- Three numerals count with a suffix behind them as with a fourth numeral that is too great; a
first numeral that is too great does not go unnoticed. -/
theorem requireVersion_reads_longest_of_loose_texts :
    requireVersion "\t v2.20.007-rc.18446744073709551616\n" =
        .ok { major := 2, minor := 20, patch := 7, shown := "2.20.007-rc.18446744073709551616" } ∧
      numbersOf? (requireVersion "2.20.007.18446744073709551616") = some (2, 20, 7) ∧
      requireVersion "vv18446744073709551616.1" =
        .error (.invalidVersion "vv18446744073709551616.1") := by
  have hfit : ∀ n ∈ ["2".toList, "20".toList, "007".toList], Fits n := by decide +kernel
  have hlongest : ∀ raw, numerals 3 (strip raw) = ["2".toList, "20".toList, "007".toList] →
      Longest 3 (strip raw) ["2".toList, "20".toList, "007".toList] :=
    fun raw hread => longest_iff.mpr ⟨hread.symm, List.cons_ne_nil _ _⟩
  obtain ⟨s, hs, -, hread, hsame⟩ :=
    requireVersion_reads_longest "\t v2.20.007-rc.18446744073709551616\n"
  obtain ⟨t, ht, hrefused, -, -⟩ := requireVersion_reads_longest "vv18446744073709551616.1"
  obtain rfl := (hs _).mp (strippedTo_iff.mpr rfl)
  obtain rfl := (ht _).mp (strippedTo_iff.mpr rfl)
  have hshown := hread _ (hlongest _ (by decide +kernel)) hfit
  refine ⟨?_, ?_, ?_⟩
  · rw [hshown]
    exact congrArg Except.ok (by decide +kernel)
  · rw [hsame _ _ _ (strippedTo_iff.mpr rfl) (hlongest _ (by decide +kernel))
      (hlongest _ (by decide +kernel)), hshown]
    decide +kernel
  · exact hrefused.mpr (.inr ⟨_, longest_iff.mpr ⟨rfl, by decide +kernel⟩, by decide +kernel⟩)

end ContainerOps.Project.Version
