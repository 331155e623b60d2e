import ContainerOps.Proofs.Project.VersionReading
import Mathlib.Data.Prod.Lex

/-!
# The order of versions

Versions are compared by their three numbers and by nothing else of their texts: not by a suffix, by
letters `v` in front, by leading zeros or by whether a number was left out.  What is shown of a
version is read back as that version.  The version of a plugin is refused where its numbers are
below those of the least version that will do.

Main results:

- `hasNumbers_iff`: which numbers a text is accepted with.
- `requireVersion_shown`: what is shown of a version is read back.
- `requireVersion_of`: so is what is shown of three numbers.
- `order_eq_compare`: versions compare as their numbers do, the first difference being decisive.
- `eq_iff_triple`: versions are equal where their numbers are.
- `triple_eq_iff`: which texts are accepted with equal numbers.
- `order_and_gate_coherent`: all of it together, and what it means for opening a project.
-/

namespace ContainerOps.Project.Version

open ContainerOps.Text

variable {raw : String} {s n m : List Char} {ns ms : List (List Char)} {v w : Version}

/-! ## Numbers of a text -/

/-- The numbers of a version, in the order in which they decide. -/
def triple (v : Version) : ℕ ×ₗ ℕ ×ₗ ℕ :=
  toLex (v.major, toLex (v.minor, v.patch))

/-- A numeral by its position; the empty one where there is none. -/
def numeralAt (ns : List (List Char)) (i : Nat) : List Char :=
  ns.getD i []

/-- A text is accepted with some numerals: the longest in front of what is left of it without blanks
and letters `v`, all of which fit. -/
def HasNumerals (raw : String) (ns : List (List Char)) : Prop :=
  ∃ s, StrippedTo raw s ∧ Longest 3 s ns ∧ ∀ n ∈ ns, Fits n

/-- A text is accepted with three numbers: those of its numerals, and zero for one that is left
out. -/
def HasNumbers (raw : String) (numbers : ℕ ×ₗ ℕ ×ₗ ℕ) : Prop :=
  ∃ ns, HasNumerals raw ns ∧ numbers =
    toLex (value (numeralAt ns 0), toLex (value (numeralAt ns 1), value (numeralAt ns 2)))

/-- A numeral that is missing stands for zero. -/
theorem getD_map_value (ns : List (List Char)) (i : Nat) :
    (ns.map value).getD i 0 = value (numeralAt ns i) := by
  rw [numeralAt, List.getD_eq_getElem?_getD, List.getD_eq_getElem?_getD, List.getElem?_map]
  cases ns[i]? <;> rfl

/-- The numbers of the version with some numerals. -/
theorem triple_ofNumerals (ns : List (List Char)) (s : List Char) :
    (ofNumerals ns s).triple = toLex (value (numeralAt ns 0),
      toLex (value (numeralAt ns 1), value (numeralAt ns 2))) := by
  simp only [triple, ofNumerals, getD_map_value]

/-- A version that is read is that of the numerals that the text is accepted with. -/
theorem requireVersion_eq_ok_iff :
    requireVersion raw = .ok v ↔ ∃ ns, HasNumerals raw ns ∧ v = ofNumerals ns (strip raw) := by
  constructor
  · intro hread
    by_cases hsome : ∃ ns, Longest 3 (strip raw) ns
    · obtain ⟨ns, hlongest⟩ := hsome
      by_cases hfit : ∀ n ∈ ns, Fits n
      · rw [requireVersion_of_fits hlongest hfit, Except.ok.injEq] at hread
        exact ⟨ns, ⟨_, strippedTo_iff.mpr rfl, hlongest, hfit⟩, hread.symm⟩
      · rw [requireVersion_of_not_fits hlongest (by simpa using hfit)] at hread
        cases hread
    · rw [requireVersion_of_not_leads hsome] at hread
      cases hread
  · rintro ⟨ns, ⟨s, hstripped, hlongest, hfit⟩, rfl⟩
    obtain rfl := strippedTo_iff.mp hstripped
    exact requireVersion_of_fits hlongest hfit

/-- A text is accepted with the numbers of the version that is read. -/
theorem hasNumbers_iff {numbers : ℕ ×ₗ ℕ ×ₗ ℕ} :
    HasNumbers raw numbers ↔ ∃ v, requireVersion raw = .ok v ∧ v.triple = numbers := by
  constructor
  · rintro ⟨ns, hnumerals, rfl⟩
    exact ⟨_, requireVersion_eq_ok_iff.mpr ⟨ns, hnumerals, rfl⟩, triple_ofNumerals ns _⟩
  · rintro ⟨v, hread, rfl⟩
    obtain ⟨ns, hnumerals, rfl⟩ := requireVersion_eq_ok_iff.mp hread
    exact ⟨ns, hnumerals, triple_ofNumerals ns _⟩

/-- What is left of an accepted text is led by its numerals. -/
theorem HasNumerals.leads (hnumerals : HasNumerals raw ns) : Leads 3 (strip raw) ns := by
  obtain ⟨s, hstripped, hlongest, -⟩ := hnumerals
  exact strippedTo_iff.mp hstripped ▸ hlongest.toLeads

/-! ## Reading what is shown -/

/-- A text without blanks around it and without a letter `v` in front is left as it is. -/
theorem strip_ofList (htrimmed : IsTrimmed s) (hhead : ∀ c ∈ s.head?, c ≠ 'v') :
    strip (String.ofList s) = s := by
  refine (strippedTo_iff.mp ⟨[], [], [], ?_, ?_, htrimmed, ?_, ?_, hhead⟩).symm
  · simp
  · exact List.forall_mem_nil _
  · exact List.forall_mem_nil _
  · exact List.forall_mem_nil _

/-- A digit is neither blank nor a letter `v`. -/
theorem not_isBlank_of_isDigit {c : Char} (hc : isDigit c = true) :
    isBlank c = false ∧ c ≠ 'v' := by
  have hrange : 48 ≤ c.toNat ∧ c.toNat ≤ 57 := by
    simpa [isDigit, Char.le_def, UInt32.le_iff_toNat_le] using hc
  constructor
  · simp only [isBlank]
    simp
    omega
  · rintro rfl
    exact absurd hrange (by decide)

/-- What numerals lead begins with a digit. -/
theorem Leads.head?_isDigit {count : Nat} (hleads : Leads count s ns) :
    s ≠ [] ∧ ∀ c ∈ s.head?, isDigit c = true := by
  rcases stops_or_numeral s with hstops | ⟨n, rest, hn, -, rfl⟩
  · exact absurd hleads (not_leads_of_stops hstops)
  · obtain ⟨c, n, rfl⟩ := List.exists_cons_of_ne_nil hn.1
    refine ⟨List.cons_ne_nil c _, fun d hd => ?_⟩
    cases hd
    exact hn.2 c List.mem_cons_self

/-- What is left of an accepted text has no blanks around it. -/
theorem isTrimmed_strip (hnumerals : HasNumerals raw ns) : IsTrimmed (strip raw) := by
  obtain ⟨hne, hdigit⟩ := hnumerals.leads.head?_isDigit
  obtain ⟨letters, hletters⟩ : strip raw <:+ trim raw.toList := List.dropWhile_suffix _
  have hlast : (trim raw.toList).getLast? = (strip raw).getLast? := by
    rw [← hletters, List.getLast?_append_of_ne_nil _ hne]
  refine isTrimmed_iff.mpr ⟨fun c hc => (not_isBlank_of_isDigit (hdigit c hc)).1, fun c hc => ?_⟩
  exact (isTrimmed_iff.mp (isTrimmed_trim raw.toList)).2 c (hlast ▸ hc)

/-- What is shown of a version that was read is read back as that version. -/
theorem requireVersion_shown (hread : requireVersion raw = .ok v) :
    requireVersion v.shown = .ok v := by
  obtain ⟨ns, hnumerals, rfl⟩ := requireVersion_eq_ok_iff.mp hread
  have hdigit := hnumerals.leads.head?_isDigit.2
  have hstrip : strip (ofNumerals ns (strip raw)).shown = strip raw :=
    strip_ofList (isTrimmed_strip hnumerals) fun c hc => (not_isBlank_of_isDigit (hdigit c hc)).2
  obtain ⟨s, hstripped, hlongest⟩ := hnumerals
  obtain rfl := strippedTo_iff.mp hstripped
  rw [requireVersion_eq_ok_iff, hstrip]
  exact ⟨ns, ⟨_, strippedTo_iff.mpr hstrip.symm, hlongest⟩, rfl⟩

/-- The digits of a number are a numeral. -/
theorem isNumeral_toString (n : Nat) : IsNumeral (toString n).toList := by
  simp only [Nat.toString_eq_repr, Nat.toList_repr]
  exact ⟨Nat.toDigits_ne_nil, fun c hc => Nat.isDigit_of_mem_toDigits (by decide) (by decide) hc⟩

/-- The digits of a number stand for it. -/
theorem value_toString (n : Nat) : value (toString n).toList = n := by
  have hfold : numberOf (Nat.toDigits 10 n) = Nat.ofDigitChars 10 (Nat.toDigits 10 n) 0 := by
    simp only [numberOf, Nat.ofDigitChars, Nat.mul_comm]
    rfl
  rw [← numberOf_eq_value, Nat.toString_eq_repr, Nat.toList_repr, hfold,
    Nat.ofDigitChars_ten_toDigits]

/-- The numerals that are shown of three numbers. -/
theorem numerals_shown_of (a b c : Nat) :
    numerals 3 (of a b c).shown.toList =
      [(toString a).toList, (toString b).toList, (toString c).toList] := by
  have hshown : (of a b c).shown.toList = (toString a).toList ++
      '.' :: ((toString b).toList ++ '.' :: ((toString c).toList ++ [])) := by
    simp [of]
  rw [hshown, numerals_append_point _ (isNumeral_toString a),
    numerals_append_point _ (isNumeral_toString b),
    numerals_append_of_ne_point _ (isNumeral_toString c) (by simp [Stops]) (by simp)]

/-- What is shown of three numbers that fit is read back. -/
theorem requireVersion_of {a b c : Nat} (ha : a < 2 ^ 64) (hb : b < 2 ^ 64) (hc : c < 2 ^ 64) :
    requireVersion (of a b c).shown = .ok (of a b c) := by
  have hlongest : Longest 3 (of a b c).shown.toList
      [(toString a).toList, (toString b).toList, (toString c).toList] :=
    longest_iff.mpr ⟨(numerals_shown_of a b c).symm, List.cons_ne_nil _ _⟩
  have hfit : ∀ n ∈ [(toString a).toList, (toString b).toList, (toString c).toList], Fits n := by
    simp only [List.forall_mem_cons, List.not_mem_nil, false_implies, implies_true, and_true,
      Fits, value_toString]
    omega
  have hdigit := hlongest.toLeads.head?_isDigit.2
  have hlast : (of a b c).shown.toList.getLast? = (toString c).toList.getLast? := by
    have hshown : (of a b c).shown.toList =
        ((toString a).toList ++ '.' :: ((toString b).toList ++ ['.'])) ++ (toString c).toList := by
      simp [of]
    rw [hshown, List.getLast?_append_of_ne_nil _ (isNumeral_toString c).1]
  have htrimmed : IsTrimmed (of a b c).shown.toList :=
    isTrimmed_iff.mpr ⟨fun d hd => (not_isBlank_of_isDigit (hdigit d hd)).1, fun d hd =>
      (not_isBlank_of_isDigit
        ((isNumeral_toString c).2 d (List.mem_of_mem_getLast? (hlast ▸ hd)))).1⟩
  have hstrip := strip_ofList htrimmed fun d hd => (not_isBlank_of_isDigit (hdigit d hd)).2
  rw [String.ofList_toList] at hstrip
  rw [requireVersion_of_fits (hstrip.symm ▸ hlongest) hfit, hstrip, Except.ok.injEq]
  simp only [ofNumerals, List.map_cons, value_toString, String.ofList_toList]
  rfl

/-! ## Comparing -/

/-- Versions compare as their numbers do, the first difference being decisive. -/
theorem order_eq_compare (v w : Version) : v.order w = compare v.triple w.triple := by
  simp [order, triple, Prod.Lex.compare_def, compareLex, compareOn, Ordering.then_assoc]

/-- Versions are equal where their numbers are. -/
theorem eq_iff_triple (v w : Version) : v.eq w = true ↔ v.triple = w.triple := by
  rw [← order_eq_iff, order_eq_compare, compare_eq_iff_eq]

/-- A version comes before another if its numbers are below. -/
theorem before_iff (v w : Version) : v.before w = true ↔ v.triple < w.triple := by
  rw [before, beq_iff_eq, order_eq_compare, compare_lt_iff_lt]

/-- A version has at least some numbers if they do not come behind its own. -/
theorem atLeast_iff_order (v : Version) (a b c : Nat) :
    v.atLeast a b c = true ↔ (of a b c).order v ≠ .gt := by
  rw [atLeast_iff, ← Bool.not_eq_true, before_iff, order_eq_compare, not_lt, compare_le_iff_le]

/-- The digits of a numeral from its first one that is not zero. -/
def significant (n : List Char) : List Char :=
  n.dropWhile (· == '0')

/-- Leading zeros do not change what a numeral stands for. -/
theorem value_significant (n : List Char) : value (significant n) = value n := by
  induction n with
  | nil => rfl
  | cons c n ih =>
    by_cases hc : c = '0'
    · rw [significant, List.dropWhile_cons_of_pos (by simpa using hc), ← significant, ih,
        ← numberOf_eq_value, ← numberOf_eq_value, hc]
      rfl
    · rw [significant, List.dropWhile_cons_of_neg (by simpa using hc)]

/-- The value of a decimal digit, from which the digit can be told. -/
theorem digit_bounds {c : Char} (hc : isDigit c = true) :
    c.toNat - '0'.toNat < 10 ∧ Char.ofNat (c.toNat - '0'.toNat + '0'.toNat) = c := by
  have hrange : '0'.toNat ≤ c.toNat ∧ c.toNat ≤ '9'.toNat := by
    simpa [isDigit, Char.le_def, UInt32.le_iff_toNat_le] using hc
  have hten : '9'.toNat - '0'.toNat < 10 := by decide
  exact ⟨by omega, by rw [Nat.sub_add_cancel hrange.1, Char.ofNat_toNat]⟩

/-- The decimal digits of the number that a numeral without leading zeros stands for. -/
theorem digits_value (hdigits : ∀ c ∈ n, isDigit c = true) (hhead : ∀ c ∈ n.head?, c ≠ '0') :
    Nat.digits 10 (value n) = (n.map fun c => c.toNat - '0'.toNat).reverse := by
  refine Nat.digits_ofDigits 10 (by decide) _ (fun d hd => ?_) fun hne => ?_
  · obtain ⟨c, hc, rfl⟩ := List.mem_map.mp (List.mem_reverse.mp hd)
    exact (digit_bounds (hdigits c hc)).1
  · rw [List.getLast_reverse]
    cases n with
    | nil => exact absurd rfl hne
    | cons c n =>
      intro hzero
      have hc := (digit_bounds (hdigits c List.mem_cons_self)).2
      simp only [List.map_cons, List.head_cons] at hzero
      rw [hzero] at hc
      exact hhead c rfl hc.symm

/-- Digits stand for the same number exactly if they agree from the first that is not zero. -/
theorem value_eq_iff (hn : ∀ c ∈ n, isDigit c = true) (hm : ∀ c ∈ m, isDigit c = true) :
    value n = value m ↔ significant n = significant m := by
  constructor
  · intro heq
    have hdigits : ∀ k : List Char, (∀ c ∈ k, isDigit c = true) →
        ∀ c ∈ significant k, isDigit c = true :=
      fun k hk c hc => hk c ((List.dropWhile_sublist _).subset hc)
    have hhead : ∀ k : List Char, ∀ c ∈ (significant k).head?, c ≠ '0' := by
      intro k c hc
      simpa using head?_dropWhile (· == '0') k c hc
    -- the digits can be told from their values
    have hback : ∀ k : List Char, (∀ c ∈ k, isDigit c = true) →
        (k.map fun c => c.toNat - '0'.toNat).map (fun d => Char.ofNat (d + '0'.toNat)) = k := by
      intro k hk
      rw [List.map_map]
      exact (List.map_congr_left fun c hc => (digit_bounds (hk c hc)).2).trans (List.map_id k)
    rw [← value_significant n, ← value_significant m] at heq
    have hlists := congrArg (Nat.digits 10) heq
    rw [digits_value (hdigits n hn) (hhead n), digits_value (hdigits m hm) (hhead m),
      List.reverse_inj] at hlists
    rw [← hback _ (hdigits n hn), ← hback _ (hdigits m hm), hlists]
  · intro heq
    rw [← value_significant n, ← value_significant m, heq]

/-- A numeral at a position consists of digits. -/
theorem isDigit_of_mem_numeralAt {count i : Nat} (hleads : Leads count s ns) :
    ∀ c ∈ numeralAt ns i, isDigit c = true := by
  intro c hc
  rw [numeralAt, List.getD_eq_getElem?_getD] at hc
  cases hn : ns[i]? with
  | none => simp [hn] at hc
  | some n =>
    rw [hn] at hc
    exact (hleads.numeral n (List.mem_of_getElem? hn)).2 c hc

/-- Two texts are accepted with equal numbers exactly if their numerals agree from the first digit
that is not zero, a numeral that is missing counting as empty. -/
theorem triple_eq_iff {s' : List Char} (hns : Leads 3 s ns) (hms : Leads 3 s' ms) :
    (ofNumerals ns s).triple = (ofNumerals ms s').triple ↔
      ∀ i < 3, significant (numeralAt ns i) = significant (numeralAt ms i) := by
  have hvalue : ∀ i, value (numeralAt ns i) = value (numeralAt ms i) ↔
      significant (numeralAt ns i) = significant (numeralAt ms i) := fun i =>
    value_eq_iff (isDigit_of_mem_numeralAt hns) (isDigit_of_mem_numeralAt hms)
  simp only [triple_ofNumerals, EmbeddingLike.apply_eq_iff_eq, Prod.mk.injEq, hvalue]
  constructor
  · rintro ⟨h0, h1, h2⟩ i hi
    obtain rfl | rfl | rfl : i = 0 ∨ i = 1 ∨ i = 2 := by omega
    · exact h0
    · exact h1
    · exact h2
  · intro h
    exact ⟨h 0 (by decide), h 1 (by decide), h 2 (by decide)⟩

/-! ## The gate -/

section Gate

variable {settings : Settings} {tree : World.FileTree} {current : World.Location}
  {fromEnvironment : Option String} {x binary cli shown required : String}
  {least : ℕ ×ₗ ℕ ×ₗ ℕ}

/-- A known version is refused if it comes before the least version. -/
theorem checkVersion_of_read (hversion : settings.composeVersion = some x)
    (hx : requireVersion x = .ok v) (hleast : requireVersion settings.minVersion = .ok w) :
    settings.checkVersion binary =
      if v.before w then .error (.unsupportedVersion binary v.shown w.shown) else .ok v := by
  simp only [Settings.checkVersion, hversion, hx, hleast, bind, Except.bind]

/-- A text that is no version is named as the culprit. -/
theorem requireVersion_eq_error {e : Error} (hx : requireVersion x = .error e) :
    e = .invalidVersion x := by
  unfold requireVersion at hx
  split at hx
  · cases hx
  · cases hx
    rfl

/-- The directory is not to blame for a version. -/
theorem checkDirectory_ne_unsupported :
    settings.checkDirectory tree current ≠ .error (.unsupportedVersion cli shown required) := by
  unfold Settings.checkDirectory
  split
  · nofun
  · split <;> nofun

/-- A project is not opened for its version if the check of the version says so. -/
theorem toProject_unsupported_iff :
    settings.toProject tree current fromEnvironment =
        .error (.unsupportedVersion cli shown required) ↔
      settings.checkVersion (pickBinary settings.binary fromEnvironment) =
        .error (.unsupportedVersion cli shown required) := by
  rw [Settings.toProject_eq_error_iff]
  exact or_iff_left fun hdirectory => checkDirectory_ne_unsupported hdirectory.2

/-- The version of a plugin is refused where its numbers are below those of the least version. -/
theorem unsupported_iff (hversion : settings.composeVersion = some x)
    (hleast : HasNumbers settings.minVersion least) :
    (∃ cli shown required, settings.toProject tree current fromEnvironment =
      .error (.unsupportedVersion cli shown required)) ↔
      ∃ numbers, HasNumbers x numbers ∧ numbers < least := by
  obtain ⟨w, hw, rfl⟩ := hasNumbers_iff.mp hleast
  simp only [toProject_unsupported_iff, hasNumbers_iff]
  cases hx : requireVersion x with
  | error e =>
    obtain rfl := requireVersion_eq_error hx
    simp [Settings.checkVersion, hversion, hx, bind, Except.bind]
  | ok v =>
    simp only [checkVersion_of_read hversion hx hw, Except.ok.injEq]
    by_cases hbefore : v.before w = true
    · have hlt := (before_iff v w).mp hbefore
      simp [hbefore, hlt]
    · have hnot := mt (before_iff v w).mpr hbefore
      simp [hbefore, hnot]

end Gate

/-- What is shown of a version, read from a text or made of three numbers, is read back.  Texts are
accepted with the numbers of their numerals.  Versions compare by these numbers, the first
difference being decisive, and are equal where the numerals agree but for leading zeros, whatever
else is in the texts; `at least` compares in the same way.  So the version of a plugin is refused
exactly where its numbers are below those of the least version that will do. -/
theorem order_and_gate_coherent :
    (∀ a b c, a < 2 ^ 64 → b < 2 ^ 64 → c < 2 ^ 64 →
      requireVersion (of a b c).shown = .ok (of a b c)) ∧
    (∀ raw v, requireVersion raw = .ok v → requireVersion v.shown = .ok v) ∧
    (∀ raw numbers, HasNumbers raw numbers ↔
      ∃ v, requireVersion raw = .ok v ∧ v.triple = numbers) ∧
    (∀ x y v w, requireVersion x = .ok v → requireVersion y = .ok w →
      v.order w = compare v.triple w.triple ∧
      (v.before w = true ↔ v.triple < w.triple) ∧
      (v.order w = .eq ↔ v.triple = w.triple) ∧
      (v.eq w = true ↔ v.triple = w.triple) ∧
      ∃ ns ms, HasNumerals x ns ∧ HasNumerals y ms ∧
        (v.eq w = true ↔ ∀ i < 3, significant (numeralAt ns i) = significant (numeralAt ms i))) ∧
    (∀ x v a b c, requireVersion x = .ok v →
      (v.atLeast a b c = true ↔ (of a b c).order v ≠ .gt)) ∧
    ∀ (settings : Settings) (tree : World.FileTree) (current : World.Location)
      (fromEnvironment : Option String) (x : String) (least : ℕ ×ₗ ℕ ×ₗ ℕ),
      settings.composeVersion = some x → HasNumbers settings.minVersion least →
      ((∃ cli shown required, settings.toProject tree current fromEnvironment =
          .error (.unsupportedVersion cli shown required)) ↔
        ∃ numbers, HasNumbers x numbers ∧ numbers < least) := by
  refine ⟨fun a b c => requireVersion_of, fun raw v => requireVersion_shown,
    fun raw numbers => hasNumbers_iff, ?_, fun x v a b c _ => atLeast_iff_order v a b c,
    fun settings tree current fromEnvironment x least => unsupported_iff⟩
  intro x y v w hx hy
  obtain ⟨ns, hns, hv⟩ := requireVersion_eq_ok_iff.mp hx
  obtain ⟨ms, hms, hw⟩ := requireVersion_eq_ok_iff.mp hy
  refine ⟨order_eq_compare v w, before_iff v w, (order_eq_iff v w).trans (eq_iff_triple v w),
    eq_iff_triple v w, ns, ms, hns, hms, ?_⟩
  rw [eq_iff_triple, hv, hw, triple_eq_iff hns.leads hms.leads]

/-- The greatest numbers are read back.  Of two loose texts the first is below the second, as nine
is below eighteen, and both are read back from what is shown; other two are equal but for their
texts.  A plugin of the first version is refused where the second is asked for. -/
theorem order_and_gate_coherent_of_loose_texts :
    requireVersion "18446744073709551615.0.7" = .ok (of 18446744073709551615 0 7) ∧
      (∃ v w, requireVersion "\tv2.9.1\n" = .ok v ∧ requireVersion "2.18-desktop" = .ok w ∧
        requireVersion v.shown = .ok v ∧ requireVersion w.shown = .ok w ∧ v.order w = .lt ∧
        w.atLeast 2 18 0 = true) ∧
      (∃ v w, requireVersion "vv2.020" = .ok v ∧ requireVersion "2.20.0-rc.1" = .ok w ∧
        v.order w = .eq ∧ v.eq w = true ∧ v.shown ≠ w.shown) ∧
      ∃ settings : Settings, settings.composeVersion = some "\tv2.9.1\n" ∧
        settings.minVersion = "2.18-desktop" ∧
        ∃ cli shown required, settings.toProject { entries := [] } [] none =
          .error (.unsupportedVersion cli shown required) := by
  obtain ⟨hof, hshown, hnumbers, horder, hatLeast, hgate⟩ := order_and_gate_coherent
  obtain ⟨v, hv, hvNumbers⟩ : ∃ v, requireVersion "\tv2.9.1\n" = .ok v ∧
      v.triple = toLex (2, toLex (9, 1)) := ⟨_, rfl, rfl⟩
  obtain ⟨w, hw, hwNumbers⟩ : ∃ w, requireVersion "2.18-desktop" = .ok w ∧
      w.triple = toLex (2, toLex (18, 0)) := ⟨_, rfl, rfl⟩
  have hmax : (of 18446744073709551615 0 7).shown = "18446744073709551615.0.7" := by
    decide +kernel
  have hlt : v.triple < w.triple := by
    rw [hvNumbers, hwNumbers]
    decide
  refine ⟨hmax ▸ hof _ _ _ (by decide) (by decide) (by decide),
    ⟨v, w, hv, hw, hshown _ _ hv, hshown _ _ hw, ?_, ?_⟩, ?_, ?_⟩
  · rw [(horder _ _ v w hv hw).1, compare_lt_iff_lt.mpr hlt]
  · have hread := hof 2 18 0 (by decide) (by decide) (by decide)
    rw [hatLeast _ _ _ _ _ hw, (horder _ _ _ _ hread hw).1, hwNumbers]
    decide
  · obtain ⟨v, hv, hvNumbers⟩ : ∃ v, requireVersion "vv2.020" = .ok v ∧
        v.triple = toLex (2, toLex (20, 0)) ∧ v.shown = "2.020" := ⟨_, rfl, rfl, rfl⟩
    obtain ⟨w, hw, hwNumbers⟩ : ∃ w, requireVersion "2.20.0-rc.1" = .ok w ∧
        w.triple = toLex (2, toLex (20, 0)) ∧ w.shown = "2.20.0-rc.1" := ⟨_, rfl, rfl, rfl⟩
    have htriple : v.triple = w.triple := by rw [hvNumbers.1, hwNumbers.1]
    obtain ⟨-, -, horderEq, heq, -⟩ := horder _ _ v w hv hw
    refine ⟨v, w, hv, hw, horderEq.mpr htriple, heq.mpr htriple, ?_⟩
    rw [hvNumbers.2, hwNumbers.2]
    decide
  · refine ⟨{ Settings.of "/srv" with
      composeVersion := some "\tv2.9.1\n", minVersion := "2.18-desktop" }, rfl, rfl, ?_⟩
    exact (hgate _ _ _ _ _ w.triple rfl ((hnumbers _ _).mpr ⟨w, hw, rfl⟩)).mpr
      ⟨v.triple, (hnumbers _ _).mpr ⟨v, hv, rfl⟩, hlt⟩

end ContainerOps.Project.Version
