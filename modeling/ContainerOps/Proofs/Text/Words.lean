import ContainerOps.Text.Blank
import Mathlib.Data.List.DropRight

/-!
# Words and trimmed texts

A text is a row of words with blanks between and around them.  Trimming and cutting off the first
word are told here by what the text consists of, so that nobody has to look at how they go along
it.

Main results:

- `isTrimmed_iff`: a text is trimmed if neither its first nor its last character is blank.
- `trim_append_append` and `exists_trim`: trimming takes away the blanks around a trimmed text.
- `splitWord_append` and `exists_splitWord`: the first word stands between blanks.
- `after?_eq_some_iff`: what it means for a text to begin with another one.
-/

namespace ContainerOps.Text

/-! ## Kinds of text -/

/-- A text of nothing but blanks. -/
def IsBlankText (cs : List Char) : Prop :=
  ∀ c ∈ cs, isBlank c = true

/-- A word: a text that is not empty and has no blank. -/
def IsWord (cs : List Char) : Prop :=
  cs ≠ [] ∧ ∀ c ∈ cs, isBlank c = false

/-- A text with no blank at either end. -/
def IsTrimmed (cs : List Char) : Prop :=
  trim cs = cs

-- all characters of a text are looked at, and not all characters there are
instance (cs : List Char) : Decidable (IsBlankText cs) :=
  List.decidableBAll (isBlank · = true) cs

instance (cs : List Char) : Decidable (IsWord cs) :=
  @instDecidableAnd _ _ inferInstance (List.decidableBAll (isBlank · = false) cs)

instance (cs : List Char) : Decidable (IsTrimmed cs) :=
  inferInstanceAs (Decidable (trim cs = cs))

theorem isBlankText_append {cs ds : List Char} :
    IsBlankText (cs ++ ds) ↔ IsBlankText cs ∧ IsBlankText ds :=
  List.forall_mem_append

/-- A text that starts with a gap starts with a blank. -/
theorem IsBlankText.head?_append {gap : List Char} (blank : IsBlankText gap) (hne : gap ≠ [])
    (rest : List Char) : ∀ c ∈ (gap ++ rest).head?, isBlank c = true := by
  obtain ⟨c, cs, rfl⟩ := List.exists_cons_of_ne_nil hne
  intro d hd
  cases hd
  exact blank c List.mem_cons_self

/-- A text that starts with a word starts with no blank. -/
theorem IsWord.head?_append {word : List Char} (hword : IsWord word) (rest : List Char) :
    ∀ c ∈ (word ++ rest).head?, isBlank c = false := by
  obtain ⟨c, cs, rfl⟩ := List.exists_cons_of_ne_nil hword.1
  intro d hd
  cases hd
  exact hword.2 c List.mem_cons_self

/-- A text that ends with a word does not end with a blank. -/
theorem IsWord.not_isBlank_getLast? {word : List Char} (hword : IsWord word) (before : List Char) :
    ¬∀ c ∈ (before ++ word).getLast?, isBlank c = true := by
  rcases List.eq_nil_or_concat word with rfl | ⟨init, c, rfl⟩
  · exact absurd rfl hword.1
  · intro hblank
    have hc : isBlank c = true := hblank c (by simp)
    rw [hword.2 c (by simp)] at hc
    cases hc

/-- A text that starts neither with a blank nor with anything else is empty. -/
theorem eq_nil_of_head? {cs : List Char} (hblank : ∀ c ∈ cs.head?, isBlank c = true)
    (hnot : ∀ c ∈ cs.head?, isBlank c = false) : cs = [] := by
  cases cs with
  | nil => rfl
  | cons c cs =>
    have hc := hnot c rfl
    rw [hblank c rfl] at hc
    cases hc

/-- What comes between a blank and a word that follows it is not empty. -/
theorem IsWord.ne_nil_of_head? {gap word rest : List Char} (hword : IsWord word)
    (hhead : ∀ c ∈ (gap ++ (word ++ rest)).head?, isBlank c = true) : gap ≠ [] := by
  rintro rfl
  have hnil : word ++ rest = [] := eq_nil_of_head? hhead (hword.head?_append rest)
  exact hword.1 (List.append_eq_nil_iff.mp hnil).1

/-! ## The start of a text -/

/-- What is left of a list does not begin with an element that is dropped. -/
theorem head?_dropWhile {α : Type} (drops : α → Bool) (xs : List α) :
    ∀ x ∈ (xs.dropWhile drops).head?, drops x = false := by
  intro x hx
  have hnot := List.head?_dropWhile_not drops xs
  rw [show (xs.dropWhile drops).head? = some x from hx] at hnot
  simpa using hnot

/-- Trimming the start of a text that does not start with a blank changes nothing. -/
theorem trimStart_eq_self_iff {cs : List Char} :
    trimStart cs = cs ↔ ∀ c ∈ cs.head?, isBlank c = false := by
  cases cs with
  | nil => simp [trimStart]
  | cons c cs => simp [trimStart, List.dropWhile_eq_self_iff]

/-- A text is blanks and what is left when they are trimmed. -/
theorem exists_trimStart (cs : List Char) :
    ∃ before, IsBlankText before ∧ cs = before ++ trimStart cs :=
  ⟨cs.takeWhile isBlank, fun _ hc => List.mem_takeWhile_imp hc,
    List.takeWhile_append_dropWhile.symm⟩

/-- Nothing is left of a text of blanks only. -/
theorem trimStart_eq_nil_iff {cs : List Char} : trimStart cs = [] ↔ IsBlankText cs :=
  List.dropWhile_eq_nil_iff

/-- A text that was trimmed does not start with a blank. -/
theorem head?_trimStart (cs : List Char) : ∀ c ∈ (trimStart cs).head?, isBlank c = false :=
  head?_dropWhile isBlank cs

/-! ## The end of a text -/

/-- The last character of a text goes if it is blank. -/
theorem trimEnd_concat (cs : List Char) (c : Char) :
    trimEnd (cs ++ [c]) = if isBlank c then trimEnd cs else cs ++ [c] := by
  induction cs with
  | nil => simp [trimEnd]
  | cons d cs ih =>
    rw [List.cons_append, trimEnd, ih]
    cases hblank : isBlank c with
    | true => rfl
    | false => simp

/-- Trimming the end is dropping blanks from the right. -/
theorem trimEnd_eq_rdropWhile (cs : List Char) : trimEnd cs = cs.rdropWhile isBlank := by
  induction cs using List.reverseRecOn with
  | nil => rfl
  | append_singleton cs c ih => rw [trimEnd_concat, List.rdropWhile_concat, ih]

/-- Trimming the end of a text that does not end with a blank changes nothing. -/
theorem trimEnd_eq_self_iff {cs : List Char} :
    trimEnd cs = cs ↔ ∀ c ∈ cs.getLast?, isBlank c = false := by
  rcases List.eq_nil_or_concat cs with rfl | ⟨init, last, rfl⟩
  · simp [trimEnd]
  · simp [trimEnd_eq_rdropWhile]

/-- A text is what is left when the blanks at its end are trimmed, and these blanks. -/
theorem exists_trimEnd (cs : List Char) :
    ∃ after, IsBlankText after ∧ cs = trimEnd cs ++ after := by
  refine ⟨cs.rtakeWhile isBlank, fun c hc => List.mem_rtakeWhile_imp hc, ?_⟩
  rw [trimEnd_eq_rdropWhile, List.rdropWhile_append_rtakeWhile]

/-- Nothing is left of a text of blanks only. -/
theorem trimEnd_eq_nil_iff {cs : List Char} : trimEnd cs = [] ↔ IsBlankText cs := by
  rw [trimEnd_eq_rdropWhile, List.rdropWhile_eq_nil_iff]
  rfl

/-- Trimming the end twice is trimming it once. -/
theorem trimEnd_trimEnd (cs : List Char) : trimEnd (trimEnd cs) = trimEnd cs := by
  rw [trimEnd_eq_rdropWhile, trimEnd_eq_rdropWhile, List.rdropWhile_idempotent]

/-- Blanks behind a text do not change it when its end is trimmed. -/
theorem trimEnd_append_of_blank (cs : List Char) {after : List Char}
    (blank : IsBlankText after) : trimEnd (cs ++ after) = trimEnd cs := by
  induction after using List.reverseRecOn with
  | nil => rw [List.append_nil]
  | append_singleton after c ih =>
    rw [isBlankText_append] at blank
    have hc : isBlank c = true := blank.2 c List.mem_cons_self
    rw [← List.append_assoc, trimEnd_concat, if_pos hc, ih blank.1]

/-! ## Both ends -/

/-- A text is trimmed if neither its first nor its last character is blank. -/
theorem isTrimmed_iff {cs : List Char} :
    IsTrimmed cs ↔
      (∀ c ∈ cs.head?, isBlank c = false) ∧ ∀ c ∈ cs.getLast?, isBlank c = false := by
  rw [← trimStart_eq_self_iff, ← trimEnd_eq_self_iff]
  constructor
  · intro htrim
    have hsuffix : trimStart cs <:+ cs := List.dropWhile_suffix isBlank
    obtain ⟨after, _, happend⟩ := exists_trimEnd (trimStart cs)
    have hprefix : cs <+: trimStart cs := ⟨after, by rw [happend, ← trim, htrim]⟩
    have hstart : trimStart cs = cs :=
      hsuffix.eq_of_length_le hprefix.length_le
    exact ⟨hstart, by rw [IsTrimmed, trim, hstart] at htrim; exact htrim⟩
  · rintro ⟨hstart, hend⟩
    rw [IsTrimmed, trim, hstart, hend]

/-- Trimming leaves a trimmed text. -/
theorem isTrimmed_trim (cs : List Char) : IsTrimmed (trim cs) := by
  rw [isTrimmed_iff]
  constructor
  · obtain ⟨after, _, happend⟩ := exists_trimEnd (trimStart cs)
    intro c hc
    have hhead : c ∈ (trimStart cs).head? := by
      rw [happend, List.head?_append, show (trimEnd (trimStart cs)).head? = some c from hc]
      rfl
    exact head?_trimStart cs c hhead
  · exact trimEnd_eq_self_iff.mp (trimEnd_trimEnd (trimStart cs))

/-- A word has no blank at either end. -/
theorem IsWord.isTrimmed {word : List Char} (hword : IsWord word) : IsTrimmed word :=
  isTrimmed_iff.mpr ⟨fun c hc => hword.2 c (List.mem_of_mem_head? hc),
    fun c hc => hword.2 c (List.mem_of_mem_getLast? hc)⟩

/-- Nothing is left of a text of blanks only. -/
theorem trim_eq_nil_iff {cs : List Char} : trim cs = [] ↔ IsBlankText cs := by
  constructor
  · intro hnil
    obtain ⟨before, hbefore, happend⟩ := exists_trimStart cs
    rw [happend, isBlankText_append]
    exact ⟨hbefore, trimEnd_eq_nil_iff.mp hnil⟩
  · intro hblank
    rw [trim, trimStart_eq_nil_iff.mpr hblank]
    rfl

/-- Trimming takes away the blanks around a trimmed text. -/
theorem trim_append_append {before cs after : List Char} (hbefore : IsBlankText before)
    (hcs : IsTrimmed cs) (hafter : IsBlankText after) : trim (before ++ (cs ++ after)) = cs := by
  rw [trim, trimStart_append_of_blank hbefore]
  by_cases hnil : cs = []
  · rw [hnil, List.nil_append, trimStart_eq_nil_iff.mpr hafter]
    rfl
  · obtain ⟨hhead, hlast⟩ := isTrimmed_iff.mp hcs
    have hstart : trimStart (cs ++ after) = cs ++ after := by
      rw [trimStart_eq_self_iff, List.head?_append_of_ne_nil cs hnil]
      exact hhead
    rw [hstart, trimEnd_append_of_blank cs hafter, trimEnd_eq_self_iff.mpr hlast]

/-- A text is what is left when it is trimmed, with blanks around it. -/
theorem exists_trim (cs : List Char) :
    ∃ before after, IsBlankText before ∧ IsBlankText after ∧
      cs = before ++ (trim cs ++ after) := by
  obtain ⟨before, hbefore, hstart⟩ := exists_trimStart cs
  obtain ⟨after, hafter, hend⟩ := exists_trimEnd (trimStart cs)
  exact ⟨before, after, hbefore, hafter, by rw [trim, ← hend, ← hstart]⟩

/-- The characters that are left of a text when it is trimmed are some of its own. -/
theorem mem_of_mem_trim {cs : List Char} {c : Char} (hc : c ∈ trim cs) : c ∈ cs := by
  obtain ⟨before, after, _, _, happend⟩ := exists_trim cs
  rw [happend]
  exact List.mem_append_right before (List.mem_append_left after hc)

/-- Blanks around a text do not change its trimmed form. -/
theorem trim_surrounded {before after : List Char} (hbefore : IsBlankText before)
    (hafter : IsBlankText after) (cs : List Char) : trim (before ++ (cs ++ after)) = trim cs := by
  obtain ⟨lead, trail, hlead, htrail, hcs⟩ := exists_trim cs
  have happend : before ++ (cs ++ after) = (before ++ lead) ++ (trim cs ++ (trail ++ after)) := by
    conv_lhs => rw [hcs]
    simp only [List.append_assoc]
  rw [happend]
  exact trim_append_append (isBlankText_append.mpr ⟨hbefore, hlead⟩) (isTrimmed_trim cs)
    (isBlankText_append.mpr ⟨htrail, hafter⟩)

/-! ## The first word -/

/-- The first word of a text stands between the blanks in front of it and those behind it. -/
theorem splitWord_append {before word rest : List Char} (hbefore : IsBlankText before)
    (hword : IsWord word) (hrest : ∀ c ∈ rest.head?, isBlank c = true) :
    splitWord (before ++ (word ++ rest)) = (word, rest) := by
  have hstart : trimStart (before ++ (word ++ rest)) = word ++ rest := by
    rw [trimStart_append_of_blank hbefore, trimStart_eq_self_iff]
    exact hword.head?_append rest
  have hletters : ∀ c ∈ word, (!isBlank c) = true := fun c hc => by simp [hword.2 c hc]
  unfold splitWord
  rw [hstart, List.takeWhile_append_of_pos hletters, List.dropWhile_append_of_pos hletters]
  cases rest with
  | nil => simp
  | cons c rest =>
    have hc : isBlank c = true := hrest c rfl
    simp [hc]

/-- A text is its first word and the rest, behind some blanks. -/
theorem exists_splitWord (cs : List Char) :
    ∃ before, IsBlankText before ∧ cs = before ++ ((splitWord cs).1 ++ (splitWord cs).2) ∧
      (∀ c ∈ (splitWord cs).1, isBlank c = false) ∧
      ∀ c ∈ (splitWord cs).2.head?, isBlank c = true := by
  obtain ⟨before, hbefore, happend⟩ := exists_trimStart cs
  refine ⟨before, hbefore, ?_, fun c hc => ?_, fun c hc => ?_⟩
  · unfold splitWord
    rw [List.takeWhile_append_dropWhile, ← happend]
  · simpa using List.mem_takeWhile_imp hc
  · simpa using head?_dropWhile (fun c => !isBlank c) (trimStart cs) c hc

/-- Nothing follows the first word of a text that has none. -/
theorem splitWord_snd_of_fst {cs : List Char} (hfst : (splitWord cs).1 = []) :
    (splitWord cs).2 = [] := by
  obtain ⟨_, _, _, _, hhead⟩ := exists_splitWord cs
  have happend : (splitWord cs).1 ++ (splitWord cs).2 = trimStart cs :=
    List.takeWhile_append_dropWhile
  rw [hfst, List.nil_append] at happend
  exact eq_nil_of_head? hhead (happend ▸ head?_trimStart cs)

/-! ## Beginnings -/

/-- What follows a beginning makes up the text together with it. -/
theorem after?_eq_some_iff {lead cs rest : List Char} :
    after? lead cs = some rest ↔ cs = lead ++ rest := by
  induction lead generalizing cs with
  | nil => simp [after?, eq_comm]
  | cons l lead ih =>
    cases cs with
    | nil => simp [after?]
    | cons c cs =>
      by_cases hlc : l = c
      · simp [after?, hlc, ih]
      · simp [after?, hlc, Ne.symm hlc]

end ContainerOps.Text
