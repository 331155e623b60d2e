import ContainerOps.Proofs.Text.Pieces
import ContainerOps.Proofs.Text.Words

/-!
# The words of a text

The words of a text are its longest runs of characters that are not blank.  They are what is left
between the blanks, so blanks around a text never matter to them, and two texts with a blank between
them have the words of both.

Main results:

- `words_append`: the words of two texts with a blank between them.
- `words_eq_cons_iff`: the first word stands between blanks, and the other words come after it.
- `words_trim`: trimming keeps the words.
-/

namespace ContainerOps.Text

/-! ## Words -/

/-- The longest runs of characters that are not blank, in their order. -/
def words (cs : List Char) : List (List Char) :=
  (pieces isBlank cs).filter fun piece => !piece.isEmpty

/-- The words of a string. -/
def wordsOf (s : String) : List String :=
  (words s.toList).map String.ofList

/-- The words on both sides of a blank. -/
theorem words_append_cons {c : Char} (hc : isBlank c = true) (before after : List Char) :
    words (before ++ c :: after) = words before ++ words after := by
  rw [words, pieces_append_cons hc, List.filter_append]
  rfl

/-- Blanks in front of a text are in none of its words. -/
theorem words_blank_append {blank : List Char} (hblank : IsBlankText blank) (cs : List Char) :
    words (blank ++ cs) = words cs := by
  induction blank with
  | nil => rfl
  | cons c blank ih =>
    obtain ⟨hc, hrest⟩ := List.forall_mem_cons.mp hblank
    exact (words_append_cons hc [] (blank ++ cs)).trans (ih hrest)

/-- A text of blanks has no words. -/
theorem words_of_blank {blank : List Char} (hblank : IsBlankText blank) : words blank = [] := by
  rw [← List.append_nil blank, words_blank_append hblank]
  rfl

/-- A word is the only one of itself. -/
theorem words_of_isWord {word : List Char} (hword : IsWord word) : words word = [word] := by
  rw [words, pieces_of_forall_not_cut hword.2]
  simp [hword.1]

/-- The words of two texts with a blank between them. -/
theorem words_append {before after : List Char} (hafter : ∀ c ∈ after.head?, isBlank c = true) :
    words (before ++ after) = words before ++ words after := by
  cases after with
  | nil => rw [List.append_nil]; exact (List.append_nil _).symm
  | cons c after =>
    have hc : isBlank c = true := hafter c rfl
    have hcons : words (c :: after) = words after := words_append_cons hc [] after
    rw [words_append_cons hc, hcons]

/-- The words of two texts of which the first ends with a blank. -/
theorem words_append_of_getLast? {before after : List Char}
    (hbefore : ∀ c ∈ before.getLast?, isBlank c = true) :
    words (before ++ after) = words before ++ words after := by
  rcases List.eq_nil_or_concat before with rfl | ⟨init, c, rfl⟩
  · rfl
  · have hc : isBlank c = true := hbefore c (by simp)
    have hinit : words (init ++ [c]) = words init := by
      rw [words_append_cons hc]
      exact List.append_nil _
    rw [List.concat_eq_append, hinit, List.append_assoc]
    exact words_append_cons hc init after

/-- Blanks around a text are in none of its words. -/
theorem words_surrounded {before cs after : List Char} (hbefore : IsBlankText before)
    (hafter : IsBlankText after) : words (before ++ (cs ++ after)) = words cs := by
  rw [words_blank_append hbefore,
    words_append fun c hc => hafter c (List.mem_of_mem_head? hc), words_of_blank hafter,
    List.append_nil]

/-- Trimming keeps the words. -/
theorem words_trim (cs : List Char) : words (trim cs) = words cs := by
  obtain ⟨before, after, hbefore, hafter, hcs⟩ := exists_trim cs
  conv_rhs => rw [hcs, words_surrounded hbefore hafter]

/-- The words of a text are its first word and those of the rest. -/
theorem words_eq_cons_splitWord {cs : List Char} (hfirst : (splitWord cs).1 ≠ []) :
    words cs = (splitWord cs).1 :: words (splitWord cs).2 := by
  obtain ⟨before, hbefore, hcs, hletters, hhead⟩ := exists_splitWord cs
  conv_lhs => rw [hcs, words_blank_append hbefore, words_append hhead,
    words_of_isWord ⟨hfirst, hletters⟩]
  rfl

/-- A text without a first word has no words. -/
theorem words_eq_nil_of_splitWord {cs : List Char} (hfirst : (splitWord cs).1 = []) :
    words cs = [] := by
  obtain ⟨before, hbefore, hcs, _, _⟩ := exists_splitWord cs
  rw [hcs, hfirst, splitWord_snd_of_fst hfirst, List.nil_append, List.append_nil]
  exact words_of_blank hbefore

/-- A text has no words exactly if it is blank. -/
theorem words_eq_nil_iff {cs : List Char} : words cs = [] ↔ IsBlankText cs := by
  refine ⟨fun hnone => ?_, words_of_blank⟩
  obtain ⟨before, hbefore, hcs, _, _⟩ := exists_splitWord cs
  by_cases hfirst : (splitWord cs).1 = []
  · rwa [hcs, hfirst, splitWord_snd_of_fst hfirst, List.nil_append, List.append_nil]
  · rw [words_eq_cons_splitWord hfirst] at hnone
    cases hnone

/-- The first word stands between blanks, and the other words come after it. -/
theorem words_eq_cons_iff {cs word : List Char} {others : List (List Char)} :
    words cs = word :: others ↔
      ∃ before rest, IsBlankText before ∧ IsWord word ∧
        (∀ c ∈ rest.head?, isBlank c = true) ∧ cs = before ++ (word ++ rest) ∧
        words rest = others := by
  constructor
  · intro hwords
    have hfirst : (splitWord cs).1 ≠ [] := by
      intro hnil
      rw [words_eq_nil_of_splitWord hnil] at hwords
      cases hwords
    obtain ⟨before, hbefore, hcs, hletters, hhead⟩ := exists_splitWord cs
    rw [words_eq_cons_splitWord hfirst] at hwords
    cases hwords
    exact ⟨before, _, hbefore, ⟨hfirst, hletters⟩, hhead, hcs, rfl⟩
  · rintro ⟨before, rest, hbefore, hword, hhead, rfl, rfl⟩
    rw [words_blank_append hbefore, words_append hhead, words_of_isWord hword]
    rfl

/-! ## From a word to the last -/

/-- The text goes from the start of one of the words to the end of the last: `count` words and a
blank come before it, if there are any, and nothing but blanks comes after it. -/
def IsFromWord (count : Nat) (cs text : List Char) : Prop :=
  ∃ before after, cs = before ++ (text ++ after) ∧ (words before).length = count ∧
    (∀ c ∈ before.getLast?, isBlank c = true) ∧ IsBlankText after ∧ text ≠ [] ∧ IsTrimmed text

end ContainerOps.Text
