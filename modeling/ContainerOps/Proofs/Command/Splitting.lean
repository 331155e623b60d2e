import ContainerOps.Command.Request
import ContainerOps.Proofs.Text.Pieces

/-!
# Reading a command line back

A shell takes a line apart into words: blanks separate them, a backslash keeps the next character
as it is, and between single quotes everything stands for itself.  Quotes and backslashes may stand
anywhere in a word, so that the reader leaves and enters quotes while it is in a word.  What is
shown of a command reads back as the command and its arguments, whatever they consist of.

Main results:

- `runAll_quotedChar`: a character shown between quotes is read as that character.
- `runAll_quoteWord`: a word that is shown is read as one word.
- `splitWords_render`: a command line that is shown reads back as its words.
- `render_inj`: no two commands are shown alike.
- `replays_display`: what is shown of a request replays it.
-/

namespace ContainerOps.Command

open ContainerOps.Text

/-! ## Reader -/

/-- The characters that separate words. -/
def isSeparator (c : Char) : Bool :=
  c ∈ [' ', '\t', '\n']

/-- Where the reader of a line stands, with what it has read of a word. -/
inductive Place where
  /-- Before a word. -/
  | between
  /-- In a word, outside of quotes. -/
  | inWord (word : List Char)
  /-- In a word, behind a backslash outside of quotes. -/
  | escaped (word : List Char)
  /-- In a word, between quotes. -/
  | quoted (word : List Char)
  /-- In a comment. -/
  | comment

/-- A reader of the words of a line. -/
structure WordReader where
  /-- The words that ended. -/
  words : List String
  /-- Where the reader stands. -/
  place : Place

namespace WordReader

/-- The reader at the start of a line. -/
def start : WordReader :=
  { words := [], place := .between }

/-- The reader after a character outside of quotes that belongs to a word, or starts one. -/
def extend (r : WordReader) (word : List Char) (c : Char) : WordReader :=
  if c = '\'' then { r with place := .quoted word }
  else if c = '\\' then { r with place := .escaped word }
  else { r with place := .inWord (word ++ [c]) }

/-- The reader after one more character. -/
def step (r : WordReader) (c : Char) : WordReader :=
  match r.place with
  | .between =>
    if isSeparator c then r
    -- only where a word could start; in a word it is a character like any other
    else if c = '#' then { r with place := .comment }
    else r.extend [] c
  | .inWord word =>
    if isSeparator c then { words := r.words ++ [String.ofList word], place := .between }
    else r.extend word c
  | .escaped word => { r with place := .inWord (word ++ [c]) }
  | .quoted word =>
    if c = '\'' then { r with place := .inWord word }
    else { r with place := .quoted (word ++ [c]) }
  | .comment => if c = '\n' then { r with place := .between } else r

/-- The reader after some more characters. -/
def runAll (r : WordReader) (cs : List Char) : WordReader :=
  cs.foldl step r

/-- The words of a line that ends here.  There are none where a backslash or a quote still waits
for what follows it. -/
def words? (r : WordReader) : Option (List String) :=
  match r.place with
  | .between | .comment => some r.words
  | .inWord word => some (r.words ++ [String.ofList word])
  | .escaped _ | .quoted _ => none

end WordReader

/-- The words of a line as a shell reads them. -/
def splitWords (line : String) : Option (List String) :=
  (WordReader.start.runAll line.toList).words?

namespace WordReader

variable {words : List String} {word : List Char}

/-- Characters are read one after another. -/
theorem runAll_append (r : WordReader) (before after : List Char) :
    r.runAll (before ++ after) = (r.runAll before).runAll after :=
  List.foldl_append

/-! ## Bare words -/

/-- A character without special meaning neither separates words nor is it a mark. -/
theorem not_mark_of_plain {c : Char} (hplain : isSpecial c = false) :
    ¬isSeparator c = true ∧ c ≠ '\'' ∧ c ≠ '\\' ∧ c ≠ '#' := by
  have hmem : isSeparator c = true → c = ' ' ∨ c = '\t' ∨ c = '\n' := by simp [isSeparator]
  refine ⟨fun hseparator => ?_, ?_, ?_, ?_⟩
  · rcases hmem hseparator with rfl | rfl | rfl <;> exact absurd hplain (by decide)
  all_goals
    rintro rfl
    exact absurd hplain (by decide)

/-- In a word, a character without special meaning belongs to it. -/
theorem step_inWord {c : Char} (hplain : isSpecial c = false) :
    step { words := words, place := .inWord word } c =
      { words := words, place := .inWord (word ++ [c]) } := by
  obtain ⟨hseparator, hquote, hbackslash, -⟩ := not_mark_of_plain hplain
  simp only [step, extend, if_neg hseparator, if_neg hquote, if_neg hbackslash]

/-- Between words, a character without special meaning starts one. -/
theorem step_between {c : Char} (hplain : isSpecial c = false) :
    step { words := words, place := .between } c = { words := words, place := .inWord [c] } := by
  obtain ⟨hseparator, hquote, hbackslash, hcomment⟩ := not_mark_of_plain hplain
  simp only [step, extend, if_neg hseparator, if_neg hcomment, if_neg hquote, if_neg hbackslash,
    List.nil_append]

/-- In a word, characters without special meaning are read as they are. -/
theorem runAll_inWord {cs : List Char} (hplain : ∀ c ∈ cs, isSpecial c = false) :
    runAll { words := words, place := .inWord word } cs =
      { words := words, place := .inWord (word ++ cs) } := by
  induction cs generalizing word with
  | nil => rw [List.append_nil]; rfl
  | cons c cs ih =>
    obtain ⟨hc, hcs⟩ := List.forall_mem_cons.mp hplain
    rw [runAll, List.foldl_cons, step_inWord hc, ← runAll, ih hcs, List.append_assoc,
      List.singleton_append]

/-! ## Quoted words -/

/-- A character shown between quotes is read as that character.  A quote is read by leaving the
quotes, and the word goes on. -/
theorem runAll_quotedChar (c : Char) :
    runAll { words := words, place := .quoted word } (quotedChar c) =
      { words := words, place := .quoted (word ++ [c]) } := by
  unfold quotedChar
  split
  case isTrue hquote => subst hquote; rfl
  case isFalse hquote => simp [runAll, step, hquote]

/-- So is a text between quotes. -/
theorem runAll_flatMap_quotedChar (cs : List Char) :
    runAll { words := words, place := .quoted word } (cs.flatMap quotedChar) =
      { words := words, place := .quoted (word ++ cs) } := by
  induction cs generalizing word with
  | nil => rw [List.append_nil]; rfl
  | cons c cs ih =>
    rw [List.flatMap_cons, runAll_append, runAll_quotedChar, ih, List.append_assoc,
      List.singleton_append]

/-! ## Lines -/

/-- A word that is shown is read as one word, up to its end. -/
theorem runAll_quoteWord (text : String) :
    runAll { words := words, place := .between } (quoteWord text).toList =
      { words := words, place := .inWord text.toList } := by
  unfold quoteWord
  split
  case isTrue hbare =>
    rw [isBare, Bool.and_eq_true, Bool.not_eq_true', Bool.not_eq_true', List.any_eq_false] at hbare
    obtain ⟨hne, hplain⟩ := hbare
    cases hcs : text.toList with
    | nil => simp [String.toList_eq_nil_iff.mp hcs] at hne
    | cons c cs =>
      simp only [hcs, Bool.not_eq_true] at hplain
      obtain ⟨hc, hrest⟩ := List.forall_mem_cons.mp hplain
      rw [runAll, List.foldl_cons, step_between hc, ← runAll,
        runAll_inWord hrest, List.singleton_append]
  case isFalse =>
    have hopen : step { words := words, place := .between } '\'' =
        { words := words, place := .quoted [] } := rfl
    have hclose : runAll { words := words, place := .quoted text.toList } ['\''] =
        { words := words, place := .inWord text.toList } := rfl
    rw [String.toList_ofList, List.cons_append, runAll, List.foldl_cons, hopen, ← runAll,
      runAll_append, runAll_flatMap_quotedChar, List.nil_append, hclose]

/-- Words that are shown with spaces between them are read one by one. -/
theorem words?_runAll_join (first : String) (rest : List String) :
    (runAll { words := words, place := .between }
        (join " " ((first :: rest).map quoteWord)).toList).words? =
      some (words ++ first :: rest) := by
  induction rest generalizing words first with
  | nil =>
    rw [List.map_singleton, join, runAll_quoteWord]
    simp only [words?, String.ofList_toList]
  | cons second rest ih =>
    have hspace : runAll { words := words, place := .inWord first.toList } " ".toList =
        { words := words ++ [first], place := .between } := by
      rw [← String.ofList_toList (s := first)]
      simp [runAll, step, isSeparator]
    rw [List.map_cons, List.map_cons, join_cons_cons, String.toList_append, String.toList_append,
      runAll_append, runAll_append, runAll_quoteWord, hspace, ← List.map_cons, ih,
      List.append_assoc, List.singleton_append]

end WordReader

/-- A command line that is shown reads back as the command and its arguments. -/
theorem splitWords_render (command : String) (args : List String) :
    splitWords (render command args) = some (command :: args) :=
  WordReader.words?_runAll_join command args

-- a quote within a word, an empty word, a word of a quote alone, and what would be a comment
example : splitWords (render "run" ["it's", "", "'", "#1", "a\nb"]) =
    some ["run", "it's", "", "'", "#1", "a\nb"] := by
  decide +kernel

/-- No two commands are shown alike. -/
theorem render_inj {command command' : String} {args args' : List String} :
    render command args = render command' args' ↔ command = command' ∧ args = args' := by
  constructor
  · intro hshown
    have hwords := splitWords_render command args
    rw [hshown, splitWords_render, Option.some_inj, List.cons.injEq] at hwords
    exact ⟨hwords.1.symm, hwords.2.symm⟩
  · rintro ⟨rfl, rfl⟩
    rfl

/-! ## Requests -/

/-- A shell reads a line as the program of a request and its arguments. -/
def Replays (line : String) (r : Request) : Prop :=
  splitWords line = some (r.binary :: r.args)

/-- What is shown of a request replays it. -/
theorem replays_display (r : Request) : Replays r.display r :=
  splitWords_render r.binary r.args

end ContainerOps.Command
