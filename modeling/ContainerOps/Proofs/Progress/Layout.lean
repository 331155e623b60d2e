import ContainerOps.Proofs.Progress.Step
import ContainerOps.Proofs.Text.PieceChanges
import ContainerOps.Proofs.Text.Spacing
import Mathlib.Logic.Relation

/-!
# The layout of progress output

A parser sees of a text its contents: the lines that are not blank, without the blanks around them.
How the lines are ended and indented, and which blank lines stand between them, is layout.  Layout
can be changed step by step, in the middle of an error as well, and by such steps every text is
reached that has the same contents.

Main results:

- `Parser.feedAll_solidLines`: a parser in any state takes the lines that are not blank.
- `contents_eq_of_relaid`: a change of the layout keeps the contents.
- `eqvGen_relaid_join_contents`: every text can be laid out as its contents, line by line.
- `read_eq_of_contents_eq`: texts with the same contents differ in layout only and are read alike.
-/

namespace ContainerOps.Progress

open ContainerOps.Text

/-! ## Contents -/

/-- The lines that are not blank, without the blanks around them. -/
def solidLines (raws : List String) : List String :=
  (raws.map trimmed).filter fun line => !line.isEmpty

/-- The contents of a text: its lines that are not blank, without the blanks around them. -/
def contents (text : String) : List String :=
  solidLines (lines text)

/-- Trimming twice is trimming once. -/
@[simp]
theorem trimmed_trimmed (raw : String) : trimmed (trimmed raw) = trimmed raw := by
  have htrim : trim (trim raw.toList) = trim raw.toList := isTrimmed_trim raw.toList
  rw [trimmed, trimmed, String.toList_ofList, htrim]

/-- A blank line is not among the solid ones. -/
theorem solidLines_cons_of_blank {raw : String} (hblank : trimmed raw = "") (rest : List String) :
    solidLines (raw :: rest) = solidLines rest := by
  simp [solidLines, hblank]

/-- Any other line is the first of the solid ones. -/
theorem solidLines_cons_of_ne {raw : String} (hne : trimmed raw ≠ "") (rest : List String) :
    solidLines (raw :: rest) = trimmed raw :: solidLines rest := by
  simp [solidLines, hne]

namespace Parser

/-- The blanks around a line do not matter to a parser. -/
theorem feed_trimmed (p : Parser) (raw : String) : p.feed (trimmed raw) = p.feed raw := by
  unfold feed
  rw [trimmed_trimmed]

/-- A parser in any state takes the lines that are not blank, as they are without the blanks around
them. -/
theorem feedAll_solidLines (p : Parser) (raws : List String) :
    p.feedAll (solidLines raws) = p.feedAll raws := by
  induction raws generalizing p with
  | nil => rfl
  | cons raw rest ih =>
    by_cases hblank : trimmed raw = ""
    · rw [solidLines_cons_of_blank hblank, ih, feedAll, feed_blank p hblank]
      rfl
    · rw [solidLines_cons_of_ne hblank, feedAll, feedAll, feed_trimmed, ih]

/-- A parser in any state does the same with two texts of the same contents. -/
theorem feedAll_lines_of_contents_eq (p : Parser) {a b : String} (h : contents a = contents b) :
    p.feedAll (lines a) = p.feedAll (lines b) := by
  rw [← feedAll_solidLines p (lines a), ← feedAll_solidLines p (lines b)]
  exact congrArg p.feedAll h

end Parser

/-- The contents by the characters of a text. -/
theorem contents_eq (text : String) :
    contents text = (((pieces isLineBreak text.toList).map trim).filter fun piece =>
      !piece.isEmpty).map String.ofList :=
  filter_map_trimmed_ofList (pieces isLineBreak text.toList)

/-- The contents of a single line. -/
theorem contents_of_one_line {text : String} (hline : ∀ c ∈ text.toList, isLineBreak c = false) :
    contents text = if trimmed text = "" then [] else [trimmed text] := by
  rw [contents, lines, pieces_of_forall_not_cut hline, List.map_singleton, String.ofList_toList]
  by_cases hblank : trimmed text = ""
  · rw [solidLines_cons_of_blank hblank, if_pos hblank]
    rfl
  · rw [solidLines_cons_of_ne hblank, if_neg hblank]
    rfl

/-! ## Line ends -/

/-- What a line may end with. -/
def lineEnds : List String :=
  ["\n", "\r", "\r\n"]

/-- The contents on both sides of a line break. -/
theorem contents_append_cons {c : Char} (hc : isLineBreak c = true) {text before after : String}
    (htext : text.toList = before.toList ++ c :: after.toList) :
    contents text = contents before ++ contents after := by
  rw [contents_eq, contents_eq, contents_eq, htext, pieces_append_cons hc, List.map_append,
    List.filter_append, List.map_append]

/-- The contents on both sides of a line end. -/
theorem contents_append_lineEnd {ending : String} (hending : ending ∈ lineEnds)
    (before after : String) :
    contents (before ++ ending ++ after) = contents before ++ contents after := by
  simp only [lineEnds, List.mem_cons, List.not_mem_nil, or_false] at hending
  rcases hending with rfl | rfl | rfl
  · exact contents_append_cons (c := '\n') rfl (by simp)
  · exact contents_append_cons (c := '\r') rfl (by simp)
  · have hfirst : contents (before ++ "\r\n" ++ after) =
        contents before ++ contents ("\n" ++ after) :=
      contents_append_cons (c := '\r') rfl (by simp)
    have hsecond : contents ("\n" ++ after) = contents "" ++ contents after :=
      contents_append_cons (c := '\n') rfl (by simp)
    rw [hfirst, hsecond]
    rfl

/-! ## Blanks -/

/-- A line starts behind the text: the text is empty or ends with a line break. -/
def StartsLine (before : String) : Prop :=
  ∀ c ∈ before.toList.getLast?, isLineBreak c = true

/-- A line ends in front of the text: the text is empty or begins with a line break. -/
def EndsLine (after : String) : Prop :=
  ∀ c ∈ after.toList.head?, isLineBreak c = true

instance (before : String) : Decidable (StartsLine before) :=
  Option.decidableForallMem before.toList.getLast?

instance (after : String) : Decidable (EndsLine after) :=
  Option.decidableForallMem after.toList.head?

/-- Blanks at the start of a text are no contents. -/
theorem contents_blank_append {blanks : String} (hblanks : IsBlankText blanks.toList)
    (text : String) : contents (blanks ++ text) = contents text := by
  rw [contents_eq, contents_eq, String.toList_append, trim_pieces_blank_append hblanks]

/-- Nor are blanks at the end of a text. -/
theorem contents_append_blank {blanks : String} (hblanks : IsBlankText blanks.toList)
    (text : String) : contents (text ++ blanks) = contents text := by
  rw [contents_eq, contents_eq, String.toList_append, trim_pieces_append_blank hblanks]

/-- The contents of a text that goes on where a line starts. -/
theorem contents_append_of_startsLine {before : String} (hbefore : StartsLine before)
    (after : String) : contents (before ++ after) = contents before ++ contents after := by
  rcases List.eq_nil_or_concat before.toList with hnil | ⟨init, c, hconcat⟩
  · obtain rfl : before = "" := String.toList_eq_nil_iff.mp hnil
    rw [String.empty_append]
    rfl
  · have hc : isLineBreak c = true := hbefore c (by simp [hconcat])
    have hleft : contents before = contents (String.ofList init) ++ contents "" :=
      contents_append_cons hc (by simp [hconcat])
    have hright : contents (before ++ after) =
        contents (String.ofList init) ++ contents after :=
      contents_append_cons hc (by simp [hconcat])
    rw [hleft, hright, List.append_assoc]
    rfl

/-- The contents of a text that goes on where a line ends. -/
theorem contents_append_of_endsLine {after : String} (hafter : EndsLine after)
    (before : String) : contents (before ++ after) = contents before ++ contents after := by
  cases hlist : after.toList with
  | nil =>
    obtain rfl : after = "" := String.toList_eq_nil_iff.mp hlist
    rw [String.append_empty]
    exact (List.append_nil _).symm
  | cons c rest =>
    have hc : isLineBreak c = true := hafter c (by simp [hlist])
    have hleft : contents after = contents "" ++ contents (String.ofList rest) :=
      contents_append_cons hc (by simp [hlist])
    have hright : contents (before ++ after) =
        contents before ++ contents (String.ofList rest) :=
      contents_append_cons hc (by simp [hlist])
    rw [hleft, hright]
    rfl

/-! ## Changes of layout -/

/-- One change of the layout of a text. -/
inductive Relaid : String → String → Prop where
  /-- A line is ended in another way. -/
  | lineEnd (before after : String) {old new : String} (hold : old ∈ lineEnds)
      (hnew : new ∈ lineEnds) : Relaid (before ++ old ++ after) (before ++ new ++ after)
  /-- Blanks are put in where a line starts.  With line breaks among them they are blank lines. -/
  | leading {before blanks : String} (hbefore : StartsLine before)
      (hblanks : IsBlankText blanks.toList) (after : String) :
      Relaid (before ++ after) (before ++ blanks ++ after)
  /-- Blanks are put in where a line ends.  With line breaks among them they are blank lines. -/
  | trailing {blanks after : String} (hafter : EndsLine after)
      (hblanks : IsBlankText blanks.toList) (before : String) :
      Relaid (before ++ after) (before ++ blanks ++ after)

/-- A change of the layout keeps the contents. -/
theorem contents_eq_of_relaid {a b : String} (h : Relaid a b) : contents a = contents b := by
  cases h with
  | lineEnd before after hold hnew =>
    rw [contents_append_lineEnd hold, contents_append_lineEnd hnew]
  | leading hbefore hblanks after =>
    rw [String.append_assoc, contents_append_of_startsLine hbefore,
      contents_append_of_startsLine hbefore, contents_blank_append hblanks]
  | trailing hafter hblanks before =>
    rw [contents_append_of_endsLine hafter, contents_append_of_endsLine hafter,
      contents_append_blank hblanks]

/-- So do changes that are made and undone in any order. -/
theorem contents_eq_of_eqvGen {a b : String} (h : Relation.EqvGen Relaid a b) :
    contents a = contents b := by
  induction h with
  | rel a b h => exact contents_eq_of_relaid h
  | refl a => rfl
  | symm a b _ ih => exact ih.symm
  | trans a b c _ _ ihab ihbc => exact ihab.trans ihbc

/-! ## The plain layout -/

/-- What starts a line still does so behind another text that does. -/
theorem StartsLine.append {before text : String} (hbefore : StartsLine before)
    (htext : StartsLine text) : StartsLine (before ++ text) := by
  intro c hc
  rw [String.toList_append, List.getLast?_append] at hc
  rcases Option.or_eq_some_iff.mp hc with hlast | ⟨_, hlast⟩
  · exact htext c hlast
  · exact hbefore c hlast

/-- The layout of the lines behind a text can be changed. -/
theorem Relaid.behind {before a b : String} (hbefore : StartsLine before) (h : Relaid a b) :
    Relaid (before ++ a) (before ++ b) := by
  cases h with
  | lineEnd front after hold hnew =>
    simp only [← String.append_assoc]
    exact .lineEnd (before ++ front) after hold hnew
  | leading hfront hblanks after =>
    simp only [← String.append_assoc]
    exact .leading (hbefore.append hfront) hblanks after
  | trailing hafter hblanks front =>
    simp only [← String.append_assoc]
    exact .trailing hafter hblanks (before ++ front)

/-- So can it in any number of changes. -/
theorem eqvGen_relaid_behind {before a b : String} (hbefore : StartsLine before)
    (h : Relation.EqvGen Relaid a b) : Relation.EqvGen Relaid (before ++ a) (before ++ b) := by
  induction h with
  | rel a b h => exact .rel _ _ (h.behind hbefore)
  | refl a => exact .refl _
  | symm a b _ ih => exact ih.symm
  | trans a b c _ _ ihab ihbc => exact ihab.trans _ _ _ ihbc

/-- The blanks around a line can be taken away. -/
theorem eqvGen_relaid_trimmed (line : String) {after : String} (hafter : EndsLine after) :
    Relation.EqvGen Relaid (line ++ after) (trimmed line ++ after) := by
  obtain ⟨lead, trail, hlead, htrail, hcs⟩ := exists_trim line.toList
  have hline : line = String.ofList lead ++ trimmed line ++ String.ofList trail := by
    rw [← String.toList_inj]
    simpa [trimmed] using hcs
  have hfront : Relaid (trimmed line ++ after) (trimmed line ++ String.ofList trail ++ after) :=
    .trailing hafter (by simpa using htrail) _
  have hback : Relaid ("" ++ (trimmed line ++ String.ofList trail ++ after))
      ("" ++ String.ofList lead ++ (trimmed line ++ String.ofList trail ++ after)) :=
    .leading (by decide) (by simpa using hlead) _
  rw [String.empty_append, String.empty_append, ← String.append_assoc, ← String.append_assoc,
    ← hline] at hback
  exact .trans _ _ _ (.symm _ _ (.rel _ _ hback)) (.symm _ _ (.rel _ _ hfront))

/-- A line and what follows it can be laid out as the contents of the line above the rest. -/
theorem eqvGen_relaid_line {c : Char} (hc : isLineBreak c = true) {line rest : String}
    (hline : ∀ d ∈ line.toList, isLineBreak d = false)
    (hrest : Relation.EqvGen Relaid rest (join "\n" (contents rest))) :
    Relation.EqvGen Relaid (line ++ String.singleton c ++ rest)
      (join "\n" (contents line ++ contents rest)) := by
  have hends : EndsLine (String.singleton c ++ rest) := by
    intro d hd
    simp only [String.toList_append, String.toList_singleton, List.singleton_append,
      List.head?_cons, Option.mem_some_iff] at hd
    exact hd ▸ hc
  have hstarts : StartsLine (trimmed line ++ "\n") := by
    intro d hd
    simp only [String.toList_append, List.getLast?_append] at hd
    cases hd
    rfl
  have hending : String.singleton c ∈ lineEnds := by
    simp only [isLineBreak, Bool.or_eq_true, beq_iff_eq] at hc
    rcases hc with rfl | rfl <;> decide
  -- first the line itself is brought into its plain layout, then what is below it
  have htrim := eqvGen_relaid_trimmed line hends
  have hend : Relaid (trimmed line ++ String.singleton c ++ rest) (trimmed line ++ "\n" ++ rest) :=
    .lineEnd _ _ hending (by decide)
  have hbelow := eqvGen_relaid_behind hstarts hrest
  rw [← String.append_assoc, ← String.append_assoc] at htrim
  refine .trans _ _ _ htrim (.trans _ _ _ (.rel _ _ hend) (.trans _ _ _ hbelow ?_))
  rw [contents_of_one_line hline]
  by_cases hblank : trimmed line = ""
  · -- the line is blank, so that its end is blank as well
    rw [if_pos hblank, List.nil_append, hblank]
    have hdrop : Relaid ("" ++ join "\n" (contents rest))
        ("" ++ "\n" ++ join "\n" (contents rest)) := .leading (by decide) (by decide) _
    exact .symm _ _ (.rel _ _ hdrop)
  · rw [if_neg hblank, List.singleton_append]
    by_cases hnil : contents rest = []
    · -- nothing is below the line, so that it needs no end
      rw [hnil, join_singleton]
      have hdrop : Relaid (trimmed line ++ "") (trimmed line ++ "\n" ++ "") :=
        .trailing (by decide) (by decide) _
      rw [String.append_empty] at hdrop
      exact .symm _ _ (.rel _ _ hdrop)
    · rw [join_cons _ _ hnil]
      exact .refl _

/-- Every text can be laid out as its contents, line by line. -/
theorem eqvGen_relaid_join_contents (text : String) :
    Relation.EqvGen Relaid text (join "\n" (contents text)) := by
  have huncut : ∀ piece ∈ pieces isLineBreak text.toList, ∀ c ∈ piece, isLineBreak c = false :=
    fun _ hpiece c hc => (mem_of_mem_pieces hpiece c hc).2
  rw [pieces_eq_dissect, List.forall_mem_cons] at huncut
  suffices h : ∀ others first, (∀ c ∈ first, isLineBreak c = false) →
      (∀ part ∈ others, isLineBreak part.1 = true ∧ ∀ c ∈ part.2, isLineBreak c = false) →
      ∀ text : String, text.toList = assemble (first, others) →
        Relation.EqvGen Relaid text (join "\n" (contents text)) by
    refine h (dissect isLineBreak text.toList).2 _ huncut.1 (fun part hpart => ?_) text
      (assemble_dissect isLineBreak text.toList).symm
    exact ⟨cut_of_mem_dissect hpart, huncut.2 _ (List.mem_map_of_mem hpart)⟩
  intro others
  induction others with
  | nil =>
    intro first hfirst _ text htext
    obtain rfl : first = text.toList := by simpa [assemble] using htext.symm
    have htrim : Relation.EqvGen Relaid (text ++ "") (trimmed text ++ "") :=
      eqvGen_relaid_trimmed text (by decide)
    rw [String.append_empty, String.append_empty] at htrim
    rw [contents_of_one_line hfirst]
    by_cases hblank : trimmed text = ""
    · rwa [if_pos hblank, join, ← hblank]
    · rwa [if_neg hblank, join_singleton]
  | cons part others ih =>
    intro first hfirst hothers text htext
    obtain ⟨⟨hc, hpiece⟩, hothers⟩ := List.forall_mem_cons.mp hothers
    have hrest := ih part.2 hpiece hothers (String.ofList (assemble (part.2, others))) (by simp)
    have hlist : text.toList = first ++ part.1 :: assemble (part.2, others) := by
      rw [htext]
      simp [assemble]
    have hcontents : contents text = contents (String.ofList first) ++
        contents (String.ofList (assemble (part.2, others))) :=
      contents_append_cons hc (by simp [hlist])
    have hsplit : text = String.ofList first ++ String.singleton part.1 ++
        String.ofList (assemble (part.2, others)) := by
      rw [← String.toList_inj]
      simp [hlist]
    rw [hcontents]
    conv => arg 2; rw [hsplit]
    exact eqvGen_relaid_line hc (by simpa using hfirst) hrest

/-! ## Whole texts -/

/-- Texts have the same contents exactly if one becomes the other by changes of layout: by ending
lines in another way, and by putting in and taking out blank lines and blanks around lines.  A
parser in any state then does the same with the lines of both, and so both are read alike, in a dry
run and in any other, with the same events and the same notices in the same order. -/
theorem read_eq_of_contents_eq (a b : String) :
    (contents a = contents b ↔ Relation.EqvGen Relaid a b) ∧
    (contents a = contents b → ∀ p : Parser, p.feedAll (lines a) = p.feedAll (lines b)) ∧
    (contents a = contents b → ∀ dryRun, read a dryRun = read b dryRun) := by
  refine ⟨⟨fun hcontents => ?_, contents_eq_of_eqvGen⟩, fun hcontents p =>
    p.feedAll_lines_of_contents_eq hcontents, fun hcontents dryRun => ?_⟩
  · have ha := eqvGen_relaid_join_contents a
    have hb := eqvGen_relaid_join_contents b
    rw [hcontents] at ha
    exact .trans _ _ _ ha (.symm _ _ hb)
  · unfold read
    rw [(Parser.start dryRun).feedAll_lines_of_contents_eq hcontents]

/-- An error of a dry run with its lines ended and indented in other ways, and with other blank
lines around and in it. -/
theorem read_eq_of_contents_eq_of_error :
    ∃ a b : String, a = "DRY-RUN MODE - web Error\r\n  no space\r\n\r\nleft\r" ∧
      b = "\n \tDRY-RUN MODE - web Error \n\u3000no space\nleft" ∧
      contents a = contents b ∧ Relation.EqvGen Relaid a b ∧ read a true = read b true ∧
      (read b true).events =
        [{ kind := .unknown, id := "web", status := some .error
           message := some "no space\nleft" }] ∧
      (Parser.start false).feedAll (lines a) = (Parser.start false).feedAll (lines b) := by
  have hcontents : contents "DRY-RUN MODE - web Error\r\n  no space\r\n\r\nleft\r" =
      contents "\n \tDRY-RUN MODE - web Error \n\u3000no space\nleft" := by
    decide +kernel
  obtain ⟨hrelaid, hparser, hread⟩ := read_eq_of_contents_eq
    "DRY-RUN MODE - web Error\r\n  no space\r\n\r\nleft\r"
    "\n \tDRY-RUN MODE - web Error \n\u3000no space\nleft"
  exact ⟨_, _, rfl, rfl, hcontents, hrelaid.mp hcontents, hread hcontents true, by decide,
    hparser hcontents (.start false)⟩

end ContainerOps.Progress
