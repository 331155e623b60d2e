import ContainerOps.Shell.Expansion
import Mathlib.Data.List.TakeWhile

/-!
# Words that stand for themselves

A character stands for itself where no sign of a pattern and no tilde is written without protection.
A word of such characters is expanded to one field, which consists of these characters; nothing in
the state of the shell matters for that, and the state is left alone.

Main results:

- `expandFrom_of_literal`: the cells of such a word are those of its pieces.
- `fields_of_literal_cells`: cells without a region are one field.
- `completed_of_literal`: a field without signs of a pattern stands for itself.
- `fields_of_literal`: such words are expanded to their characters, one field each.
-/

namespace ContainerOps.Shell

/-! ## Pieces -/

/-- A piece that stands for itself wherever it is. -/
def Piece.IsLiteral : Piece → Prop
  | .plain c => c ≠ nul ∧ c ∉ ['~', '\\', '*', '?', '[']
  | .escaped c => c ≠ nul
  | .mark => True
  | _ => False

/-- The cell of a piece that stands for itself. -/
def Piece.cell : Piece → Cell
  | .plain c => .char c false
  | .escaped c => .char c true
  | _ => .mark

/-- A cell that is no part of a value, in which signs of patterns are quoted. -/
def Cell.IsLiteral : Cell → Prop
  | .char c quoted => c ≠ nul ∧ (c ∈ ['\\', '*', '?', '['] → quoted = true)
  | .mark => True
  | _ => False

variable {pieces : List Piece} {cells : List Cell}

/-- The cell of a piece that stands for itself does so too. -/
theorem Piece.IsLiteral.cell {piece : Piece} (hliteral : piece.IsLiteral) :
    piece.cell.IsLiteral := by
  match piece with
  | .plain c =>
    refine ⟨hliteral.1, fun hsign => absurd ?_ hliteral.2⟩
    exact List.mem_cons_of_mem _ hsign
  | .escaped c => exact ⟨hliteral, fun _ => rfl⟩
  | .mark => trivial

/-- The letters of pieces that stand for themselves are the text of their cells. -/
theorem text_map_cell (hliteral : ∀ piece ∈ pieces, piece.IsLiteral) :
    Cell.text (pieces.map Piece.cell) = Word.letters pieces := by
  induction pieces with
  | nil => rfl
  | cons piece rest ih =>
    obtain ⟨hpiece, hrest⟩ := List.forall_mem_cons.mp hliteral
    have htail := ih hrest
    match piece with
    | .plain c => simpa [Cell.text, Word.letters, Piece.cell] using htail
    | .escaped c => simpa [Cell.text, Word.letters, Piece.cell] using htail
    | .mark => simpa [Cell.text, Word.letters, Piece.cell] using htail

/-- Behind an action that gives a value, the next one goes on from the state that it left. -/
theorem Action.bind_of_ok {α β : Type} {action : Action α} {s t : State} {a : α}
    (haction : action s = (.ok a, t)) (next : α → Action β) : (action >>= next) s = next a t := by
  simp only [bind, ExceptT.bind, ExceptT.mk, StateT.bind, haction]
  rfl

/-! ## Cells -/

namespace Expansion

/-- A place in a word up to which every piece has stood for itself. -/
structure Progress.IsLevel (p : Progress) : Prop where
  /-- No quotation marks are left out. -/
  marksHidden : p.marksHidden = false
  /-- No region is open. -/
  inRegion : p.inRegion = false
  /-- No piece was looked at already. -/
  passed : p.passed = 0
  /-- The rest of the word counts. -/
  isOver : p.isOver = false

/-- Closing changes nothing where no region is open. -/
theorem Progress.IsLevel.closed {p : Progress} (hlevel : p.IsLevel) : p.closed = p := by
  simp [Progress.closed, hlevel.inRegion]

/-- In front of pieces that stand for themselves there are not all arguments. -/
theorem isAllArguments_of_literal (hliteral : ∀ piece ∈ pieces, piece.IsLiteral) :
    isAllArguments pieces = false := by
  unfold isAllArguments
  split
  · exact (hliteral _ List.mem_cons_self).elim
  · rfl

variable (substitute : Substitution)

/-- A piece that stands for itself puts its cell, whatever the state. -/
theorem expandPiece_of_literal {piece : Piece} {rest : List Piece} {p : Progress}
    (hpiece : piece.IsLiteral) (hrest : ∀ piece ∈ rest, piece.IsLiteral) (hlevel : p.IsLevel)
    (s : State) :
    ∃ q : Progress, expandPiece substitute .fields rest p piece s = (.ok q, s) ∧
      q.IsLevel ∧ q.cells = piece.cell :: p.cells := by
  match piece with
  | .plain c =>
    have htilde : (c == '~' && p.atFront) = false := by
      have hne : c ≠ '~' := fun heq => hpiece.2 (heq ▸ List.mem_cons_self)
      simp [hne]
    refine ⟨p.plain .fields c, ?_, ?_, ?_⟩
    · rw [expandPiece]
      simp only [htilde]
      rfl
    · exact ⟨hlevel.marksHidden, by rw [Progress.plain, hlevel.inRegion]; rfl, hlevel.passed,
        hlevel.isOver⟩
    · rfl
  | .escaped c =>
    refine ⟨p.escaped c, by rw [expandPiece]; rfl, ?_, ?_⟩
    · rw [Progress.escaped, hlevel.closed]
      exact ⟨hlevel.marksHidden, hlevel.inRegion, hlevel.passed, hlevel.isOver⟩
    · rw [Progress.escaped, hlevel.closed]
      rfl
  | .mark =>
    refine ⟨p.mark false, ?_, ?_, ?_⟩
    · rw [expandPiece, isAllArguments_of_literal hrest, Bool.and_false]
      rfl
    · rw [Progress.mark, hlevel.closed]
      split
      · exact ⟨rfl, hlevel.inRegion, hlevel.passed, hlevel.isOver⟩
      · exact ⟨rfl, hlevel.inRegion, hlevel.passed, hlevel.isOver⟩
    · rw [Progress.mark, hlevel.closed]
      split
      · simp [hlevel.marksHidden, Piece.cell]
      · rfl

/-- The cells of a word of pieces that stand for themselves are those of its pieces. -/
theorem expandFrom_of_literal (hliteral : ∀ piece ∈ pieces, piece.IsLiteral) {p : Progress}
    (hlevel : p.IsLevel) (s : State) :
    ∃ q : Progress, expandFrom substitute .fields pieces p s = (.ok q, s) ∧
      q.cells = (pieces.map Piece.cell).reverse ++ p.cells := by
  induction pieces generalizing p with
  | nil => exact ⟨p, by rw [expandFrom, hlevel.closed]; rfl, rfl⟩
  | cons piece rest ih =>
    obtain ⟨hpiece, hrest⟩ := List.forall_mem_cons.mp hliteral
    obtain ⟨q, hq, hqlevel, hqcells⟩ :=
      expandPiece_of_literal substitute hpiece hrest hlevel s
    obtain ⟨r, hr, hrcells⟩ := ih hrest hqlevel
    refine ⟨r, ?_, ?_⟩
    · rw [expandFrom, if_neg (by simp [hlevel.isOver]), if_neg (by simp [hlevel.passed])]
      exact (Action.bind_of_ok hq _).trans hr
    · rw [hrcells, hqcells, List.map_cons, List.reverse_cons, List.append_assoc,
        List.singleton_append]

end Expansion

/-! ## Fields -/

/-- Outside of regions every cell belongs to the field. -/
theorem Splitting.step_of_literal {cell : Cell} (hcell : cell.IsLiteral) (separators : Octets)
    {split : Splitting} (hinside : split.inside = false) (htail : split.tail = none) :
    split.step separators cell = { split with field := cell :: split.field } := by
  match cell with
  | .char c quoted => simp [Splitting.step, hinside, Splitting.put, htail]
  | .mark => simp [Splitting.step, Splitting.put, htail]

/-- So do all of them. -/
theorem Splitting.foldl_of_literal (hliteral : ∀ cell ∈ cells, cell.IsLiteral)
    (separators : Octets) (field : List Cell) :
    cells.foldl (Splitting.step separators) { Splitting.start none with field := field } =
      { Splitting.start none with field := cells.reverse ++ field } := by
  induction cells generalizing field with
  | nil => rfl
  | cons cell rest ih =>
    obtain ⟨hcell, hrest⟩ := List.forall_mem_cons.mp hliteral
    rw [List.foldl_cons, step_of_literal hcell separators rfl rfl, ih hrest, List.reverse_cons,
      List.append_assoc, List.singleton_append]

/-- Cells without a region are one field. -/
theorem fields_of_literal_cells (hliteral : ∀ cell ∈ cells, cell.IsLiteral) (hne : cells ≠ [])
    (separators : Octets) : fields separators none cells = [cells] := by
  have hfold := Splitting.foldl_of_literal hliteral separators []
  rw [List.append_nil] at hfold
  rw [fields, show Splitting.start none = { Splitting.start none with field := [] } from rfl, hfold]
  simp [Splitting.all, Splitting.start, hne]

/-! ## Patterns -/

/-- A text without a null octet is all of it that counts. -/
theorem untilNul_of_notMem {cs : Octets} (hnul : nul ∉ cs) : untilNul cs = cs := by
  refine List.takeWhile_eq_self_iff.mpr fun c hc => ?_
  simp only [bne_iff_ne]
  rintro rfl
  exact hnul hc

/-- The text of cells that stand for themselves has no null octet. -/
theorem nul_notMem_text (hliteral : ∀ cell ∈ cells, cell.IsLiteral) : nul ∉ Cell.text cells := by
  intro hmem
  obtain ⟨cell, hcell, hchar⟩ := List.mem_filterMap.mp hmem
  match cell with
  | .char c quoted =>
    cases hchar
    exact (hliteral _ hcell).1 rfl
  | .mark => cases hchar

/-- Neither has the text of the pattern that they are. -/
theorem nul_notMem_patternText (hliteral : ∀ cell ∈ cells, cell.IsLiteral) (behind : Bool) :
    nul ∉ Cell.patternText behind cells := by
  induction cells generalizing behind with
  | nil => exact List.not_mem_nil
  | cons cell rest ih =>
    obtain ⟨hcell, hrest⟩ := List.forall_mem_cons.mp hliteral
    match cell with
    | .char c quoted =>
      have hc : nul ≠ c := Ne.symm hcell.1
      have hbackslash : nul ≠ '\\' := by decide
      rw [Cell.patternText]
      split
      · simp [hc, ih hrest]
      split
      · simp [hc, hbackslash, ih hrest]
      · simp [hc, ih hrest]
    | .mark => exact ih hrest behind

/-- A pattern in which all signs are protected has no step with signs. -/
theorem firstStep_of_literal (hliteral : ∀ cell ∈ cells, cell.IsLiteral) (before step : Octets) :
    PathPattern.firstStep before step false (Cell.patternText false cells) = none := by
  induction cells generalizing before step with
  | nil => rfl
  | cons cell rest ih =>
    obtain ⟨hcell, hrest⟩ := List.forall_mem_cons.mp hliteral
    match cell with
    | .mark => exact ih hrest before step
    | .char c true =>
      have htext : Cell.patternText false (.char c true :: rest) =
          '\\' :: c :: Cell.patternText false rest := by
        simp [Cell.patternText]
      rw [htext, PathPattern.firstStep]
      split
      · exact ih hrest _ _
      · exact ih hrest _ _
    | .char c false =>
      have hsign : c ∉ ['\\', '*', '?', '['] := fun hmem => by simpa using hcell.2 hmem
      simp only [List.mem_cons, List.not_mem_nil, or_false, not_or] at hsign
      obtain ⟨hbackslash, hstar, hmark, hbracket⟩ := hsign
      have htext : Cell.patternText false (.char c false :: rest) =
          c :: Cell.patternText false rest := by
        simp [Cell.patternText, hbackslash]
      rw [htext, PathPattern.firstStep]
      · split
        · exact ih hrest _ _
        · have hnone : ∀ body : Octets,
              (c == '*' || c == '?' || (c == '[' && PathPattern.closes true body)) = false := by
            simp [hstar, hmark, hbracket]
          simp only [hnone]
          exact ih hrest _ _
      · intro d behind heq
        exact absurd heq hbackslash

/-- A field in which all signs of patterns are protected stands for itself. -/
theorem completed_of_literal (hliteral : ∀ cell ∈ cells, cell.IsLiteral) (s : State) :
    completed s cells = [Cell.text cells] := by
  rw [completed, untilNul_of_notMem (nul_notMem_text hliteral),
    untilNul_of_notMem (nul_notMem_patternText hliteral false)]
  simp [firstStep_of_literal hliteral]

/-! ## Words -/

namespace Expansion

variable (substitute : Substitution)

/-- A word of pieces that stand for themselves is one field, which is its letters. -/
theorem wordFields_of_literal (hliteral : ∀ piece ∈ pieces, piece.IsLiteral) (hne : pieces ≠ [])
    (s : State) : wordFields substitute pieces s = (.ok [Word.letters pieces], s) := by
  have hlevel : (Progress.start .fields []).IsLevel := ⟨rfl, rfl, rfl, rfl⟩
  obtain ⟨q, hq, hcells⟩ := expandFrom_of_literal substitute hliteral hlevel s
  have hfound : cells substitute .fields pieces s = (.ok (pieces.map Piece.cell), s) := by
    refine (Action.bind_of_ok hq _).trans ?_
    rw [hcells, Progress.start, List.append_nil, List.reverse_reverse]
    rfl
  have hcells : ∀ cell ∈ pieces.map Piece.cell, cell.IsLiteral :=
    List.forall_mem_map.mpr fun piece hpiece => (hliteral piece hpiece).cell
  refine (Action.bind_of_ok hfound _).trans ?_
  refine (Action.bind_of_ok (t := s) (a := s) rfl _).trans ?_
  rw [fields_of_literal_cells hcells (by simpa using hne), List.flatMap_singleton,
    completed_of_literal hcells, text_map_cell hliteral]
  rfl

/-- Such words are expanded to their letters, one field each, and the state is left alone. -/
theorem fields_of_literal {words : List Word}
    (hliteral : ∀ word ∈ words, word ≠ [] ∧ ∀ piece ∈ word, piece.IsLiteral) (s : State) :
    fields substitute words s = (.ok (words.map Word.letters), s) := by
  induction words with
  | nil => rfl
  | cons word rest ih =>
    obtain ⟨hword, hrest⟩ := List.forall_mem_cons.mp hliteral
    refine (Action.bind_of_ok (wordFields_of_literal substitute hword.2 hword.1 s) _).trans ?_
    exact Action.bind_of_ok (ih hrest) _

end Expansion

end ContainerOps.Shell
