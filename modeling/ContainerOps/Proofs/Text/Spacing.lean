import ContainerOps.Proofs.Text.Pieces
import ContainerOps.Proofs.Text.Words

/-!
# Items with gaps around them

A text of items may have gaps around each of them and a separator between neighbours.  Where the
separator is a blank and the gaps are blanks too, the items are found again as the pieces of the
text between separators, without the blanks around them, except for those that are left empty.

Main results:

- `Spaced.solidPieces_eq`: the items of a spaced text are its solid pieces.
-/

namespace ContainerOps.Text

/-! ## Spaced texts -/

/-- A text of characters that may stand between items. -/
def IsGap (gap : Char → Bool) (s : String) : Prop :=
  ∀ c ∈ s.toList, gap c = true

-- the characters of the text are looked at, and not all characters there are
instance (gap : Char → Bool) (s : String) : Decidable (IsGap gap s) :=
  List.decidableBAll _ s.toList

/-- A text of items in their order, with gaps around each and a separator between neighbours. -/
inductive Spaced (gap : Char → Bool) (separator : String) : List String → String → Prop where
  | none {blank : String} (hblank : IsGap gap blank) : Spaced gap separator [] blank
  | last {lead item trail : String} (hlead : IsGap gap lead) (htrail : IsGap gap trail) :
      Spaced gap separator [item] (lead ++ item ++ trail)
  | more {lead item trail rest : String} {items : List String} (hne : items ≠ [])
      (hlead : IsGap gap lead) (htrail : IsGap gap trail)
      (hrest : Spaced gap separator items rest) :
      Spaced gap separator (item :: items) (lead ++ item ++ trail ++ separator ++ rest)

/-! ## Solid pieces -/

/-- The pieces of a text between marks, without the blanks around them and without those that are
left empty. -/
def solidPieces (mark : Char) (s : String) : List String :=
  ((splitOn mark s).map trimmed).filter fun piece => !piece.isEmpty

variable {mark : Char} {separator : String}

/-- A blank in front of a text does not change its trimmed form. -/
theorem trim_cons_of_blank {c : Char} (hc : isBlank c = true) (cs : List Char) :
    trim (c :: cs) = trim cs := by
  rw [trim, trim, trimStart, List.dropWhile_cons, if_pos hc, trimStart]

/-- The solid pieces of two texts with a separator between them. -/
theorem solidPieces_append (hseparator : separator.toList = [mark]) (a b : String) :
    solidPieces mark (a ++ separator ++ b) = solidPieces mark a ++ solidPieces mark b := by
  rw [solidPieces, splitOn_append hseparator, List.map_append, List.filter_append]
  rfl

/-- The pieces of a text of blanks are empty without blanks around them. -/
theorem trim_eq_nil_of_mem_pieces {cut : Char → Bool} {cs piece : List Char}
    (hblank : IsBlankText cs) (hpiece : piece ∈ pieces cut cs) : trim piece = [] :=
  trim_eq_nil_iff.mpr fun c hc => hblank c (mem_of_mem_pieces hpiece c hc).1

/-- Blanks have no solid pieces. -/
theorem solidPieces_of_blank {blank : String} (hblank : IsGap isBlank blank) :
    solidPieces mark blank = [] := by
  rw [solidPieces, List.filter_eq_nil_iff]
  intro piece hpiece
  simp only [splitOn, List.map_map, List.mem_map] at hpiece
  obtain ⟨cs, hcs, rfl⟩ := hpiece
  simp [trimmed, trim_eq_nil_of_mem_pieces hblank hcs]

/-- Which texts are left when blanks and empty texts are taken away can be told from their
characters. -/
theorem filter_map_trimmed_ofList (parts : List (List Char)) :
    (((parts.map String.ofList).map trimmed).filter fun part => !part.isEmpty) =
      ((parts.map trim).filter fun part => !part.isEmpty).map String.ofList := by
  induction parts with
  | nil => rfl
  | cons part others ih =>
    simp only [List.map_cons, List.filter_cons, trimmed, String.toList_ofList]
    have hempty : (String.ofList (trim part)).isEmpty = (trim part).isEmpty := by
      rw [Bool.eq_iff_iff, String.isEmpty_iff, List.isEmpty_iff, String.ofList_eq_empty_iff]
    rw [hempty]
    split
    · rw [List.map_cons]
      exact congrArg _ ih
    · exact ih

/-- The solid pieces by the characters of a text. -/
theorem solidPieces_ofList (cs : List Char) :
    solidPieces mark (String.ofList cs) =
      (((pieces (· == mark) cs).map trim).filter fun piece => !piece.isEmpty).map
        String.ofList := by
  rw [solidPieces, splitOn, String.toList_ofList, filter_map_trimmed_ofList]

/-- Blanks in front of a text add no solid pieces. -/
theorem trim_pieces_blank_append {cut : Char → Bool} {blank : List Char}
    (hblank : IsBlankText blank) (cs : List Char) :
    (((pieces cut (blank ++ cs)).map trim).filter fun piece => !piece.isEmpty) =
      ((pieces cut cs).map trim).filter fun piece => !piece.isEmpty := by
  induction blank with
  | nil => rfl
  | cons c blank ih =>
    obtain ⟨hc, hrest⟩ := List.forall_mem_cons.mp hblank
    rw [← ih hrest, List.cons_append]
    cases hcut : cut c with
    | true =>
      rw [pieces_cons_of_cut hcut]
      rfl
    | false =>
      obtain ⟨first, others, hpieces⟩ :=
        List.exists_cons_of_ne_nil (pieces_ne_nil cut (blank ++ cs))
      rw [pieces_cons_of_not_cut hcut hpieces, hpieces, List.map_cons, List.map_cons,
        trim_cons_of_blank hc]

/-- Nor do blanks behind a text. -/
theorem trim_pieces_append_blank {cut : Char → Bool} {blank : List Char}
    (hblank : IsBlankText blank) (cs : List Char) :
    (((pieces cut (cs ++ blank)).map trim).filter fun piece => !piece.isEmpty) =
      ((pieces cut cs).map trim).filter fun piece => !piece.isEmpty := by
  induction blank using List.reverseRecOn with
  | nil => rw [List.append_nil]
  | append_singleton blank c ih =>
    obtain ⟨hinit, hlast⟩ := isBlankText_append.mp hblank
    rw [← ih hinit, ← List.append_assoc]
    cases hcut : cut c with
    | true =>
      rw [pieces_append_cons hcut, List.map_append, List.filter_append]
      exact List.append_nil _
    | false =>
      obtain ⟨init, last, hpieces, hconcat⟩ := pieces_concat_of_not_cut hcut (cs ++ blank)
      have htrim : trim (last ++ [c]) = trim last :=
        trim_surrounded (List.forall_mem_nil _) hlast last
      rw [hpieces, hconcat, List.map_append, List.map_append, List.map_singleton, htrim,
        List.map_singleton]

/-- A solid text with blanks around it is its only solid piece. -/
theorem solidPieces_item {lead item trail : String} (hlead : IsGap isBlank lead)
    (htrail : IsGap isBlank trail) (hitem : IsTrimmed item.toList) (hne : item ≠ "")
    (hmark : mark ∉ item.toList) : solidPieces mark (lead ++ item ++ trail) = [item] := by
  obtain ⟨first, others, hpieces⟩ :=
    List.exists_cons_of_ne_nil (pieces_ne_nil (· == mark) trail.toList)
  have hempty : ∀ piece ∈ first :: others, trim piece = [] := by
    rw [← hpieces]
    exact fun piece hpiece => trim_eq_nil_of_mem_pieces htrail hpiece
  have hfirst : trim ([] ++ (item.toList ++ first)) = item.toList :=
    trim_append_append (fun _ hc => absurd hc List.not_mem_nil) hitem
      (trim_eq_nil_iff.mp (hempty first List.mem_cons_self))
  have hothers : ((others.map trim).filter fun piece => !piece.isEmpty) = [] := by
    rw [List.filter_eq_nil_iff]
    intro piece hpiece
    obtain ⟨cs, hcs, rfl⟩ := List.mem_map.mp hpiece
    rw [hempty cs (List.mem_cons_of_mem _ hcs)]
    simp
  have htext : lead ++ item ++ trail =
      String.ofList (lead.toList ++ (item.toList ++ trail.toList)) := by
    simp [String.ofList_append, String.append_assoc]
  rw [htext, solidPieces_ofList, trim_pieces_blank_append hlead,
    pieces_append_of_not_cut (not_cut_of_not_mem hmark) hpieces, List.map_cons,
    ← List.nil_append (_ ++ first), hfirst, List.filter_cons, hothers, if_pos (by simpa using hne)]
  simp

/-- The items of a spaced text are its solid pieces. -/
theorem Spaced.solidPieces_eq {items : List String} {text : String}
    (hseparator : separator.toList = [mark]) (h : Spaced isBlank separator items text)
    (hitems : ∀ item ∈ items, IsTrimmed item.toList ∧ item ≠ "" ∧ mark ∉ item.toList) :
    solidPieces mark text = items := by
  induction h with
  | none hblank => exact solidPieces_of_blank hblank
  | last hlead htrail =>
    obtain ⟨htrimmed, hne, hmark⟩ := hitems _ List.mem_cons_self
    exact solidPieces_item hlead htrail htrimmed hne hmark
  | more hsome hlead htrail hrest ih =>
    obtain ⟨htrimmed, hne, hmark⟩ := hitems _ List.mem_cons_self
    rw [solidPieces_append hseparator, solidPieces_item hlead htrail htrimmed hne hmark,
      ih fun item hitem => hitems item (List.mem_cons_of_mem _ hitem)]
    rfl

end ContainerOps.Text
