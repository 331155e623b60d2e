import ContainerOps.Proofs.Progress.Step
import ContainerOps.Proofs.Text.PieceChanges
import ContainerOps.Proofs.Text.Words

/-!
# The marker of dry runs

Compose puts a marker in front of the lines of a dry run.  The parser takes it off together with the
blanks behind it, so a marked line of a dry run has the entry that the line without its marker has
in any other run.

Main results:

- `lines_relined`: the lines of a text whose lines were changed.
- `entryOf_withoutMarker` and `map_entryOf_withoutMarkers`: lines have the same entries when their
  markers are taken off.
- `entryOf_withMarker` and `map_entryOf_withMarkers`: lines have the same entries when markers are
  put in front of them.
-/

namespace ContainerOps.Progress

open ContainerOps.Text

/-! ## Changing lines -/

/-- A text with each line changed in a way that may depend on its place.  The line breaks stay. -/
def relined (change : Nat → String → String) (text : String) : String :=
  String.ofList (changePieces isLineBreak
    (fun i piece => (change i (String.ofList piece)).toList) text.toList)

/-- The line has no line break. -/
def IsOneLine (line : String) : Prop :=
  ∀ c ∈ line.toList, isLineBreak c = false

instance (line : String) : Decidable (IsOneLine line) :=
  List.decidableBAll (isLineBreak · = false) line.toList

/-- The lines of a text whose lines were changed. -/
theorem lines_relined {change : Nat → String → String}
    (hchange : ∀ i line, IsOneLine line → IsOneLine (change i line)) (text : String) :
    lines (relined change text) = (lines text).mapIdx change := by
  have huncut : ∀ i piece, (∀ c ∈ piece, isLineBreak c = false) →
      ∀ c ∈ (change i (String.ofList piece)).toList, isLineBreak c = false := by
    intro i piece hpiece
    exact hchange i _ (by rwa [IsOneLine, String.toList_ofList])
  have hpieces := pieces_changePieces huncut text.toList
  unfold lines relined
  rw [String.toList_ofList, hpieces]
  exact List.ext_getElem (by simp) (by simp)

/-! ## Marked lines -/

/-- The blanks and the text that a marked line has behind its marker. -/
theorem afterMarker?_eq_some_iff {line rest : String} :
    afterMarker? line = some rest ↔
      ∃ cs, line.toList = dryRunMarker.toList ++ cs ∧ rest = String.ofList (trimStart cs) := by
  unfold afterMarker?
  rw [Option.map_eq_some_iff]
  simp only [after?_eq_some_iff]
  exact exists_congr fun cs => and_congr_right fun _ => eq_comm

/-- A line begins with the marker if there is something behind it, be it nothing but blanks. -/
theorem startsWith_marker (line : String) :
    startsWith line dryRunMarker = (afterMarker? line).isSome := by
  rw [startsWith, afterMarker?, Option.isSome_map]

/-- The marker neither begins nor ends with a blank. -/
theorem isTrimmed_marker : IsTrimmed dryRunMarker.toList := by
  decide

/-- The marker stands on one line. -/
theorem isOneLine_marker : IsOneLine dryRunMarker := by
  decide

/-- What a trimmed text has behind some beginning is trimmed but for blanks in front. -/
theorem isTrimmed_trimStart {lead rest : List Char} (htrimmed : IsTrimmed (lead ++ rest)) :
    IsTrimmed (trimStart rest) := by
  obtain ⟨gap, _, hgap⟩ := exists_trimStart rest
  refine isTrimmed_iff.mpr ⟨head?_trimStart rest, fun c hc => ?_⟩
  refine (isTrimmed_iff.mp htrimmed).2 c ?_
  have hlast : (trimStart rest).getLast? = some c := hc
  rw [hgap, List.getLast?_append, List.getLast?_append, hlast]
  rfl

/-- Nothing is behind the marker exactly if the marker is the whole line. -/
theorem afterMarker?_trimmed_eq_empty_iff {line : String} :
    afterMarker? (trimmed line) = some "" ↔ trimmed line = dryRunMarker := by
  constructor
  · intro hmarked
    obtain ⟨cs, hcs, hrest⟩ := afterMarker?_eq_some_iff.mp hmarked
    have hblank : IsBlankText cs := by
      rw [← trimStart_eq_nil_iff]
      simpa using hrest.symm
    have htrimmed : IsTrimmed (dryRunMarker.toList ++ cs) := by
      rw [← hcs, trimmed, String.toList_ofList]
      exact isTrimmed_trim line.toList
    have hend := trimEnd_eq_self_iff.mpr (isTrimmed_iff.mp htrimmed).2
    have hmarker := trimEnd_eq_self_iff.mpr (isTrimmed_iff.mp isTrimmed_marker).2
    rw [trimEnd_append_of_blank _ hblank, hmarker] at hend
    exact String.toList_inj.mp (hcs.trans hend.symm)
  · intro hline
    rw [hline, afterMarker?_eq_some_iff]
    exact ⟨[], (List.append_nil _).symm, rfl⟩

/-! ## Taking the marker off -/

/-- A line without its marker and the blanks behind the marker. -/
def withoutMarker (line : String) : String :=
  if startsWith (trimmed line) dryRunMarker then
    String.ofList (line.toList.takeWhile isBlank ++
      trimStart ((trimStart line.toList).drop dryRunMarker.toList.length))
  else line

/-- A line without a marker has none to take off. -/
theorem withoutMarker_of_unmarked {line : String} (hunmarked : afterMarker? (trimmed line) = none) :
    withoutMarker line = line := by
  rw [withoutMarker, startsWith_marker, hunmarked]
  rfl

/-- Of a marked line there is left what the parser finds behind the marker. -/
theorem trimmed_withoutMarker {line rest : String}
    (hmarked : afterMarker? (trimmed line) = some rest) : trimmed (withoutMarker line) = rest := by
  obtain ⟨cs, hline, rfl⟩ := afterMarker?_eq_some_iff.mp hmarked
  rw [trimmed, String.toList_ofList] at hline
  obtain ⟨after, hafter, hstart⟩ := exists_trimEnd (trimStart line.toList)
  rw [← trim, hline, List.append_assoc] at hstart
  -- the blanks in front of the line, those behind the marker and those behind the line go
  have hlead : IsBlankText (line.toList.takeWhile isBlank) :=
    fun _ hc => List.mem_takeWhile_imp hc
  have hrest : IsTrimmed (trimStart cs) :=
    isTrimmed_trimStart (hline ▸ isTrimmed_trim line.toList)
  obtain ⟨gap, hgap, hcs⟩ := exists_trimStart cs
  have htrim : trim (cs ++ after) = trimStart cs := by
    conv_lhs => rw [hcs, List.append_assoc]
    exact trim_append_append hgap hrest hafter
  rw [trimmed, withoutMarker, startsWith_marker, hmarked, Option.isSome_some, if_pos rfl,
    String.toList_ofList, hstart, List.drop_left, trim, trimStart_append_of_blank hlead,
    trimStart_eq_self_iff.mpr (head?_trimStart _), ← trim, htrim]

/-- A line has the same entry when its marker is taken off. -/
theorem entryOf_withoutMarker {line : String} (hline : trimmed line ≠ dryRunMarker) :
    entryOf false (withoutMarker line) = entryOf true line := by
  cases hmarked : afterMarker? (trimmed line) with
  | none =>
    rw [withoutMarker_of_unmarked hmarked, entryOf, entryOf]
    simp [unmarked, hmarked]
  | some rest =>
    obtain ⟨cs, hcs, hrest⟩ := afterMarker?_eq_some_iff.mp hmarked
    have hne : trimmed line ≠ "" := by
      intro hempty
      rw [hempty] at hcs
      cases hcs
    have hrestne : rest ≠ "" := by
      rintro rfl
      exact hline (afterMarker?_trimmed_eq_empty_iff.mp hmarked)
    rw [entryOf, trimmed_withoutMarker hmarked, if_neg hrestne, entryOf, if_neg hne]
    simp [unmarked, hmarked]

/-- A text without the markers of its lines. -/
def withoutMarkers (text : String) : String :=
  relined (fun _ => withoutMarker) text

/-- A line stays one line when its marker is taken off. -/
theorem isOneLine_withoutMarker {line : String} (hline : IsOneLine line) :
    IsOneLine (withoutMarker line) := by
  unfold withoutMarker
  split
  · intro c hc
    rw [String.toList_ofList, List.mem_append] at hc
    refine hline c ?_
    rcases hc with hc | hc
    · exact (List.takeWhile_prefix isBlank).mem hc
    · have hdrop := (List.dropWhile_suffix isBlank).mem hc
      exact (List.dropWhile_suffix isBlank).mem (List.mem_of_mem_drop hdrop)
  · exact hline

/-- The lines of a text without its markers. -/
theorem lines_withoutMarkers (text : String) :
    lines (withoutMarkers text) = (lines text).map withoutMarker := by
  rw [withoutMarkers, lines_relined fun _ _ => isOneLine_withoutMarker]
  exact List.ext_getElem (by simp) (by simp)

/-- The lines of a text have the same entries when their markers are taken off. -/
theorem map_entryOf_withoutMarkers {text : String}
    (hlines : ∀ line ∈ lines text, trimmed line ≠ dryRunMarker) :
    (lines text).map (entryOf true) = (lines (withoutMarkers text)).map (entryOf false) := by
  rw [lines_withoutMarkers, List.map_map]
  refine List.map_congr_left fun line hline => ?_
  rw [Function.comp_apply, entryOf_withoutMarker (hlines line hline)]

/-! ## Putting markers on -/

/-- Blanks within a line. -/
def IsGap (gap : String) : Prop :=
  IsBlankText gap.toList ∧ IsOneLine gap

instance (gap : String) : Decidable (IsGap gap) :=
  inferInstanceAs (Decidable (IsBlankText gap.toList ∧ IsOneLine gap))

/-- A line with a marker in front of it. -/
def withMarker (lead gap line : String) : String :=
  if trimmed line = "" then line else lead ++ dryRunMarker ++ gap ++ line

/-- The parser finds behind the marker what the line was before. -/
theorem afterMarker?_withMarker {lead gap line : String} (hlead : IsGap lead) (hgap : IsGap gap)
    (hline : trimmed line ≠ "") :
    afterMarker? (trimmed (withMarker lead gap line)) = some (trimmed line) := by
  obtain ⟨before, after, hbefore, hafter, happend⟩ := exists_trim line.toList
  have hne : trim line.toList ≠ [] := fun hnil => hline (by rw [trimmed, hnil])
  have htrimmed := isTrimmed_iff.mp (isTrimmed_trim line.toList)
  have hwhole :
      IsTrimmed (dryRunMarker.toList ++ (gap.toList ++ (before ++ trim line.toList))) := by
    refine isTrimmed_iff.mpr ⟨(isTrimmed_iff.mp isTrimmed_marker).1, fun c hc => ?_⟩
    refine htrimmed.2 c ?_
    rwa [← List.append_assoc, ← List.append_assoc, List.getLast?_append_of_ne_nil _ hne] at hc
  have hlist : (withMarker lead gap line).toList = lead.toList ++
      ((dryRunMarker.toList ++ (gap.toList ++ (before ++ trim line.toList))) ++ after) := by
    rw [withMarker, if_neg hline, String.toList_append, String.toList_append, String.toList_append]
    conv_lhs => rw [happend]
    simp only [List.append_assoc]
  rw [trimmed, hlist, trim_append_append hlead.1 hwhole hafter, afterMarker?_eq_some_iff]
  refine ⟨_, String.toList_ofList, ?_⟩
  rw [trimStart_append_of_blank hgap.1, trimStart_append_of_blank hbefore,
    trimStart_eq_self_iff.mpr htrimmed.1, trimmed]

/-- A blank line gets no marker, and any other line is not blank with one. -/
theorem trimmed_withMarker_eq_empty_iff {lead gap line : String} (hlead : IsGap lead)
    (hgap : IsGap gap) : trimmed (withMarker lead gap line) = "" ↔ trimmed line = "" := by
  constructor
  · intro hempty
    by_contra hline
    have hmarked := afterMarker?_withMarker hlead hgap hline
    rw [hempty] at hmarked
    cases hmarked
  · intro hline
    rwa [withMarker, if_pos hline]

/-- A line has the same entry when a marker is put in front of it. -/
theorem entryOf_withMarker {lead gap : String} (hlead : IsGap lead) (hgap : IsGap gap)
    (line : String) : entryOf true (withMarker lead gap line) = entryOf false line := by
  by_cases hline : trimmed line = ""
  · have hmarked := (trimmed_withMarker_eq_empty_iff hlead hgap).mpr hline
    rw [entryOf, entryOf, if_pos hline, if_pos hmarked]
  · have hmarked := mt (trimmed_withMarker_eq_empty_iff hlead hgap).mp hline
    rw [entryOf, entryOf, if_neg hline, if_neg hmarked]
    simp [unmarked, afterMarker?_withMarker hlead hgap hline]

/-- A text with markers in front of its lines, each with blanks of its own around it. -/
def withMarkers (lead gap : Nat → String) (text : String) : String :=
  relined (fun i => withMarker (lead i) (gap i)) text

/-- A line stays one line when a marker is put in front of it. -/
theorem isOneLine_withMarker {lead gap line : String} (hlead : IsGap lead) (hgap : IsGap gap)
    (hline : IsOneLine line) : IsOneLine (withMarker lead gap line) := by
  unfold withMarker
  split
  · exact hline
  · unfold IsOneLine
    simp only [String.toList_append, List.forall_mem_append]
    exact ⟨⟨⟨hlead.2, isOneLine_marker⟩, hgap.2⟩, hline⟩

/-- The lines of a text with markers. -/
theorem lines_withMarkers {lead gap : Nat → String} (hlead : ∀ i, IsGap (lead i))
    (hgap : ∀ i, IsGap (gap i)) (text : String) :
    lines (withMarkers lead gap text) =
      (lines text).mapIdx fun i => withMarker (lead i) (gap i) :=
  lines_relined (fun i _ => isOneLine_withMarker (hlead i) (hgap i)) text

/-- The lines of a text have the same entries when markers are put in front of them. -/
theorem map_entryOf_withMarkers {lead gap : Nat → String} (hlead : ∀ i, IsGap (lead i))
    (hgap : ∀ i, IsGap (gap i)) (text : String) :
    (lines (withMarkers lead gap text)).map (entryOf true) = (lines text).map (entryOf false) := by
  rw [lines_withMarkers hlead hgap]
  refine List.ext_getElem (by simp) fun i _ _ => ?_
  rw [List.getElem_map, List.getElem_map, List.getElem_mapIdx,
    entryOf_withMarker (hlead i) (hgap i)]

/-- A line of a text with markers is blank or has a marker. -/
theorem afterMarker?_getElem?_withMarkers {lead gap : Nat → String} (hlead : ∀ i, IsGap (lead i))
    (hgap : ∀ i, IsGap (gap i)) {text raw : String} {i : Nat}
    (hraw : (lines (withMarkers lead gap text))[i]? = some raw) (hblank : trimmed raw ≠ "") :
    ∃ rest, afterMarker? (trimmed raw) = some rest := by
  rw [lines_withMarkers hlead hgap, List.getElem?_mapIdx] at hraw
  obtain ⟨line, _, rfl⟩ := Option.map_eq_some_iff.mp hraw
  have hline := mt (trimmed_withMarker_eq_empty_iff (hlead i) (hgap i)).mpr hblank
  exact ⟨trimmed line, afterMarker?_withMarker (hlead i) (hgap i) hline⟩

end ContainerOps.Progress
