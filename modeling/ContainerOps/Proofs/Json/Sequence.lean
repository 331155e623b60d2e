import ContainerOps.Proofs.Json.Framing
import ContainerOps.Proofs.Text.Spacing

/-!
# An array of JSON texts

Texts that are JSON each, written as the items of one array with white space where JSON has it,
are read as the array of what each of them is read as alone.  The array takes one level of nesting,
so its items have one level less than a text of their own.

Main results:

- `document_array`: what an array of JSON texts is read as.
-/

namespace ContainerOps.Json.Reader

open ContainerOps.Text

variable {fuel room : Nat} {cs rest : List Char} {o : Outline}

/-! ## Whole texts -/

/-- A text that is one JSON value is read to the end of that value and white space behind it. -/
theorem exists_value_of_ended {text : String} (hended : (document text).ended = true) :
    ∃ rest, value (2 * text.toList.length + 2) maxDepth text.toList =
      ((document text).outline, some rest) ∧ IsSpaceText rest := by
  unfold document at hended ⊢
  dsimp only at hended ⊢
  cases hread : value (2 * text.toList.length + 2) maxDepth text.toList with
  | mk outline rest? =>
    cases rest? with
    | none =>
      rw [hread] at hended
      cases hended
    | some rest =>
      rw [hread] at hended
      exact ⟨rest, rfl, skipSpace_eq_nil_iff.mp (List.isEmpty_iff.mp hended)⟩

/-- White space in front of a value is passed over. -/
theorem value_append_of_space {gap : List Char} (hgap : IsSpaceText gap) (cs : List Char) :
    value fuel room (gap ++ cs) = value fuel room cs := by
  cases fuel with
  | zero => rfl
  | succ fuel => rw [value, value, skipSpace_append_of_space hgap]

/-- White space in front of items is passed over. -/
theorem items_append_of_space {gap : List Char} (hgap : IsSpaceText gap) (cs : List Char) :
    items fuel room (gap ++ cs) = items fuel room cs := by
  cases fuel with
  | zero => rfl
  | succ fuel => rw [items, items, value_append_of_space hgap]

/-- Items are read from their first character that is not white space. -/
theorem items_skipSpace (cs : List Char) : items fuel room (skipSpace cs) = items fuel room cs := by
  have hsplit : cs = cs.takeWhile isSpace ++ skipSpace cs := List.takeWhile_append_dropWhile.symm
  conv => rhs; rw [hsplit]
  exact (items_append_of_space (fun c hc => List.mem_takeWhile_imp hc) _).symm

/-- A value that is read to its end begins with no closing bracket. -/
theorem ne_bracket_of_value (h : value fuel room cs = (o, some rest)) (more : List Char) :
    skipSpace cs ≠ ']' :: more := by
  cases fuel with
  | zero => cases h
  | succ fuel =>
    obtain ⟨c, body, hcs, hread⟩ := exists_valueRead h
    intro hbracket
    rw [hcs] at hbracket
    obtain ⟨rfl, -⟩ := List.cons.inj hbracket
    cases hread with
    | word hw htext =>
      simp only [words, List.mem_cons, List.not_mem_nil, or_false] at hw
      rcases hw with rfl | rfl | rfl <;> exact absurd (List.cons.inj htext).1 (by decide)
    | number hc hnumber =>
      rw [number_cons_of_ne (by decide)] at hnumber
      cases hnumber

/-- Items that are read to their end begin with no closing bracket. -/
theorem ne_bracket_of_items {found : List Outline} (h : items fuel room cs = (found, some rest))
    (more : List Char) : skipSpace cs ≠ ']' :: more := by
  obtain ⟨fuel, o, after, hvalue⟩ := exists_value_of_items h
  exact ne_bracket_of_value hvalue more

/-! ## Items of an array -/

/-- A text that is one JSON value of limited nesting. -/
structure IsNested (limit : Nat) (text : String) : Prop where
  /-- Nothing but white space follows the value. -/
  ended : (document text).ended = true
  /-- No more arrays and objects than that are inside one another. -/
  depth_le : (document text).outline.depth ≤ limit

/-- A mark that is neither white space nor part of a number. -/
def IsMark (c : Char) : Prop :=
  isSpace c = false ∧ digit? c = none ∧ c ≠ '.' ∧ c ≠ 'e' ∧ c ≠ 'E'

instance (c : Char) : Decidable (IsMark c) :=
  inferInstanceAs (Decidable (_ ∧ _))

/-- White space in front of a mark is passed over. -/
theorem skipSpace_append_mark {gap more : List Char} {mark : Char} (hgap : IsSpaceText gap)
    (hmark : IsMark mark) : skipSpace (gap ++ mark :: more) = mark :: more := by
  rw [skipSpace_append_of_space hgap, skipSpace_cons_of_not_space hmark.1]

/-- White space in front of a mark cannot belong to a number, nor can the mark. -/
theorem delimited_append_mark {gap more : List Char} {mark : Char} (hgap : IsSpaceText gap)
    (hmark : IsMark mark) : Delimited (gap ++ mark :: more) := by
  cases gap with
  | nil =>
    intro c hc
    cases hc
    exact hmark.2
  | cons c gap => exact delimited_of_isSpace (hgap c List.mem_cons_self) _

/-- A text that is one JSON value is read as an item, up to the mark behind it. -/
theorem exists_value_item {doc : String} (hdoc : IsNested room doc)
    (hfuel : 2 * doc.toList.length + 2 ≤ fuel) {lead trail more : List Char} {mark : Char}
    (hlead : IsSpaceText lead) (htrail : IsSpaceText trail) (hmark : IsMark mark) :
    ∃ after, value fuel room (lead ++ (doc.toList ++ (trail ++ mark :: more))) =
      ((document doc).outline, some after) ∧ skipSpace after = mark :: more := by
  obtain ⟨rest, hread, hrest⟩ := exists_value_of_ended hdoc.ended
  refine ⟨rest ++ (trail ++ mark :: more), ?_, ?_⟩
  · rw [value_append_of_space hlead]
    exact value_append (delimited_append_mark htrail hmark) hfuel hread hdoc.depth_le
  · rw [skipSpace_append_of_space hrest, skipSpace_append_mark htrail hmark]

/-- JSON texts with commas between them are read as items up to a closing bracket. -/
theorem items_of_spaced {docs : List String} {body : String} (h : Spaced isSpace "," docs body)
    (hne : docs ≠ []) (hdocs : ∀ doc ∈ docs, IsNested room doc)
    (hfuel : 2 * body.toList.length + 3 ≤ fuel) (after : List Char) :
    items fuel room (body.toList ++ ']' :: after) =
      (docs.map fun doc => (document doc).outline, some after) := by
  -- the induction is on the texts; each item takes one step and leaves enough for the others,
  -- since the comma behind it counts twice
  induction h generalizing fuel with
  | none hblank => exact absurd rfl hne
  | @last lead doc trail hlead htrail =>
    simp only [String.toList_append, List.length_append] at hfuel
    obtain ⟨fuel, rfl, hle⟩ := exists_bound_of_succ_le hfuel
    obtain ⟨behind, hvalue, hbehind⟩ : ∃ behind,
        value fuel room (lead.toList ++ (doc.toList ++ (trail.toList ++ ']' :: after))) =
          ((document doc).outline, some behind) ∧ skipSpace behind = ']' :: after :=
      exists_value_item (hdocs doc List.mem_cons_self) (by omega) hlead htrail (by decide)
    simp only [String.toList_append, List.append_assoc]
    exact items_succ_iff.mpr (.last hvalue hbehind)
  | @more lead doc trail rest docs hothers hlead htrail hrest ih =>
    have hcomma : ",".toList = [','] := rfl
    simp only [String.toList_append, List.length_append, hcomma, List.length_singleton] at hfuel
    obtain ⟨fuel, rfl, hle⟩ := exists_bound_of_succ_le hfuel
    obtain ⟨behind, hvalue, hbehind⟩ : ∃ behind,
        value fuel room (lead.toList ++ (doc.toList ++
          (trail.toList ++ ',' :: (rest.toList ++ ']' :: after)))) =
          ((document doc).outline, some behind) ∧
        skipSpace behind = ',' :: (rest.toList ++ ']' :: after) :=
      exists_value_item (hdocs doc List.mem_cons_self) (by omega) hlead htrail (by decide)
    have hmore := ih hothers (fun doc hdoc => hdocs doc (List.mem_cons_of_mem _ hdoc))
      (show 2 * rest.toList.length + 3 ≤ fuel by omega)
    simp only [String.toList_append, List.append_assoc, hcomma, List.singleton_append]
    exact items_succ_iff.mpr
      (.more hvalue hbehind (ne_bracket_of_items hmore) ((items_skipSpace _).trans hmore))

/-! ## Arrays -/

/-- A text that is an array of items, with white space where JSON has it. -/
def IsArrayOf (docs : List String) (text : String) : Prop :=
  ∃ lead body trail, IsGap isSpace lead ∧ IsGap isSpace trail ∧ Spaced isSpace "," docs body ∧
    text = lead ++ "[" ++ body ++ "]" ++ trail

/-- How an array of JSON texts is read from its opening bracket on. -/
theorem valueRead_array {docs : List String} {body : String}
    (hbody : Spaced isSpace "," docs body) (hdocs : ∀ doc ∈ docs, IsNested room doc)
    (hfuel : 2 * body.toList.length + 3 ≤ fuel) (after : List Char) :
    ValueRead fuel (room + 1) '[' (body.toList ++ ']' :: after)
      (.array (docs.map fun doc => (document doc).outline) true) after := by
  by_cases hne : docs = []
  · subst hne
    cases hbody with
    | none hblank => exact .emptyArray (skipSpace_append_mark hblank (by decide))
  · have hitems := items_of_spaced hbody hne hdocs hfuel after
    exact .array (ne_bracket_of_items hitems) ((items_skipSpace _).trans hitems)

/-- An array of JSON texts is read as the array of what each is read as alone. -/
theorem document_array {docs : List String} {text : String} (h : IsArrayOf docs text)
    (hdocs : ∀ doc ∈ docs, IsNested 126 doc) :
    document text =
      { outline := .array (docs.map fun doc => (document doc).outline) true
        ended := true } := by
  obtain ⟨lead, body, trail, hlead, htrail, hbody, rfl⟩ := h
  have hcs : (lead ++ "[" ++ body ++ "]" ++ trail).toList =
      lead.toList ++ '[' :: (body.toList ++ ']' :: trail.toList) := by
    simp [String.toList_append]
  have hskip : skipSpace (lead.toList ++ '[' :: (body.toList ++ ']' :: trail.toList)) =
      '[' :: (body.toList ++ ']' :: trail.toList) :=
    skipSpace_append_mark hlead (by decide)
  have hread : value (2 * (lead ++ "[" ++ body ++ "]" ++ trail).toList.length + 2) maxDepth
      (lead ++ "[" ++ body ++ "]" ++ trail).toList =
      (.array (docs.map fun doc => (document doc).outline) true, some trail.toList) := by
    rw [hcs]
    refine (valueRead_array hbody hdocs ?_ trail.toList).value_eq hskip
    simp only [List.length_append, List.length_cons]
    omega
  have htrail : skipSpace trail.toList = [] := skipSpace_eq_nil_iff.mpr htrail
  simp only [document, hread, htrail, List.isEmpty_nil]

end ContainerOps.Json.Reader
