import ContainerOps.Text.Blank

/-!
# Cutting and joining

The pieces of a text and the join of some strings both respect concatenation.  Cutting does so at
every place where a cut falls anyway; joining needs a separator between two lists that are not
empty.

Main results:

- `pieces_append_cons`: the pieces around a cut are the pieces on both sides of it.
- `join_append`: the join of two lists is the join of their joins.
- `join_eq_empty_iff`: only the empty list of nonempty strings has an empty join.
- `map_pieces_join` and `join_splitOn`: cutting and joining undo each other.
- `partsAt_iff`: the parts of a text at a mark are its pieces.
- `cutAt?_append_cons`: a text is cut at the first occurrence of a mark.
-/

namespace ContainerOps.Text

/-! ## Pieces -/

/-- A cut ends an empty piece. -/
theorem pieces_cons_of_cut {cut : Char → Bool} {c : Char} (hcut : cut c = true)
    (cs : List Char) : pieces cut (c :: cs) = [] :: pieces cut cs := by
  rw [pieces, if_pos hcut]

/-- A character that is no cut belongs to the first piece. -/
theorem pieces_cons_of_not_cut {cut : Char → Bool} {c : Char} (hcut : cut c = false)
    {cs first : List Char} {others : List (List Char)} (h : pieces cut cs = first :: others) :
    pieces cut (c :: cs) = (c :: first) :: others := by
  rw [pieces, h, if_neg (by simp [hcut])]

/-- The pieces around a cut are the pieces on both sides of it. -/
theorem pieces_append_cons {cut : Char → Bool} {c : Char} (hcut : cut c = true)
    (before after : List Char) :
    pieces cut (before ++ c :: after) = pieces cut before ++ pieces cut after := by
  induction before with
  | nil => rw [List.nil_append, pieces_cons_of_cut hcut]; rfl
  | cons b before ih =>
    cases hb : cut b with
    | true =>
      rw [List.cons_append, pieces_cons_of_cut hb, pieces_cons_of_cut hb, ih]
      rfl
    | false =>
      obtain ⟨first, others, hpieces⟩ := List.exists_cons_of_ne_nil (pieces_ne_nil cut before)
      rw [hpieces, List.cons_append] at ih
      rw [List.cons_append, pieces_cons_of_not_cut hb ih, pieces_cons_of_not_cut hb hpieces]
      rfl

/-- A text without a cut belongs to the first piece of what follows it. -/
theorem pieces_append_of_not_cut {cut : Char → Bool} {lead cs first : List Char}
    {others : List (List Char)} (huncut : ∀ c ∈ lead, cut c = false)
    (h : pieces cut cs = first :: others) :
    pieces cut (lead ++ cs) = (lead ++ first) :: others := by
  induction lead with
  | nil => exact h
  | cons c lead ih =>
    have hrest := ih fun d hd => huncut d (List.mem_cons_of_mem c hd)
    exact pieces_cons_of_not_cut (huncut c List.mem_cons_self) hrest

/-- A text without a cut is one piece. -/
theorem pieces_of_forall_not_cut {cut : Char → Bool} {cs : List Char}
    (huncut : ∀ c ∈ cs, cut c = false) : pieces cut cs = [cs] := by
  have hpieces : pieces cut (cs ++ []) = [cs ++ []] := pieces_append_of_not_cut huncut rfl
  rwa [List.append_nil] at hpieces

/-- A character at the end that is no cut belongs to the last piece. -/
theorem pieces_concat_of_not_cut {cut : Char → Bool} {c : Char} (hcut : cut c = false)
    (cs : List Char) : ∃ init last,
      pieces cut cs = init ++ [last] ∧ pieces cut (cs ++ [c]) = init ++ [last ++ [c]] := by
  induction cs with
  | nil => exact ⟨[], [], rfl, pieces_cons_of_not_cut hcut rfl⟩
  | cons b cs ih =>
    obtain ⟨init, last, hpieces, hconcat⟩ := ih
    rw [List.cons_append]
    cases hb : cut b with
    | true =>
      refine ⟨[] :: init, last, ?_, ?_⟩
      · rw [pieces_cons_of_cut hb, hpieces, List.cons_append]
      · rw [pieces_cons_of_cut hb, hconcat, List.cons_append]
    | false =>
      cases init with
      | nil =>
        exact ⟨[], b :: last, pieces_cons_of_not_cut hb hpieces,
          pieces_cons_of_not_cut hb hconcat⟩
      | cons first init =>
        exact ⟨(b :: first) :: init, last, pieces_cons_of_not_cut hb hpieces,
          pieces_cons_of_not_cut hb hconcat⟩

/-- A piece consists of characters of the text that are no cuts. -/
theorem mem_of_mem_pieces {cut : Char → Bool} {cs piece : List Char}
    (hpiece : piece ∈ pieces cut cs) : ∀ c ∈ piece, c ∈ cs ∧ cut c = false := by
  induction cs generalizing piece with
  | nil =>
    obtain rfl : piece = [] := List.mem_singleton.mp hpiece
    exact nofun
  | cons b cs ih =>
    intro c hc
    cases hb : cut b with
    | true =>
      rw [pieces_cons_of_cut hb] at hpiece
      rcases List.mem_cons.mp hpiece with rfl | hpiece
      · cases hc
      · exact (ih hpiece c hc).imp_left (List.mem_cons_of_mem b)
    | false =>
      obtain ⟨first, others, hpieces⟩ := List.exists_cons_of_ne_nil (pieces_ne_nil cut cs)
      rw [pieces_cons_of_not_cut hb hpieces] at hpiece
      rw [hpieces] at ih
      rcases List.mem_cons.mp hpiece with rfl | hpiece
      · rcases List.mem_cons.mp hc with rfl | hc
        · exact ⟨List.mem_cons_self, hb⟩
        · exact (ih List.mem_cons_self c hc).imp_left (List.mem_cons_of_mem b)
      · have hmem := ih (List.mem_cons_of_mem first hpiece) c hc
        exact hmem.imp_left (List.mem_cons_of_mem b)

/-! ## Joins -/

/-- Joining a string with a list that is not empty puts the separator behind the string. -/
theorem join_cons (separator s : String) {strings : List String} (hne : strings ≠ []) :
    join separator (s :: strings) = s ++ separator ++ join separator strings := by
  obtain ⟨t, rest, rfl⟩ := List.exists_cons_of_ne_nil hne
  exact join_cons_cons separator s t rest

/-- The join of two lists is the join of their joins. -/
theorem join_append (separator : String) {before after : List String} (hbefore : before ≠ [])
    (hafter : after ≠ []) :
    join separator (before ++ after) =
      join separator before ++ separator ++ join separator after := by
  induction before with
  | nil => exact absurd rfl hbefore
  | cons s before ih =>
    by_cases hnil : before = []
    · subst hnil
      exact join_cons separator s hafter
    · have happend : before ++ after ≠ [] := List.append_ne_nil_of_left_ne_nil hnil after
      rw [List.cons_append, join_cons separator s happend, join_cons separator s hnil, ih hnil]
      simp only [String.append_assoc]

/-- Only the empty list of nonempty strings has an empty join. -/
theorem join_eq_empty_iff (separator : String) {strings : List String}
    (hnonempty : ∀ s ∈ strings, s ≠ "") : join separator strings = "" ↔ strings = [] := by
  cases strings with
  | nil => simp [join]
  | cons s rest =>
    have hs : s ≠ "" := hnonempty s List.mem_cons_self
    by_cases hnil : rest = []
    · subst hnil
      simp [hs]
    · rw [join_cons separator s hnil]
      simp [hs]

/-- A text in front of the first of some strings is in front of their join. -/
theorem join_append_cons_left (separator a s : String) (rest : List String) :
    join separator ((a ++ s) :: rest) = a ++ join separator (s :: rest) := by
  cases rest with
  | nil => rfl
  | cons t rest => simp only [join_cons_cons, String.append_assoc]

/-! ## Cutting what was joined -/

section Separator

variable {cut : Char → Bool} {mark : Char} {separator : String}

/-- Cutting a join gives back the strings, if none of them has a cut itself. -/
theorem map_pieces_join (hcut : cut mark = true) (hseparator : separator.toList = [mark])
    {strings : List String} (hne : strings ≠ [])
    (huncut : ∀ s ∈ strings, ∀ c ∈ s.toList, cut c = false) :
    (pieces cut (join separator strings).toList).map String.ofList = strings := by
  induction strings with
  | nil => exact absurd rfl hne
  | cons s rest ih =>
    have hs : pieces cut s.toList = [s.toList] :=
      pieces_of_forall_not_cut (huncut s List.mem_cons_self)
    by_cases hnil : rest = []
    · subst hnil
      rw [join_singleton, hs]
      simp
    · have hlist : (join separator (s :: rest)).toList =
          s.toList ++ mark :: (join separator rest).toList := by
        rw [join_cons separator s hnil]
        simp [hseparator]
      have hrest := ih hnil fun t ht => huncut t (List.mem_cons_of_mem s ht)
      rw [hlist, pieces_append_cons hcut, hs, List.map_append, hrest]
      simp

/-- Strings that are cut at a mark and joined by it are the string again. -/
theorem join_splitOn (hseparator : separator.toList = [mark]) (s : String) :
    join separator (splitOn mark s) = s := by
  suffices h : ∀ cs, join separator ((pieces (· == mark) cs).map String.ofList) =
      String.ofList cs by
    rw [splitOn, h, String.ofList_toList]
  intro cs
  induction cs with
  | nil => rfl
  | cons c cs ih =>
    by_cases hc : c = mark
    · have hne : (pieces (· == mark) cs).map String.ofList ≠ [] := by
        simpa using pieces_ne_nil _ cs
      have hpieces : pieces (· == mark) (c :: cs) = [] :: pieces (· == mark) cs :=
        pieces_cons_of_cut (by simp [hc]) cs
      rw [hpieces, List.map_cons, join_cons _ _ hne, ih, ← String.toList_inj]
      simp [hseparator, hc]
    · obtain ⟨first, others, hrest⟩ :=
        List.exists_cons_of_ne_nil (pieces_ne_nil (· == mark) cs)
      have hpieces : pieces (· == mark) (c :: cs) = (c :: first) :: others :=
        pieces_cons_of_not_cut (by simp [hc]) hrest
      have hsplit : String.ofList (c :: first) = String.ofList [c] ++ String.ofList first := by
        rw [← String.ofList_append]
        rfl
      rw [hpieces, List.map_cons, hsplit, join_append_cons_left, ← List.map_cons, ← hrest, ih,
        ← String.ofList_append]
      rfl

/-- The pieces of two strings with the mark between them. -/
theorem splitOn_append (hseparator : separator.toList = [mark]) (a b : String) :
    splitOn mark (a ++ separator ++ b) = splitOn mark a ++ splitOn mark b := by
  have hlist : (a ++ separator ++ b).toList = a.toList ++ mark :: b.toList := by
    simp [hseparator]
  have hpieces : pieces (· == mark) (a.toList ++ mark :: b.toList) =
      pieces (· == mark) a.toList ++ pieces (· == mark) b.toList :=
    pieces_append_cons (by simp) a.toList b.toList
  rw [splitOn, hlist, hpieces, List.map_append]
  rfl

/-- A text without the mark has no character at which it is cut. -/
theorem not_cut_of_not_mem {cs : List Char} (hmark : mark ∉ cs) :
    ∀ c ∈ cs, (c == mark) = false := by
  intro c hc
  rw [beq_eq_false_iff_ne]
  rintro rfl
  exact hmark hc

/-- A string without the mark is one piece. -/
theorem splitOn_of_not_mem {s : String} (hmark : mark ∉ s.toList) : splitOn mark s = [s] := by
  rw [splitOn, pieces_of_forall_not_cut (not_cut_of_not_mem hmark)]
  simp

end Separator

/-! ## Parts at a mark -/

/-- The parts of a text at a mark: there are some, the mark is in none of them, and with the mark
between neighbours they make up the text. -/
structure PartsAt (mark : Char) (s : String) (parts : List String) : Prop where
  /-- There are some. -/
  ne_nil : parts ≠ []
  /-- The mark is in none of them. -/
  unmarked : ∀ part ∈ parts, mark ∉ part.toList
  /-- They make up the text. -/
  joined : join (String.singleton mark) parts = s

/-- The parts of a text at a mark are its pieces. -/
theorem partsAt_iff {mark : Char} {s : String} {parts : List String} :
    PartsAt mark s parts ↔ parts = splitOn mark s := by
  constructor
  · rintro ⟨hne, hunmarked, rfl⟩
    have hpieces : (pieces (· == mark) (join (String.singleton mark) parts).toList).map
        String.ofList = parts :=
      map_pieces_join (by simp) (String.toList_singleton mark) hne
        fun part hpart => not_cut_of_not_mem (hunmarked part hpart)
    exact hpieces.symm
  · rintro rfl
    refine ⟨by simpa [splitOn] using pieces_ne_nil _ s.toList, fun part hpart hmark => ?_,
      join_splitOn (String.toList_singleton mark) s⟩
    obtain ⟨piece, hpiece, rfl⟩ := List.mem_map.mp hpart
    rw [String.toList_ofList] at hmark
    simpa using (mem_of_mem_pieces hpiece mark hmark).2

/-! ## Cutting at the first mark -/

/-- A text is cut at the first occurrence of a mark. -/
theorem cutAt?_append_cons {mark : Char} {before : List Char} (hmark : mark ∉ before)
    (after : List Char) : cutAt? mark (before ++ mark :: after) = some (before, after) := by
  induction before with
  | nil => simp [cutAt?]
  | cons c before ih =>
    obtain ⟨hc, hbefore⟩ := not_or.mp (mt List.mem_cons.mpr hmark)
    rw [List.cons_append, cutAt?, if_neg (by simpa using Ne.symm hc), ih hbefore]
    rfl

/-- A text without a mark is not cut. -/
theorem cutAt?_of_not_mem {mark : Char} {cs : List Char} (hmark : mark ∉ cs) :
    cutAt? mark cs = none := by
  induction cs with
  | nil => rfl
  | cons c cs ih =>
    obtain ⟨hc, hcs⟩ := not_or.mp (mt List.mem_cons.mpr hmark)
    rw [cutAt?, if_neg (by simpa using Ne.symm hc), ih hcs]
    rfl

end ContainerOps.Text
