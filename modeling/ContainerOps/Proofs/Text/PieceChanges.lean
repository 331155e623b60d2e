import ContainerOps.Proofs.Text.Pieces

/-!
# Changing the pieces of a text

A text is its first piece and the other pieces, each with the cut in front of it.  Taken apart like
this, every piece can be replaced while the cuts stay as they are.

Main results:

- `assemble_dissect`: a text is put together again from its parts.
- `pieces_changePieces`: a text with changed pieces has the changed pieces.
-/

namespace ContainerOps.Text

/-! ## Parts of a text -/

/-- The first piece of a text, and the others with the cuts in front of them. -/
def dissect (cut : Char → Bool) : List Char → List Char × List (Char × List Char)
  | [] => ([], [])
  | c :: rest =>
    let parts := dissect cut rest
    if cut c then ([], (c, parts.1) :: parts.2) else (c :: parts.1, parts.2)

/-- The text of some parts. -/
def assemble (parts : List Char × List (Char × List Char)) : List Char :=
  parts.1 ++ parts.2.flatMap fun part => part.1 :: part.2

/-- A text is put together again from its parts. -/
theorem assemble_dissect (cut : Char → Bool) (cs : List Char) :
    assemble (dissect cut cs) = cs := by
  induction cs with
  | nil => rfl
  | cons c rest ih =>
    unfold assemble at ih
    unfold dissect assemble
    split
    · rw [List.flatMap_cons, List.nil_append, List.cons_append, ih]
    · rw [List.cons_append, ih]

/-- The parts of a text hold its pieces. -/
theorem pieces_eq_dissect (cut : Char → Bool) (cs : List Char) :
    pieces cut cs = (dissect cut cs).1 :: (dissect cut cs).2.map (·.2) := by
  induction cs with
  | nil => rfl
  | cons c rest ih =>
    unfold dissect
    cases hc : cut c with
    | true => rw [pieces_cons_of_cut hc, ih]; rfl
    | false => rw [pieces_cons_of_not_cut hc ih]; rfl

/-- The parts of a text hold its cuts. -/
theorem cut_of_mem_dissect {cut : Char → Bool} {cs : List Char} {part : Char × List Char}
    (hpart : part ∈ (dissect cut cs).2) : cut part.1 = true := by
  induction cs with
  | nil => cases hpart
  | cons c rest ih =>
    unfold dissect at hpart
    cases hc : cut c with
    | true =>
      rw [if_pos hc] at hpart
      rcases List.mem_cons.mp hpart with rfl | hpart
      · exact hc
      · exact ih hpart
    | false =>
      rw [if_neg (by simp [hc])] at hpart
      exact ih hpart

/-- A text of parts has their pieces, if the cuts are cuts and nothing else is. -/
theorem pieces_assemble {cut : Char → Bool} {first : List Char} {others : List (Char × List Char)}
    (hfirst : ∀ c ∈ first, cut c = false)
    (hothers : ∀ part ∈ others, cut part.1 = true ∧ ∀ c ∈ part.2, cut c = false) :
    pieces cut (assemble (first, others)) = first :: others.map (·.2) := by
  induction others generalizing first with
  | nil =>
    unfold assemble
    rw [List.flatMap_nil, List.append_nil]
    exact pieces_of_forall_not_cut hfirst
  | cons part rest ih =>
    obtain ⟨hcut, hpiece⟩ := hothers part List.mem_cons_self
    have hrest := ih hpiece fun other hother => hothers other (List.mem_cons_of_mem part hother)
    have happend : assemble (first, part :: rest) = first ++ part.1 :: assemble (part.2, rest) := by
      simp [assemble]
    rw [happend, pieces_append_cons hcut, pieces_of_forall_not_cut hfirst, hrest]
    rfl

/-! ## Changes -/

/-- A text with each piece changed in a way that may depend on its place. -/
def changePieces (cut : Char → Bool) (change : Nat → List Char → List Char)
    (cs : List Char) : List Char :=
  let parts := dissect cut cs
  assemble (change 0 parts.1, parts.2.mapIdx fun i part => (part.1, change (i + 1) part.2))

/-- A text with changed pieces has the changed pieces, if the changes bring in no cuts. -/
theorem pieces_changePieces {cut : Char → Bool} {change : Nat → List Char → List Char}
    (hchange : ∀ i piece, (∀ c ∈ piece, cut c = false) → ∀ c ∈ change i piece, cut c = false)
    (cs : List Char) :
    pieces cut (changePieces cut change cs) = (pieces cut cs).mapIdx change := by
  have huncut : ∀ piece ∈ pieces cut cs, ∀ c ∈ piece, cut c = false :=
    fun _ hpiece c hc => (mem_of_mem_pieces hpiece c hc).2
  rw [pieces_eq_dissect, List.forall_mem_cons] at huncut
  have hparts : ∀ part ∈ (dissect cut cs).2.mapIdx fun i part => (part.1, change (i + 1) part.2),
      cut part.1 = true ∧ ∀ c ∈ part.2, cut c = false := by
    intro part hpart
    obtain ⟨i, hi, rfl⟩ := List.mem_mapIdx.mp hpart
    have hmem : (dissect cut cs).2[i] ∈ (dissect cut cs).2 := List.getElem_mem hi
    have hcut := cut_of_mem_dissect hmem
    exact ⟨hcut, hchange (i + 1) _ (huncut.2 _ (List.mem_map_of_mem hmem))⟩
  have hmap : ((dissect cut cs).2.mapIdx fun i part => (part.1, change (i + 1) part.2)).map (·.2) =
      ((dissect cut cs).2.map (·.2)).mapIdx fun i => change (i + 1) :=
    List.ext_getElem (by simp) (by simp)
  unfold changePieces
  rw [pieces_assemble (hchange 0 _ huncut.1) hparts, hmap, pieces_eq_dissect, List.mapIdx_cons]

end ContainerOps.Text
