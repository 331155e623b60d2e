import ContainerOps.Proofs.Progress.Shapes
import ContainerOps.Proofs.Text.Words

/-!
# The grammar of progress lines

Every shape is a row of words with blanks between and around them.  A line has a shape exactly if
it is such a row, whatever the order in which the matchers are tried.

Main results:

- `ResourceKind.ofWord?_eq_some_iff`: a kind of resource has one word.
- `Status.isWord_token`: the token of a status is a word.
- `twoWords_eq_some_iff`: what it means to be a line of two words.
- `matchResource_eq_some_iff`, `matchPull_eq_some_iff` and `matchError_eq_some_iff`: what each
  matcher finds.
- `classify_eq_resource_iff`, `classify_eq_pull_iff` and `classify_eq_error_iff`: the lines of
  each shape.
-/

namespace ContainerOps.Progress

open ContainerOps.Text

/-! ## Words for resources and statuses -/

/-- The word for a kind of resource at the front of a line; none for a kind that has no lines of
its own. -/
def ResourceKind.word? : ResourceKind → Option String
  | .network => some "Network"
  | .image => some "Image"
  | .volume => some "Volume"
  | .container => some "Container"
  | .unknown => none
  | .service => none

/-- A kind of resource has one word. -/
theorem ResourceKind.ofWord?_eq_some_iff {word : String} {kind : ResourceKind} :
    ofWord? word = some kind ↔ kind.word? = some word := by
  unfold ofWord?
  constructor
  · intro hkind
    repeat' split at hkind
    all_goals cases hkind
    all_goals subst word; rfl
  · intro hword
    cases kind <;> cases hword <;> rfl

/-- The word for a kind of resource is a word. -/
theorem ResourceKind.isWord_word? {kind : ResourceKind} {word : String}
    (hword : kind.word? = some word) : IsWord word.toList := by
  cases kind <;> cases hword <;> decide

/-- The token of a status is a word. -/
theorem Status.isWord_token (status : Status) : IsWord status.token.toList := by
  cases status <;> decide

/-! ## Two words -/

/-- The line consists of two words. -/
def IsTwoWords (line first second : String) : Prop :=
  ∃ lead gap trail, IsBlankText lead ∧ IsBlankText gap ∧ gap ≠ [] ∧ IsBlankText trail ∧
    IsWord first.toList ∧ IsWord second.toList ∧
    line.toList = lead ++ (first.toList ++ (gap ++ (second.toList ++ trail)))

/-- The words that are cut off one after the other stand in the text with gaps before them. -/
theorem exists_two_words {cs : List Char} (hsecond : (splitWord (splitWord cs).2).1 ≠ []) :
    ∃ lead gap, IsBlankText lead ∧ IsBlankText gap ∧ gap ≠ [] ∧ IsWord (splitWord cs).1 ∧
      IsWord (splitWord (splitWord cs).2).1 ∧
      cs = lead ++ ((splitWord cs).1 ++
        (gap ++ ((splitWord (splitWord cs).2).1 ++ (splitWord (splitWord cs).2).2))) := by
  obtain ⟨lead, hlead, hcs, hletters, hhead⟩ := exists_splitWord cs
  obtain ⟨gap, hgap, hrest, hletters₂, _⟩ := exists_splitWord (splitWord cs).2
  have hword : IsWord (splitWord (splitWord cs).2).1 := ⟨hsecond, hletters₂⟩
  have hfirst : (splitWord cs).1 ≠ [] := by
    intro hnil
    rw [splitWord_snd_of_fst hnil] at hsecond
    exact hsecond rfl
  rw [hrest] at hhead
  exact ⟨lead, gap, hlead, hgap, hword.ne_nil_of_head? hhead, ⟨hfirst, hletters⟩, hword,
    by rw [← hrest, ← hcs]⟩

/-- What it means to be a line of two words. -/
theorem twoWords_eq_some_iff {line first second : String} :
    twoWords line = some (first, second) ↔ IsTwoWords line first second := by
  unfold twoWords
  dsimp only
  constructor
  · intro htwo
    split at htwo
    · cases htwo
    · rename_i hcond
      simp only [Bool.or_eq_true, not_or, List.isEmpty_iff, Bool.not_eq_true,
        Bool.not_eq_false'] at hcond
      cases htwo
      obtain ⟨lead, gap, hlead, hgap, hne, hfirst, hsecond, hline⟩ := exists_two_words hcond.1
      refine ⟨lead, gap, _, hlead, hgap, hne, trim_eq_nil_iff.mp hcond.2, ?_, ?_, ?_⟩
      · simpa using hfirst
      · simpa using hsecond
      · simpa using hline
  · rintro ⟨lead, gap, trail, hlead, hgap, hne, htrail, hfirst, hsecond, hline⟩
    have hend : ∀ c ∈ trail.head?, isBlank c = true :=
      fun c hc => htrail c (List.mem_of_mem_head? hc)
    rw [hline, splitWord_append hlead hfirst (hgap.head?_append hne _)]
    dsimp only
    rw [splitWord_append hgap hsecond hend]
    simp [hsecond.1, trim_eq_nil_iff.mpr htrail]

/-! ## Resources -/

/-- The line is about a resource: a word for its kind, a word for itself, and a text that neither
begins nor ends with a blank and stays on one line. -/
def IsResourceLine (line : String) (kind : ResourceKind) (id text : String) : Prop :=
  ∃ word lead gap₁ gap₂ trail, kind.word? = some word ∧ IsBlankText lead ∧
    IsBlankText gap₁ ∧ gap₁ ≠ [] ∧ IsBlankText gap₂ ∧ gap₂ ≠ [] ∧ IsBlankText trail ∧
    IsWord id.toList ∧ text ≠ "" ∧ IsTrimmed text.toList ∧ '\n' ∉ text.toList ∧
    line.toList =
      lead ++ (word.toList ++ (gap₁ ++ (id.toList ++ (gap₂ ++ (text.toList ++ trail)))))

/-- The matcher for resources finds the lines about resources. -/
theorem matchResource_eq_some_iff {line id text : String} {kind : ResourceKind} :
    matchResource line = some (.resource kind id text) ↔ IsResourceLine line kind id text := by
  unfold matchResource
  dsimp only
  constructor
  · intro hmatch
    split at hmatch
    · cases hmatch
    · rename_i found hkind
      split at hmatch
      · cases hmatch
      · rename_i hcond
        cases hmatch
        simp only [Bool.or_eq_true, not_or, List.isEmpty_iff, List.contains_iff_mem] at hcond
        obtain ⟨hne, hbreak⟩ := hcond
        -- a text behind the second word is there only if that word is
        have hsecond : (splitWord (splitWord line.toList).2).1 ≠ [] := by
          intro hnil
          rw [splitWord_snd_of_fst hnil] at hne
          exact hne rfl
        obtain ⟨lead, gap₁, hlead, hgap₁, hne₁, hfirst, hid, hline⟩ := exists_two_words hsecond
        obtain ⟨_, _, _, _, hhead⟩ := exists_splitWord (splitWord line.toList).2
        obtain ⟨gap₂, trail, hgap₂, htrail, hrest⟩ :=
          exists_trim (splitWord (splitWord line.toList).2).2
        have htrimmed := isTrimmed_trim (splitWord (splitWord line.toList).2).2
        have hword := ResourceKind.ofWord?_eq_some_iff.mp hkind
        refine ⟨_, lead, gap₁, gap₂, trail, hword, hlead, hgap₁, hne₁, hgap₂, ?_, htrail, ?_⟩
        · rintro rfl
          rw [hrest, List.nil_append, List.head?_append_of_ne_nil _ hne] at hhead
          exact hne (eq_nil_of_head? hhead (isTrimmed_iff.mp htrimmed).1)
        · simp only [String.toList_ofList]
          refine ⟨hid, ?_, htrimmed, hbreak, by rw [← hrest, ← hline]⟩
          rwa [Ne, ← String.toList_inj, String.toList_ofList]
  · rintro ⟨word, lead, gap₁, gap₂, trail, hword, hlead, hgap₁, hne₁, hgap₂, hne₂, htrail, hid,
      hne, htrimmed, hbreak, hline⟩
    have hnil : text.toList ≠ [] := by simpa using hne
    rw [hline, splitWord_append hlead (ResourceKind.isWord_word? hword)
      (hgap₁.head?_append hne₁ _)]
    dsimp only
    rw [splitWord_append hgap₁ hid (hgap₂.head?_append hne₂ _)]
    dsimp only
    rw [trim_append_append hgap₂ htrimmed htrail, String.ofList_toList, String.ofList_toList,
      String.ofList_toList, ResourceKind.ofWord?_eq_some_iff.mpr hword]
    simp [hnil, hbreak]

/-- A line of two words is not about a resource. -/
theorem matchResource_of_twoWords {line first second : String}
    (htwo : twoWords line = some (first, second)) : matchResource line = none := by
  unfold twoWords at htwo
  dsimp only at htwo
  split at htwo
  · cases htwo
  · rename_i hcond
    simp only [Bool.or_eq_true, not_or, Bool.not_eq_true, Bool.not_eq_false'] at hcond
    unfold matchResource
    dsimp only
    rw [hcond.2]
    split <;> rfl

/-! ## Pulls and errors -/

/-- The matcher for pulls finds the lines of a service and a status of pulls. -/
theorem matchPull_eq_some_iff {line service : String} {status : Status} :
    matchPull line = some (.pull service status) ↔
      status ∈ Status.pull ∧ IsTwoWords line service status.token := by
  rw [← twoWords_eq_some_iff]
  unfold matchPull
  constructor
  · intro hmatch
    split at hmatch
    · cases hmatch
    · rename_i htwo
      obtain ⟨found, hfound, heq⟩ := Option.map_eq_some_iff.mp hmatch
      cases heq
      have htoken := List.find?_some hfound
      rw [decide_eq_true_eq] at htoken
      exact ⟨List.mem_of_find?_eq_some hfound, htoken ▸ htwo⟩
  · rintro ⟨hpull, htwo⟩
    have hfound : (Status.pull.find? fun s => s.token = status.token) = some status := by
      cases status <;> first | rfl | exact absurd hpull (by decide)
    rw [htwo]
    dsimp only
    rw [hfound]
    rfl

/-- The matcher for errors finds the lines of an identifier and the error status. -/
theorem matchError_eq_some_iff {line id : String} :
    matchError line = some (.error id) ↔ IsTwoWords line id Status.error.token := by
  rw [← twoWords_eq_some_iff]
  unfold matchError
  constructor
  · intro hmatch
    split at hmatch
    · cases hmatch
    · rename_i htwo
      split at hmatch
      · rename_i hword
        cases hmatch
        rw [← hword]
        exact htwo
      · cases hmatch
  · intro htwo
    rw [htwo]
    rfl

/-- A line about an error is not about a pull. -/
theorem matchPull_of_error {line id : String}
    (htwo : twoWords line = some (id, Status.error.token)) : matchPull line = none := by
  unfold matchPull
  rw [htwo]
  rfl

/-! ## Shapes -/

/-- The lines about resources are those of their grammar. -/
theorem classify_eq_resource_iff {line id text : String} {kind : ResourceKind} :
    classify line = .resource kind id text ↔ IsResourceLine line kind id text := by
  rw [← matchResource_eq_some_iff]
  constructor
  · intro hshape
    rcases matched_of_classify hshape with hmatch | hmatch | hmatch | hnone
    · exact hmatch
    · obtain ⟨_, _, heq, _⟩ := pull_of_matchPull hmatch
      cases heq
    · obtain ⟨_, heq⟩ := error_of_matchError hmatch
      cases heq
    · cases hnone
  · exact classify_of_resource

/-- The lines about pulls are those of a service and a status of pulls. -/
theorem classify_eq_pull_iff {line service : String} {status : Status} :
    classify line = .pull service status ↔
      status ∈ Status.pull ∧ IsTwoWords line service status.token := by
  rw [← matchPull_eq_some_iff]
  constructor
  · intro hshape
    rcases matched_of_classify hshape with hmatch | hmatch | hmatch | hnone
    · obtain ⟨_, _, _, heq⟩ := resource_of_matchResource hmatch
      cases heq
    · exact hmatch
    · obtain ⟨_, heq⟩ := error_of_matchError hmatch
      cases heq
    · cases hnone
  · intro hmatch
    have htwo := twoWords_eq_some_iff.mpr (matchPull_eq_some_iff.mp hmatch).2
    unfold classify
    rw [matchResource_of_twoWords htwo, hmatch]

/-- The lines about errors are those of an identifier and the error status. -/
theorem classify_eq_error_iff {line id : String} :
    classify line = .error id ↔ IsTwoWords line id Status.error.token := by
  rw [← matchError_eq_some_iff]
  constructor
  · intro hshape
    rcases matched_of_classify hshape with hmatch | hmatch | hmatch | hnone
    · obtain ⟨_, _, _, heq⟩ := resource_of_matchResource hmatch
      cases heq
    · obtain ⟨_, _, heq, _⟩ := pull_of_matchPull hmatch
      cases heq
    · exact hmatch
    · cases hnone
  · intro hmatch
    have htwo := twoWords_eq_some_iff.mpr (matchError_eq_some_iff.mp hmatch)
    unfold classify
    rw [matchResource_of_twoWords htwo, matchPull_of_error htwo, hmatch]
    rfl

end ContainerOps.Progress
