import ContainerOps.Proofs.Progress.Patterns
import ContainerOps.Proofs.Text.WordList

/-!
# Recognising progress lines

What a line is about can be told from its words.  The shapes exclude one another, so at most one of
the matchers finds something, and it does not matter in which order they are tried or which blanks
are around the line.

Main results:

- `isTwoWords_iff_words` and `isResourceLine_iff_words`: the grammar of lines in terms of words.
- `pairwise_matchers`: at most one matcher finds something.
- `firstShape_eq_classify`: the order of the matchers does not matter.
- `classify_surrounded`: blanks around a line do not matter.
- `classify_eq_iff_spelled`: the shape of a line is the one that its words spell out.
-/

namespace ContainerOps.Progress

open ContainerOps.Text

/-! ## Words of lines -/

/-- The words of a string are given by those of its characters. -/
theorem wordsOf_eq_iff {s : String} {strings : List String} :
    wordsOf s = strings ↔ words s.toList = strings.map String.toList := by
  have hinverse : ∀ texts : List (List Char),
      (texts.map String.ofList).map String.toList = texts := by
    intro texts
    simp [List.map_map, Function.comp_def]
  constructor
  · rintro rfl
    exact (hinverse _).symm
  · intro hwords
    rw [wordsOf, hwords, List.map_map]
    simp [Function.comp_def]

/-- A line of two words has these words and no others. -/
theorem isTwoWords_iff_words {line first second : String} :
    IsTwoWords line first second ↔ wordsOf line = [first, second] := by
  rw [wordsOf_eq_iff]
  constructor
  · rintro ⟨lead, gap, trail, hlead, hgap, hne, htrail, hfirst, hsecond, hline⟩
    rw [hline, words_blank_append hlead, words_append (hgap.head?_append hne _),
      words_of_isWord hfirst, words_surrounded hgap htrail, words_of_isWord hsecond]
    rfl
  · intro hwords
    obtain ⟨lead, rest, hlead, hfirst, hhead, hline, hrest⟩ := words_eq_cons_iff.mp hwords
    obtain ⟨gap, trail, hgap, hsecond, _, rfl, htrail⟩ := words_eq_cons_iff.mp hrest
    exact ⟨lead, gap, trail, hlead, hgap, hsecond.ne_nil_of_head? hhead,
      words_eq_nil_iff.mp htrail, hfirst, hsecond, hline⟩

/-- A text that is not empty and does not start with a blank has a word. -/
theorem exists_words_of_isTrimmed {text : List Char} (hne : text ≠ []) (htrimmed : IsTrimmed text) :
    ∃ first others, words text = first :: others := by
  refine List.exists_cons_of_ne_nil fun hnone => hne ?_
  rw [← htrimmed]
  exact trim_eq_nil_iff.mpr (words_eq_nil_iff.mp hnone)

/-- A line about a resource has a word for the kind, one for the resource, and at least one more,
with which its text begins. -/
theorem isResourceLine_iff_words {line id text : String} {kind : ResourceKind} :
    IsResourceLine line kind id text ↔
      ∃ word third others, kind.word? = some word ∧ wordsOf line = word :: id :: third :: others ∧
        IsFromWord 2 line.toList text.toList ∧ '\n' ∉ text.toList := by
  constructor
  · rintro ⟨word, lead, gap₁, gap₂, trail, hkind, hlead, hgap₁, hne₁, hgap₂, hne₂, htrail, hid, hne,
      htrimmed, hfeed, hline⟩
    have hword := ResourceKind.isWord_word? hkind
    have hnil : text.toList ≠ [] := by simpa using hne
    obtain ⟨third, others, htext⟩ := exists_words_of_isTrimmed hnil htrimmed
    have hwords : words (lead ++ (word.toList ++ (gap₁ ++ (id.toList ++ gap₂)))) =
        [word.toList, id.toList] := by
      rw [words_blank_append hlead, words_append (hgap₁.head?_append hne₁ _),
        words_of_isWord hword, words_surrounded hgap₁ hgap₂, words_of_isWord hid]
      rfl
    have hlast : ∀ c ∈ (lead ++ (word.toList ++ (gap₁ ++ (id.toList ++ gap₂)))).getLast?,
        isBlank c = true := by
      intro c hc
      simp only [← List.append_assoc] at hc
      rw [List.getLast?_append_of_ne_nil _ hne₂] at hc
      exact hgap₂ c (List.mem_of_mem_getLast? hc)
    have happend : line.toList =
        (lead ++ (word.toList ++ (gap₁ ++ (id.toList ++ gap₂)))) ++ (text.toList ++ trail) := by
      rw [hline]
      simp only [List.append_assoc]
    have hfrom : IsFromWord 2 line.toList text.toList :=
      ⟨_, trail, happend, by rw [hwords]; rfl, hlast, htrail, hnil, htrimmed⟩
    refine ⟨word, String.ofList third, others.map String.ofList, hkind, ?_, hfrom, hfeed⟩
    rw [wordsOf_eq_iff, happend, words_append_of_getLast? hlast, hwords,
      words_append fun c hc => htrail c (List.mem_of_mem_head? hc), words_of_blank htrail, htext]
    simp [Function.comp_def]
  · rintro ⟨word, third, others, hkind, hwords, hfrom, hfeed⟩
    rw [wordsOf_eq_iff] at hwords
    obtain ⟨before, trail, hline, hcount, hlast, htrail, hnil, htrimmed⟩ := hfrom
    -- the two words in front of the text are the first two words of the line
    have hbefore : words before = [word.toList, id.toList] := by
      have htake := congrArg (List.take 2) hwords
      rw [hline, words_append_of_getLast? hlast, List.take_append_of_le_length hcount.ge,
        List.take_of_length_le hcount.le] at htake
      exact htake
    obtain ⟨lead, rest, hlead, _, hhead, rfl, hrest⟩ := words_eq_cons_iff.mp hbefore
    obtain ⟨gap₁, gap₂, hgap₁, hid, _, rfl, hgap₂⟩ := words_eq_cons_iff.mp hrest
    have hne₁ : gap₁ ≠ [] := hid.ne_nil_of_head? hhead
    have hne₂ : gap₂ ≠ [] := by
      rintro rfl
      rw [List.append_nil, ← List.append_assoc, ← List.append_assoc] at hlast
      exact hid.not_isBlank_getLast? _ hlast
    refine ⟨word, lead, gap₁, gap₂, trail, hkind, hlead, hgap₁, hne₁, words_eq_nil_iff.mp hgap₂,
      hne₂, htrail, hid, by simpa using hnil, htrimmed, hfeed, ?_⟩
    rw [hline]
    simp only [List.append_assoc]

/-! ## One shape at most -/

/-- The matchers in the order in which they are tried. -/
def matchers : List (String → Option Shape) :=
  [matchResource, matchPull, matchError]

/-- The shape that the first of some matchers finds. -/
def firstShape (order : List (String → Option Shape)) (line : String) : Shape :=
  (order.findSome? fun matcher => matcher line).getD .unmatched

/-- What any of the matchers finds is the shape of the line. -/
theorem classify_of_mem_matchers {matcher : String → Option Shape} (hmatcher : matcher ∈ matchers)
    {line : String} {shape : Shape} (hfound : matcher line = some shape) :
    classify line = shape := by
  simp only [matchers, List.mem_cons, List.not_mem_nil, or_false] at hmatcher
  rcases hmatcher with rfl | rfl | rfl
  · exact classify_of_resource hfound
  · obtain ⟨service, status, rfl, _⟩ := pull_of_matchPull hfound
    exact classify_eq_pull_iff.mpr (matchPull_eq_some_iff.mp hfound)
  · obtain ⟨id, rfl⟩ := error_of_matchError hfound
    exact classify_eq_error_iff.mpr (matchError_eq_some_iff.mp hfound)

/-- At most one of the matchers finds something. -/
theorem pairwise_matchers :
    matchers.Pairwise fun matcher other => ∀ line, matcher line = none ∨ other line = none := by
  have hpull : ∀ line, matchResource line = none ∨ matchPull line = none := by
    intro line
    cases hmatch : matchPull line with
    | none => exact .inr rfl
    | some shape =>
      obtain ⟨service, status, rfl, _⟩ := pull_of_matchPull hmatch
      have htwo := twoWords_eq_some_iff.mpr (matchPull_eq_some_iff.mp hmatch).2
      exact .inl (matchResource_of_twoWords htwo)
  have herror : ∀ line, (matchResource line = none ∧ matchPull line = none) ∨
      matchError line = none := by
    intro line
    cases hmatch : matchError line with
    | none => exact .inr rfl
    | some shape =>
      obtain ⟨id, rfl⟩ := error_of_matchError hmatch
      have htwo := twoWords_eq_some_iff.mpr (matchError_eq_some_iff.mp hmatch)
      exact .inl ⟨matchResource_of_twoWords htwo, matchPull_of_error htwo⟩
  refine .cons ?_ (.cons ?_ (.cons nofun .nil))
  · simp only [List.forall_mem_cons]
    exact ⟨hpull, fun line => (herror line).imp_left And.left, nofun⟩
  · simp only [List.forall_mem_cons]
    exact ⟨fun line => (herror line).imp_left And.right, nofun⟩

/-- The shape of a line that no matcher finds anything on. -/
theorem classify_of_forall_none {line : String}
    (hnone : ∀ matcher ∈ matchers, matcher line = none) : classify line = .unmatched := by
  simp only [matchers, List.forall_mem_cons] at hnone
  simp [classify, hnone.1, hnone.2.1, hnone.2.2.1]

/-- The order of the matchers does not matter. -/
theorem firstShape_eq_classify {order : List (String → Option Shape)} (horder : order.Perm matchers)
    (line : String) : firstShape order line = classify line := by
  unfold firstShape
  cases hfirst : order.findSome? fun matcher => matcher line with
  | some shape =>
    obtain ⟨matcher, hmatcher, hfound⟩ := List.exists_of_findSome?_eq_some hfirst
    exact (classify_of_mem_matchers (horder.mem_iff.mp hmatcher) hfound).symm
  | none =>
    rw [List.findSome?_eq_none_iff] at hfirst
    refine (classify_of_forall_none fun matcher hmatcher => ?_).symm
    exact hfirst matcher (horder.mem_iff.mpr hmatcher)

/-! ## Blanks around lines -/

/-- The grammar of lines about resources looks at a line without the blanks around it. -/
theorem isResourceLine_iff_trim {line id text : String} {kind : ResourceKind} :
    IsResourceLine line kind id text ↔ IsResourceLine (trimmed line) kind id text := by
  constructor
  · rintro ⟨word, lead, gap₁, gap₂, trail, hkind, hlead, hgap₁, hne₁, hgap₂, hne₂, htrail, hid, hne,
      htrimmed, hfeed, hline⟩
    have hword := ResourceKind.isWord_word? hkind
    have hnil : text.toList ≠ [] := by simpa using hne
    have hcore : IsTrimmed (word.toList ++ (gap₁ ++ (id.toList ++ (gap₂ ++ text.toList)))) := by
      refine isTrimmed_iff.mpr
        ⟨hword.head?_append _, fun c hc => (isTrimmed_iff.mp htrimmed).2 c ?_⟩
      simp only [← List.append_assoc] at hc
      rwa [List.getLast?_append_of_ne_nil _ hnil] at hc
    refine ⟨word, [], gap₁, gap₂, [], hkind, nofun, hgap₁, hne₁, hgap₂, hne₂, nofun, hid, hne,
      htrimmed, hfeed, ?_⟩
    have htrim := trim_append_append hlead hcore htrail
    simp only [List.append_assoc] at htrim
    rw [trimmed, String.toList_ofList, hline, htrim, List.append_nil, List.nil_append]
  · rintro ⟨word, lead, gap₁, gap₂, trail, hkind, hlead, hgap₁, hne₁, hgap₂, hne₂, htrail, hid, hne,
      htrimmed, hfeed, hline⟩
    obtain ⟨before, after, hbefore, hafter, happend⟩ := exists_trim line.toList
    rw [trimmed, String.toList_ofList] at hline
    refine ⟨word, before ++ lead, gap₁, gap₂, trail ++ after, hkind,
      isBlankText_append.mpr ⟨hbefore, hlead⟩, hgap₁, hne₁, hgap₂, hne₂,
      isBlankText_append.mpr ⟨htrail, hafter⟩, hid, hne, htrimmed, hfeed, ?_⟩
    rw [happend, hline]
    simp only [List.append_assoc]

/-- The grammar of lines of two words looks at a line without the blanks around it. -/
theorem isTwoWords_iff_trim {line first second : String} :
    IsTwoWords line first second ↔ IsTwoWords (trimmed line) first second := by
  rw [isTwoWords_iff_words, isTwoWords_iff_words, wordsOf, wordsOf, trimmed, String.toList_ofList,
    words_trim]

/-- Lines of the same grammar have the same shape. -/
theorem classify_congr {line other : String}
    (hresource : ∀ kind id text,
      IsResourceLine line kind id text ↔ IsResourceLine other kind id text)
    (htwo : ∀ first second, IsTwoWords line first second ↔ IsTwoWords other first second) :
    classify line = classify other := by
  cases hshape : classify other with
  | resource kind id text =>
    rw [classify_eq_resource_iff] at hshape ⊢
    exact (hresource kind id text).mpr hshape
  | pull service status =>
    rw [classify_eq_pull_iff] at hshape ⊢
    exact hshape.imp_right (htwo service status.token).mpr
  | error id =>
    rw [classify_eq_error_iff] at hshape ⊢
    exact (htwo id Status.error.token).mpr hshape
  | unmatched =>
    cases hline : classify line with
    | resource kind id text =>
      rw [classify_eq_resource_iff, hresource, ← classify_eq_resource_iff, hshape] at hline
      cases hline
    | pull service status =>
      rw [classify_eq_pull_iff, htwo, ← classify_eq_pull_iff, hshape] at hline
      cases hline
    | error id =>
      rw [classify_eq_error_iff, htwo, ← classify_eq_error_iff, hshape] at hline
      cases hline
    | unmatched => rfl

/-- A line has the shape that it has without the blanks around it. -/
theorem classify_trimmed (line : String) : classify (trimmed line) = classify line :=
  classify_congr (fun _ _ _ => isResourceLine_iff_trim.symm) fun _ _ => isTwoWords_iff_trim.symm

/-- Blanks around a line do not matter to its shape. -/
theorem classify_surrounded {lead trail : String} (hlead : IsBlankText lead.toList)
    (htrail : IsBlankText trail.toList) (line : String) :
    classify (lead ++ line ++ trail) = classify line := by
  have hlist : (lead ++ line ++ trail).toList = lead.toList ++ (line.toList ++ trail.toList) := by
    simp
  rw [← classify_trimmed, trimmed, hlist, trim_surrounded hlead htrail, ← trimmed,
    classify_trimmed]

/-! ## The shape by the words -/

/-- What a line is about, as its words spell it out. -/
inductive Spelled (line : String) : Shape → Prop where
  /-- A word for a kind of resource, one for the resource, and a text from the third word to the
  last, without a line feed. -/
  | resource {kind : ResourceKind} {word id third text : String} {others : List String}
      (hkind : kind.word? = some word) (hwords : wordsOf line = word :: id :: third :: others)
      (htext : IsFromWord 2 line.toList text.toList) (hfeed : '\n' ∉ text.toList) :
      Spelled line (.resource kind id text)
  /-- Two words, the second of them a status of pulls. -/
  | pull {service : String} {status : Status} (hstatus : status = .pulled ∨ status = .pulling)
      (hwords : wordsOf line = [service, status.token]) : Spelled line (.pull service status)
  /-- Two words, the second of them the error status. -/
  | error {id : String} (hwords : wordsOf line = [id, "Error"]) : Spelled line (.error id)

/-- The words of a line of a known shape spell it out. -/
theorem spelled_iff {line : String} {shape : Shape} :
    Spelled line shape ↔ classify line = shape ∧ shape ≠ .unmatched := by
  constructor
  · intro hspelled
    cases hspelled with
    | resource hkind hwords htext hfeed =>
      refine ⟨classify_eq_resource_iff.mpr (isResourceLine_iff_words.mpr ?_), by simp⟩
      exact ⟨_, _, _, hkind, hwords, htext, hfeed⟩
    | pull hstatus hwords =>
      refine ⟨classify_eq_pull_iff.mpr ⟨?_, isTwoWords_iff_words.mpr hwords⟩, by simp⟩
      simpa [Status.pull] using hstatus
    | error hwords =>
      exact ⟨classify_eq_error_iff.mpr (isTwoWords_iff_words.mpr hwords), by simp⟩
  · rintro ⟨hshape, hknown⟩
    cases shape with
    | resource kind id text =>
      obtain ⟨word, third, others, hkind, hwords, htext, hfeed⟩ :=
        isResourceLine_iff_words.mp (classify_eq_resource_iff.mp hshape)
      exact .resource hkind hwords htext hfeed
    | pull service status =>
      exact .pull (pull_of_classify hshape)
        (isTwoWords_iff_words.mp (classify_eq_pull_iff.mp hshape).2)
    | error id => exact .error (isTwoWords_iff_words.mp (classify_eq_error_iff.mp hshape))
    | unmatched => exact absurd rfl hknown

/-- The shape of a line is the one that its words spell out, and a line whose words spell out none
is of no known shape.  At most one matcher finds something, so that they can be tried in any order;
each finds all that its expression finds, in the one way to name the parts of the line; and blanks
around a line do not matter. -/
theorem classify_eq_iff_spelled :
    (∀ line shape, classify line = shape ↔
      Spelled line shape ∨ shape = .unmatched ∧ ∀ other, ¬Spelled line other) ∧
    (matchers.Pairwise fun matcher other => ∀ line, matcher line = none ∨ other line = none) ∧
    (∀ order : List (String → Option Shape), order.Perm matchers →
      ∀ line, firstShape order line = classify line) ∧
    Finds matchResource Form.resource resourceOf? ∧
    Finds matchPull (Form.nameStatus Status.pull) pullOf? ∧
    Finds matchError (Form.nameStatus Status.failed) errorOf? ∧
    ∀ lead line trail : String, IsBlankText lead.toList → IsBlankText trail.toList →
      classify (lead ++ line ++ trail) = classify line := by
  refine ⟨fun line shape => ?_, pairwise_matchers,
    fun order horder => firstShape_eq_classify horder,
    finds_matchResource, finds_matchPull, finds_matchError,
    fun lead line trail hlead htrail => classify_surrounded hlead htrail line⟩
  constructor
  · intro hshape
    by_cases hknown : shape = .unmatched
    · refine .inr ⟨hknown, fun other hother => ?_⟩
      obtain ⟨hsame, hne⟩ := spelled_iff.mp hother
      exact hne (hsame.symm.trans (hshape.trans hknown))
    · exact .inl (spelled_iff.mpr ⟨hshape, hknown⟩)
  · rintro (hspelled | ⟨rfl, hnone⟩)
    · exact (spelled_iff.mp hspelled).1
    · by_contra hknown
      exact hnone _ (spelled_iff.mpr ⟨rfl, hknown⟩)

/-- A line about a container with breaks before and behind it, tried by the last matcher first. -/
theorem classify_of_broken_line :
    classify "\r\n Container\n\ta\u2003is  Error\u0085" = .resource .container "a" "is  Error" ∧
    firstShape [matchError, matchResource, matchPull] "\na\tError " = .error "a" ∧
    (∃ parts, Form.resource.Matches "Container a Error".toList parts ∧
      resourceOf? parts = some (.resource .container "a" "Error")) ∧
    classify ("\u00a0" ++ "b Pulling" ++ "\n\n") = .pull "b" .pulling := by
  obtain ⟨hshape, _, horder, hresource, _, _, hblank⟩ := classify_eq_iff_spelled
  refine ⟨?_, ?_, hresource.found (by decide), ?_⟩
  · have hwords : wordsOf "\r\n Container\n\ta\u2003is  Error\u0085" =
        ["Container", "a", "is", "Error"] := by decide
    have hgap : ∀ c ∈ "\r\n Container\n\ta\u2003".toList.getLast?, isBlank c = true := by
      rintro c ⟨⟩
      decide
    refine (hshape _ _).mpr (.inl (.resource rfl hwords ?_ (by decide)))
    exact ⟨"\r\n Container\n\ta\u2003".toList, ['\u0085'], by decide, by decide, hgap,
      by decide, by decide, by decide⟩
  · have hperm : ([matchError] ++ [matchResource, matchPull]).Perm matchers :=
      List.perm_append_comm
    exact (horder _ hperm _).trans (by decide)
  · rw [hblank _ _ _ (by decide) (by decide)]
    decide

end ContainerOps.Progress
