import ContainerOps.Proofs.Progress.Grammar
import ContainerOps.Proofs.Text.Expression

/-!
# The expressions for progress lines

Each shape has an expression for a whole line, and the parts that the expression names are looked up
in the vocabulary.  Blanks and words leave an expression some freedom where a part begins and ends,
but for a whole line there is at most one way to name the parts.

Main results:

- `Form.plain_phrase`: the texts that can stand in the place of a status.
- `Form.matches_resource_iff` and `Form.matches_nameStatus_iff`: the lines of each expression, with
  their parts.
- `finds_matchResource`, `finds_matchPull` and `finds_matchError`: the matchers find what the
  expressions find, and every part that an expression names is in the vocabulary.
-/

namespace ContainerOps.Progress

open ContainerOps.Text

/-! ## Vocabulary -/

/-- The words for kinds of resources are those in the expression. -/
theorem ResourceKind.mem_words_iff {word : String} :
    word ∈ ["Network", "Image", "Volume", "Container"] ↔
      ∃ kind : ResourceKind, kind.word? = some word := by
  constructor
  · intro hword
    simp only [List.mem_cons, List.not_mem_nil, or_false] at hword
    rcases hword with rfl | rfl | rfl | rfl
    · exact ⟨.network, rfl⟩
    · exact ⟨.image, rfl⟩
    · exact ⟨.volume, rfl⟩
    · exact ⟨.container, rfl⟩
  · rintro ⟨kind, hkind⟩
    cases kind <;> cases hkind <;> simp

/-- A character that is not blank is no line feed. -/
theorem ne_lineFeed_of_not_isBlank {c : Char} (hc : isBlank c = false) : '\n' ≠ c := by
  rintro rfl
  cases hc

/-! ## Expressions -/

/-- The named parts of a line. -/
inductive Part where
  /-- The kind of a resource. -/
  | kind
  /-- The name of a resource or a service. -/
  | name
  /-- A status, or the text in the place of one. -/
  | status

namespace Form

/-- Blanks, if any. -/
def blanks : Expression Part :=
  .many (.one isBlank)

/-- At least one blank. -/
def gap : Expression Part :=
  .some (.one isBlank)

/-- Characters that are not blank, at least one. -/
def word : Expression Part :=
  .some (.one fun c => !isBlank c)

/-- Characters without a line feed, the first and the last of them not blank. -/
def phrase : Expression Part :=
  .next (.one fun c => !isBlank c)
    (.optional (.next (.many (.one fun c => c != '\n')) (.one fun c => !isBlank c)))

/-- A line of a kind of resource, a name and a status or another text. -/
def resource : Expression Part :=
  .next blanks (.next (.named .kind (.anyOf ["Network", "Image", "Volume", "Container"]))
    (.next gap (.next (.named .name word) (.next gap (.next (.named .status phrase) blanks)))))

/-- A line of a name and one of some statuses. -/
def nameStatus (statuses : List Status) : Expression Part :=
  .next blanks (.next (.named .name word)
    (.next gap (.next (.named .status (.anyOf (statuses.map Status.token))) blanks)))

/-! ## Their texts -/

theorem plain_blanks : blanks.Plain IsBlankText :=
  fun _ _ => Expression.matches_many_one_iff

theorem plain_gap : gap.Plain fun cs => cs ≠ [] ∧ IsBlankText cs :=
  fun _ _ => Expression.matches_some_one_iff

theorem plain_word : word.Plain IsWord := by
  intro cs parts
  rw [word, Expression.matches_some_one_iff]
  simp [IsWord]

theorem plain_anyOf (texts : List String) :
    (Expression.anyOf texts : Expression Part).Plain fun cs => ∃ text ∈ texts, cs = text.toList :=
  fun _ _ => Expression.matches_anyOf_iff

/-- The texts that can stand in the place of a status. -/
theorem plain_phrase : phrase.Plain fun cs => cs ≠ [] ∧ IsTrimmed cs ∧ '\n' ∉ cs := by
  intro cs parts
  simp only [phrase, Expression.optional, Expression.matches_next_iff,
    Expression.matches_either_iff, Expression.matches_nothing_iff,
    Expression.matches_many_one_iff, Expression.matches_one_iff, Bool.not_eq_true', bne_iff_ne]
  constructor
  · rintro ⟨_, _, _, _, ⟨⟨c, hc, rfl⟩, rfl⟩, htail, rfl, rfl⟩
    rcases htail with ⟨middle, _, _, _, ⟨hmiddle, rfl⟩, ⟨⟨d, hd, rfl⟩, rfl⟩, rfl, rfl⟩ | ⟨rfl, rfl⟩
    · have hlast : (c :: (middle ++ [d])).getLast? = some d := by
        rw [← List.cons_append, List.getLast?_concat]
      have hfeed : '\n' ∉ middle := fun hmem => hmiddle '\n' hmem rfl
      refine ⟨⟨by simp, isTrimmed_iff.mpr ⟨by simpa using hc, by simpa [hlast] using hd⟩, ?_⟩, rfl⟩
      simp [hfeed, ne_lineFeed_of_not_isBlank hc, ne_lineFeed_of_not_isBlank hd]
    · refine ⟨⟨by simp, isTrimmed_iff.mpr ⟨by simpa using hc, by simpa using hc⟩, ?_⟩, rfl⟩
      simp [ne_lineFeed_of_not_isBlank hc]
  · rintro ⟨⟨hne, htrimmed, hfeed⟩, rfl⟩
    obtain ⟨hhead, hend⟩ := isTrimmed_iff.mp htrimmed
    obtain ⟨c, cs, rfl⟩ := List.exists_cons_of_ne_nil hne
    refine ⟨[c], cs, [], [], ⟨⟨c, hhead c rfl, rfl⟩, rfl⟩, ?_, rfl, rfl⟩
    rcases List.eq_nil_or_concat cs with rfl | ⟨middle, d, rfl⟩
    · exact .inr ⟨rfl, rfl⟩
    · rw [List.concat_eq_append] at hend hfeed ⊢
      have hlast : (c :: (middle ++ [d])).getLast? = some d := by
        rw [← List.cons_append, List.getLast?_concat]
      refine .inl ⟨middle, [d], [], [], ⟨?_, rfl⟩, ⟨⟨d, hend d hlast, rfl⟩, rfl⟩, rfl, rfl⟩
      rintro e he rfl
      exact hfeed (by simp [he])

/-- The lines about resources and their parts. -/
theorem matches_resource_iff {line : String} {parts : List (Part × List Char)} :
    resource.Matches line.toList parts ↔
      ∃ kind word id text, IsResourceLine line kind id text ∧ kind.word? = some word ∧
        parts = [(.kind, word.toList), (.name, id.toList), (.status, text.toList)] := by
  constructor
  · intro hmatches
    obtain ⟨lead, _, hlead, h₁, hline⟩ := plain_blanks.matches_next_iff.mp hmatches
    obtain ⟨_, _, _, ⟨word, hword, rfl⟩, h₂, rfl, rfl⟩ :=
      (plain_anyOf _).matches_next_named_iff.mp h₁
    obtain ⟨gap₁, _, ⟨hne₁, hgap₁⟩, h₃, rfl⟩ := plain_gap.matches_next_iff.mp h₂
    obtain ⟨id, _, _, hid, h₄, rfl, rfl⟩ := plain_word.matches_next_named_iff.mp h₃
    obtain ⟨gap₂, _, ⟨hne₂, hgap₂⟩, h₅, rfl⟩ := plain_gap.matches_next_iff.mp h₄
    obtain ⟨text, trail, _, ⟨hne, htext, hfeed⟩, h₆, rfl, rfl⟩ :=
      plain_phrase.matches_next_named_iff.mp h₅
    obtain ⟨htrail, rfl⟩ := (plain_blanks _ _).mp h₆
    obtain ⟨kind, hkind⟩ := ResourceKind.mem_words_iff.mp hword
    refine ⟨kind, word, String.ofList id, String.ofList text,
      ⟨word, lead, gap₁, gap₂, trail, hkind, hlead, hgap₁, hne₁, hgap₂, hne₂, htrail, ?_⟩,
      hkind, by simp⟩
    simp only [String.toList_ofList]
    exact ⟨hid, by simpa using hne, htext, hfeed, hline⟩
  · rintro ⟨kind, word, id, text, ⟨word', lead, gap₁, gap₂, trail, hkind', hlead, hgap₁, hne₁,
      hgap₂, hne₂, htrail, hid, hne, htext, hfeed, hline⟩, hkind, rfl⟩
    obtain rfl : word = word' := Option.some.inj (hkind.symm.trans hkind')
    have hword := ResourceKind.mem_words_iff.mpr ⟨kind, hkind⟩
    have hnil : text.toList ≠ [] := by simpa using hne
    rw [hline]
    refine plain_blanks.matches_next_iff.mpr ⟨_, _, hlead, ?_, rfl⟩
    refine (plain_anyOf _).matches_next_named_iff.mpr ⟨_, _, _, ⟨word, hword, rfl⟩, ?_, rfl, rfl⟩
    refine plain_gap.matches_next_iff.mpr ⟨_, _, ⟨hne₁, hgap₁⟩, ?_, rfl⟩
    refine plain_word.matches_next_named_iff.mpr ⟨_, _, _, hid, ?_, rfl, rfl⟩
    refine plain_gap.matches_next_iff.mpr ⟨_, _, ⟨hne₂, hgap₂⟩, ?_, rfl⟩
    refine plain_phrase.matches_next_named_iff.mpr ⟨_, _, _, ⟨hnil, htext, hfeed⟩, ?_, rfl, rfl⟩
    exact (plain_blanks _ _).mpr ⟨htrail, rfl⟩

/-- The lines of a name and a status, and their parts. -/
theorem matches_nameStatus_iff {statuses : List Status} {line : String}
    {parts : List (Part × List Char)} :
    (nameStatus statuses).Matches line.toList parts ↔
      ∃ name, ∃ status ∈ statuses, IsTwoWords line name status.token ∧
        parts = [(.name, name.toList), (.status, status.token.toList)] := by
  constructor
  · intro hmatches
    obtain ⟨lead, _, hlead, h₁, hline⟩ := plain_blanks.matches_next_iff.mp hmatches
    obtain ⟨name, _, _, hname, h₂, rfl, rfl⟩ := plain_word.matches_next_named_iff.mp h₁
    obtain ⟨gap, _, ⟨hne, hgap⟩, h₃, rfl⟩ := plain_gap.matches_next_iff.mp h₂
    obtain ⟨_, trail, _, ⟨token, htoken, rfl⟩, h₄, rfl, rfl⟩ :=
      (plain_anyOf _).matches_next_named_iff.mp h₃
    obtain ⟨htrail, rfl⟩ := (plain_blanks _ _).mp h₄
    obtain ⟨status, hstatus, rfl⟩ := List.mem_map.mp htoken
    refine ⟨String.ofList name, status, hstatus,
      ⟨lead, gap, trail, hlead, hgap, hne, htrail, ?_, status.isWord_token, ?_⟩, by simp⟩
    · simpa using hname
    · simpa using hline
  · rintro ⟨name, status, hstatus, ⟨lead, gap, trail, hlead, hgap, hne, htrail, hname, _, hline⟩,
      rfl⟩
    have htoken : status.token ∈ statuses.map Status.token := List.mem_map_of_mem hstatus
    rw [hline]
    refine plain_blanks.matches_next_iff.mpr ⟨_, _, hlead, ?_, rfl⟩
    refine plain_word.matches_next_named_iff.mpr ⟨_, _, _, hname, ?_, rfl, rfl⟩
    refine plain_gap.matches_next_iff.mpr ⟨_, _, ⟨hne, hgap⟩, ?_, rfl⟩
    refine (plain_anyOf _).matches_next_named_iff.mpr ⟨_, _, _, ⟨_, htoken, rfl⟩, ?_, rfl, rfl⟩
    exact (plain_blanks _ _).mpr ⟨htrail, rfl⟩

end Form

/-! ## Looking the parts up -/

/-- The shape of a line about a resource with these parts, if its kind is known. -/
def resourceOf? : List (Part × List Char) → Option Shape
  | [(.kind, kind), (.name, id), (.status, text)] =>
    (ResourceKind.ofWord? (String.ofList kind)).map
      (.resource · (String.ofList id) (String.ofList text))
  | _ => none

/-- The shape of a line about a pull with these parts, if its status is known. -/
def pullOf? : List (Part × List Char) → Option Shape
  | [(.name, service), (.status, token)] =>
    (Status.ofToken? (String.ofList token)).map (.pull (String.ofList service) ·)
  | _ => none

/-- The shape of a line about an error with these parts, if its status is known. -/
def errorOf? : List (Part × List Char) → Option Shape
  | [(.name, id), (.status, token)] =>
    (Status.ofToken? (String.ofList token)).map fun _ => .error (String.ofList id)
  | _ => none

/-- A matcher finds what an expression and a look-up of its parts find. -/
structure Finds (matcher : String → Option Shape) (expression : Expression Part)
    (lookUp : List (Part × List Char) → Option Shape) : Prop where
  /-- What is found has the form of the expression. -/
  found : ∀ {line shape}, matcher line = some shape →
    ∃ parts, expression.Matches line.toList parts ∧ lookUp parts = some shape
  /-- No line of that form is lost when its parts are looked up. -/
  kept : ∀ {line parts}, expression.Matches line.toList parts →
    ∃ shape, lookUp parts = some shape ∧ matcher line = some shape
  /-- There is one way at most to name the parts of a line. -/
  unique : ∀ {line : String} {parts others}, expression.Matches line.toList parts →
    expression.Matches line.toList others → parts = others

/-- The matcher for resources finds what its expression finds. -/
theorem finds_matchResource : Finds matchResource Form.resource resourceOf? where
  found := by
    intro line shape hmatch
    obtain ⟨kind, id, text, rfl⟩ := resource_of_matchResource hmatch
    have hline := matchResource_eq_some_iff.mp hmatch
    have ⟨word, _, _, _, _, hword, _⟩ := hline
    refine ⟨_, Form.matches_resource_iff.mpr ⟨kind, word, _, text, hline, hword, rfl⟩, ?_⟩
    simp [resourceOf?, ResourceKind.ofWord?_eq_some_iff.mpr hword]
  kept := by
    intro line parts hmatches
    obtain ⟨kind, word, id, text, hline, hword, rfl⟩ := Form.matches_resource_iff.mp hmatches
    refine ⟨.resource kind id text, ?_, matchResource_eq_some_iff.mpr hline⟩
    simp [resourceOf?, ResourceKind.ofWord?_eq_some_iff.mpr hword]
  unique := by
    intro line parts others hparts hothers
    obtain ⟨kind, word, id, text, hline, hword, rfl⟩ := Form.matches_resource_iff.mp hparts
    obtain ⟨kind', word', id', text', hline', hword', rfl⟩ := Form.matches_resource_iff.mp hothers
    -- both are what the matcher finds
    have hfound := matchResource_eq_some_iff.mpr hline
    rw [matchResource_eq_some_iff.mpr hline'] at hfound
    cases hfound
    rw [Option.some.inj (hword.symm.trans hword')]

/-- The parts of a line of two words are these words. -/
theorem unique_nameStatus {statuses : List Status} {line : String}
    {parts others : List (Part × List Char)}
    (hparts : (Form.nameStatus statuses).Matches line.toList parts)
    (hothers : (Form.nameStatus statuses).Matches line.toList others) : parts = others := by
  obtain ⟨name, status, _, hline, rfl⟩ := Form.matches_nameStatus_iff.mp hparts
  obtain ⟨name', status', _, hline', rfl⟩ := Form.matches_nameStatus_iff.mp hothers
  have hwords := twoWords_eq_some_iff.mpr hline
  rw [twoWords_eq_some_iff.mpr hline', Option.some.injEq, Prod.mk.injEq] at hwords
  rw [hwords.1, hwords.2]

/-- The matcher for pulls finds what its expression finds. -/
theorem finds_matchPull : Finds matchPull (Form.nameStatus Status.pull) pullOf? where
  found := by
    intro line shape hmatch
    obtain ⟨service, status, rfl, _⟩ := pull_of_matchPull hmatch
    obtain ⟨hpull, hline⟩ := matchPull_eq_some_iff.mp hmatch
    exact ⟨_, Form.matches_nameStatus_iff.mpr ⟨service, status, hpull, hline, rfl⟩, by
      simp [pullOf?]⟩
  kept := by
    intro line parts hmatches
    obtain ⟨service, status, hpull, hline, rfl⟩ := Form.matches_nameStatus_iff.mp hmatches
    exact ⟨.pull service status, by simp [pullOf?], matchPull_eq_some_iff.mpr ⟨hpull, hline⟩⟩
  unique := unique_nameStatus

/-- The matcher for errors finds what its expression finds. -/
theorem finds_matchError : Finds matchError (Form.nameStatus Status.failed) errorOf? where
  found := by
    intro line shape hmatch
    obtain ⟨id, rfl⟩ := error_of_matchError hmatch
    have hline := matchError_eq_some_iff.mp hmatch
    exact ⟨_, Form.matches_nameStatus_iff.mpr ⟨id, .error, by decide, hline, rfl⟩, by
      simp [errorOf?]⟩
  kept := by
    intro line parts hmatches
    obtain ⟨id, status, hfailed, hline, rfl⟩ := Form.matches_nameStatus_iff.mp hmatches
    obtain rfl : status = .error := List.mem_singleton.mp hfailed
    exact ⟨.error id, by simp [errorOf?], matchError_eq_some_iff.mpr hline⟩
  unique := unique_nameStatus

end ContainerOps.Progress
