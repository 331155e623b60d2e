import ContainerOps.Proofs.Progress.Step

/-!
# Notices

A line has a notice if nothing can be made of it, and in a dry run one more if its marker is
missing.  What is behind an error belongs to the error and has no notice at all.

Main results:

- `Parser.feed_snd`: the notices of a line are that of its marker and those of its entry.
- `Parser.feedAll_snd`: the notices of several lines are those of one line after another.
- `Parser.noticesOf_of_pending`: lines of no known shape behind an error have no notices.
- `notices_read`: the notices of a text are those of its lines.
- `notices_read_false`: the notices of a text that is not from a dry run come from its entries.
-/

namespace ContainerOps.Progress

open ContainerOps.Text

namespace Parser

/-! ## Lines -/

/-- The notice that a line lacks the marker of a dry run.  Behind an error none is expected. -/
def markerNotice (p : Parser) (raw : String) : List Notice :=
  if p.dryRun = true ∧ trimmed raw ≠ "" ∧ afterMarker? (trimmed raw) = none ∧ p.pending = none then
    [.missingMarker (trimmed raw)]
  else []

/-- The notices of a line are that of its marker and those of its entry. -/
theorem feed_snd (p : Parser) (raw : String) :
    (p.feed raw).2 = p.markerNotice raw ++
      match entryOf p.dryRun raw with
      | none => []
      | some line => (p.take line).2 := by
  unfold feed markerNotice entryOf unmarked
  by_cases hblank : trimmed raw = ""
  · simp [hblank]
  · cases hmode : p.dryRun with
    | false => simp [hblank]
    | true =>
      cases hmarker : afterMarker? (trimmed raw) with
      | some rest => simp [hblank, hmarker]
      | none => cases hpending : p.pending <;> simp [hblank, hmarker]

/-- Only in a dry run a marker can be missing. -/
theorem markerNotice_of_not_dryRun {p : Parser} (hmode : p.dryRun = false) (raw : String) :
    p.markerNotice raw = [] := by
  simp [markerNotice, hmode]

/-- The notices of one of several lines, which a parser takes in order; none if there is no such
line. -/
def noticesAt (p : Parser) (raws : List String) (i : Nat) : List Notice :=
  match raws[i]? with
  | none => []
  | some raw => ((p.feedAll (raws.take i)).1.feed raw).2

@[simp]
theorem noticesAt_zero (p : Parser) (raw : String) (rest : List String) :
    p.noticesAt (raw :: rest) 0 = (p.feed raw).2 := by
  simp only [noticesAt, List.getElem?_cons_zero, List.take_zero, feedAll]

@[simp]
theorem noticesAt_succ (p : Parser) (raw : String) (rest : List String) (i : Nat) :
    p.noticesAt (raw :: rest) (i + 1) = (p.feed raw).1.noticesAt rest i := by
  simp only [noticesAt, List.getElem?_cons_succ, List.take_succ_cons, feedAll]

/-- The notices of several lines are those of one line after another. -/
theorem feedAll_snd (p : Parser) (raws : List String) :
    (p.feedAll raws).2 = (List.range raws.length).flatMap (p.noticesAt raws) := by
  induction raws generalizing p with
  | nil => rfl
  | cons raw rest ih =>
    simp only [feedAll, ih, List.length_cons, List.range_succ_eq_map, List.flatMap_cons,
      List.flatMap_map, noticesAt_zero, noticesAt_succ]

/-! ## Entries -/

/-- The notices of some entries. -/
def noticesOf (p : Parser) : List String → List Notice
  | [] => []
  | line :: rest => (p.take line).2 ++ (p.take line).1.noticesOf rest

/-- The notices of entries come in the order of the entries. -/
theorem noticesOf_append (p : Parser) (before after : List String) :
    p.noticesOf (before ++ after) = p.noticesOf before ++ (p.takeAll before).noticesOf after := by
  induction before generalizing p with
  | nil => rfl
  | cons line rest ih =>
    simp only [List.cons_append, noticesOf, ih, takeAll_cons, List.append_assoc]

/-- Lines of no known shape behind an error have no notices. -/
theorem noticesOf_of_pending {p : Parser} {i : Nat} (hpending : p.pending = some i)
    {body : List String} (hbody : ∀ line ∈ body, classify line = .unmatched) :
    p.noticesOf body = [] := by
  induction body generalizing p with
  | nil => rfl
  | cons line rest ih =>
    have htake := take_of_pending (hbody line List.mem_cons_self) hpending
    have hnext : (p.take line).1.pending = some i := by rw [htake]; exact hpending
    have hrest := ih hnext fun l hl => hbody l (List.mem_cons_of_mem line hl)
    rw [noticesOf, hrest, htake, List.nil_append]

/-- Outside of a dry run the notices of some lines come from their entries. -/
theorem feedAll_snd_of_not_dryRun {p : Parser} (hmode : p.dryRun = false) (raws : List String) :
    (p.feedAll raws).2 = p.noticesOf (entries false raws) := by
  induction raws generalizing p with
  | nil => rfl
  | cons raw rest ih =>
    have hnext : (p.feed raw).1.dryRun = false := (dryRun_feed p raw).trans hmode
    simp only [feedAll, ih hnext]
    rw [feed_snd, feed_fst, markerNotice_of_not_dryRun hmode, hmode, List.nil_append, entries,
      entries, List.filterMap_cons]
    cases entryOf false raw <;> rfl

end Parser

/-- The notices of a text are those of its lines. -/
theorem notices_read (text : String) (dryRun : Bool) :
    (read text dryRun).notices =
      (List.range (lines text).length).flatMap ((Parser.start dryRun).noticesAt (lines text)) := by
  have hdone := (Parser.start dryRun).feedAll_snd (lines text)
  exact hdone

/-- The notices of a text that is not from a dry run come from its entries. -/
theorem notices_read_false (text : String) :
    (read text false).notices = (Parser.start false).noticesOf (entries false (lines text)) :=
  Parser.feedAll_snd_of_not_dryRun rfl (lines text)

end ContainerOps.Progress
