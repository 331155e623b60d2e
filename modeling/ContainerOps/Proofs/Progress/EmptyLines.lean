import ContainerOps.Proofs.Progress.Marker
import ContainerOps.Proofs.Progress.Notices
import ContainerOps.Proofs.Progress.WellFormed
import ContainerOps.Proofs.Text.Pieces

/-!
# Empty lines

A parser skips the lines that are blank as they were printed.  In a dry run a line may also turn
out to be empty only after its marker is taken off.  Such a line is not skipped: it becomes an empty
line of the error before it, or is reported as a line of no known shape.

Main results:

- `entryOf_eq_some_empty_iff`: the lines that are empty behind their marker.
- `Parser.solid_feed`: other lines put no empty line anywhere.
- `Parser.not_solid_feedAll`: an empty line in a message is there to stay.
- `Parser.solid_feedAll_iff`: a run has no empty lines exactly if none of its lines is of that kind.
- `Parser.feed_eq_self_iff`: the lines that are skipped.
- `solid_read_iff_no_bare_marker`: whole texts.
-/

namespace ContainerOps.Progress

open ContainerOps.Text

/-! ## Texts without empty lines -/

/-- The text has no empty line.  A text that is empty is one empty line. -/
def IsSolid (text : String) : Prop :=
  "" ∉ splitOn '\n' text

instance (text : String) : Decidable (IsSolid text) :=
  inferInstanceAs (Decidable ("" ∉ splitOn '\n' text))

/-- A line has no empty line if it is not empty. -/
theorem isSolid_of_one_line {line : String} (hne : line ≠ "") (hfeed : '\n' ∉ line.toList) :
    IsSolid line := by
  rw [IsSolid, splitOn_of_not_mem hfeed, List.mem_singleton]
  exact hne.symm

/-- The message of the event, if it has one, has no empty line. -/
def Event.Solid (event : Event) : Prop :=
  ∀ message, event.message = some message → IsSolid message

/-- The line that a notice shows, or the message. -/
def Notice.shown : Notice → String
  | .missingMarker line => line
  | .unrecognised line => line
  | .remark _ _ message => message

/-- No event has an empty line in its message, and no notice shows an empty line. -/
structure Reading.Solid (r : Reading) : Prop where
  events : ∀ event ∈ r.events, event.Solid
  notices : ∀ notice ∈ r.notices, notice.shown ≠ ""

/-- A continuation brings its own empty lines and no others. -/
theorem Event.solid_continuedBy_iff {event : Event} {line : String} :
    (event.continuedBy line).Solid ↔ event.Solid ∧ IsSolid line := by
  unfold Solid continuedBy
  cases hmessage : event.message with
  | none => simp
  | some message => simp [IsSolid, splitOn_append]

/-- A general error has the empty lines of its message. -/
theorem solid_generalError_iff {line : String} : (generalError line).Solid ↔ IsSolid line := by
  simp [Event.Solid, generalError]

/-- The event of a line has no empty line. -/
theorem solid_of_event? {line : String} {event : Event}
    (hevent : (classify line).event? = some event) : event.Solid := by
  intro message hmessage
  cases hshape : classify line with
  | resource kind id text =>
    obtain ⟨_, _, _, _, _, _, _, _, _, _, _, _, _, hne, _, hfeed, _⟩ :=
      classify_eq_resource_iff.mp hshape
    rw [hshape] at hevent
    cases hevent
    unfold Parser.resourceEvent at hmessage
    split at hmessage
    · cases hmessage
    · cases hmessage
      exact isSolid_of_one_line hne hfeed
  | unmatched => rw [hshape] at hevent; cases hevent
  | _ => rw [hshape] at hevent; cases hevent; cases hmessage

/-! ## Entries -/

/-- A line is empty as an entry if it has a marker and nothing behind it. -/
theorem entryOf_eq_some_empty_iff {dryRun : Bool} {raw : String} :
    entryOf dryRun raw = some "" ↔ dryRun = true ∧ trimmed raw = dryRunMarker := by
  unfold entryOf unmarked
  by_cases hblank : trimmed raw = ""
  · rw [if_pos hblank, hblank]
    simp [dryRunMarker]
  · rw [if_neg hblank, Option.some_inj, ← afterMarker?_trimmed_eq_empty_iff]
    cases dryRun with
    | false => simpa using hblank
    | true =>
      cases hmarked : afterMarker? (trimmed raw) with
      | none => simpa using hblank
      | some rest => simp

/-- What is behind the marker of a line is part of the line. -/
theorem mem_of_mem_unmarked {dryRun : Bool} {line : String} {c : Char}
    (hc : c ∈ (unmarked dryRun line).toList) : c ∈ line.toList := by
  unfold unmarked at hc
  split at hc
  · cases hmarked : afterMarker? line with
    | none => rwa [hmarked] at hc
    | some rest =>
      obtain ⟨cs, hline, rfl⟩ := afterMarker?_eq_some_iff.mp hmarked
      rw [hmarked, Option.getD_some, String.toList_ofList] at hc
      rw [hline]
      exact List.mem_append_right _ ((List.dropWhile_suffix isBlank).mem hc)
  · exact hc

/-- The entry of a line is part of the line. -/
theorem mem_of_mem_entryOf {dryRun : Bool} {raw line : String}
    (hentry : entryOf dryRun raw = some line) {c : Char} (hc : c ∈ line.toList) :
    c ∈ raw.toList := by
  unfold entryOf at hentry
  split at hentry
  · cases hentry
  · cases hentry
    have htrim := mem_of_mem_unmarked hc
    rw [trimmed, String.toList_ofList] at htrim
    exact mem_of_mem_trim htrim

/-- An entry that is not empty has no empty line. -/
theorem isSolid_of_entryOf {dryRun : Bool} {raw line : String}
    (hentry : entryOf dryRun raw = some line) (hraw : IsOneLine raw) (hne : line ≠ "") :
    IsSolid line :=
  isSolid_of_one_line hne fun hfeed => nomatch hraw '\n' (mem_of_mem_entryOf hentry hfeed)

namespace Parser

/-! ## One line -/

/-- No event of the parser has an empty line in its message. -/
def Solid (p : Parser) : Prop :=
  ∀ event ∈ p.events, event.Solid

/-- An entry without empty lines brings none. -/
theorem solid_take {p : Parser} (linked : p.Linked) (solid : p.Solid) {line : String}
    (hline : IsSolid line) : (p.take line).1.Solid :=
  forall_mem_events_take linked solid (fun _ hevent => solid_of_event? hevent)
    (fun _ _ => solid_generalError_iff.mpr hline)
    (fun _ _ _ hevent => Event.solid_continuedBy_iff.mpr ⟨hevent, hline⟩)

/-- The notice of an entry shows the entry. -/
theorem shown_of_mem_take {p : Parser} {line : String} {notice : Notice}
    (hnotice : notice ∈ (p.take line).2) : notice.shown = line := by
  have htaken := p.taken line
  generalize p.take line = result at htaken hnotice
  cases htaken with
  | reported _ _ _ => rw [List.mem_singleton.mp hnotice]; rfl
  | _ => cases hnotice

/-- A line that is not empty behind its marker puts no empty line anywhere. -/
theorem solid_feed {p : Parser} (linked : p.Linked) (solid : p.Solid) {raw : String}
    (hraw : IsOneLine raw) (hentry : entryOf p.dryRun raw ≠ some "") :
    (p.feed raw).1.Solid ∧ ∀ notice ∈ (p.feed raw).2, notice.shown ≠ "" := by
  have hmarker : ∀ notice ∈ p.markerNotice raw, notice.shown ≠ "" := by
    intro notice hnotice
    unfold markerNotice at hnotice
    split at hnotice
    · rename_i hmissing
      rw [List.mem_singleton.mp hnotice]
      exact hmissing.2.1
    · cases hnotice
  rw [feed_fst, feed_snd]
  cases hline : entryOf p.dryRun raw with
  | none => exact ⟨solid, by simpa using hmarker⟩
  | some line =>
    have hne : line ≠ "" := by
      rintro rfl
      exact hentry hline
    refine ⟨solid_take linked solid (isSolid_of_entryOf hline hraw hne), ?_⟩
    rw [List.forall_mem_append]
    exact ⟨hmarker, fun notice hnotice => shown_of_mem_take hnotice ▸ hne⟩

/-- What a parser does with a line that is empty behind its marker: it adds an empty line to the
last event, if that is an error, and reports an empty line of no known shape otherwise. -/
theorem feed_of_empty_entry {p : Parser} (linked : p.Linked) {raw : String}
    (hentry : entryOf p.dryRun raw = some "") :
    (p.pending = none ∧ p.feed raw = (p, [.unrecognised ""])) ∨
    ∃ init last, p.events = init ++ [last] ∧ last.isError = true ∧
      p.feed raw = ({ p with events := init ++ [last.continuedBy ""] }, []) := by
  have hmarker : p.markerNotice raw = [] := by
    obtain ⟨_, hline⟩ := entryOf_eq_some_empty_iff.mp hentry
    rw [markerNotice, afterMarker?_trimmed_eq_empty_iff.mpr hline]
    exact if_neg fun h => Option.some_ne_none "" h.2.2.1
  have hfeed : p.feed raw = p.take "" := by
    refine Prod.ext ?_ ?_
    · rw [feed_fst, hentry]
    · rw [feed_snd, hentry, hmarker, List.nil_append]
  rw [hfeed]
  cases hpending : p.pending with
  | none => exact .inl ⟨rfl, take_of_no_mark rfl hpending rfl⟩
  | some i =>
    obtain ⟨init, last, hevents, herror, _, hmodify⟩ := linked.modify_eq hpending (·.continuedBy "")
    exact .inr ⟨init, last, hevents, herror, by
      rw [take_of_pending rfl hpending, hmodify, hpending]⟩

/-! ## Several lines -/

/-- Every line keeps the invariant of the pending error. -/
theorem linked_feed {p : Parser} (linked : p.Linked) (raw : String) : (p.feed raw).1.Linked := by
  rw [feed_fst]
  split
  · exact linked
  · exact linked_take p _ linked

/-- An empty line in a message is still there after one more line. -/
theorem not_solid_feed {p : Parser} (linked : p.Linked) (hempty : ¬p.Solid) (raw : String) :
    ¬(p.feed raw).1.Solid := by
  rw [feed_fst]
  split
  · exact hempty
  · rename_i line _
    refine mt (fun hsolid => ?_) hempty
    unfold Solid at hsolid ⊢
    rcases linked.events_take line with h | ⟨event, h⟩ | ⟨init, last, _, hevents, _, h⟩
    · rwa [h] at hsolid
    · rw [h, List.forall_mem_append] at hsolid
      exact hsolid.1
    · rw [h, List.forall_mem_append, List.forall_mem_singleton] at hsolid
      rw [hevents, List.forall_mem_append, List.forall_mem_singleton]
      exact ⟨hsolid.1, (Event.solid_continuedBy_iff.mp hsolid.2).1⟩

/-- An empty line in a message is there to stay. -/
theorem not_solid_feedAll {p : Parser} (linked : p.Linked) (hempty : ¬p.Solid)
    (raws : List String) : ¬(p.feedAll raws).1.Solid := by
  induction raws generalizing p with
  | nil => exact hempty
  | cons raw rest ih =>
    have hrest := ih (linked_feed linked raw) (not_solid_feed linked hempty raw)
    rwa [feedAll]

/-- A run has no empty lines exactly if no line is empty behind its marker. -/
theorem solid_feedAll_iff {p : Parser} (linked : p.Linked) (solid : p.Solid) {raws : List String}
    (hraws : ∀ raw ∈ raws, IsOneLine raw) :
    ((p.feedAll raws).1.Solid ∧ ∀ notice ∈ (p.feedAll raws).2, notice.shown ≠ "") ↔
      ∀ raw ∈ raws, entryOf p.dryRun raw ≠ some "" := by
  induction raws generalizing p with
  | nil => exact ⟨fun _ => nofun, fun _ => ⟨solid, nofun⟩⟩
  | cons raw rest ih =>
    obtain ⟨hraw, hrest⟩ := List.forall_mem_cons.mp hraws
    simp only [feedAll, List.forall_mem_cons, List.forall_mem_append]
    by_cases hentry : entryOf p.dryRun raw = some ""
    · -- the empty line is in the notices of this step or in the events of every step after it
      refine iff_of_false ?_ fun h => h.1 hentry
      rintro ⟨hevents, hnotices, _⟩
      rcases feed_of_empty_entry linked hentry with ⟨_, hfeed⟩ | ⟨init, last, _, _, hfeed⟩
      · rw [hfeed] at hnotices
        exact hnotices _ List.mem_cons_self rfl
      · refine not_solid_feedAll (linked_feed linked raw) ?_ rest hevents
        intro hsolid
        have hlast := hsolid (last.continuedBy "") (by rw [hfeed]; simp)
        exact (Event.solid_continuedBy_iff.mp hlast).2 (by decide)
    · obtain ⟨hevents, hnotices⟩ := solid_feed linked solid hraw hentry
      have hnext := ih (linked_feed linked raw) hevents hrest
      rw [dryRun_feed] at hnext
      rw [← hnext]
      exact ⟨fun h => ⟨hentry, h.1, h.2.2⟩, fun h => ⟨h.2.1, hnotices, h.2.2⟩⟩

/-! ## Skipped lines -/

/-- No event is its own continuation. -/
theorem continuedBy_ne_self (event : Event) (line : String) : event.continuedBy line ≠ event := by
  intro heq
  have hmessage := congrArg Event.message heq
  unfold Event.continuedBy at hmessage
  cases hbefore : event.message with
  | none => simp [hbefore] at hmessage
  | some message =>
    simp only [hbefore, Option.some_inj] at hmessage
    have hlength := congrArg String.length hmessage
    simp only [String.length_append] at hlength
    have hfeed : "\n".length = 1 := rfl
    omega

/-- No entry is skipped. -/
theorem take_ne_self {p : Parser} (linked : p.Linked) (line : String) : p.take line ≠ (p, []) := by
  have htaken := p.taken line
  generalize p.take line = result at htaken
  rintro rfl
  generalize hafter : (p, ([] : List Notice)) = result at htaken
  cases htaken with
  | recognised _ =>
    have hevents := congrArg (Parser.events ·.1) hafter
    simp at hevents
  | opened _ _ _ =>
    have hevents := congrArg (Parser.events ·.1) hafter
    simp at hevents
  | reported _ _ _ => cases congrArg Prod.snd hafter
  | continued _ hpending =>
    obtain ⟨init, last, hinit, _, _, hmodify⟩ := linked.modify_eq hpending (·.continuedBy line)
    have hevents : p.events = p.events.modify _ (·.continuedBy line) :=
      congrArg (Parser.events ·.1) hafter
    rw [hmodify, hinit, List.append_cancel_left_eq, List.singleton_inj] at hevents
    exact continuedBy_ne_self _ _ hevents.symm

/-- A parser skips a line exactly if the line is blank as it was printed. -/
theorem feed_eq_self_iff {p : Parser} (linked : p.Linked) {raw : String} :
    p.feed raw = (p, []) ↔ trimmed raw = "" := by
  refine ⟨fun hskip => ?_, p.feed_blank⟩
  by_contra hblank
  have hentry : entryOf p.dryRun raw = some (unmarked p.dryRun (trimmed raw)) := if_neg hblank
  have hstate : (p.feed raw).1 = p := by rw [hskip]
  have hnotices : (p.feed raw).2 = [] := by rw [hskip]
  rw [feed_fst, hentry] at hstate
  rw [feed_snd, hentry, List.append_eq_nil_iff] at hnotices
  exact take_ne_self linked _ (Prod.ext hstate hnotices.2)

end Parser

/-! ## Whole texts -/

/-- A text is read without empty lines exactly if it is not from a dry run or no line of it is a
marker alone.  A parser skips the blank lines and no others: a marker alone adds an empty line to
the error before it, or is reported as an empty line. -/
theorem solid_read_iff_no_bare_marker (text : String) (dryRun : Bool) :
    ((read text dryRun).Solid ↔
      (dryRun = true → ∀ line ∈ lines text, trimmed line ≠ dryRunMarker)) ∧
    (∀ p : Parser, p.Reachable → ∀ raw, p.feed raw = (p, []) ↔ trimmed raw = "") ∧
    ∀ p : Parser, p.Reachable → p.dryRun = true → ∀ raw, trimmed raw = dryRunMarker →
      (p.pending = none ∧ p.feed raw = (p, [.unrecognised ""])) ∨
      ∃ init last, p.events = init ++ [last] ∧ last.status = some .error ∧
        p.feed raw = ({ p with events := init ++ [last.continuedBy ""] }, []) := by
  refine ⟨?_, fun p hp raw => Parser.feed_eq_self_iff hp.linked,
    fun p hp hmode raw hraw => ?_⟩
  · have hlines : ∀ line ∈ lines text, IsOneLine line := fun _ => isLineBreak_of_mem_lines
    have hrun := Parser.solid_feedAll_iff (Parser.linked_start dryRun)
      (fun _ hevent => absurd hevent List.not_mem_nil) hlines
    have hentries : (∀ raw ∈ lines text, entryOf dryRun raw ≠ some "") ↔
        (dryRun = true → ∀ line ∈ lines text, trimmed line ≠ dryRunMarker) := by
      simp only [Ne, entryOf_eq_some_empty_iff]
      exact ⟨fun h hmode raw hraw hline => h raw hraw ⟨hmode, hline⟩,
        fun h raw hraw hmarked => h hmarked.1 raw hraw hmarked.2⟩
    rw [← hentries]
    exact ⟨fun h => hrun.mp ⟨h.events, h.notices⟩, fun h => ⟨(hrun.mpr h).1, (hrun.mpr h).2⟩⟩
  · have hentry : entryOf p.dryRun raw = some "" := entryOf_eq_some_empty_iff.mpr ⟨hmode, hraw⟩
    refine (Parser.feed_of_empty_entry hp.linked hentry).imp_right ?_
    rintro ⟨init, last, hevents, herror, hfeed⟩
    exact ⟨init, last, hevents, Event.isError_iff.mp herror, hfeed⟩

/-- A dry run with marked, blank and unmarked lines, and a parser with an error that gets a marker
alone. -/
theorem solid_read_of_marked_lines :
    (read "DRY-RUN MODE - web Error\n \r\n DRY-RUN MODE - a\nb" true).Solid ∧
      ∃ p : Parser, p.Reachable ∧ p.dryRun = true ∧ p.pending = some 0 ∧
        p.feed "\t" = (p, []) ∧
        ∃ init last, p.events = init ++ [last] ∧ last.status = some .error ∧
          p.feed "DRY-RUN MODE - " =
            ({ p with events := init ++ [last.continuedBy ""] }, []) := by
  obtain ⟨hread, hskip, hmarker⟩ :=
    solid_read_iff_no_bare_marker "DRY-RUN MODE - web Error\n \r\n DRY-RUN MODE - a\nb" true
  have hp : ((Parser.start true).feed "DRY-RUN MODE - web Error").1.Reachable :=
    .feed "DRY-RUN MODE - web Error" (.start true)
  refine ⟨hread.mpr fun _ => by decide, _, hp, by decide, by decide,
    (hskip _ hp _).mpr (by decide), ?_⟩
  exact (hmarker _ hp (by decide) _ (by decide)).resolve_left fun h => nomatch h.1

/-- A marker alone is reported as an empty line and becomes an empty line of the error before it,
and a fresh parser of a dry run does not skip it. -/
theorem not_solid_read_of_bare_marker :
    (read "DRY-RUN MODE -\nDRY-RUN MODE - web Error\nDRY-RUN MODE -\nDRY-RUN MODE - no space left"
      true).events =
        [{ kind := .unknown, id := "web", status := some .error
           message := some "\nno space left" }] ∧
    (read "DRY-RUN MODE -\nDRY-RUN MODE - web Error\nDRY-RUN MODE -\nDRY-RUN MODE - no space left"
      true).notices = [.unrecognised ""] ∧
    ¬(read "DRY-RUN MODE -\nDRY-RUN MODE - web Error\nDRY-RUN MODE -\nDRY-RUN MODE - no space left"
      true).Solid ∧
    (Parser.start true).feed " DRY-RUN MODE - " ≠ (Parser.start true, []) := by
  refine ⟨by decide, by decide, fun hsolid => ?_, by decide⟩
  exact hsolid.notices (.unrecognised "") (by decide) rfl

end ContainerOps.Progress
