import ContainerOps.Proofs.Progress.Marker
import ContainerOps.Proofs.Progress.Notices
import ContainerOps.Proofs.Progress.Pending

/-!
# Dry runs and other runs

A parser of dry runs goes through the same states as a parser of other runs that gets the lines
without their markers: both take the same entries, and taking an entry does not depend on the mode.
Only the notices differ, by those on missing markers.

Main results:

- `Parser.take_inMode`: what taking an entry does is the same in both modes.
- `Parser.feedAll_fst_of_entries` and `Parser.noticesAt_of_entries`: lines with the same entries
  lead to the same events, and to the same notices but for those on missing markers.
- `read_dryRun`: a dry run is read like the text without its markers.
-/

namespace ContainerOps.Progress

open ContainerOps.Text

namespace Parser

/-! ## Modes -/

/-- A parser in a given mode. -/
def inMode (p : Parser) (dryRun : Bool) : Parser :=
  { p with dryRun := dryRun }

@[simp]
theorem dryRun_inMode (p : Parser) (dryRun : Bool) : (p.inMode dryRun).dryRun = dryRun := rfl

/-- What taking an entry does is the same in both modes. -/
theorem take_inMode (p : Parser) (dryRun : Bool) (line : String) :
    (p.inMode dryRun).take line = ((p.take line).1.inMode dryRun, (p.take line).2) := by
  have htaken := p.taken line
  generalize p.take line = result at htaken ⊢
  cases htaken with
  | recognised hevent => exact take_of_event? hevent
  | continued hshape hpending => exact take_of_pending hshape hpending
  | opened hshape hpending hmark => exact take_of_mark hshape hpending hmark
  | reported hshape hpending hmark => exact take_of_no_mark hshape hpending hmark

/-- What taking some entries does is the same in both modes. -/
theorem takeAll_inMode (p : Parser) (dryRun : Bool) (taken : List String) :
    (p.inMode dryRun).takeAll taken = (p.takeAll taken).inMode dryRun := by
  induction taken generalizing p with
  | nil => rfl
  | cons line rest ih => rw [takeAll_cons, takeAll_cons, take_inMode, ih]

/-! ## Two runs with the same entries -/

section Entries

variable {raws unmarkedRaws : List String}

/-- Lines with the same entries have the same entries together. -/
theorem entries_of_map_entryOf
    (hentries : raws.map (entryOf true) = unmarkedRaws.map (entryOf false)) :
    entries true raws = entries false unmarkedRaws := by
  have hfilter := congrArg (List.filterMap id) hentries
  rwa [List.filterMap_map, List.filterMap_map, Function.id_comp, Function.id_comp] at hfilter

/-- Lines with the same entries lead to the same parser but for its mode. -/
theorem feedAll_fst_of_entries
    (hentries : raws.map (entryOf true) = unmarkedRaws.map (entryOf false)) :
    ((start true).feedAll raws).1 = ((start false).feedAll unmarkedRaws).1.inMode true := by
  have hfalse : ((start false).feedAll unmarkedRaws).1 =
      (start false).takeAll (entries false unmarkedRaws) := feedAll_fst (start false) unmarkedRaws
  have htrue : ((start true).feedAll raws).1 = (start true).takeAll (entries true raws) :=
    feedAll_fst (start true) raws
  rw [htrue, hfalse, entries_of_map_entryOf hentries, ← takeAll_inMode]
  rfl

/-- The notice that one of the lines of a dry run lacks its marker.  Below an error none is
expected. -/
def missingMarkerAt (raws : List String) (i : Nat) : List Notice :=
  match raws[i]? with
  | none => []
  | some raw =>
    if trimmed raw ≠ "" ∧ startsWith (trimmed raw) dryRunMarker = false ∧
        ∀ event ∈ ((start true).feedAll (raws.take i)).1.events.getLast?, event.isError = false then
      [.missingMarker (trimmed raw)]
    else []

/-- No notice is needed for a line that is blank or has its marker. -/
theorem missingMarkerAt_of_marked {i : Nat}
    (hmarked : ∀ raw, raws[i]? = some raw → trimmed raw ≠ "" →
      ∃ rest, afterMarker? (trimmed raw) = some rest) :
    missingMarkerAt raws i = [] := by
  unfold missingMarkerAt
  cases hraw : raws[i]? with
  | none => rfl
  | some raw =>
    refine if_neg fun h => ?_
    obtain ⟨rest, hrest⟩ := hmarked raw hraw h.1
    have hunmarked := h.2.1
    rw [startsWith_marker, hrest] at hunmarked
    cases hunmarked

/-- Whether a marker is missing can be told from the events so far. -/
theorem markerNotice_feedAll {i : Nat} {raw : String} (hraw : raws[i]? = some raw) :
    ((start true).feedAll (raws.take i)).1.markerNotice raw = missingMarkerAt raws i := by
  have hpending := ((Reachable.start true).feedAll (raws.take i)).linked.pending_eq_none_iff
  have hmode : ((start true).feedAll (raws.take i)).1.dryRun = true :=
    (start true).dryRun_feedAll (raws.take i)
  unfold markerNotice missingMarkerAt
  simp only [hraw, hmode, hpending, startsWith_marker, Option.isSome_eq_false_iff,
    Option.isNone_iff_eq_none, true_and]

/-- Lines with the same entries have the same notices but for those on missing markers. -/
theorem noticesAt_of_entries
    (hentries : raws.map (entryOf true) = unmarkedRaws.map (entryOf false)) (i : Nat) :
    (start true).noticesAt raws i =
      missingMarkerAt raws i ++ (start false).noticesAt unmarkedRaws i := by
  have hget : (raws[i]?).map (entryOf true) = (unmarkedRaws[i]?).map (entryOf false) := by
    rw [← List.getElem?_map, hentries, List.getElem?_map]
  have htake : (raws.take i).map (entryOf true) = (unmarkedRaws.take i).map (entryOf false) := by
    rw [List.map_take, hentries, List.map_take]
  have hstate := feedAll_fst_of_entries htake
  cases hraw : raws[i]? with
  | none =>
    rw [hraw] at hget
    have hnone : unmarkedRaws[i]? = none := Option.map_eq_none_iff.mp hget.symm
    rw [noticesAt, noticesAt, missingMarkerAt, hraw, hnone]
    rfl
  | some raw =>
    rw [hraw] at hget
    obtain ⟨other, hother, hentry⟩ := Option.map_eq_some_iff.mp hget.symm
    have hmode : ((start false).feedAll (unmarkedRaws.take i)).1.dryRun = false :=
      (start false).dryRun_feedAll (unmarkedRaws.take i)
    rw [noticesAt, hraw, noticesAt, hother]
    dsimp only
    rw [feed_snd, feed_snd, markerNotice_feedAll hraw, markerNotice_of_not_dryRun hmode, hmode,
      hentry, List.nil_append, hstate, dryRun_inMode]
    cases entryOf true raw with
    | none => rfl
    | some line =>
      dsimp only
      rw [take_inMode]

end Entries

end Parser

/-! ## Whole texts -/

attribute [ext] Reading

/-- Texts with the same entries have the same events. -/
theorem events_read_of_entries {text other : String}
    (hentries : (lines text).map (entryOf true) = (lines other).map (entryOf false)) :
    (read text true).events = (read other false).events := by
  rw [events_read, events_read, Parser.entries_of_map_entryOf hentries,
    show Parser.start true = (Parser.start false).inMode true from rfl, Parser.takeAll_inMode]
  rfl

/-- A dry run is read like the text without its markers, with one notice more for each line that
lacks its marker and is not below an error.  So a text that gets markers is read as before. -/
theorem read_dryRun :
    (∀ text, (∀ line ∈ lines text, trimmed line ≠ dryRunMarker) →
      (read text true).events = (read (withoutMarkers text) false).events ∧
      (read (withoutMarkers text) false).notices =
        (List.range (lines text).length).flatMap
          ((Parser.start false).noticesAt (lines (withoutMarkers text))) ∧
      (read text true).notices =
        (List.range (lines text).length).flatMap fun i =>
          Parser.missingMarkerAt (lines text) i ++
            (Parser.start false).noticesAt (lines (withoutMarkers text)) i) ∧
    ∀ text (lead gap : Nat → String), (∀ i, IsGap (lead i)) → (∀ i, IsGap (gap i)) →
      read (withMarkers lead gap text) true = read text false := by
  refine ⟨fun text hlines => ?_, fun text lead gap hlead hgap => ?_⟩
  · have hentries := map_entryOf_withoutMarkers hlines
    have hlength : (lines (withoutMarkers text)).length = (lines text).length := by
      rw [lines_withoutMarkers, List.length_map]
    refine ⟨events_read_of_entries hentries, ?_, ?_⟩
    · rw [notices_read, hlength]
    · rw [notices_read]
      exact List.flatMap_congr fun i _ => Parser.noticesAt_of_entries hentries i
  · have hentries := map_entryOf_withMarkers hlead hgap text
    have hlength : (lines (withMarkers lead gap text)).length = (lines text).length := by
      rw [lines_withMarkers hlead hgap, List.length_mapIdx]
    have hmissing : ∀ i, Parser.missingMarkerAt (lines (withMarkers lead gap text)) i = [] :=
      fun i => Parser.missingMarkerAt_of_marked fun _ =>
        afterMarker?_getElem?_withMarkers hlead hgap
    refine Reading.ext (events_read_of_entries hentries) ?_
    rw [notices_read, notices_read, hlength]
    refine List.flatMap_congr fun i _ => ?_
    rw [Parser.noticesAt_of_entries hentries, hmissing, List.nil_append]

/-- Lines with and without markers, one with two of them and one that is below an error, and a text
that gets markers with other blanks for its first line than for the rest. -/
theorem read_dryRun_of_mixed_lines :
    ∃ text marked : String,
      text = "n\n DRY-RUN MODE -  n Error\r\nDRY-RUN MODE - DRY-RUN MODE - a \nb" ∧
      withoutMarkers text = "n\n n Error\r\nDRY-RUN MODE - a \nb" ∧
      (read text true).events = (read (withoutMarkers text) false).events ∧
      (read text true).notices = [.missingMarker "n", .unrecognised "n"] ∧
      marked = "\tDRY-RUN MODE -n\r\n DRY-RUN MODE -\tDRY-RUN MODE -" ∧
      read marked true = read "n\r\nDRY-RUN MODE -" false := by
  obtain ⟨hstrip, hmark⟩ := read_dryRun
  have htext :=
    hstrip "n\n DRY-RUN MODE -  n Error\r\nDRY-RUN MODE - DRY-RUN MODE - a \nb" (by decide)
  have hmarked := hmark "n\r\nDRY-RUN MODE -" (fun i => if i = 0 then "\t" else " ")
    (fun i => if i = 0 then "" else "\t") (fun i => by split <;> decide)
    fun i => by split <;> decide
  exact ⟨_, _, rfl, by decide, htext.1, htext.2.2.trans (by decide), by decide, hmarked⟩

end ContainerOps.Progress
