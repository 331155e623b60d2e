import ContainerOps.Project.Listing
import ContainerOps.Proofs.Table.Listed
import ContainerOps.Proofs.Text.Pieces

/-!
# Labels

Labels are written with commas between them, each as a key, an equals sign and a value.  A label
with an empty value may be a key alone.  Whatever the order they are written in, the same labels are
read back; and of any text a look-up finds the last label of a key.

Main results:

- `parseLabel_eq_iff`: which key and value a part of a text has.
- `parseLabels_join`: labels that are written are read back.
- `find?_parseLabels_iff`: a look-up finds the last label of a key.
- `labels_read_back_and_looked_up`: both together.
-/

namespace ContainerOps.Project

open ContainerOps.Text

/-! ## One label -/

/-- A part of a text has a key and a value: what stands before and after its first equals sign, or
the whole part and nothing if there is no such sign. -/
def IsLabel (part key value : String) : Prop :=
  '=' ∉ key.toList ∧ (part = key ++ "=" ++ value ∨ part = key ∧ value = "")

variable {part key value : String}

/-- A key, an equals sign and a value are a label. -/
theorem parseLabel_append (hkey : '=' ∉ key.toList) (value : String) :
    parseLabel (key ++ "=" ++ value) = (key, value) := by
  have hlist : (key ++ "=" ++ value).toList = key.toList ++ '=' :: value.toList := by simp
  rw [parseLabel, hlist, cutAt?_append_cons hkey]
  simp

/-- A key alone is a label without a value. -/
theorem parseLabel_of_not_mem (hkey : '=' ∉ key.toList) : parseLabel key = (key, "") := by
  rw [parseLabel, cutAt?_of_not_mem hkey]

/-- A part is read as the key and the value that it has. -/
theorem parseLabel_eq_iff : parseLabel part = (key, value) ↔ IsLabel part key value := by
  constructor
  · intro hlabel
    by_cases hmark : '=' ∈ part.toList
    · obtain ⟨before, after, hpart, hbefore⟩ := List.eq_append_cons_of_mem hmark
      have hsplit : part = String.ofList before ++ "=" ++ String.ofList after := by
        rw [← String.toList_inj]
        simpa using hpart
      have hkey : '=' ∉ (String.ofList before).toList := by simpa using hbefore
      rw [hsplit, parseLabel_append hkey] at hlabel
      cases hlabel
      exact ⟨hkey, .inl hsplit⟩
    · rw [parseLabel_of_not_mem hmark] at hlabel
      cases hlabel
      exact ⟨hmark, .inr ⟨rfl, rfl⟩⟩
  · rintro ⟨hkey, rfl | ⟨rfl, rfl⟩⟩
    · exact parseLabel_append hkey value
    · exact parseLabel_of_not_mem hkey

/-! ## Written labels -/

/-- A label is written with an equals sign, or as its key alone if only the value is empty. -/
def WritesLabel (label : String × String) (part : String) : Prop :=
  part = label.1 ++ "=" ++ label.2 ∨ label.1 ≠ "" ∧ label.2 = "" ∧ part = label.1

/-- A label that can be told from others: no comma is in it, and no equals sign is in its key. -/
structure IsPlainLabel (label : String × String) : Prop where
  /-- No comma is in the key. -/
  key_comma : ',' ∉ label.1.toList
  /-- No equals sign is in the key. -/
  key_equals : '=' ∉ label.1.toList
  /-- No comma is in the value. -/
  value_comma : ',' ∉ label.2.toList

variable {label : String × String} {labels : List (String × String)} {parts : List String}

/-- What is written for a label is not empty. -/
theorem WritesLabel.ne_empty (hwrites : WritesLabel label part) : part ≠ "" := by
  rcases hwrites with rfl | ⟨hkey, -, rfl⟩
  · simp
  · exact hkey

/-- No comma is in what is written for a plain label. -/
theorem WritesLabel.not_mem (hwrites : WritesLabel label part) (hplain : IsPlainLabel label) :
    ',' ∉ part.toList := by
  rcases hwrites with rfl | ⟨-, -, rfl⟩
  · simp [hplain.key_comma, hplain.value_comma]
  · exact hplain.key_comma

/-- What is written for a plain label is read back as the label. -/
theorem WritesLabel.parseLabel_eq (hwrites : WritesLabel label part)
    (hplain : IsPlainLabel label) : parseLabel part = label := by
  refine parseLabel_eq_iff.mpr ⟨hplain.key_equals, ?_⟩
  rcases hwrites with hpart | ⟨-, hvalue, hpart⟩
  · exact .inl hpart
  · exact .inr ⟨hpart, hvalue⟩

/-- Plain labels are read back part by part. -/
theorem map_parseLabel_of_writes (hwrites : List.Forall₂ WritesLabel labels parts)
    (hplain : ∀ label ∈ labels, IsPlainLabel label) : parts.map parseLabel = labels := by
  induction hwrites with
  | nil => rfl
  | cons hfirst _ ih =>
    obtain ⟨hlabel, hrest⟩ := List.forall_mem_cons.mp hplain
    rw [List.map_cons, hfirst.parseLabel_eq hlabel, ih hrest]

/-- What is written for plain labels is neither empty nor cut at commas. -/
theorem forall_mem_of_writes (hwrites : List.Forall₂ WritesLabel labels parts)
    (hplain : ∀ label ∈ labels, IsPlainLabel label) :
    ∀ part ∈ parts, part ≠ "" ∧ ',' ∉ part.toList := by
  induction hwrites with
  | nil => exact List.forall_mem_nil _
  | cons hfirst _ ih =>
    obtain ⟨hlabel, hrest⟩ := List.forall_mem_cons.mp hplain
    exact List.forall_mem_cons.mpr ⟨⟨hfirst.ne_empty, hfirst.not_mem hlabel⟩, ih hrest⟩

/-- A text that is not empty is read part by part. -/
theorem parseLabels_of_ne_empty {s : String} (hs : s ≠ "") (hparts : PartsAt ',' s parts) :
    parseLabels s = .ofList (parts.map parseLabel) := by
  rw [parseLabels, if_neg (by simpa using hs), ← partsAt_iff.mp hparts]

/-- Plain labels that are written with commas between them are read back. -/
theorem parseLabels_join (hwrites : List.Forall₂ WritesLabel labels parts)
    (hplain : ∀ label ∈ labels, IsPlainLabel label) :
    parseLabels (join "," parts) = .ofList labels := by
  have hmem := forall_mem_of_writes hwrites hplain
  have hread := map_parseLabel_of_writes hwrites hplain
  by_cases hnil : parts = []
  · subst hnil
    rw [← hread]
    rfl
  · have hne : join "," parts ≠ "" := fun hempty =>
      hnil ((join_eq_empty_iff "," fun part hpart => (hmem part hpart).1).mp hempty)
    rw [parseLabels_of_ne_empty hne ⟨hnil, fun part hpart => (hmem part hpart).2, rfl⟩, hread]

/-! ## Looking up -/

/-- Only the empty text has no labels. -/
theorem parseLabels_eq_empty_iff {s : String} : parseLabels s = .empty ↔ s = "" := by
  refine ⟨fun hempty => ?_, fun hs => by rw [hs, parseLabels_empty]⟩
  by_contra hs
  have hparts : PartsAt ',' s (splitOn ',' s) := partsAt_iff.mpr rfl
  obtain ⟨part, parts, hcons⟩ := List.exists_cons_of_ne_nil hparts.ne_nil
  have hkey : (parseLabel part).1 ∈ (parseLabels s).keys := by
    rw [parseLabels_of_ne_empty hs hparts, Table.mem_keys_ofList, hcons]
    simp
  exact Table.eq_empty_iff.mp hempty _ hkey

/-- A look-up finds the last label of a key. -/
theorem find?_parseLabels_iff {s : String} (hs : s ≠ "") (hparts : PartsAt ',' s parts) :
    (parseLabels s).find? key = some value ↔
      ∃ before part after, parts = before ++ part :: after ∧ IsLabel part key value ∧
        ∀ other ∈ after, ∀ w, ¬IsLabel other key w := by
  have hkeys : ∀ other, (∀ w, ¬IsLabel other key w) ↔ (parseLabel other).1 ≠ key := by
    intro other
    simp only [← parseLabel_eq_iff]
    exact ⟨fun hnot heq => hnot _ (Prod.ext heq rfl), fun hne w heq => hne (congrArg Prod.fst heq)⟩
  rw [parseLabels_of_ne_empty hs hparts, Table.find?_ofList_eq_some_iff]
  constructor
  · rintro ⟨before, after, heq, hafter⟩
    obtain ⟨front, rest, rfl, rfl, hrest⟩ := List.map_eq_append_iff.mp heq
    obtain ⟨part, back, rfl, hpart, rfl⟩ := List.map_eq_cons_iff.mp hrest
    refine ⟨front, part, back, rfl, parseLabel_eq_iff.mp hpart, fun other hother => ?_⟩
    exact (hkeys other).mpr (hafter _ (List.mem_map_of_mem hother))
  · rintro ⟨before, part, after, rfl, hpart, hafter⟩
    refine ⟨before.map parseLabel, after.map parseLabel, ?_, ?_⟩
    · rw [List.map_append, List.map_cons, parseLabel_eq_iff.mpr hpart]
    · intro label hlabel
      obtain ⟨other, hother, rfl⟩ := List.mem_map.mp hlabel
      exact (hkeys other).mp (hafter other hother)

/-- The keys are those of the parts. -/
theorem mem_keys_parseLabels_iff {s : String} (hs : s ≠ "") (hparts : PartsAt ',' s parts) :
    key ∈ (parseLabels s).keys ↔ ∃ part ∈ parts, ∃ value, IsLabel part key value := by
  rw [parseLabels_of_ne_empty hs hparts, Table.mem_keys_ofList, List.map_map, List.mem_map]
  simp only [← parseLabel_eq_iff, Function.comp_apply]
  exact exists_congr fun part => and_congr_right fun _ =>
    ⟨fun heq => ⟨_, Prod.ext heq rfl⟩, fun ⟨_, heq⟩ => congrArg Prod.fst heq⟩

/-- Labels of a table that are written in any order, with commas between them and with or without
the equals sign in front of an empty value, are read back as the table.  Of any text, only the empty
one has no labels; of another one a look-up finds the last part with a key, and there are no keys
but those of the parts. -/
theorem labels_read_back_and_looked_up :
    (∀ t : Table String, (∀ label ∈ t.entries, IsPlainLabel label) →
      ∀ labels parts, labels.Perm t.entries → List.Forall₂ WritesLabel labels parts →
        parseLabels (join "," parts) = t) ∧
      ∀ s, (parseLabels s = .empty ↔ s = "") ∧
        ∃ parts, PartsAt ',' s parts ∧ (s ≠ "" → ∀ key,
          (∀ value, (parseLabels s).find? key = some value ↔
            ∃ before part after, parts = before ++ part :: after ∧ IsLabel part key value ∧
              ∀ other ∈ after, ∀ w, ¬IsLabel other key w) ∧
          (key ∈ (parseLabels s).keys ↔ ∃ part ∈ parts, ∃ value, IsLabel part key value)) := by
  constructor
  · intro t hplain labels parts hperm hwrites
    rw [parseLabels_join hwrites fun label hlabel => hplain label (hperm.mem_iff.mp hlabel),
      Table.ofList_of_perm hperm]
  · intro s
    have hparts : PartsAt ',' s (splitOn ',' s) := partsAt_iff.mpr rfl
    exact ⟨parseLabels_eq_empty_iff, _, hparts, fun hs key =>
      ⟨fun value => find?_parseLabels_iff hs hparts, mem_keys_parseLabels_iff hs hparts⟩⟩

/-- Three labels in descending order, one of them with an empty value, one with an equals sign in
its value and one with an empty key; and a text with two labels that come again. -/
theorem labels_read_back_and_looked_up_of_repeated_keys :
    parseLabels "flag,expr=a=b,=x" = .ofList [("", "x"), ("expr", "a=b"), ("flag", "")] ∧
      (parseLabels "a=1,b,a=2,b=c=d").find? "a" = some "2" ∧
      (parseLabels "a=1,b,a=2,b=c=d").find? "b" = some "c=d" ∧
      "c" ∉ (parseLabels "a=1,b,a=2,b=c=d").keys := by
  obtain ⟨hread, hlookUp⟩ := labels_read_back_and_looked_up
  obtain ⟨-, parts, hparts, hfind⟩ := hlookUp "a=1,b,a=2,b=c=d"
  obtain rfl : parts = ["a=1", "b", "a=2", "b=c=d"] :=
    (partsAt_iff.mp hparts).trans (by decide)
  refine ⟨?_, ?_, ?_, ?_⟩
  · refine hread _ ?_ [("flag", ""), ("expr", "a=b"), ("", "x")] ["flag", "expr=a=b", "=x"]
      (by decide) ?_
    · intro label hlabel
      obtain rfl | rfl | rfl : label = ("", "x") ∨ label = ("expr", "a=b") ∨
          label = ("flag", "") := by
        simpa using Entries.mem_of_mem_sorted hlabel
      all_goals exact ⟨by decide, by decide, by decide⟩
    · exact .cons (.inr ⟨by decide, rfl, rfl⟩) (.cons (.inl rfl) (.cons (.inl rfl) .nil))
  · exact ((hfind (by decide) "a").1 "2").mpr
      ⟨["a=1", "b"], "a=2", ["b=c=d"], rfl, ⟨by decide, .inl rfl⟩, by
        simp [← parseLabel_eq_iff, parseLabel, cutAt?]⟩
  · exact ((hfind (by decide) "b").1 "c=d").mpr
      ⟨["a=1", "b", "a=2"], "b=c=d", [], rfl, ⟨by decide, .inl rfl⟩, List.forall_mem_nil _⟩
  · rw [(hfind (by decide) "c").2]
    simp [← parseLabel_eq_iff, parseLabel, cutAt?]

end ContainerOps.Project
