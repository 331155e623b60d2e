import ContainerOps.Proofs.Json.RoundTrip
import ContainerOps.Proofs.Project.RawContainers
import ContainerOps.Proofs.Text.Pieces
import Mathlib

/-!
# The members of a container

No member of a listed container is lost.  Written again it is the object that it was read of, but
for the known members that are null, and of what is written it is read again.  A container whose
joined members are taken apart keeps what was joined: it is what its parts make up, and all known
members are written beside the other ones.

Reading again is said of values and not of the digits of a number: of every text that has the
written object as its value, a number being the one that the reader makes of it.  What is printed is
such a text where the digits of every number are read back, as those of all integers are.

Main results:

- `RawContainer.Describes.toJson_eq`: which members of an object are written again.
- `RawContainer.keeps_of_read`: a listed container keeps the members that it was read of.
- `Container.takesApart_ofRaw`: so does a container with its joined members taken apart.
- `containers_keep_their_members`: both together, for every form of a listing.
-/

namespace ContainerOps.Project

open ContainerOps.Decoding ContainerOps.Text
open ContainerOps.Json (Outline)

namespace RawContainer

variable {c : RawContainer} {t : Table Json} {key : String} {outline : Outline}

/-! ## Written members -/

/-- The known members that a container is written with. -/
def knownMembers (c : RawContainer) : List (String × Json) :=
  ("Name", .string c.name) :: optionalMember "Names" (c.names.map .string)
    ++ optionalMember "Labels" (c.labels.map .string)
    ++ optionalMember "Networks" (c.networks.map .string)
    ++ optionalMember "Publishers" (c.publishers.map .array)

/-- A container is written with its known members and with the other ones. -/
theorem toJson_eq_ofTable (c : RawContainer) :
    c.toJson = .ofTable (.ofList (c.knownMembers ++ c.extra.entries)) := rfl

/-- The key of a member that may be missing. -/
theorem map_fst_optionalMember (key : String) (o : Option Json) :
    ((optionalMember key o).map (·.1)).Sublist [key] := by
  cases o with
  | none => exact List.nil_sublist _
  | some v => exact .refl _

/-- A member that may be missing is found under its key. -/
theorem find?_optionalMember (key key' : String) (o : Option Json) :
    Entries.find? key (optionalMember key' o) = if key = key' then o else none := by
  cases o with
  | none => simp [optionalMember, Entries.find?]
  | some v => rfl

/-- The known members have known keys, each once. -/
theorem keys_knownMembers_sublist (c : RawContainer) :
    (c.knownMembers.map (·.1)).Sublist knownKeys := by
  simp only [knownMembers, List.map_append]
  exact ((((map_fst_optionalMember _ _).cons_cons "Name").append
    (map_fst_optionalMember _ _)).append (map_fst_optionalMember _ _)).append
    (map_fst_optionalMember _ _)

/-- The known members have different keys. -/
theorem nodup_keys_knownMembers (c : RawContainer) : (c.knownMembers.map (·.1)).Nodup :=
  c.keys_knownMembers_sublist.nodup (by decide)

/-- Under another key no known member is found. -/
theorem find?_knownMembers_of_not_mem (c : RawContainer) (hunknown : key ∉ knownKeys) :
    Entries.find? key c.knownMembers = none := by
  refine Entries.find?_eq_none_iff.mpr fun member hmember heq => hunknown ?_
  exact c.keys_knownMembers_sublist.subset (heq ▸ List.mem_map_of_mem hmember)

/-- The known members are found under their keys. -/
theorem find?_knownMembers (c : RawContainer) :
    Entries.find? "Name" c.knownMembers = some (.string c.name) ∧
      Entries.find? "Names" c.knownMembers = c.names.map .string ∧
      Entries.find? "Labels" c.knownMembers = c.labels.map .string ∧
      Entries.find? "Networks" c.knownMembers = c.networks.map .string ∧
      Entries.find? "Publishers" c.knownMembers = c.publishers.map .array := by
  simp [knownMembers, Entries.find?, Entries.find?_append, find?_optionalMember]

/-- A member is written again unless it may be missing and is null. -/
def isWritten (member : String × Json) : Bool :=
  match member.2 with
  | .null => decide (member.1 ∉ optionalKeys)
  | _ => true

/-- A member with another value than null is written. -/
theorem isWritten_of_ne_null {v : Json} (hv : v ≠ .null) : isWritten (key, v) = true := by
  unfold isWritten
  split
  · next heq => exact absurd heq hv
  · rfl

/-- A member that has to be there is written. -/
theorem isWritten_of_not_mem {v : Json} (hkey : key ∉ optionalKeys) :
    isWritten (key, v) = true := by
  unfold isWritten
  split
  · exact decide_eq_true hkey
  · rfl

/-- A member that may be missing is written with what it is read as. -/
theorem filter_isWritten {α : Type} {write : α → Json} {found : Option Json} {o : Option α}
    (key : String) (hkey : key ∈ optionalKeys) (hnull : ∀ a, write a ≠ .null)
    (hfound : found.getD .null = orNull write o) :
    found.filter (fun v => isWritten (key, v)) = o.map write := by
  cases o with
  | none =>
    have hunwritten : isWritten (key, .null) = false := decide_eq_false (not_not_intro hkey)
    cases found with
    | none => rfl
    | some v =>
      obtain rfl : v = .null := hfound
      simp [hunwritten]
  | some a =>
    cases found with
    | none => exact absurd hfound.symm (hnull a)
    | some v =>
      obtain rfl : v = write a := hfound
      simp [isWritten_of_ne_null (hnull a)]

/-- Among the other members no known one is found. -/
theorem find?_filter_unknown (t : Table Json) (key : String) :
    (t.filter fun member => member.1 ∉ knownKeys).find? key =
      if key ∈ knownKeys then none else t.find? key := by
  rw [Table.find?_filter]
  by_cases hknown : key ∈ knownKeys <;> cases t.find? key <;> simp [hknown]

/-- A known member is written as the container has it, and all others as they are. -/
theorem Describes.find?_isWritten (hdescribes : Describes t c) (key : String) :
    (t.filter isWritten).find? key =
      if key ∈ knownKeys then Entries.find? key c.knownMembers else t.find? key := by
  rw [Table.find?_filter]
  split
  · next hknown =>
    obtain ⟨hname, hnames, hlabels, hnetworks, hpublishers⟩ := c.find?_knownMembers
    simp only [knownKeys, optionalKeys, List.mem_cons, List.not_mem_nil, or_false] at hknown
    rcases hknown with rfl | rfl | rfl | rfl | rfl
    · rw [hname, hdescribes.name]
      rfl
    · rw [hnames, filter_isWritten "Names" (by decide) (by simp) hdescribes.names]
    · rw [hlabels, filter_isWritten "Labels" (by decide) (by simp) hdescribes.labels]
    · rw [hnetworks, filter_isWritten "Networks" (by decide) (by simp) hdescribes.networks]
    · rw [hpublishers, filter_isWritten "Publishers" (by decide) (by simp) hdescribes.publishers]
  · next hunknown =>
    have hwritten : ∀ v, isWritten (key, v) = true := fun _ =>
      isWritten_of_not_mem (mt (List.mem_cons_of_mem "Name") hunknown)
    cases t.find? key <;> simp [hwritten]

/-- A container that is described by members is written with them, but for those that are null. -/
theorem Describes.toJson_eq (hdescribes : Describes t c) :
    c.toJson = .ofTable (t.filter isWritten) := by
  rw [toJson_eq_ofTable]
  refine congrArg Json.ofTable (Table.ext_find? fun key => ?_)
  rw [Table.find?_ofList_append c.nodup_keys_knownMembers, hdescribes.extra, find?_filter_unknown,
    hdescribes.find?_isWritten]
  split
  · rfl
  · next hunknown => rw [c.find?_knownMembers_of_not_mem hunknown, Option.or_none]

/-- What is written is found, or null is. -/
theorem getD_map_null {α : Type} (write : α → Json) (o : Option α) :
    (o.map write).getD .null = orNull write o := by
  cases o <;> rfl

/-- The members that a container is written with describe it. -/
theorem Describes.filter_isWritten (hdescribes : Describes t c) :
    Describes (t.filter isWritten) c := by
  obtain ⟨hname, hnames, hlabels, hnetworks, hpublishers⟩ := c.find?_knownMembers
  have hfind : ∀ key ∈ knownKeys, (t.filter isWritten).find? key =
      Entries.find? key c.knownMembers := fun key hknown => by
    rw [hdescribes.find?_isWritten, if_pos hknown]
  refine ⟨?_, ?_, ?_, ?_, ?_, ?_⟩
  · rw [hfind "Name" (by decide), hname]
  · rw [hfind "Names" (by decide), hnames, getD_map_null]
  · rw [hfind "Labels" (by decide), hlabels, getD_map_null]
  · rw [hfind "Networks" (by decide), hnetworks, getD_map_null]
  · rw [hfind "Publishers" (by decide), hpublishers, getD_map_null]
  · rw [hdescribes.extra]
    refine Table.ext_find? fun key => ?_
    rw [find?_filter_unknown, find?_filter_unknown, hdescribes.find?_isWritten]
    split <;> rfl

end RawContainer

/-! ## Whole texts -/

section Texts

variable {α : Type} {read : Outline → Except Fault α} {subject : Subject} {text : String}

/-- A text has a value if it ends after its outline and that has the value. -/
theorem parse?_eq_some_iff {v : Json} :
    Json.parse? text = some v ↔ (Json.Reader.document text).ended = true ∧
      (Json.Reader.document text).outline.value? = some v := by
  simp only [Json.parse?]
  split <;> simp_all

/-- One value is read of a text that ends after its outline, if it is read of that. -/
theorem parseDocument_eq_ok_iff {a : α} :
    parseDocument subject read text = .ok a ↔ (Json.Reader.document text).ended = true ∧
      read (Json.Reader.document text).outline = .ok a := by
  rw [parseDocument, mapError_eq_ok_iff, Json.Document.read_eq_ok_iff]

/-- An array is read if each of its items is. -/
theorem readArray_eq_ok_iff {outline : Outline} {as : List α} :
    readArray read outline = .ok as ↔ ∃ items, outline = .array items true ∧
      List.Forall₂ (fun item a => read item = .ok a) items as := by
  cases outline with
  | array items closed => simp [readArray, Outline.items, Outline.readItems_parts_iff]
  | _ => simp [readArray, Outline.items]

/-- Lines are read if each of them is. -/
theorem parseLines_eq_ok_iff {lines : List String} {as : List α} :
    parseLines subject read lines = .ok as ↔
      List.Forall₂ (fun line a => parseDocument subject read line = .ok a) lines as := by
  induction lines generalizing as with
  | nil => simp [parseLines, eq_comm]
  | cons line lines ih =>
    rw [parseLines, List.forall₂_cons_left_iff]
    cases parseDocument subject read line with
    | error e => simp
    | ok a =>
      simp only [map_eq_ok_iff, ih, Except.ok.injEq]
      constructor
      · rintro ⟨rest, hrest, rfl⟩
        exact ⟨a, rest, rfl, hrest, rfl⟩
      · rintro ⟨_, rest, rfl, hrest, rfl⟩
        exact ⟨rest, hrest, rfl⟩

end Texts

/-! ## Nothing is lost -/

namespace RawContainer

/-- A container keeps the members of an object: it is written with them, but for the known ones
that are null, it is read again of what is written, and its other members are those without a known
key. -/
structure Keeps (members : List (String × Json)) (c : RawContainer) : Prop where
  /-- The members are written again. -/
  written : c.toJson = .object (members.filter isWritten)
  /-- The container is read again of what is written. -/
  read_back : read (.ofJson c.toJson) = .ok c
  /-- It is read again of every text of what is written, as long as no member comes twice there. -/
  read_text_back : ∀ subject text, Json.parse? text = some c.toJson →
    (Json.Reader.document text).outline.keys.Nodup → parseDocument subject read text = .ok c
  /-- It is read again of what is printed, if every number in it is read back from its digits. -/
  read_printed : c.toJson.Exact → ∀ subject, parseDocument subject read c.toJson.compact = .ok c
  /-- The other members are those without a known key. -/
  extra : c.extra.entries = members.filter fun member => member.1 ∉ knownKeys

variable {c : RawContainer} {outline : Outline}

/-- A container that is read of an outline that is not nested too deeply keeps the members that it
was read of. -/
theorem keeps_of_read (hdepth : outline.depth ≤ Json.Reader.maxDepth)
    (hread : read outline = .ok c) :
    ∃ members, outline.value? = some (.object members) ∧ Keeps members c := by
  obtain ⟨t, hvalue, hdescribes⟩ := exists_describes_of_read hread
  have hwritten := hdescribes.toJson_eq
  have hmembers : ∀ member ∈ t.entries, member.2.Ordered :=
    (outline.ordered_of_value? hvalue).of_mem
  have hordered : (Json.ofTable (t.filter isWritten)).Ordered :=
    .object (t.filter isWritten).ascending fun member hmember =>
      hmembers member (List.mem_of_mem_filter hmember)
  have hkeys : (t.filter isWritten).keys.Nodup := (t.filter isWritten).ascending.nodup_keys
  have htextBack : ∀ subject text, Json.parse? text = some c.toJson →
      (Json.Reader.document text).outline.keys.Nodup → parseDocument subject read text = .ok c := by
    intro subject text hparse hnodup
    obtain ⟨hended, hvalue⟩ := parse?_eq_some_iff.mp hparse
    rw [hwritten] at hvalue
    exact parseDocument_eq_ok_iff.mpr
      ⟨hended, read_of_describes hvalue hdescribes.filter_isWritten hnodup⟩
  refine ⟨t.entries, hvalue, hwritten, ?_, htextBack, ?_, congrArg Table.entries hdescribes.extra⟩
  · refine read_of_describes ?_ hdescribes.filter_isWritten ?_
    · rw [hwritten, Outline.value?_ofJson _ hordered]
    · rwa [hwritten, Json.ofTable, Outline.keys_ofJson]
  · intro hexact subject
    -- a member that is written is one of those that were read
    have hwhole : (Json.object t.entries).depth ≤ Json.Reader.maxDepth :=
      (outline.depth_of_value? hvalue).trans hdepth
    have hwrittenDepth : c.toJson.depth ≤ Json.Reader.maxDepth := by
      rw [hwritten]
      exact Json.depth_object_le_iff.mpr fun member hmember =>
        Json.depth_object_le_iff.mp hwhole member (List.mem_of_mem_filter hmember)
    have hback : c.toJson.IsReadBack := hexact.isReadBack _ hwrittenDepth
    refine htextBack subject _ (Json.parse?_compact (hwritten ▸ hordered) hexact hwrittenDepth) ?_
    rw [Json.IsReadBack] at hback
    rwa [hback, hwritten, Json.ofTable, Outline.keys_ofJson]

end RawContainer

/-- What is related through something between is related item by item. -/
theorem exists_between {α β γ : Type} {R : α → β → Prop} {Q : α → γ → Prop} {S : γ → β → Prop}
    (hbetween : ∀ a b, R a b → ∃ m, Q a m ∧ S m b) {as : List α} {bs : List β}
    (hall : List.Forall₂ R as bs) : ∃ ms, List.Forall₂ Q as ms ∧ List.Forall₂ S ms bs := by
  induction hall with
  | nil => exact ⟨[], .nil, .nil⟩
  | cons hfirst _ ih =>
    obtain ⟨m, hq, hs⟩ := hbetween _ _ hfirst
    obtain ⟨ms, hqs, hss⟩ := ih
    exact ⟨m :: ms, .cons hq hqs, .cons hs hss⟩

namespace Container

/-- The known members of a container. -/
def knownMembers (c : Container) : List (String × Json) :=
  [("Name", .string c.name), ("Names", .array (c.names.map .string)),
    ("Labels", .object (c.labels.entries.map fun label => (label.1, .string label.2))),
    ("Networks", .array (c.networks.map .string)), ("Publishers", .array c.publishers)]

/-- The known members have the known keys. -/
theorem map_fst_knownMembers (c : Container) :
    c.knownMembers.map (·.1) = RawContainer.knownKeys := rfl

/-- A container takes the joined members of a listed one apart: its names and networks are the parts
between the commas, and the rest is as it was.  It is written with all known members and with the
other ones. -/
structure TakesApart (raw : RawContainer) (c : Container) : Prop where
  /-- The name is kept. -/
  name : c.name = raw.name
  /-- The other members are kept. -/
  extra : c.extra = raw.extra
  /-- The published ports are kept; none are an empty list. -/
  publishers : c.publishers = raw.publishers.getD []
  /-- The names are the parts of what was joined, or else of the name. -/
  names : PartsAt ',' (raw.names.getD raw.name) c.names
  /-- The networks are the parts of what was joined, or else of nothing. -/
  networks : PartsAt ',' (raw.networks.getD "") c.networks
  /-- What is written has the other members, and besides them all known ones. -/
  written : ∃ t : Table Json, c.toJson = .ofTable t ∧
    (∀ key, key ∈ t.keys ↔ key ∈ RawContainer.knownKeys ∨ key ∈ c.extra.keys) ∧
    ∀ key, t.find? key = (c.extra.find? key).or (Entries.find? key c.knownMembers)

/-- Taking the joined members apart loses nothing. -/
theorem takesApart_ofRaw (raw : RawContainer) : TakesApart raw (ofRaw raw) := by
  refine ⟨rfl, rfl, rfl, partsAt_iff.mpr rfl, partsAt_iff.mpr rfl,
    .ofList ((ofRaw raw).knownMembers ++ raw.extra.entries), rfl, fun key => ?_, fun key => ?_⟩
  · rw [Table.mem_keys_ofList, List.map_append, List.mem_append, map_fst_knownMembers]
    rfl
  · have hkeys : ((ofRaw raw).knownMembers.map (·.1)).Nodup := by
      rw [map_fst_knownMembers]
      decide
    exact Table.find?_ofList_append hkeys raw.extra key

end Container

/-- A container that is read as one value, from an array of them or from a line, keeps the members
of its object: it is written with them, but for the known ones that are null, and of what is written
it is read again, also as it is printed where its numbers are read back.  For every listed
container, the one with its joined members taken apart keeps what was joined and is written with all
known members and with the other ones as they were. -/
theorem containers_keep_their_members (subject : Subject) :
    (∀ stdout c, parseDocument subject RawContainer.read stdout = .ok c →
      ∃ members, Json.parse? stdout = some (.object members) ∧ RawContainer.Keeps members c) ∧
      (∀ stdout cs, parseDocument subject (readArray RawContainer.read) stdout = .ok cs →
        ∃ objects, Json.parse? stdout = some (.array (objects.map .object)) ∧
          List.Forall₂ RawContainer.Keeps objects cs) ∧
      (∀ stdout cs, parseStream subject RawContainer.read stdout = .ok cs →
        ∃ objects, (valueLines stdout).map Json.parse? = objects.map (some ∘ .object) ∧
          List.Forall₂ RawContainer.Keeps objects cs) ∧
      ∀ raw, Container.TakesApart raw (.ofRaw raw) := by
  have hdocument : ∀ stdout c, parseDocument subject RawContainer.read stdout = .ok c →
      ∃ members, Json.parse? stdout = some (.object members) ∧ RawContainer.Keeps members c := by
    intro stdout c hok
    obtain ⟨hended, hread⟩ := parseDocument_eq_ok_iff.mp hok
    obtain ⟨members, hvalue, hkeeps⟩ :=
      RawContainer.keeps_of_read (Json.Reader.depth_document hended) hread
    exact ⟨members, parse?_eq_some_iff.mpr ⟨hended, hvalue⟩, hkeeps⟩
  refine ⟨hdocument, ?_, ?_, Container.takesApart_ofRaw⟩
  · intro stdout cs hok
    obtain ⟨hended, hread⟩ := parseDocument_eq_ok_iff.mp hok
    obtain ⟨items, houtline, hitems⟩ := readArray_eq_ok_iff.mp hread
    have hdepth := Json.Reader.depth_document hended
    rw [houtline, Outline.depth] at hdepth
    have hitemDepth : ∀ item ∈ items, item.depth ≤ Json.Reader.maxDepth :=
      Outline.itemsDepth_le_iff.mp (Nat.le_of_succ_le hdepth)
    have hitem : ∀ item c, item.depth ≤ Json.Reader.maxDepth ∧ RawContainer.read item = .ok c →
        ∃ members, item.value? = some (.object members) ∧ RawContainer.Keeps members c :=
      fun _ _ h => RawContainer.keeps_of_read h.1 h.2
    obtain ⟨objects, hvalues, hkeeps⟩ :=
      exists_between hitem ((List.forall₂_and_left _ _).mpr ⟨hitemDepth, hitems⟩)
    refine ⟨objects, parse?_eq_some_iff.mpr ⟨hended, ?_⟩, hkeeps⟩
    rw [houtline]
    exact Outline.value?_eq_array_iff.mpr ⟨items, rfl, Outline.values?_eq_some_iff.mpr
      (List.forall₂_map_right_iff.mpr hvalues)⟩
  · intro stdout cs hok
    obtain ⟨objects, hvalues, hkeeps⟩ :=
      exists_between hdocument (parseLines_eq_ok_iff.mp hok)
    refine ⟨objects, ?_, hkeeps⟩
    rw [← List.forall₂_eq_eq_eq]
    exact List.forall₂_map_left_iff.mpr (List.forall₂_map_right_iff.mpr hvalues)

/-- A null member is left out when the container is written, and the container is read again of what
is printed and of the same members laid out in another way; without other names its name is taken
apart; and a comma at the end of the networks leaves an empty one. -/
theorem containers_keep_their_members_of_null_names :
    let text := "\x7b\"State\":\"up\",\"Name\":\"x,y\",\"Names\":null,\"Networks\":\"a,\"\x7d"
    let c : RawContainer :=
      { name := "x,y", names := none, labels := none, networks := some "a,", publishers := none
        extra := .ofList [("State", .string "up")] }
    let relaid := "\x7b \"State\": \"u\\u0070\", \"Networks\": \"a,\",\n \"Name\": \"x,y\"\x7d\n"
    parseDocument .containers RawContainer.read text = .ok c ∧
      c.toJson = .object
        [("Name", .string "x,y"), ("Networks", .string "a,"), ("State", .string "up")] ∧
      RawContainer.read (.ofJson c.toJson) = .ok c ∧
      parseDocument .containers RawContainer.read c.toJson.compact = .ok c ∧
      parseDocument .containers RawContainer.read relaid = .ok c ∧
      (Container.ofRaw c).names = ["x", "y"] ∧ (Container.ofRaw c).networks = ["a", ""] := by
  intro text c relaid
  have hdocument : Json.Reader.document text =
      { outline := .object [("State", .string "up"), ("Name", .string "x,y"), ("Names", .null),
          ("Networks", .string "a,")] true
        ended := true } := by
    cbv
  have hread : parseDocument .containers RawContainer.read text = .ok c :=
    parseDocument_eq_ok_iff.mpr (by rw [hdocument]; exact ⟨rfl, rfl⟩)
  have hvalue : Json.parse? text =
      some (.object [("Name", .string "x,y"), ("Names", .null), ("Networks", .string "a,"),
        ("State", .string "up")]) :=
    parse?_eq_some_iff.mpr (by rw [hdocument]; exact ⟨rfl, rfl⟩)
  obtain ⟨hcontainer, -, -, happart⟩ := containers_keep_their_members .containers
  obtain ⟨members, hmembers, hkeeps⟩ := hcontainer _ _ hread
  cases hvalue.symm.trans hmembers
  refine ⟨hread, hkeeps.written, hkeeps.read_back, ?_, ?_, ?_, ?_⟩
  · have hexact : c.toJson.Exact := by
      rw [hkeeps.written]
      refine .object (List.forall_mem_cons.mpr ⟨.string _, ?_⟩)
      exact List.forall_mem_cons.mpr ⟨.string _, List.forall_mem_singleton.mpr (.string _)⟩
    exact hkeeps.read_printed hexact .containers
  · have hrelaid : Json.Reader.document relaid =
        { outline := .object [("State", .string "up"), ("Networks", .string "a,"),
            ("Name", .string "x,y")] true
          ended := true } := by
      cbv
    refine hkeeps.read_text_back _ _ (parse?_eq_some_iff.mpr ?_) ?_
    · rw [hrelaid, hkeeps.written]
      exact ⟨rfl, rfl⟩
    · rw [hrelaid]
      decide
  · exact (partsAt_iff.mp (happart c).names).trans (by decide)
  · exact (partsAt_iff.mp (happart c).networks).trans (by decide)

end ContainerOps.Project
