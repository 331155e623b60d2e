import ContainerOps.Project.Listing
import ContainerOps.Proofs.Json.Reading
import ContainerOps.Proofs.Table.Listed

/-!
# Reading a listed container

A container is read from an object whose known members have values of the right kind; a known member
that is null counts as none, and all other members are kept.  What is read is told here by the table
of members, and it is told by it alone as long as no member comes twice.

Main results:

- `collect_eq_ok_iff`: which settings are read from the members of an object.
- `assemble_eq_ok_iff`: which container they are put together to.
- `Describes.unique`: members describe one container at most.
- `exists_describes_of_read` and `read_of_describes`: a container is read from the objects that
  describe it.
-/

namespace ContainerOps.Project.RawContainer

open ContainerOps.Decoding
open ContainerOps.Json (Outline)

/-! ## Known members -/

/-- The keys of the known members that may be missing. -/
def optionalKeys : List String :=
  ["Names", "Labels", "Networks", "Publishers"]

/-- The keys of the known members. -/
def knownKeys : List String :=
  "Name" :: optionalKeys

/-- The key of a member. -/
def Member.key : Member → String
  | .name => "Name"
  | .names => "Names"
  | .labels => "Labels"
  | .networks => "Networks"
  | .publishers => "Publishers"
  | .extra key => key

/-- A member is found under its key. -/
theorem Member.key_ofKey (key : String) : (ofKey key).key = key := by
  unfold ofKey
  split_ifs <;> simp_all [Member.key]

/-- The known members are those with a known key. -/
theorem Member.known?_ofKey (key : String) :
    (ofKey key).known? = if key ∈ knownKeys then some key else none := by
  unfold ofKey
  split_ifs <;> simp_all [known?, knownKeys, optionalKeys]

/-- A known member is the one under its key. -/
theorem Member.ofKey_key {m : Member} (hknown : m.known? ≠ none) : ofKey m.key = m := by
  cases m with
  | extra key => exact absurd rfl hknown
  | _ => rfl

/-! ## Settings -/

/-- The member that a setting is for. -/
def Setting.member : Setting → Member
  | .name _ => .name
  | .names _ => .names
  | .labels _ => .labels
  | .networks _ => .networks
  | .publishers _ => .publishers
  | .extra key _ => .extra key

/-- A value, or null for none. -/
def orNull {α : Type} (write : α → Json) : Option α → Json
  | none => .null
  | some a => write a

/-- The value of a setting. -/
def Setting.value : Setting → Json
  | .name s => .string s
  | .names s => orNull .string s
  | .labels s => orNull .string s
  | .networks s => orNull .string s
  | .publishers vs => orNull .array vs
  | .extra _ v => v

/-- The member of an object that a setting is read from. -/
def Setting.entry (s : Setting) : String × Json :=
  (s.member.key, s.value)

/-- A setting for a member that does not have the key of another. -/
def Setting.IsProper (s : Setting) : Prop :=
  Member.ofKey s.member.key = s.member

variable {outline : Outline} {s : Setting} {m : Member}

/-- A text that may be null is read as it is written. -/
theorem optionalText_eq_ok_iff {text : Option String} :
    optionalText outline = .ok text ↔ outline.value? = some (orNull .string text) := by
  by_cases hnull : outline = .null
  · subst hnull
    cases text <;> simp [optionalText, orNull, Outline.value?]
  · have hread : optionalText outline = outline.text.map some := by
      unfold optionalText
      split
      · exact absurd rfl hnull
      · rfl
    rw [hread, map_eq_ok_iff]
    cases text with
    | none => simp [orNull, Outline.value?_eq_null_iff, hnull]
    | some text => simp [orNull, Outline.text_eq_ok_iff]

/-- A list that may be null is read as it is written. -/
theorem optionalValues_eq_ok_iff {values : Option (List Json)} :
    optionalValues outline = .ok values ↔ outline.value? = some (orNull .array values) := by
  cases outline with
  | null => cases values <;> simp [optionalValues, orNull, Outline.value?]
  | array items closed =>
    have hread : optionalValues (.array items closed) =
        (readItems Outline.complete (Outline.parts items closed)).map some := rfl
    rw [hread, map_eq_ok_iff]
    cases values with
    | none => simp [orNull, Outline.value?_eq_null_iff]
    | some values =>
      simp [orNull, Outline.value?_eq_array_iff, Outline.readItems_parts_iff,
        Outline.values?_eq_some_iff, Outline.complete_eq_ok_iff]
  | _ =>
    cases values <;>
      simp [optionalValues, Outline.items, orNull, Outline.value?_eq_null_iff,
        Outline.value?_eq_array_iff]

/-- A reader of settings for one member, by what it reads. -/
theorem map_eq_ok_iff_member {α : Type} {read : Except Fault α} {make : α → Setting}
    {write : α → Json} (hread : ∀ a, read = .ok a ↔ outline.value? = some (write a))
    (hvalue : ∀ a, (make a).value = write a)
    (hmember : ∀ s : Setting, s.member = m ↔ ∃ a, make a = s) :
    read.map make = .ok s ↔ s.member = m ∧ outline.value? = some s.value := by
  rw [map_eq_ok_iff, hmember]
  constructor
  · rintro ⟨a, ha, rfl⟩
    exact ⟨⟨a, rfl⟩, by rw [hvalue, (hread a).mp ha]⟩
  · rintro ⟨⟨a, rfl⟩, hs⟩
    exact ⟨a, (hread a).mpr (by rw [hs, hvalue]), rfl⟩

/-- What is read of a member is a setting for it with its value. -/
theorem readMember_eq_ok_iff :
    readMember m outline = .ok s ↔ s.member = m ∧ outline.value? = some s.value := by
  cases m with
  | name =>
    exact map_eq_ok_iff_member (fun _ => Outline.text_eq_ok_iff) (fun _ => rfl)
      (by rintro (_ | _ | _ | _ | _ | _) <;> simp [Setting.member])
  | names =>
    exact map_eq_ok_iff_member (fun _ => optionalText_eq_ok_iff) (fun _ => rfl)
      (by rintro (_ | _ | _ | _ | _ | _) <;> simp [Setting.member])
  | labels =>
    exact map_eq_ok_iff_member (fun _ => optionalText_eq_ok_iff) (fun _ => rfl)
      (by rintro (_ | _ | _ | _ | _ | _) <;> simp [Setting.member])
  | networks =>
    exact map_eq_ok_iff_member (fun _ => optionalText_eq_ok_iff) (fun _ => rfl)
      (by rintro (_ | _ | _ | _ | _ | _) <;> simp [Setting.member])
  | publishers =>
    exact map_eq_ok_iff_member (fun _ => optionalValues_eq_ok_iff) (fun _ => rfl)
      (by rintro (_ | _ | _ | _ | _ | _) <;> simp [Setting.member])
  | extra key =>
    exact map_eq_ok_iff_member (fun _ => Outline.complete_eq_ok_iff) (fun _ => rfl)
      (by rintro (_ | _ | _ | _ | _ | _) <;> simp [Setting.member, eq_comm])

/-! ## Members of an object -/

variable {members : List (String × Outline)} {closed : Bool} {seen : List Member}
  {settings : List Setting}

/-- No known member comes twice, and none of them has been met before. -/
def IsFresh (seen : List Member) (settings : List Setting) : Prop :=
  settings.Pairwise (fun a b => a.member = b.member → a.member.known? = none) ∧
    ∀ s ∈ settings, s.member ∈ seen → s.member.known? = none

/-- What comes behind a setting is fresh if it is so behind its member. -/
theorem isFresh_cons_iff :
    IsFresh seen (s :: settings) ↔
      (s.member ∈ seen → s.member.known? = none) ∧ IsFresh (s.member :: seen) settings := by
  simp only [IsFresh, List.pairwise_cons, List.forall_mem_cons]
  constructor
  · rintro ⟨⟨hfirst, hrest⟩, hs, hseen⟩
    refine ⟨hs, hrest, fun other hother hmember => ?_⟩
    rcases List.mem_cons.mp hmember with heq | hmember
    · rw [heq]
      exact hfirst other hother heq.symm
    · exact hseen other hother hmember
  · rintro ⟨hs, hrest, hseen⟩
    refine ⟨⟨fun other hother heq => ?_, hrest⟩, hs, fun other hother hmember =>
      hseen other hother (.tail _ hmember)⟩
    rw [heq]
    exact hseen other hother (List.mem_cons.mpr (.inl heq.symm))

/-- The first member of an object is read, if it is not a known one that comes again, and then the
others. -/
theorem collect_cons_iff {key : String} {rest : List (Except Fault (String × Outline))} :
    collect schema Json.fault seen (.ok (key, outline) :: rest) = .ok settings ↔
      ∃ s others, s.member = Member.ofKey key ∧ outline.value? = some s.value ∧
        (s.member ∈ seen → s.member.known? = none) ∧
        collect schema Json.fault (s.member :: seen) rest = .ok others ∧
        settings = s :: others := by
  rw [collect]
  simp only [schema]
  constructor
  · intro hok
    split at hok
    · cases hok
    · next hnot =>
      split at hok
      · cases hok
      · next s hs =>
        obtain ⟨others, hothers, rfl⟩ := map_eq_ok_iff.mp hok
        obtain ⟨hmember, hvalue⟩ := readMember_eq_ok_iff.mp hs
        refine ⟨s, others, hmember, hvalue, fun hseen => ?_, hmember ▸ hothers, rfl⟩
        rw [hmember] at hseen ⊢
        simpa [hseen] using hnot
  · rintro ⟨s, others, hmember, hvalue, hseen, hothers, rfl⟩
    have hs : readMember (Member.ofKey key) outline = .ok s :=
      readMember_eq_ok_iff.mpr ⟨hmember, hvalue⟩
    rw [hmember] at hseen hothers
    have hnot : (if Member.ofKey key ∈ seen then (Member.ofKey key).known? else none) = none :=
      ite_eq_right_iff.mpr hseen
    simp only [hnot, hs]
    exact map_eq_ok_iff.mpr ⟨others, hothers, rfl⟩

/-- The settings that are read from the members of an object are those of their values, with no
known member twice. -/
theorem collect_eq_ok_iff :
    collect schema Json.fault seen (Outline.parts members closed) = .ok settings ↔
      closed = true ∧ Outline.memberValues? members = some (settings.map Setting.entry) ∧
        (∀ s ∈ settings, s.IsProper) ∧ IsFresh seen settings := by
  induction members generalizing seen settings with
  | nil =>
    cases closed with
    | false => simp [Outline.parts, collect]
    | true =>
      simp only [Outline.parts, Outline.memberValues?, List.map_nil, List.nil_append, if_true,
        collect, Except.ok.injEq, true_and, Option.some.injEq, eq_comm, List.map_eq_nil_iff]
      constructor
      · rintro rfl
        exact ⟨rfl, List.forall_mem_nil _, .nil, List.forall_mem_nil _⟩
      · exact And.left
  | cons member members ih =>
    obtain ⟨key, outline⟩ := member
    have hparts : Outline.parts ((key, outline) :: members) closed =
        .ok (key, outline) :: Outline.parts members closed := rfl
    rw [hparts, collect_cons_iff]
    simp only [ih, Outline.memberValues?_cons_iff]
    constructor
    · rintro ⟨s, others, hmember, hvalue, hseen, ⟨hclosed, hvalues, hproper, hfresh⟩, rfl⟩
      have hkey : s.member.key = key := by rw [hmember, Member.key_ofKey]
      refine ⟨hclosed, ⟨s.value, _, hvalue, hvalues, ?_⟩,
        List.forall_mem_cons.mpr ⟨?_, hproper⟩, isFresh_cons_iff.mpr ⟨hseen, hfresh⟩⟩
      · rw [List.map_cons, Setting.entry, hkey]
      · rw [Setting.IsProper, hkey, hmember]
    · rintro ⟨hclosed, ⟨v, found, hvalue, hvalues, hentries⟩, hproper, hfresh⟩
      obtain ⟨s, others, rfl, hs, rfl⟩ := List.map_eq_cons_iff.mp hentries
      cases hs
      obtain ⟨hfirst, hrest⟩ := List.forall_mem_cons.mp hproper
      obtain ⟨hseen, hfresh⟩ := isFresh_cons_iff.mp hfresh
      exact ⟨s, others, hfirst.symm, hvalue, hseen, ⟨hclosed, hvalues, hrest, hfresh⟩, rfl⟩

/-! ## Containers of members -/

variable {t : Table Json} {c c' : RawContainer}

/-- Members describe a container: its known members are found among them, those that may be missing
maybe as null, and it keeps all other members. -/
structure Describes (t : Table Json) (c : RawContainer) : Prop where
  /-- The name is there. -/
  name : t.find? "Name" = some (.string c.name)
  /-- All its names are there, or null or nothing. -/
  names : (t.find? "Names").getD .null = orNull .string c.names
  /-- Its labels are there, or null or nothing. -/
  labels : (t.find? "Labels").getD .null = orNull .string c.labels
  /-- Its networks are there, or null or nothing. -/
  networks : (t.find? "Networks").getD .null = orNull .string c.networks
  /-- Its published ports are there, or null or nothing. -/
  publishers : (t.find? "Publishers").getD .null = orNull .array c.publishers
  /-- The other members are kept. -/
  extra : c.extra = t.filter fun member => member.1 ∉ knownKeys

/-- Different texts or lists, or none, are different values. -/
theorem orNull_inj {α : Type} {write : α → Json} (hwrite : ∀ a b, write a = write b → a = b)
    (hnull : ∀ a, write a ≠ .null) {o o' : Option α} (heq : orNull write o = orNull write o') :
    o = o' := by
  cases o with
  | none =>
    cases o' with
    | none => rfl
    | some b => exact absurd heq.symm (hnull b)
  | some a =>
    cases o' with
    | none => exact absurd heq (hnull a)
    | some b => rw [hwrite a b heq]

/-- Members describe one container at most. -/
theorem Describes.unique (hdescribes : Describes t c) (hdescribes' : Describes t c') : c = c' := by
  have htext {o o' : Option String} (heq : orNull .string o = orNull .string o') : o = o' :=
    orNull_inj (fun _ _ => Json.string.inj) (by simp) heq
  have hlist {o o' : Option (List Json)} (heq : orNull .array o = orNull .array o') : o = o' :=
    orNull_inj (fun _ _ => Json.array.inj) (by simp) heq
  obtain ⟨name, names, labels, networks, publishers, extra⟩ := c
  obtain rfl : name = c'.name :=
    Json.string.inj (Option.some.inj (hdescribes.name.symm.trans hdescribes'.name))
  obtain rfl : names = c'.names := htext (hdescribes.names.symm.trans hdescribes'.names)
  obtain rfl : labels = c'.labels := htext (hdescribes.labels.symm.trans hdescribes'.labels)
  obtain rfl : networks = c'.networks := htext (hdescribes.networks.symm.trans hdescribes'.networks)
  obtain rfl : publishers = c'.publishers :=
    hlist (hdescribes.publishers.symm.trans hdescribes'.publishers)
  obtain rfl : extra = c'.extra := hdescribes.extra.trans hdescribes'.extra.symm
  rfl

/-- A setting for another member does not have a known key. -/
theorem isProper_extra_iff {key : String} {v : Json} :
    (Setting.extra key v).IsProper ↔ key ∉ knownKeys := by
  constructor
  · intro hproper hknown
    have hsome : (Member.extra key).known? = some key := by
      rw [← show Member.ofKey key = .extra key from hproper, Member.known?_ofKey, if_pos hknown]
    cases hsome
  · intro hunknown
    simp only [knownKeys, optionalKeys, List.mem_cons, List.not_mem_nil, or_false, not_or]
      at hunknown
    obtain ⟨hname, hnames, hlabels, hnetworks, hpublishers⟩ := hunknown
    change Member.ofKey key = .extra key
    rw [Member.ofKey, if_neg hname, if_neg hnames, if_neg hlabels, if_neg hnetworks,
      if_neg hpublishers]

/-- What is found under the key of a known member is the value of the first setting for it. -/
theorem find?_map_entry {α : Type} {pick : Setting → Option α} {write : α → Json}
    (hproper : ∀ s ∈ settings, s.IsProper) (hknown : m.known? ≠ none)
    (hpick : ∀ s : Setting, (pick s).map write = if s.member = m then some s.value else none) :
    Entries.find? m.key (settings.map Setting.entry) = (settings.findSome? pick).map write := by
  induction settings with
  | nil => rfl
  | cons s settings ih =>
    obtain ⟨hs, hrest⟩ := List.forall_mem_cons.mp hproper
    have hkey : m.key = s.member.key ↔ s.member = m :=
      ⟨fun heq => hs.symm.trans (heq ▸ Member.ofKey_key hknown),
        fun heq => congrArg Member.key heq.symm⟩
    have hfirst := hpick s
    rw [List.map_cons, Setting.entry, Entries.find?, List.findSome?_cons, ih hrest]
    simp only [hkey]
    split_ifs at hfirst ⊢
    · obtain ⟨a, ha, hvalue⟩ := Option.map_eq_some_iff.mp hfirst
      rw [ha, ← hvalue]
      rfl
    · rw [Option.map_eq_none_iff.mp hfirst]

/-- The settings for other members are those without a known key. -/
theorem filterMap_extra {pick : Setting → Option (String × Json)}
    (hproper : ∀ s ∈ settings, s.IsProper)
    (hpick : ∀ s : Setting, pick s = if s.member.known? = none then some s.entry else none) :
    settings.filterMap pick =
      (settings.map Setting.entry).filter fun member => member.1 ∉ knownKeys := by
  induction settings with
  | nil => rfl
  | cons s settings ih =>
    obtain ⟨hs, hrest⟩ := List.forall_mem_cons.mp hproper
    have hknown : s.member.known? = none ↔ s.entry.1 ∉ knownKeys := by
      rw [← show Member.ofKey s.entry.1 = s.member from hs, Member.known?_ofKey]
      split <;> simp_all
    rw [List.map_cons, List.filter_cons, List.filterMap_cons, ← ih hrest, hpick]
    by_cases hmember : s.member.known? = none
    · rw [if_pos hmember, if_pos (decide_eq_true (hknown.mp hmember))]
    · rw [if_neg hmember, if_neg (by simpa using mt hknown.mpr hmember)]

/-- Under the key of a known member no value is found but that of its only setting. -/
theorem find?_ofList_entries {α : Type} {pick : Setting → Option α} {write : α → Json}
    (hproper : ∀ s ∈ settings, s.IsProper) (hfresh : IsFresh [] settings)
    (hknown : m.known? ≠ none)
    (hpick : ∀ s : Setting, (pick s).map write = if s.member = m then some s.value else none) :
    (Table.ofList (settings.map Setting.entry)).find? m.key =
      (settings.findSome? pick).map write := by
  rw [Table.find?_ofList, ← find?_map_entry hproper hknown hpick]
  refine Entries.find?_reverse (List.pairwise_map.mpr ?_)
  refine hfresh.1.imp_of_mem fun {a b} ha hb honce hkey hkey' => hknown ?_
  have hmember : ∀ s ∈ settings, s.entry.1 = m.key → s.member = m := fun s hs hentry =>
    (hproper s hs).symm.trans ((congrArg Member.ofKey hentry).trans (Member.ofKey_key hknown))
  rw [← hmember a ha hkey]
  exact honce ((hmember a ha hkey).trans (hmember b hb hkey').symm)

/-- A member that may be null is found as null if it is missing. -/
theorem getD_find?_ofList_entries {α : Type} {pick : Setting → Option (Option α)}
    {write : α → Json} (hproper : ∀ s ∈ settings, s.IsProper) (hfresh : IsFresh [] settings)
    (hknown : m.known? ≠ none)
    (hpick : ∀ s : Setting,
      (pick s).map (orNull write) = if s.member = m then some s.value else none) :
    ((Table.ofList (settings.map Setting.entry)).find? m.key).getD .null =
      orNull write (settings.findSome? pick).join := by
  rw [find?_ofList_entries hproper hfresh hknown hpick]
  cases settings.findSome? pick <;> rfl

/-- A container that is put together is described by its members. -/
theorem describes_of_assemble (hproper : ∀ s ∈ settings, s.IsProper)
    (hfresh : IsFresh [] settings) (hok : assemble settings = .ok c) :
    Describes (.ofList (settings.map Setting.entry)) c := by
  unfold assemble at hok
  split at hok
  · cases hok
  · next name hname =>
    cases hok
    -- What is picked for a known member is decided by the constructor of a setting.
    refine ⟨?_, ?_, ?_, ?_, ?_, ?_⟩
    · exact (find?_ofList_entries (m := .name) hproper hfresh (Option.some_ne_none _)
        (by rintro (_ | _ | _ | _ | _ | _) <;> rfl)).trans (congrArg (Option.map Json.string) hname)
    · exact getD_find?_ofList_entries (m := .names) hproper hfresh (Option.some_ne_none _)
        (by rintro (_ | _ | _ | _ | _ | _) <;> rfl)
    · exact getD_find?_ofList_entries (m := .labels) hproper hfresh (Option.some_ne_none _)
        (by rintro (_ | _ | _ | _ | _ | _) <;> rfl)
    · exact getD_find?_ofList_entries (m := .networks) hproper hfresh (Option.some_ne_none _)
        (by rintro (_ | _ | _ | _ | _ | _) <;> rfl)
    · exact getD_find?_ofList_entries (m := .publishers) hproper hfresh (Option.some_ne_none _)
        (by rintro (_ | _ | _ | _ | _ | _) <;> rfl)
    · exact (congrArg Table.ofList (filterMap_extra hproper
        (by rintro (_ | _ | _ | _ | _ | _) <;> rfl))).trans
        (Table.ofList_filter_key (fun key => decide (key ∉ knownKeys)) _)

/-- Settings are put together to the container that their members describe. -/
theorem assemble_eq_ok_iff (hproper : ∀ s ∈ settings, s.IsProper)
    (hfresh : IsFresh [] settings) :
    assemble settings = .ok c ↔ Describes (.ofList (settings.map Setting.entry)) c := by
  refine ⟨describes_of_assemble hproper hfresh, fun hdescribes => ?_⟩
  obtain ⟨found, hfound⟩ : ∃ found, assemble settings = .ok found := by
    unfold assemble
    split
    · next hnone =>
      have habsent := (find?_ofList_entries (m := .name) hproper hfresh (Option.some_ne_none _)
        (by rintro (_ | _ | _ | _ | _ | _) <;> rfl)).trans (congrArg (Option.map Json.string) hnone)
      cases habsent.symm.trans hdescribes.name
    · exact ⟨_, rfl⟩
  rw [hfound, (describes_of_assemble hproper hfresh hfound).unique hdescribes]

/-! ## Containers of objects -/

/-- A container is read of an object that describes it. -/
theorem exists_describes_of_read (hread : read outline = .ok c) :
    ∃ t : Table Json, outline.value? = some (.ofTable t) ∧ Describes t c := by
  unfold read at hread
  split at hread
  · next members closed =>
    split at hread
    · cases hread
    · next settings hcollect =>
      obtain ⟨rfl, hvalues, hproper, hfresh⟩ := collect_eq_ok_iff.mp hcollect
      exact ⟨.ofList (settings.map Setting.entry),
        Outline.value?_eq_object_iff.mpr ⟨members, _, rfl, hvalues, rfl⟩,
        (assemble_eq_ok_iff hproper hfresh).mp (mapError_eq_ok_iff.mp hread)⟩
  · cases hread

/-- Every member that describes a container can be set. -/
theorem Describes.exists_setting (hdescribes : Describes t c) {key : String} {v : Json}
    (hfind : t.find? key = some v) : ∃ s : Setting, s.IsProper ∧ s.entry = (key, v) := by
  by_cases hknown : key ∈ knownKeys
  · simp only [knownKeys, optionalKeys, List.mem_cons, List.not_mem_nil, or_false] at hknown
    rcases hknown with rfl | rfl | rfl | rfl | rfl
    · cases hfind.symm.trans hdescribes.name
      exact ⟨.name c.name, rfl, rfl⟩
    · have hv := hdescribes.names
      rw [hfind, Option.getD_some] at hv
      exact ⟨.names c.names, rfl, hv ▸ rfl⟩
    · have hv := hdescribes.labels
      rw [hfind, Option.getD_some] at hv
      exact ⟨.labels c.labels, rfl, hv ▸ rfl⟩
    · have hv := hdescribes.networks
      rw [hfind, Option.getD_some] at hv
      exact ⟨.networks c.networks, rfl, hv ▸ rfl⟩
    · have hv := hdescribes.publishers
      rw [hfind, Option.getD_some] at hv
      exact ⟨.publishers c.publishers, rfl, hv ▸ rfl⟩
  · exact ⟨.extra key v, isProper_extra_iff.mpr hknown, rfl⟩

/-- Members that can be set one by one can be set together. -/
theorem exists_settings {found : List (String × Json)}
    (hset : ∀ member ∈ found, ∃ s : Setting, s.IsProper ∧ s.entry = member) :
    ∃ settings : List Setting, (∀ s ∈ settings, s.IsProper) ∧
      settings.map Setting.entry = found := by
  induction found with
  | nil => exact ⟨[], List.forall_mem_nil _, rfl⟩
  | cons member found ih =>
    obtain ⟨⟨s, hs, rfl⟩, hrest⟩ := List.forall_mem_cons.mp hset
    obtain ⟨settings, hproper, rfl⟩ := ih hrest
    exact ⟨s :: settings, List.forall_mem_cons.mpr ⟨hs, hproper⟩, rfl⟩

/-- Settings for members with different keys are fresh. -/
theorem isFresh_of_nodup (hkeys : ((settings.map Setting.entry).map (·.1)).Nodup) :
    IsFresh [] settings := by
  rw [List.map_map] at hkeys
  exact ⟨(List.pairwise_map.mp hkeys).imp fun hne heq => absurd (congrArg Member.key heq) hne,
    fun _ _ hmem => absurd hmem List.not_mem_nil⟩

/-- A container is read of every object that describes it, as long as no member comes twice in the
text. -/
theorem read_of_describes (hvalue : outline.value? = some (.ofTable t))
    (hdescribes : Describes t c) (hkeys : outline.keys.Nodup) : read outline = .ok c := by
  obtain ⟨members, found, rfl, hvalues, hsorted⟩ := Outline.value?_eq_object_iff.mp hvalue
  have hfound : (found.map (·.1)).Nodup := by
    rwa [Outline.map_fst_memberValues? hvalues]
  obtain rfl : Table.ofList found = t :=
    Table.ext_find? fun key => congrArg (Entries.find? key) hsorted
  have hset : ∀ member ∈ found, ∃ s : Setting, s.IsProper ∧ s.entry = member := by
    intro member hmember
    refine hdescribes.exists_setting ?_
    rw [Table.find?_ofList, Entries.find?_reverse_of_nodup hfound]
    exact (Entries.find?_eq_some_iff hfound).mpr hmember
  -- The container comes from the settings: which ones they are is left open by the description.
  obtain ⟨settings, hproper, rfl⟩ := exists_settings hset
  have hfresh : IsFresh [] settings := isFresh_of_nodup hfound
  have hcollect : collect schema Json.fault [] (Outline.parts members true) = .ok settings :=
    collect_eq_ok_iff.mpr ⟨rfl, hvalues, hproper, hfresh⟩
  simp only [read, hcollect, (assemble_eq_ok_iff hproper hfresh).mpr hdescribes]
  rfl

end ContainerOps.Project.RawContainer
