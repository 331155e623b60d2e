import ContainerOps.Proofs.Decoding.Simulation
import Mathlib.Data.List.Perm.Basic

/-!
# Entries as settings

Where no field may come twice, entries are read by their order alone: the settings are what the
values of the known entries are read as, one by one.  So it does not matter in which order the
entries stand, by which of its names a field is called, or what stands between them under unknown
keys.

Main results:

- `collect_ok_iff`: what entries are read as, without the order of the checks.
- `Schema.Yields.perm`: entries in another order give the same settings in another order.
- `Schema.Yields.insert_unknown`, `Schema.Yields.rename`: the same settings.
- `Schema.Yields.not_twice`: no field is named twice.
-/

namespace ContainerOps.Decoding

universe u

variable {α : Type u} {field setting : Type}

namespace Schema

/-! ## Known entries -/

/-- The entries whose keys stand for fields, with these fields. -/
def known (schema : Schema α field setting) (entries : List (String × α)) : List (field × α) :=
  entries.filterMap fun e => (schema.ofKey e.1).map fun f => (f, e.2)

/-- The fields that entries name. -/
def knownFields (schema : Schema α field setting) (entries : List (String × α)) : List field :=
  (schema.known entries).map Prod.fst

/-- Reading entries gives settings, if the fields in `seen` were met before.  Nothing here depends
on what is found first. -/
structure Yields (schema : Schema α field setting) (seen : List field)
    (entries : List (String × α)) (settings : List setting) : Prop where
  /-- No field is named twice. -/
  once : (schema.knownFields entries).Nodup
  /-- No field is named that was met before. -/
  fresh : ∀ f ∈ schema.knownFields entries, f ∉ seen
  /-- The values under unknown keys can be passed over. -/
  sound : ∀ e ∈ entries, schema.ofKey e.1 = none → schema.skip e.2 = .ok ()
  /-- The settings are those of the known entries. -/
  read : List.Forall₂ (fun fv s => schema.read fv.1 fv.2 = .ok s) (schema.known entries) settings

variable {schema : Schema α field setting} {seen : List field} {key : String} {value : α}
  {entries entries' before after : List (String × α)} {settings : List setting} {f : field}

theorem known_cons_unknown (value : α) (entries : List (String × α))
    (h : schema.ofKey key = none) :
    schema.known ((key, value) :: entries) = schema.known entries := by
  simp [known, h]

theorem known_cons_known (value : α) (entries : List (String × α))
    (h : schema.ofKey key = some f) :
    schema.known ((key, value) :: entries) = (f, value) :: schema.known entries := by
  simp [known, h]

@[simp]
theorem known_append :
    schema.known (before ++ after) = schema.known before ++ schema.known after := by
  simp [known]

/-- No entries give no settings. -/
theorem yields_nil_iff : schema.Yields seen [] settings ↔ settings = [] := by
  constructor
  · intro h
    exact List.forall₂_nil_left_iff.mp h.read
  · rintro rfl
    exact
      { once := .nil
        fresh := List.forall_mem_nil _
        sound := List.forall_mem_nil _
        read := .nil }

/-- An entry with an unknown key only has to be passed over. -/
theorem yields_cons_unknown_iff (h : schema.ofKey key = none) :
    schema.Yields seen ((key, value) :: entries) settings ↔
      schema.skip value = .ok () ∧ schema.Yields seen entries settings := by
  have hknown := known_cons_unknown value entries h
  constructor
  · rintro ⟨once, fresh, sound, read⟩
    rw [knownFields, hknown] at once fresh
    rw [hknown] at read
    exact ⟨sound _ (.head _) h, once, fresh, fun e he => sound e (.tail _ he), read⟩
  · rintro ⟨hskip, once, fresh, sound, read⟩
    refine ⟨?_, ?_, List.forall_mem_cons.mpr ⟨fun _ => hskip, sound⟩, ?_⟩
    · rwa [knownFields, hknown]
    · rwa [knownFields, hknown]
    · rwa [hknown]

/-- An entry with a known key is read, and its field is met for the first time. -/
theorem yields_cons_known_iff (h : schema.ofKey key = some f) :
    schema.Yields seen ((key, value) :: entries) settings ↔
      f ∉ seen ∧ ∃ s others, schema.read f value = .ok s ∧
        schema.Yields (f :: seen) entries others ∧ settings = s :: others := by
  have hknown := known_cons_known value entries h
  have hfields : schema.knownFields ((key, value) :: entries) = f :: schema.knownFields entries :=
    congrArg (List.map Prod.fst) hknown
  constructor
  · rintro ⟨once, fresh, sound, read⟩
    rw [hfields] at once fresh
    rw [hknown] at read
    obtain ⟨s, others, hs, hothers, rfl⟩ := List.forall₂_cons_left_iff.mp read
    obtain ⟨hnew, once⟩ := List.nodup_cons.mp once
    obtain ⟨hseen, fresh⟩ := List.forall_mem_cons.mp fresh
    refine ⟨hseen, s, others, hs, ⟨once, ?_, fun e he => sound e (.tail _ he), hothers⟩, rfl⟩
    intro g hg hmem
    rcases List.mem_cons.mp hmem with rfl | hmem
    · exact hnew hg
    · exact fresh g hg hmem
  · rintro ⟨hseen, s, others, hs, ⟨once, fresh, sound, read⟩, rfl⟩
    refine ⟨?_, ?_, List.forall_mem_cons.mpr ⟨fun hnone => ?_, sound⟩, ?_⟩
    · rw [hfields]
      exact List.nodup_cons.mpr ⟨fun hmem => fresh f hmem (.head _), once⟩
    · rw [hfields]
      exact List.forall_mem_cons.mpr ⟨hseen, fun g hg hmem => fresh g hg (.tail _ hmem)⟩
    · rw [h] at hnone
      cases hnone
    · rw [hknown]
      exact .cons hs read

end Schema

/-! ## Reading entries -/

/-- Items that begin with an entry that was read are the entries that begin with it. -/
theorem exists_cons_ok_iff {e : String × α} {rest : List (Except Fault (String × α))}
    {p : List (String × α) → Prop} :
    (∃ entries, .ok e :: rest = entries.map .ok ∧ p entries) ↔
      ∃ entries, rest = entries.map .ok ∧ p (e :: entries) := by
  constructor
  · rintro ⟨_ | ⟨first, entries⟩, hitems, h⟩
    · cases hitems
    · cases hitems
      exact ⟨entries, rfl, h⟩
  · rintro ⟨entries, rfl, h⟩
    exact ⟨e :: entries, rfl, h⟩

section Collect

variable [DecidableEq field] {schema : Schema α field setting}

/-- Where no field may come twice, reading succeeds on entries that can all be read, and the
settings are what the known ones give. -/
theorem collect_ok_iff (strict : ∀ f, schema.once f ≠ none) (blame : Problem → Fault)
    {seen : List field} {items : List (Except Fault (String × α))} {settings : List setting} :
    collect schema blame seen items = .ok settings ↔
      ∃ entries, items = entries.map .ok ∧ schema.Yields seen entries settings := by
  induction items generalizing seen settings with
  | nil =>
    simp only [collect, Except.ok.injEq, eq_comm (a := ([] : List (Except Fault (String × α)))),
      List.map_eq_nil_iff, exists_eq_left, Schema.yields_nil_iff, eq_comm (a := settings)]
  | cons item rest ih =>
    cases item with
    | error fault =>
      simp only [collect, reduceCtorEq, false_iff]
      rintro ⟨_ | ⟨e, entries⟩, hitems, -⟩ <;> cases hitems
    | ok e =>
      obtain ⟨key, value⟩ := e
      rw [exists_cons_ok_iff, collect]
      cases hkey : schema.ofKey key with
      | none =>
        simp only [Schema.yields_cons_unknown_iff hkey]
        cases hskip : schema.skip value with
        | error fault => simp
        | ok _ => simp [ih]
      | some f =>
        simp only [Schema.yields_cons_known_iff hkey]
        by_cases hseen : f ∈ seen
        · obtain ⟨name, hname⟩ := Option.ne_none_iff_exists'.mp (strict f)
          simp [hseen, hname]
        · cases hvalue : schema.read f value with
          | error fault => simp [hseen]
          | ok s =>
            simp only [hseen, if_false, map_eq_ok_iff, ih]
            grind

end Collect

/-! ## Changes that leave the settings -/

namespace Schema.Yields

variable {schema : Schema α field setting} {seen : List field}
  {entries entries' before after : List (String × α)} {settings : List setting}

/-- Entries in another order give the same settings in another order. -/
theorem perm (h : schema.Yields seen entries settings) (order : entries.Perm entries') :
    ∃ settings', settings.Perm settings' ∧ schema.Yields seen entries' settings' := by
  have hknown : (schema.known entries).Perm (schema.known entries') := order.filterMap _
  have hfields : (schema.knownFields entries).Perm (schema.knownFields entries') := hknown.map _
  obtain ⟨settings', hread, hsettings⟩ := List.perm_comp_forall₂ hknown.symm h.read
  exact ⟨settings', hsettings.symm,
    { once := hfields.nodup_iff.mp h.once
      fresh := fun f hf => h.fresh f (hfields.mem_iff.mpr hf)
      sound := fun e he => h.sound e (order.mem_iff.mpr he)
      read := hread }⟩

/-- The settings depend on the known entries alone, if the other values can be passed over. -/
theorem of_known_eq (h : schema.Yields seen entries settings)
    (hknown : schema.known entries' = schema.known entries)
    (sound : ∀ e ∈ entries', schema.ofKey e.1 = none → schema.skip e.2 = .ok ()) :
    schema.Yields seen entries' settings := by
  have hfields : schema.knownFields entries' = schema.knownFields entries :=
    congrArg (List.map Prod.fst) hknown
  exact
    { once := hfields ▸ h.once
      fresh := hfields ▸ h.fresh
      sound := sound
      read := hknown ▸ h.read }

/-- Under another name of its field, an entry gives the same setting. -/
theorem rename {key key' : String} {value : α}
    (h : schema.Yields seen (before ++ (key, value) :: after) settings)
    (same : schema.ofKey key' = schema.ofKey key) :
    schema.Yields seen (before ++ (key', value) :: after) settings := by
  have hsound := List.forall_mem_append.mp h.sound
  have hrest := List.forall_mem_cons.mp hsound.2
  refine h.of_known_eq ?_ ?_
  · simp [known, List.filterMap_cons, same]
  · refine List.forall_mem_append.mpr ⟨hsound.1, List.forall_mem_cons.mpr ⟨?_, hrest.2⟩⟩
    exact fun unknown => hrest.1 (same ▸ unknown)

/-- One more entry with an unknown key gives no setting. -/
theorem insert_unknown {key : String} {value : α}
    (h : schema.Yields seen (before ++ after) settings) (unknown : schema.ofKey key = none)
    (hskip : schema.skip value = .ok ()) :
    schema.Yields seen (before ++ (key, value) :: after) settings := by
  have hsound := List.forall_mem_append.mp h.sound
  refine h.of_known_eq ?_ ?_
  · rw [known_append, known_cons_unknown value after unknown, known_append]
  · refine List.forall_mem_append.mpr ⟨hsound.1, List.forall_mem_cons.mpr ⟨?_, hsound.2⟩⟩
    exact fun _ => hskip

/-- Related values give the same settings. -/
theorem related [DecidableEq field] (strict : ∀ f, schema.once f ≠ none) {R : α → α → Prop}
    (hschema : schema.Respects R) (h : schema.Yields seen entries settings)
    (values : List.Forall₂ (SameKey R) entries entries') :
    schema.Yields seen entries' settings := by
  let blame (problem : Problem) : Fault := .data problem []
  have hitems : List.Forall₂ (Refines (SameKey R))
      (entries.map Except.ok : List (Except Fault (String × α)))
      (entries'.map Except.ok : List (Except Fault (String × α))) := by
    rw [List.forall₂_map_left_iff, List.forall₂_map_right_iff]
    exact values.imp fun _ _ he => refines_ok_ok.mpr he
  have hcollect : collect schema blame seen (entries.map .ok) = .ok settings :=
    (collect_ok_iff strict blame).mpr ⟨entries, rfl, h⟩
  have hcollect' : collect schema blame seen (entries'.map .ok) = .ok settings :=
    refines_eq_iff.mp (refines_collect hschema blame blame hitems seen) settings hcollect
  obtain ⟨found, hfound, hyields⟩ := (collect_ok_iff strict blame).mp hcollect'
  have hsame : entries' = found := List.map_injective_iff.mpr (fun _ _ => Except.ok.inj) hfound
  exact hsame ▸ hyields

/-- A field is named once, by whichever of its names. -/
theorem not_twice {key key' : String} {value value' : α} {between : List (String × α)} {f : field}
    (hkey : schema.ofKey key = some f) (hkey' : schema.ofKey key' = some f) :
    ¬ schema.Yields seen (before ++ (key, value) :: between ++ (key', value') :: after)
      settings := by
  intro h
  have honce := h.once
  simp [knownFields, known_cons_known _ _ hkey, known_cons_known _ _ hkey', List.nodup_append]
    at honce

end Schema.Yields

end ContainerOps.Decoding
