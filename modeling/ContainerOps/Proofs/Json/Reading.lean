import ContainerOps.Json.Reader
import ContainerOps.Proofs.Decoding.Success
import ContainerOps.Proofs.Json.Value
import ContainerOps.Proofs.Table.Listed

/-!
# Reading values out of texts

A reader that succeeds has found a text whose value has the right kind.  For texts, lists and whole
values this is said here by the value alone: how the text is laid out plays no part.  A value that
is written out in full has that value again.

Main results:

- `Outline.value?_eq_array_iff` and `Outline.value?_eq_object_iff`: what has a value of a kind.
- `readItems_parts_iff`: a list is read if it is closed and every item is read.
- `Outline.value?_ofJson`: an ordered value that is written out in full has that value.
-/

namespace ContainerOps.Json

open ContainerOps.Decoding

namespace Outline

variable {o : Outline}

/-! ## Kinds of value -/

/-- Only an outline of nothing has that value. -/
theorem value?_eq_null_iff : o.value? = some .null ↔ o = .null := by
  cases o <;> simp [value?, ofMembers]

/-- Only the outline of a text has it as its value. -/
theorem value?_eq_string_iff {s : String} : o.value? = some (.string s) ↔ o = .string s := by
  cases o <;> simp [value?, ofMembers]

/-- The value is a list if the outline is a closed one whose items have the values. -/
theorem value?_eq_array_iff {vs : List Json} :
    o.value? = some (.array vs) ↔ ∃ items, o = .array items true ∧ values? items = some vs := by
  cases o with
  | array items closed => cases closed <;> simp [value?]
  | object members closed => cases closed <;> simp [value?, ofMembers]
  | _ => simp [value?]

/-- The value is an object if the outline is a closed one whose members have values; of two with one
key the later counts. -/
theorem value?_eq_object_iff {vs : List (String × Json)} :
    o.value? = some (.object vs) ↔ ∃ members found, o = .object members true ∧
      memberValues? members = some found ∧ Entries.sorted found = vs := by
  cases o with
  | array items closed => cases closed <;> simp [value?]
  | object members closed => cases closed <;> simp [value?, ofMembers]
  | _ => simp [value?]

/-- The values of members are those of the first and of the others. -/
theorem memberValues?_cons_iff {key : String} {rest : List (String × Outline)}
    {vs : List (String × Json)} :
    memberValues? ((key, o) :: rest) = some vs ↔
      ∃ v found, o.value? = some v ∧ memberValues? rest = some found ∧ vs = (key, v) :: found := by
  rw [memberValues?]
  cases o.value? <;> cases memberValues? rest <;> simp [eq_comm]

/-- The values of items are those of the first and of the others. -/
theorem values?_cons_iff {rest : List Outline} {vs : List Json} :
    values? (o :: rest) = some vs ↔
      ∃ v found, o.value? = some v ∧ values? rest = some found ∧ vs = v :: found := by
  rw [values?]
  cases o.value? <;> cases values? rest <;> simp [eq_comm]

/-- The values of members are under the keys of the members. -/
theorem map_fst_memberValues? {members : List (String × Outline)} {vs : List (String × Json)}
    (hvalues : memberValues? members = some vs) : vs.map (·.1) = members.map (·.1) := by
  induction members generalizing vs with
  | nil =>
    cases hvalues
    rfl
  | cons member members ih =>
    obtain ⟨v, found, -, hfound, rfl⟩ := memberValues?_cons_iff.mp hvalues
    rw [List.map_cons, List.map_cons, ih hfound]

/-! ## Successful readers -/

/-- A text is read only of the outline of a text. -/
theorem text_eq_ok_iff {s : String} : o.text = .ok s ↔ o.value? = some (.string s) := by
  rw [value?_eq_string_iff]
  cases o <;> simp [text]

/-- A value is read only of an outline that has it. -/
theorem complete_eq_ok_iff {v : Json} : o.complete = .ok v ↔ o.value? = some v := by
  unfold complete
  cases o.value? <;> simp

/-- Items are read if nothing breaks off behind them and each of them is read. -/
theorem readItems_parts_iff {α : Type} {read : Outline → Except Fault α} {items : List Outline}
    {closed : Bool} {found : List α} :
    readItems read (parts items closed) = .ok found ↔
      closed = true ∧ List.Forall₂ (fun item a => read item = .ok a) items found := by
  induction items generalizing found with
  | nil => cases closed <;> simp [parts, readItems, eq_comm]
  | cons item items ih =>
    have hparts : parts (item :: items) closed = .ok item :: parts items closed := rfl
    rw [hparts, readItems]
    cases hitem : read item with
    | error fault =>
      simp only [reduceCtorEq, false_iff, not_and]
      rintro - hall
      cases hall with
      | cons hfirst _ =>
        rw [hitem] at hfirst
        cases hfirst
    | ok a =>
      simp only [map_eq_ok_iff, ih]
      constructor
      · rintro ⟨rest, ⟨hclosed, hrest⟩, rfl⟩
        exact ⟨hclosed, .cons hitem hrest⟩
      · rintro ⟨hclosed, hall⟩
        cases hall with
        | cons hfirst hrest =>
          rw [hitem] at hfirst
          cases hfirst
          exact ⟨_, ⟨hclosed, hrest⟩, rfl⟩

/-- Items have values if each of them is read as its value. -/
theorem values?_eq_some_iff {items : List Outline} {vs : List Json} :
    values? items = some vs ↔ List.Forall₂ (fun item v => item.value? = some v) items vs := by
  induction items generalizing vs with
  | nil => simp [values?, eq_comm]
  | cons item items ih =>
    simp only [values?_cons_iff, ih, List.forall₂_cons_left_iff]

/-! ## Values written out in full -/

mutual

/-- The outline of a text of a value, with the members of an object once each and in their order. -/
def ofJson : Json → Outline
  | .null => .null
  | .bool b => .bool b
  | .number n => .number n
  | .string s => .string s
  | .array items => .array (ofItems items) true
  | .object members => .object (ofObject members) true

/-- The outlines of some items. -/
def ofItems : List Json → List Outline
  | [] => []
  | v :: rest => ofJson v :: ofItems rest

/-- The outlines of some members. -/
def ofObject : List (String × Json) → List (String × Outline)
  | [] => []
  | (key, v) :: rest => (key, ofJson v) :: ofObject rest

end

/-- The keys of an object in the order of the text. -/
def keys : Outline → List String
  | .object members _ => members.map (·.1)
  | _ => []

/-- The keys of an object that is written out in full. -/
theorem keys_ofJson (members : List (String × Json)) :
    (ofJson (.object members)).keys = members.map (·.1) := by
  rw [ofJson, keys]
  induction members with
  | nil => rfl
  | cons member members ih => rw [ofObject, List.map_cons, List.map_cons, ih]

mutual

/-- An ordered value that is written out in full has that value. -/
theorem value?_ofJson : ∀ (v : Json), v.Ordered → (ofJson v).value? = some v
  | .null, _ => rfl
  | .bool _, _ => rfl
  | .number _, _ => rfl
  | .string _, _ => rfl
  | .array items, h => by
    have hitems : ∀ item ∈ items, item.Ordered := by
      cases h with
      | array hitems => exact hitems
    exact value?_eq_array_iff.mpr ⟨_, rfl, values?_ofItems items hitems⟩
  | .object members, h =>
    value?_eq_object_iff.mpr ⟨_, members, rfl, memberValues?_ofObject members h.of_mem,
      congrArg Table.entries (Table.ofList_of_perm (t := ⟨members, h.ascending⟩) (.refl _))⟩

/-- So have items. -/
theorem values?_ofItems : ∀ (items : List Json), (∀ item ∈ items, item.Ordered) →
    values? (ofItems items) = some items
  | [], _ => rfl
  | v :: rest, h => by
    obtain ⟨hv, hrest⟩ := List.forall_mem_cons.mp h
    exact values?_cons_iff.mpr ⟨v, rest, value?_ofJson v hv, values?_ofItems rest hrest, rfl⟩

/-- So have members. -/
theorem memberValues?_ofObject : ∀ (members : List (String × Json)),
    (∀ member ∈ members, member.2.Ordered) → memberValues? (ofObject members) = some members
  | [], _ => rfl
  | (key, v) :: rest, h => by
    obtain ⟨hv, hrest⟩ := List.forall_mem_cons.mp h
    exact memberValues?_cons_iff.mpr
      ⟨v, rest, value?_ofJson v hv, memberValues?_ofObject rest hrest, rfl⟩

end

end Outline

end ContainerOps.Json
