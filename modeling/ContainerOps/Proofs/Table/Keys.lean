import ContainerOps.Table

/-!
# Keys and changes of tables

A key of a table is one that has a value.  Changing the value under a key adds the key if it is new
and leaves all others alone.

Main results:

- `Table.mem_keys_iff`: the keys are those that have a value.
- `Table.find?_alter` and `Table.mem_keys_alter`: what a change at one key does.
- `Table.eq_of_mem_keys_iff`: a table without values is known by its keys.
-/

namespace ContainerOps

universe u

variable {α : Type u}

/-- The keys of some entries are those that have a value. -/
theorem Entries.mem_map_fst_iff {k : String} {entries : List (String × α)} :
    k ∈ entries.map (·.1) ↔ ∃ x, find? k entries = some x := by
  induction entries with
  | nil => simp [find?]
  | cons entry rest ih =>
    obtain ⟨k', x'⟩ := entry
    by_cases hk : k = k'
    · simp [find?, hk]
    · rw [find?, if_neg hk, ← ih, List.map_cons, List.mem_cons]
      exact or_iff_right hk

namespace Table

/-- The keys of a table are those that have a value. -/
theorem mem_keys_iff {t : Table α} {k : String} : k ∈ t.keys ↔ ∃ x, t.find? k = some x :=
  Entries.mem_map_fst_iff

/-- What is found after an insertion. -/
theorem find?_insert (t : Table α) (k k' : String) (x : α) :
    (t.insert k x).find? k' = if k' = k then some x else t.find? k' := by
  split
  · rename_i heq
    rw [heq, find?_insert_self]
  · rename_i hne
    exact find?_insert_of_ne t hne x

/-- An insertion adds its key. -/
theorem mem_keys_insert {t : Table α} {k k' : String} {x : α} :
    k' ∈ (t.insert k x).keys ↔ k' = k ∨ k' ∈ t.keys := by
  rw [mem_keys_iff, mem_keys_iff, find?_insert]
  by_cases heq : k' = k <;> simp [heq]

/-- What is found after a change at one key. -/
theorem find?_alter (t : Table α) (k k' : String) (default : α) (change : α → α) :
    (t.alter k default change).find? k' =
      if k' = k then some (change ((t.find? k).getD default)) else t.find? k' :=
  find?_insert t k k' _

/-- A change adds the key that it is made at. -/
theorem mem_keys_alter {t : Table α} {k k' : String} {default : α} {change : α → α} :
    k' ∈ (t.alter k default change).keys ↔ k' = k ∨ k' ∈ t.keys :=
  mem_keys_insert

/-- What is found under a key of two tables is equal if the key is in both or in neither, and the
values agree. -/
theorem find?_eq_of_getD_eq {s t : Table α} {k : String} (default : α)
    (hkeys : k ∈ s.keys ↔ k ∈ t.keys)
    (hvalues : (s.find? k).getD default = (t.find? k).getD default) : s.find? k = t.find? k := by
  rw [mem_keys_iff, mem_keys_iff] at hkeys
  cases hs : s.find? k <;> cases ht : t.find? k <;> simp_all

/-- Tables of keys alone are equal if they have the same keys. -/
theorem eq_of_mem_keys_iff {s t : Table Unit} (hkeys : ∀ k, k ∈ s.keys ↔ k ∈ t.keys) : s = t :=
  ext_find? fun k => find?_eq_of_getD_eq () (hkeys k) rfl

end Table

end ContainerOps
