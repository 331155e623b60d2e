import ContainerOps.Proofs.Table.Keys
import Mathlib.Data.List.Induction
import Mathlib.Data.List.Nodup

/-!
# Tables of listed entries

A table made of a list of entries holds the last entry of every key.  Where no key comes twice the
order of the list plays no part, and entries that are left out by their key are missing from the
table and nothing else is.

Main results:

- `Entries.find?_sorted`: a sorted list has the last entry of a key.
- `Table.ofList_of_perm`: a table is made of its entries, in any order.
- `Table.find?_filter`: what is found in a table without some of its entries.
-/

namespace ContainerOps

universe u

variable {α : Type u} {k : String} {x : α}

namespace Entries

variable {entries : List (String × α)}

/-! ## Finding -/

/-- What is found in two lists is found in the first, or else in the second. -/
theorem find?_append (k : String) (before after : List (String × α)) :
    find? k (before ++ after) = (find? k before).or (find? k after) := by
  induction before with
  | nil => rfl
  | cons entry before ih =>
    rw [List.cons_append, find?, find?]
    split
    · rfl
    · exact ih

/-- Nothing is found under a key that no entry has. -/
theorem find?_eq_none_iff : find? k entries = none ↔ ∀ entry ∈ entries, entry.1 ≠ k := by
  rw [← not_iff_not, ← ne_eq, Option.ne_none_iff_exists', ← mem_map_fst_iff, List.mem_map]
  simp

/-- A sorted list has the last entry of a key. -/
theorem find?_sorted (k : String) (entries : List (String × α)) :
    find? k (sorted entries) = find? k entries.reverse := by
  induction entries using List.reverseRecOn with
  | nil => rfl
  | append_singleton entries entry ih =>
    rw [sorted, List.foldl_concat, ← sorted, List.reverse_concat, find?]
    split
    · next heq => rw [heq, find?_insert_self]
    · next hne => rw [find?_insert_of_ne hne, ih]

/-- Where a key does not come twice, its first entry is its last. -/
theorem find?_reverse (honce : entries.Pairwise fun a b => a.1 = k → b.1 ≠ k) :
    find? k entries.reverse = find? k entries := by
  induction entries with
  | nil => rfl
  | cons entry entries ih =>
    obtain ⟨hfirst, hrest⟩ := List.pairwise_cons.mp honce
    rw [List.reverse_cons, find?_append, ih hrest]
    by_cases heq : entry.1 = k
    · rw [find?_eq_none_iff.mpr fun other hother => hfirst other hother heq, Option.none_or]
      simp [find?, heq]
    · simp [find?, Ne.symm heq]

/-- What is found is the first entry of a key. -/
theorem find?_eq_some_iff_append :
    find? k entries = some x ↔ ∃ before after, entries = before ++ (k, x) :: after ∧
      ∀ entry ∈ before, entry.1 ≠ k := by
  constructor
  · intro hfind
    induction entries with
    | nil => cases hfind
    | cons entry entries ih =>
      rw [find?] at hfind
      split at hfind
      · next heq =>
        cases hfind
        exact ⟨[], entries, by rw [heq]; rfl, List.forall_mem_nil _⟩
      · next hne =>
        obtain ⟨before, after, rfl, hbefore⟩ := ih hfind
        exact ⟨entry :: before, after, rfl, List.forall_mem_cons.mpr ⟨Ne.symm hne, hbefore⟩⟩
  · rintro ⟨before, after, rfl, hbefore⟩
    rw [find?_append, find?_eq_none_iff.mpr hbefore, Option.none_or, find?, if_pos rfl]

/-- A value found under a key is that of an entry. -/
theorem mem_of_find? (hfind : find? k entries = some x) : (k, x) ∈ entries := by
  obtain ⟨before, after, rfl, -⟩ := find?_eq_some_iff_append.mp hfind
  exact List.mem_append_right before List.mem_cons_self

/-- Where no key comes twice, the first entry of each is its last. -/
theorem find?_reverse_of_nodup (hkeys : (entries.map (·.1)).Nodup) (k : String) :
    find? k entries.reverse = find? k entries :=
  find?_reverse ((List.pairwise_map.mp hkeys).imp fun hne h h' => hne (h.trans h'.symm))

/-- Where no key comes twice, every entry is found. -/
theorem find?_eq_some_iff (hkeys : (entries.map (·.1)).Nodup) :
    find? k entries = some x ↔ (k, x) ∈ entries := by
  induction entries with
  | nil => simp [find?]
  | cons entry entries ih =>
    obtain ⟨hfirst, hrest⟩ := List.nodup_cons.mp hkeys
    rw [find?]
    split
    · next heq =>
      have hnot : (k, x) ∉ entries := by
        intro hmem
        exact hfirst (List.mem_map.mpr ⟨(k, x), hmem, heq⟩)
      simp only [List.mem_cons, hnot, or_false, Option.some.injEq]
      exact ⟨fun h => Prod.ext heq h.symm, fun h => (congrArg Prod.snd h).symm⟩
    · next hne =>
      rw [ih hrest, List.mem_cons]
      exact (or_iff_right fun h => hne (congrArg Prod.fst h)).symm

/-- What is found among the entries with certain keys. -/
theorem find?_filter_key (keep : String → Bool) (k : String) (entries : List (String × α)) :
    find? k (entries.filter fun entry => keep entry.1) =
      if keep k then find? k entries else none := by
  induction entries with
  | nil => simp [find?]
  | cons entry entries ih =>
    rw [List.filter_cons, find?]
    by_cases hk : k = entry.1
    · subst hk
      by_cases hkeep : keep entry.1 <;> simp [hkeep, find?, ih]
    · by_cases hkeep : keep entry.1 <;> simp [hkeep, hk, find?, ih]

/-- Ascending keys are all different. -/
theorem Ascending.nodup_keys (hascending : Ascending entries) : (entries.map (·.1)).Nodup := by
  refine List.pairwise_map.mpr (hascending.imp fun {a b} hlt heq => ?_)
  rw [heq] at hlt
  exact String.lt_irrefl b.1 hlt

/-- Sorting adds no entries. -/
theorem mem_of_mem_sorted {entry : String × α} (hmem : entry ∈ sorted entries) :
    entry ∈ entries := by
  have hfind : find? entry.1 (sorted entries) = some entry.2 :=
    (find?_eq_some_iff (ascending_sorted entries).nodup_keys).mpr hmem
  rw [find?_sorted] at hfind
  exact List.mem_reverse.mp (mem_of_find? hfind)

end Entries

namespace Table

/-! ## Tables -/

/-- A table of listed entries has the last entry of a key. -/
theorem find?_ofList (k : String) (entries : List (String × α)) :
    (ofList entries).find? k = Entries.find? k entries.reverse :=
  Entries.find?_sorted k entries

/-- What is found in a table of listed entries is the last entry of a key. -/
theorem find?_ofList_eq_some_iff {entries : List (String × α)} :
    (ofList entries).find? k = some x ↔ ∃ before after, entries = before ++ (k, x) :: after ∧
      ∀ entry ∈ after, entry.1 ≠ k := by
  rw [find?_ofList, Entries.find?_eq_some_iff_append]
  constructor
  · rintro ⟨after, before, heq, hafter⟩
    refine ⟨before.reverse, after.reverse, ?_, fun entry hentry => ?_⟩
    · rw [← List.reverse_reverse entries, heq]
      simp
    · exact hafter entry (List.mem_reverse.mp hentry)
  · rintro ⟨before, after, rfl, hafter⟩
    refine ⟨after.reverse, before.reverse, by simp, fun entry hentry => ?_⟩
    exact hafter entry (List.mem_reverse.mp hentry)

/-- The keys of a table of listed entries are those of the entries. -/
theorem mem_keys_ofList {entries : List (String × α)} :
    k ∈ (ofList entries).keys ↔ k ∈ entries.map (·.1) := by
  rw [mem_keys_iff, find?_ofList, ← Entries.mem_map_fst_iff, List.map_reverse, List.mem_reverse]

/-- An entry of a table is found under its key. -/
theorem find?_eq_some_iff {t : Table α} : t.find? k = some x ↔ (k, x) ∈ t.entries :=
  Entries.find?_eq_some_iff t.ascending.nodup_keys

/-- A table is made of its entries, in any order. -/
theorem ofList_of_perm {t : Table α} {entries : List (String × α)}
    (hperm : entries.Perm t.entries) : ofList entries = t := by
  have hreverse : entries.reverse.Perm t.entries := (List.reverse_perm entries).trans hperm
  have hkeys : (entries.reverse.map (·.1)).Nodup :=
    (hreverse.map (·.1)).nodup_iff.mpr t.ascending.nodup_keys
  refine ext_find? fun k => Option.ext fun x => ?_
  rw [find?_ofList, Entries.find?_eq_some_iff hkeys, find?_eq_some_iff, hreverse.mem_iff]

/-- A table is found behind entries in front of its own, which count where they have a key. -/
theorem find?_ofList_append {known : List (String × α)} (hkeys : (known.map (·.1)).Nodup)
    (t : Table α) (k : String) :
    (ofList (known ++ t.entries)).find? k = (t.find? k).or (Entries.find? k known) := by
  rw [find?_ofList, List.reverse_append, Entries.find?_append,
    Entries.find?_reverse_of_nodup t.ascending.nodup_keys, Entries.find?_reverse_of_nodup hkeys]
  rfl

/-- A table with some of its entries. -/
def filter (keep : String × α → Bool) (t : Table α) : Table α :=
  { entries := t.entries.filter keep, ascending := List.Pairwise.filter keep t.ascending }

/-- What is found among some entries of a table. -/
theorem find?_filter (keep : String × α → Bool) (t : Table α) (k : String) :
    (t.filter keep).find? k = (t.find? k).filter fun x => keep (k, x) := by
  ext x
  rw [find?_eq_some_iff, filter, List.mem_filter, ← find?_eq_some_iff, Option.filter_eq_some_iff]

/-- Entries can be left out by their key before the table is made or after it. -/
theorem ofList_filter_key (keep : String → Bool) (entries : List (String × α)) :
    ofList (entries.filter fun entry => keep entry.1) =
      (ofList entries).filter fun entry => keep entry.1 := by
  refine ext_find? fun k => ?_
  rw [find?_filter, find?_ofList, find?_ofList, ← List.filter_reverse, Entries.find?_filter_key]
  cases Entries.find? k entries.reverse <;> simp [Option.filter]

/-- A table has no key exactly if it is empty. -/
theorem eq_empty_iff {t : Table α} : t = empty ↔ ∀ k, k ∉ t.keys := by
  simp only [mem_keys_iff]
  refine ⟨?_, fun hnone => ext_find? fun k => ?_⟩
  · rintro rfl k
    simp
  · rw [find?_empty]
    exact Option.eq_none_iff_forall_not_mem.mpr fun x hx => hnone k ⟨x, hx⟩

end Table

end ContainerOps
