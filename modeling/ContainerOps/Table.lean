/-!
# Tables with ordered keys

A table holds at most one value per key and lists its keys in ascending order of their code
points, which is also the byte order of their UTF-8 forms.  The order is part of the type, so two
tables are equal as soon as every look-up agrees.

Main results:

- `find?_insert_self` and `find?_insert_of_ne`: an insertion is seen at its key and nowhere else.
- `ext_find?`: equal look-ups make equal tables.
-/

namespace ContainerOps

universe u

/-! ## Ordered entry lists -/

namespace Entries

variable {α : Type u}

/-- Puts an entry into an ordered list, in place of one with the same key. -/
def insert (k : String) (x : α) : List (String × α) → List (String × α)
  | [] => [(k, x)]
  | (k', x') :: rest =>
    if k < k' then (k, x) :: (k', x') :: rest
    else if k = k' then (k, x) :: rest
    else (k', x') :: insert k x rest

/-- The first value under a key. -/
def find? (k : String) : List (String × α) → Option α
  | [] => none
  | (k', x) :: rest => if k = k' then some x else find? k rest

/-- An ordered list with the later of two entries for one key. -/
def sorted (entries : List (String × α)) : List (String × α) :=
  entries.foldl (fun acc e => insert e.1 e.2 acc) []

/-- The keys ascend. -/
def Ascending (entries : List (String × α)) : Prop :=
  entries.Pairwise fun a b => a.1 < b.1

/-- An entry of an insertion is the new one or an old one. -/
theorem mem_insert {k : String} {x : α} {e : String × α} {entries : List (String × α)}
    (h : e ∈ insert k x entries) : e = (k, x) ∨ e ∈ entries := by
  induction entries with
  | nil => simpa [insert] using h
  | cons hd tl ih =>
    obtain ⟨k', x'⟩ := hd
    unfold insert at h
    split at h
    · rcases List.mem_cons.mp h with h | h
      · exact Or.inl h
      · exact Or.inr h
    · split at h
      · rcases List.mem_cons.mp h with h | h
        · exact Or.inl h
        · exact Or.inr (List.mem_cons_of_mem _ h)
      · rcases List.mem_cons.mp h with h | h
        · exact Or.inr (by simp [h])
        · rcases ih h with h | h
          · exact Or.inl h
          · exact Or.inr (List.mem_cons_of_mem _ h)

/-- Two strings neither of which precedes the other are equal. -/
theorem lt_of_not_lt_of_ne {a b : String} (h : ¬ a < b) (ne : a ≠ b) : b < a := by
  rcases String.not_lt.mp h with hle
  by_cases hlt : b < a
  · exact hlt
  · exact absurd (String.le_antisymm (String.not_lt.mp hlt) hle) ne

/-- An insertion keeps the order. -/
theorem ascending_insert (k : String) (x : α) {entries : List (String × α)}
    (h : Ascending entries) : Ascending (insert k x entries) := by
  induction entries with
  | nil => simp [insert, Ascending]
  | cons hd tl ih =>
    obtain ⟨k', x'⟩ := hd
    have htl : Ascending tl := List.Pairwise.of_cons h
    have hhd : ∀ e ∈ tl, k' < e.1 := fun e he => List.rel_of_pairwise_cons h he
    unfold insert
    split
    · next hlt =>
      refine List.Pairwise.cons ?_ h
      intro e he
      rcases List.mem_cons.mp he with rfl | he
      · exact hlt
      · exact String.lt_trans hlt (hhd e he)
    · next hnlt =>
      split
      · next heq =>
        subst heq
        exact List.Pairwise.cons hhd htl
      · next hne =>
        refine List.Pairwise.cons ?_ (ih htl)
        intro e he
        rcases mem_insert he with rfl | he
        · exact lt_of_not_lt_of_ne hnlt hne
        · exact hhd e he

/-- Sorting orders. -/
theorem ascending_sorted (entries : List (String × α)) : Ascending (sorted entries) := by
  suffices h : ∀ (es acc : List (String × α)), Ascending acc →
      Ascending (es.foldl (fun acc e => insert e.1 e.2 acc) acc) from
    h entries [] List.Pairwise.nil
  intro es
  induction es with
  | nil => intro acc h; exact h
  | cons e es ih => intro acc h; exact ih _ (ascending_insert e.1 e.2 h)

/-- An insertion is found at its key. -/
@[simp]
theorem find?_insert_self (k : String) (x : α) (entries : List (String × α)) :
    find? k (insert k x entries) = some x := by
  induction entries with
  | nil => simp [insert, find?]
  | cons hd tl ih =>
    obtain ⟨k', x'⟩ := hd
    unfold insert
    split
    · simp [find?]
    · split
      · simp [find?]
      · next hne => simp [find?, hne, ih]

/-- An insertion is not seen at another key. -/
theorem find?_insert_of_ne {k k' : String} (ne : k' ≠ k) (x : α)
    (entries : List (String × α)) : find? k' (insert k x entries) = find? k' entries := by
  induction entries with
  | nil => simp [insert, find?, ne]
  | cons hd tl ih =>
    obtain ⟨l, y⟩ := hd
    unfold insert
    split
    · simp [find?, ne]
    · split
      · next heq => subst heq; simp [find?, ne]
      · by_cases hl : k' = l <;> simp [find?, hl, ih]

/-- A key below all keys is not found. -/
theorem find?_eq_none_of_lt {k : String} {entries : List (String × α)}
    (h : ∀ e ∈ entries, k < e.1) : find? k entries = none := by
  induction entries with
  | nil => rfl
  | cons hd tl ih =>
    have hne : k ≠ hd.1 := by
      intro heq
      exact String.lt_irrefl _ (heq ▸ h hd (by simp))
    unfold find?
    rw [if_neg hne]
    exact ih fun e he => h e (List.mem_cons_of_mem _ he)

/-- Ordered lists with equal look-ups are equal. -/
theorem eq_of_find?_eq {l₁ l₂ : List (String × α)} (h₁ : Ascending l₁) (h₂ : Ascending l₂)
    (h : ∀ k, find? k l₁ = find? k l₂) : l₁ = l₂ := by
  induction l₁ generalizing l₂ with
  | nil =>
    cases l₂ with
    | nil => rfl
    | cons e l₂ => have := h e.1; simp [find?] at this
  | cons e₁ l₁ ih =>
    cases l₂ with
    | nil => have := h e₁.1; simp [find?] at this
    | cons e₂ l₂ =>
      have below₁ : ∀ e ∈ l₁, e₁.1 < e.1 := fun e he => List.rel_of_pairwise_cons h₁ he
      have below₂ : ∀ e ∈ l₂, e₂.1 < e.1 := fun e he => List.rel_of_pairwise_cons h₂ he
      have hkey : e₁.1 = e₂.1 := by
        by_cases hlt : e₁.1 < e₂.1
        · have hnone : find? e₁.1 (e₂ :: l₂) = none := by
            refine find?_eq_none_of_lt fun e he => ?_
            rcases List.mem_cons.mp he with rfl | he
            · exact hlt
            · exact String.lt_trans hlt (below₂ e he)
          have := h e₁.1
          rw [hnone] at this
          simp [find?] at this
        · by_cases heq : e₁.1 = e₂.1
          · exact heq
          · have hgt : e₂.1 < e₁.1 := lt_of_not_lt_of_ne hlt heq
            have hnone : find? e₂.1 (e₁ :: l₁) = none := by
              refine find?_eq_none_of_lt fun e he => ?_
              rcases List.mem_cons.mp he with rfl | he
              · exact hgt
              · exact String.lt_trans hgt (below₁ e he)
            have := h e₂.1
            rw [hnone] at this
            simp [find?] at this
      have hvalue : e₁.2 = e₂.2 := by
        have := h e₁.1
        simpa [find?, hkey] using this
      have htail : l₁ = l₂ := by
        refine ih h₁.of_cons h₂.of_cons fun k => ?_
        by_cases hk : k = e₁.1
        · rw [hk, find?_eq_none_of_lt below₁, hkey, find?_eq_none_of_lt below₂]
        · have := h k
          obtain ⟨k₁, x₁⟩ := e₁
          obtain ⟨k₂, x₂⟩ := e₂
          have hk₂ : k ≠ k₂ := fun heq => hk (heq.trans hkey.symm)
          simpa [find?, hk, hk₂] using this
      obtain ⟨k₁, x₁⟩ := e₁
      obtain ⟨k₂, x₂⟩ := e₂
      simp only at hkey hvalue
      rw [hkey, hvalue, htail]

end Entries

/-! ## Tables -/

/-- Values under string keys, in ascending order of the keys. -/
structure Table (α : Type u) where
  /-- The entries in order. -/
  entries : List (String × α)
  /-- The keys ascend, so each occurs once. -/
  ascending : Entries.Ascending entries

namespace Table

variable {α : Type u}

/-- The table without entries. -/
def empty : Table α :=
  { entries := [], ascending := List.Pairwise.nil }

instance : EmptyCollection (Table α) :=
  ⟨empty⟩

instance : Inhabited (Table α) :=
  ⟨empty⟩

/-- The table with a value put under a key. -/
def insert (t : Table α) (k : String) (x : α) : Table α :=
  { entries := Entries.insert k x t.entries
    ascending := Entries.ascending_insert k x t.ascending }

/-- The value under a key. -/
def find? (t : Table α) (k : String) : Option α :=
  Entries.find? k t.entries

/-- The keys in ascending order. -/
def keys (t : Table α) : List String :=
  t.entries.map (·.1)

/-- The table of some entries; of two with one key the later counts. -/
def ofList (entries : List (String × α)) : Table α :=
  { entries := Entries.sorted entries, ascending := Entries.ascending_sorted entries }

/-- The table with the value under a key changed, starting from a default where there is none. -/
def alter (t : Table α) (k : String) (default : α) (change : α → α) : Table α :=
  t.insert k (change ((t.find? k).getD default))

/-- No key of the empty table has a value. -/
@[simp]
theorem find?_empty (k : String) : (empty : Table α).find? k = none := rfl

/-- An insertion is found at its key. -/
@[simp]
theorem find?_insert_self (t : Table α) (k : String) (x : α) :
    (t.insert k x).find? k = some x :=
  Entries.find?_insert_self k x t.entries

/-- An insertion is not seen at another key. -/
theorem find?_insert_of_ne (t : Table α) {k k' : String} (ne : k' ≠ k) (x : α) :
    (t.insert k x).find? k' = t.find? k' :=
  Entries.find?_insert_of_ne ne x t.entries

/-- Tables with equal look-ups are equal. -/
theorem ext_find? {s t : Table α} (h : ∀ k, s.find? k = t.find? k) : s = t := by
  obtain ⟨es, hs⟩ := s
  obtain ⟨et, ht⟩ := t
  have : es = et := Entries.eq_of_find?_eq hs ht h
  subst this
  rfl

end Table

end ContainerOps
