import ContainerOps.Decoding.Record

/-!
# Successful reading

What is read without a fault was read piece by piece: every item of a sequence by the reader of the
items, and a record from the values of its fields, however these were given.

Main results:

- `exists_of_mem_readItems`: an item that is read comes from an item that was there.
- `exists_of_readRecord`: a record that is read was put together from settings.
-/

namespace ContainerOps.Decoding

universe u

variable {α : Type u} {result : Type}

/-- Reporting faults in another way makes no difference to a success. -/
@[simp]
theorem mapError_eq_ok_iff {ε ε' : Type} {outcome : Except ε result} {report : ε → ε'}
    {r : result} : outcome.mapError report = .ok r ↔ outcome = .ok r := by
  constructor
  · intro hok
    cases outcome <;> cases hok
    rfl
  · rintro rfl
    rfl

/-- What is made of a success comes from one. -/
theorem map_eq_ok_iff {ε made : Type} {outcome : Except ε result} {make : result → made}
    {m : made} : outcome.map make = .ok m ↔ ∃ r, outcome = .ok r ∧ make r = m := by
  cases outcome <;> simp [Except.map]

/-- An item that is read comes from an item that was there. -/
theorem exists_of_mem_readItems {read : α → Except Fault result} {items : List (Except Fault α)}
    {found : List result} (hread : readItems read items = .ok found) :
    ∀ r ∈ found, ∃ value, .ok value ∈ items ∧ read value = .ok r := by
  induction items generalizing found with
  | nil =>
    cases hread
    exact List.forall_mem_nil _
  | cons item rest ih =>
    cases item with
    | error fault => cases hread
    | ok value =>
      rw [readItems] at hread
      cases hvalue : read value with
      | error fault => simp [hvalue] at hread
      | ok first =>
        rw [hvalue] at hread
        obtain ⟨others, hothers, rfl⟩ := map_eq_ok_iff.mp hread
        refine List.forall_mem_cons.mpr ⟨⟨value, .head _, hvalue⟩, ?_⟩
        intro r hr
        obtain ⟨source, hsource, hr⟩ := ih hothers r hr
        exact ⟨source, .tail _ hsource, hr⟩

/-- A record that is read was put together from settings. -/
theorem exists_of_readRecord {field setting : Type} [DecidableEq field] [Source α]
    {schema : Schema α field setting}
    {assemble : (field → String → Problem) → List setting → Except Problem result} {value : α}
    {r : result} (hread : readRecord schema assemble value = .ok r) :
    ∃ missing settings, assemble missing settings = .ok r := by
  unfold readRecord at hread
  dsimp only at hread
  split at hread
  · cases hread
  · split at hread
    · cases hread
    · next settings _ => exact ⟨_, settings, mapError_eq_ok_iff.mp hread⟩
  · split at hread
    · cases hread
    · next settings _ =>
      split at hread
      · cases hread
      · next found hassemble =>
        split at hread
        · cases hread
        · cases hread
          exact ⟨_, settings, hassemble⟩

end ContainerOps.Decoding
