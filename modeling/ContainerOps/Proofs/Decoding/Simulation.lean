import ContainerOps.Proofs.Decoding.Success
import Mathlib.Data.List.Forall2
import Mathlib.Data.Option.Basic

/-!
# Values that readers cannot tell apart

Two values can differ in things that decide only how a fault is reported, such as their places, or
in things that no question to a source brings out.  A relation between values that every question
respects is respected by the readers of sequences and records that are made of such questions.

Main results:

- `refines_readItems`: related items are read as the same results.
- `refines_collect`: related entries are read as the same settings.
- `Respects.readRecord`: related values are read as the same record.
-/

namespace ContainerOps.Decoding

universe u

/-! ## Related outcomes -/

section Outcome

variable {ε ε' α β γ δ : Type*} {R : α → β → Prop} {S : γ → δ → Prop}

/-- Where the first outcome is a success, the second is one as well, with a related result. -/
def Refines (R : α → β → Prop) (a : Except ε α) (b : Except ε' β) : Prop :=
  ∀ x, a = .ok x → ∃ y, b = .ok y ∧ R x y

/-- A fault promises nothing. -/
@[simp]
theorem refines_error (fault : ε) (b : Except ε' β) : Refines R (.error fault) b := by
  intro x h
  cases h

/-- Successes with related results. -/
@[simp]
theorem refines_ok_ok {x : α} {y : β} :
    Refines R (.ok x : Except ε α) (.ok y : Except ε' β) ↔ R x y := by
  simp [Refines]

/-- For equality as the relation, every success of the first outcome is one of the second. -/
theorem refines_eq_iff {a : Except ε α} {b : Except ε' α} :
    Refines Eq a b ↔ ∀ x, a = .ok x → b = .ok x := by
  simp [Refines]

/-- What is made of related results. -/
theorem Refines.map {a : Except ε α} {b : Except ε' β} (h : Refines R a b) {f : α → γ} {g : β → δ}
    (related : ∀ x y, R x y → S (f x) (g y)) : Refines S (a.map f) (b.map g) := by
  cases a with
  | error fault => exact refines_error fault _
  | ok x =>
    obtain ⟨y, rfl, hxy⟩ := h x rfl
    exact refines_ok_ok.mpr (related x y hxy)

/-- What is made of equal results. -/
theorem Refines.map_eq {a : Except ε α} {b : Except ε' α} (h : Refines Eq a b) (f : α → γ) :
    Refines Eq (a.map f) (b.map f) :=
  h.map fun _ _ hxy => congrArg f hxy

/-- Faults that are reported in different ways make no difference. -/
theorem refines_mapError (a : Except ε α) {ε₁ ε₂ : Type*} (report : ε → ε₁) (report' : ε → ε₂) :
    Refines Eq (a.mapError report) (a.mapError report') := by
  cases a with
  | error fault => exact refines_error _ _
  | ok x => exact refines_ok_ok.mpr rfl

end Outcome

/-! ## Related entries -/

variable {α : Type u}

/-- Entries with the same key and related values. -/
def SameKey (R : α → α → Prop) (e e' : String × α) : Prop :=
  e.1 = e'.1 ∧ R e.2 e'.2

/-- Fields with related values, given in the same way. -/
inductive Fields.Related (R : α → α → Prop) : Fields α → Fields α → Prop where
  /-- Values under keys. -/
  | named {entries entries' : List (Except Fault (String × α))}
      (h : List.Forall₂ (Refines (SameKey R)) entries entries') :
      Related R (.named entries) (.named entries')
  /-- Values in the order of declaration. -/
  | positional {items items' : List α} (h : List.Forall₂ R items items') :
      Related R (.positional items) (.positional items')

/-- Related items are read as the same results. -/
theorem refines_readItems {result : Type} {R : α → α → Prop} {read : α → Except Fault result}
    (hread : ∀ v w, R v w → Refines Eq (read v) (read w)) {items items' : List (Except Fault α)}
    (h : List.Forall₂ (Refines R) items items') :
    Refines Eq (readItems read items) (readItems read items') := by
  induction h with
  | nil => exact refines_ok_ok.mpr rfl
  | @cons item item' rest rest' hitem hrest ih =>
    cases item with
    | error fault => exact refines_error fault _
    | ok v =>
      obtain ⟨w, rfl, hvw⟩ := hitem v rfl
      simp only [readItems]
      cases hv : read v with
      | error fault => exact refines_error fault _
      | ok r =>
        rw [refines_eq_iff.mp (hread v w hvw) r hv]
        exact ih.map_eq _

/-! ## Related records -/

section Record

variable {field setting : Type} {schema : Schema α field setting} {R : α → α → Prop}

/-- Related values are read as the same setting of a field, and are passed over alike. -/
structure Schema.Respects (schema : Schema α field setting) (R : α → α → Prop) : Prop where
  /-- The settings are the same. -/
  read : ∀ f v w, R v w → Refines Eq (schema.read f v) (schema.read f w)
  /-- Both values can be passed over if the first can. -/
  skip : ∀ v w, R v w → Refines Eq (schema.skip v) (schema.skip w)

/-- Related entries are read as the same settings. -/
theorem refines_collect [DecidableEq field] (hschema : schema.Respects R)
    (blame blame' : Problem → Fault) {entries entries' : List (Except Fault (String × α))}
    (h : List.Forall₂ (Refines (SameKey R)) entries entries') (seen : List field) :
    Refines Eq (collect schema blame seen entries) (collect schema blame' seen entries') := by
  induction h generalizing seen with
  | nil => exact refines_ok_ok.mpr rfl
  | @cons entry entry' rest rest' hentry hrest ih =>
    cases entry with
    | error fault => exact refines_error fault _
    | ok e =>
      obtain ⟨key, v⟩ := e
      obtain ⟨⟨key', w⟩, rfl, rfl, hvw⟩ := hentry _ rfl
      simp only [collect]
      cases schema.ofKey key with
      | none =>
        cases hv : schema.skip v with
        | error fault => exact refines_error fault _
        | ok _ =>
          simp only [refines_eq_iff.mp (hschema.skip v w hvw) () hv]
          exact ih seen
      | some f =>
        dsimp only
        cases (if f ∈ seen then schema.once f else none) with
        | some name => exact refines_error _ _
        | none =>
          cases hv : schema.read f v with
          | error fault => exact refines_error fault _
          | ok s =>
            simp only [refines_eq_iff.mp (hschema.read f v w hvw) s hv]
            exact (ih (f :: seen)).map_eq _

/-- Related values in the order of declaration are read as the same settings. -/
theorem refines_collectInOrder (hschema : schema.Respects R) {values values' : List α}
    (h : List.Forall₂ R values values') (fields : List field) :
    Refines Eq (collectInOrder schema fields values) (collectInOrder schema fields values') := by
  induction h generalizing fields with
  | nil => cases fields <;> exact refines_ok_ok.mpr rfl
  | @cons v w rest rest' hvw hrest ih =>
    cases fields with
    | nil => exact refines_ok_ok.mpr rfl
    | cons f fields =>
      simp only [collectInOrder]
      cases hv : schema.read f v with
      | error fault => exact refines_error fault _
      | ok s =>
        simp only [refines_eq_iff.mp (hschema.read f v w hvw) s hv]
        exact (ih fields).map_eq _

end Record

/-! ## Related values -/

/-- A relation between values that every question to their source respects. -/
structure Respects [Source α] (R : α → α → Prop) : Prop where
  /-- Related values have the same text. -/
  text : ∀ expected v w, R v w → Refines Eq (Source.text expected v) (Source.text expected w)
  /-- Related values have the same truth value. -/
  flag : ∀ v w, R v w → Refines Eq (Source.flag v) (Source.flag w)
  /-- Related values are the same natural number. -/
  natural : ∀ limit expected v w, R v w →
    Refines Eq (Source.natural limit expected v) (Source.natural limit expected w)
  /-- Either both values stand for nothing or neither does. -/
  optional : ∀ v w, R v w → Refines (Option.Rel R) (Source.optional v) (Source.optional w)
  /-- The items of related values are related. -/
  items : ∀ v w, R v w →
    Refines (List.Forall₂ (Refines R)) (Source.items v) (Source.items w)
  /-- The fields of related values are related. -/
  fields : ∀ record v w, R v w →
    Refines (Fields.Related R) (Source.fields record v) (Source.fields record w)
  /-- If one value can be passed over, so can the other. -/
  skip : ∀ v w, R v w → Refines Eq (Source.skip v) (Source.skip w)

/-- Related values are read as the same record. -/
theorem Respects.readRecord [Source α] {R : α → α → Prop} (hR : Respects R)
    {field setting result : Type} [DecidableEq field] {schema : Schema α field setting}
    (hschema : schema.Respects R)
    {assemble : (field → String → Problem) → List setting → Except Problem result} {v w : α}
    (h : R v w) : Refines Eq (readRecord schema assemble v) (readRecord schema assemble w) := by
  unfold Decoding.readRecord
  dsimp only
  cases hv : Source.fields schema.record v with
  | error fault => exact refines_error fault _
  | ok found =>
    obtain ⟨found', hw, hfound⟩ := hR.fields _ v w h found hv
    rw [hw]
    cases hfound with
    | @named entries entries' hentries =>
      dsimp only
      cases hsettings : collect schema (Source.blame v) [] entries with
      | error fault => exact refines_error fault _
      | ok settings =>
        have hsame := refines_collect hschema (Source.blame v) (Source.blame w) hentries []
        rw [refines_eq_iff.mp hsame settings hsettings]
        exact refines_mapError _ _ _
    | @positional items items' hitems =>
      dsimp only
      cases hsettings : collectInOrder schema schema.declared items with
      | error fault => exact refines_error fault _
      | ok settings =>
        have hsame := refines_collectInOrder hschema hitems schema.declared
        rw [refines_eq_iff.mp hsame settings hsettings, ← hitems.length_eq]
        dsimp only
        split
        · exact refines_error _ _
        · split
          · exact refines_error _ _
          · exact refines_ok_ok.mpr rfl

end ContainerOps.Decoding
