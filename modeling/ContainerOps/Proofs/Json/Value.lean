import ContainerOps.Json.Source
import ContainerOps.Proofs.Table.Listed
import Mathlib.Algebra.Field.Rat
import Mathlib.Algebra.GroupWithZero.Basic

/-!
# What values stand for

A number stands for a rational, and the test for zero is a test on that rational: zero can be
written in many ways, with a sign, with a fraction and with an exponent.  An object is known by its
members, and a value that is read from a text lists them in ascending order, at every depth.

Main results:

- `Number.isZero_iff_toRat`: a number is zero if it stands for zero.
- `Outline.ordered_of_value?`: a value that is read lists the members of its objects in order.
- `Ordered.of_member?`: so does every member of such a value.
- `Document.read_eq_ok_iff`: a text is read if it ends after a value that is.
-/

namespace ContainerOps

/-! ## Numbers -/

namespace Number.Binary64

/-- The rational that a double stands for. -/
def toRat (d : Binary64) : ℚ :=
  (if d.negative then -1 else 1) * d.significand * 2 ^ d.exponent

/-- A double is zero if it stands for zero. -/
theorem isZero_iff_toRat (d : Binary64) : d.isZero = true ↔ d.toRat = 0 := by
  have hsign : (if d.negative then -1 else 1 : ℚ) ≠ 0 := by
    cases d.negative <;> decide
  have hpower : (2 : ℚ) ^ d.exponent ≠ 0 := zpow_ne_zero _ (by decide)
  rw [isZero_iff, toRat, mul_eq_zero_iff_right hpower, mul_eq_zero_iff_left hsign, Nat.cast_eq_zero]

end Number.Binary64

namespace Json

/-- The rational that a number stands for. -/
def Number.toRat : Number → ℚ
  | .integer n => n
  | .double d => d.toRat

/-- A number is zero if it stands for zero. -/
theorem Number.isZero_iff_toRat (n : Number) : n.isZero = true ↔ n.toRat = 0 := by
  cases n with
  | integer k => simp [isZero, toRat]
  | double d => exact d.isZero_iff_toRat

/-! ## Objects -/

/-- Every object in a value lists its members in ascending order of their keys. -/
inductive Ordered : Json → Prop where
  | null : Ordered null
  | bool (b : Bool) : Ordered (bool b)
  | number (n : Number) : Ordered (number n)
  | string (s : String) : Ordered (string s)
  | array {items : List Json} (hitems : ∀ item ∈ items, Ordered item) : Ordered (array items)
  | object {members : List (String × Json)} (hascending : Entries.Ascending members)
      (hmembers : ∀ member ∈ members, Ordered member.2) : Ordered (object members)

/-- The members of an ordered object ascend. -/
theorem Ordered.ascending {members : List (String × Json)} (hordered : Ordered (.object members)) :
    Entries.Ascending members := by
  cases hordered with
  | object hascending _ => exact hascending

/-- The members of an ordered object are ordered. -/
theorem Ordered.of_mem {members : List (String × Json)} (hordered : Ordered (.object members)) :
    ∀ member ∈ members, member.2.Ordered := by
  cases hordered with
  | object _ hmembers => exact hmembers

/-- A member of an ordered value is ordered. -/
theorem Ordered.of_member? {value inner : Json} {key : String} (hordered : value.Ordered)
    (hmember : value.member? key = some inner) : inner.Ordered := by
  cases hordered with
  | object _ hmembers => exact hmembers (key, inner) (Entries.mem_of_find? hmember)
  | null | bool | number | string | array => cases hmember

namespace Outline

mutual

/-- A value that is read lists the members of its objects in order. -/
theorem ordered_of_value? : ∀ (outline : Outline) {value : Json},
    outline.value? = some value → value.Ordered
  | .broken, _, h => by cases h
  | .null, _, h => by
    cases h
    exact .null
  | .bool b, _, h => by
    cases h
    exact .bool b
  | .number n, _, h => by
    cases h
    exact .number n
  | .string s, _, h => by
    cases h
    exact .string s
  | .array items false, _, h => by simp [value?] at h
  | .array items true, _, h => by
    simp only [value?, if_true, Option.map_eq_some_iff] at h
    obtain ⟨values, hvalues, rfl⟩ := h
    exact .array (ordered_of_values? items hvalues)
  | .object members false, _, h => by simp [value?] at h
  | .object members true, _, h => by
    simp only [value?, if_true, Option.map_eq_some_iff] at h
    obtain ⟨entries, hentries, rfl⟩ := h
    exact .object (Entries.ascending_sorted entries) fun member hmember =>
      ordered_of_memberValues? members hentries member (Entries.mem_of_mem_sorted hmember)

/-- So do the values of some items. -/
theorem ordered_of_values? : ∀ (items : List Outline) {values : List Json},
    values? items = some values → ∀ value ∈ values, value.Ordered
  | [], _, h => by
    cases h
    exact List.forall_mem_nil _
  | item :: rest, _, h => by
    simp only [values?] at h
    split at h
    · next v vs hv hvs =>
      cases h
      exact List.forall_mem_cons.mpr ⟨ordered_of_value? item hv, ordered_of_values? rest hvs⟩
    · cases h

/-- So do the values of some members. -/
theorem ordered_of_memberValues? : ∀ (members : List (String × Outline))
    {entries : List (String × Json)}, memberValues? members = some entries →
      ∀ entry ∈ entries, entry.2.Ordered
  | [], _, h => by
    cases h
    exact List.forall_mem_nil _
  | (key, item) :: rest, _, h => by
    simp only [memberValues?] at h
    split at h
    · next v vs hv hvs =>
      cases h
      exact List.forall_mem_cons.mpr
        ⟨ordered_of_value? item hv, ordered_of_memberValues? rest hvs⟩
    · cases h

end

/-- A whole value that is read lists the members of its objects in order. -/
theorem ordered_of_complete {outline : Outline} {value : Json}
    (hcomplete : outline.complete = .ok value) : value.Ordered := by
  unfold complete at hcomplete
  cases hvalue : outline.value? with
  | none => simp [hvalue] at hcomplete
  | some found =>
    simp only [hvalue, Except.ok.injEq] at hcomplete
    exact hcomplete ▸ outline.ordered_of_value? hvalue

end Outline

/-- A text is read if it ends after its outline and that is read. -/
theorem Document.read_eq_ok_iff {α : Type} {document : Document}
    {read : Outline → Except Decoding.Fault α} {a : α} :
    document.read read = .ok a ↔ document.ended = true ∧ read document.outline = .ok a := by
  unfold Document.read
  cases read document.outline <;> cases document.ended <;> simp

/-- What is read of a text is read of its outline. -/
theorem Document.read_outline_of_read_ok {α : Type} {document : Document}
    {read : Outline → Except Decoding.Fault α} {a : α} (hread : document.read read = .ok a) :
    read document.outline = .ok a :=
  (Document.read_eq_ok_iff.mp hread).2

end Json

end ContainerOps
