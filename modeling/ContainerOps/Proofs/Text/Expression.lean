import Mathlib.Data.List.Basic

/-!
# Expressions with named parts

An expression says which texts have a certain form, and names some of their parts.  A text can have
a form in several ways, which differ in the parts; where all of them name the same parts, it does
not matter which of them is found first.

Main results:

- `Expression.matches_next_iff` and its neighbours: the texts of each form.
- `Expression.matches_many_one_iff` and `Expression.matches_some_one_iff`: the runs of characters
  that pass a test.
- `Expression.matches_anyOf_iff`: a choice between fixed texts.
-/

namespace ContainerOps.Text

/-! ## Expressions -/

/-- The form of a text, with names for parts of it. -/
inductive Expression (Name : Type) where
  /-- The empty text. -/
  | nothing
  /-- One character that passes a test. -/
  | one (test : Char → Bool)
  /-- One form behind another. -/
  | next (first second : Expression Name)
  /-- One of two forms. -/
  | either (left right : Expression Name)
  /-- A form any number of times. -/
  | many (item : Expression Name)
  /-- A part with a name. -/
  | named (name : Name) (part : Expression Name)

namespace Expression

variable {Name : Type}

/-- A text has a form, with these parts in the order in which they begin. -/
inductive Matches : Expression Name → List Char → List (Name × List Char) → Prop where
  | nothing : Matches .nothing [] []
  | one {test : Char → Bool} {c : Char} (hc : test c = true) : Matches (.one test) [c] []
  | next {first second : Expression Name} {cs ds : List Char} {fs gs : List (Name × List Char)}
      (hfirst : Matches first cs fs) (hsecond : Matches second ds gs) :
      Matches (.next first second) (cs ++ ds) (fs ++ gs)
  | left {left right : Expression Name} {cs : List Char} {fs : List (Name × List Char)}
      (hleft : Matches left cs fs) : Matches (.either left right) cs fs
  | right {left right : Expression Name} {cs : List Char} {fs : List (Name × List Char)}
      (hright : Matches right cs fs) : Matches (.either left right) cs fs
  | stop {item : Expression Name} : Matches (.many item) [] []
  | more {item : Expression Name} {cs ds : List Char} {fs gs : List (Name × List Char)}
      (hitem : Matches item cs fs) (hrest : Matches (.many item) ds gs) :
      Matches (.many item) (cs ++ ds) (fs ++ gs)
  | named {name : Name} {part : Expression Name} {cs : List Char} {fs : List (Name × List Char)}
      (hpart : Matches part cs fs) : Matches (.named name part) cs ((name, cs) :: fs)

/-! ## Further forms -/

/-- A form at least once. -/
def some (item : Expression Name) : Expression Name :=
  .next item (.many item)

/-- A form at most once. -/
def optional (item : Expression Name) : Expression Name :=
  .either item .nothing

/-- A fixed text. -/
def literal : List Char → Expression Name
  | [] => .nothing
  | c :: cs => .next (.one (· == c)) (literal cs)

/-- One of some fixed texts.  Where there are none of them left, no text will do. -/
def anyOf : List String → Expression Name
  | [] => .one fun _ => false
  | text :: others => .either (literal text.toList) (anyOf others)

/-! ## Texts of each form -/

section Forms

variable {cs : List Char} {parts : List (Name × List Char)}

theorem matches_nothing_iff : Matches .nothing cs parts ↔ cs = [] ∧ parts = [] := by
  constructor
  · intro h
    cases h
    exact ⟨rfl, rfl⟩
  · rintro ⟨rfl, rfl⟩
    exact .nothing

theorem matches_one_iff {test : Char → Bool} :
    Matches (.one test) cs parts ↔ (∃ c, test c = true ∧ cs = [c]) ∧ parts = [] := by
  constructor
  · intro h
    cases h with
    | one hc => exact ⟨⟨_, hc, rfl⟩, rfl⟩
  · rintro ⟨⟨c, hc, rfl⟩, rfl⟩
    exact .one hc

theorem matches_next_iff {first second : Expression Name} :
    Matches (.next first second) cs parts ↔
      ∃ ds es fs gs, Matches first ds fs ∧ Matches second es gs ∧ cs = ds ++ es ∧
        parts = fs ++ gs := by
  constructor
  · intro h
    cases h with
    | next hfirst hsecond => exact ⟨_, _, _, _, hfirst, hsecond, rfl, rfl⟩
  · rintro ⟨ds, es, fs, gs, hfirst, hsecond, rfl, rfl⟩
    exact .next hfirst hsecond

theorem matches_either_iff {left right : Expression Name} :
    Matches (.either left right) cs parts ↔ Matches left cs parts ∨ Matches right cs parts := by
  constructor
  · intro h
    cases h with
    | left hleft => exact .inl hleft
    | right hright => exact .inr hright
  · rintro (h | h)
    · exact .left h
    · exact .right h

theorem matches_named_iff {name : Name} {part : Expression Name} :
    Matches (.named name part) cs parts ↔ ∃ fs, Matches part cs fs ∧ parts = (name, cs) :: fs := by
  constructor
  · intro h
    cases h with
    | named hpart => exact ⟨_, hpart, rfl⟩
  · rintro ⟨fs, hpart, rfl⟩
    exact .named hpart

/-- A run of characters that pass a test. -/
theorem matches_many_one_iff {test : Char → Bool} :
    Matches (.many (.one test)) cs parts ↔ (∀ c ∈ cs, test c = true) ∧ parts = [] := by
  constructor
  · intro h
    -- the induction is on the number of characters, so the expression has to stay as it is
    generalize hmany : (Expression.one test).many = expression at h
    induction h with
    | stop => exact ⟨nofun, rfl⟩
    | more hitem hrest _ ih =>
      cases hmany
      obtain ⟨⟨c, hc, rfl⟩, rfl⟩ := matches_one_iff.mp hitem
      obtain ⟨hall, rfl⟩ := ih rfl
      exact ⟨List.forall_mem_cons.mpr ⟨hc, hall⟩, rfl⟩
    | _ => cases hmany
  · rintro ⟨hall, rfl⟩
    induction cs with
    | nil => exact .stop
    | cons c cs ih =>
      obtain ⟨hc, hrest⟩ := List.forall_mem_cons.mp hall
      have hmore := Matches.more (.one hc) (ih hrest)
      exact hmore

/-- A run of characters that pass a test, which is not empty. -/
theorem matches_some_one_iff {test : Char → Bool} :
    Matches (.some (.one test)) cs parts ↔
      (cs ≠ [] ∧ ∀ c ∈ cs, test c = true) ∧ parts = [] := by
  rw [some, matches_next_iff]
  constructor
  · rintro ⟨ds, es, fs, gs, hfirst, hrest, rfl, rfl⟩
    obtain ⟨⟨c, hc, rfl⟩, rfl⟩ := matches_one_iff.mp hfirst
    obtain ⟨hall, rfl⟩ := matches_many_one_iff.mp hrest
    exact ⟨⟨by simp, List.forall_mem_cons.mpr ⟨hc, hall⟩⟩, rfl⟩
  · rintro ⟨⟨hne, hall⟩, rfl⟩
    obtain ⟨c, cs, rfl⟩ := List.exists_cons_of_ne_nil hne
    obtain ⟨hc, hrest⟩ := List.forall_mem_cons.mp hall
    exact ⟨[c], cs, [], [], .one hc, matches_many_one_iff.mpr ⟨hrest, rfl⟩, rfl, rfl⟩

/-- A fixed text. -/
theorem matches_literal_iff {text : List Char} :
    Matches (literal text) cs parts ↔ cs = text ∧ parts = [] := by
  induction text generalizing cs parts with
  | nil => exact matches_nothing_iff
  | cons c text ih =>
    rw [literal, matches_next_iff]
    constructor
    · rintro ⟨ds, es, fs, gs, hfirst, hrest, rfl, rfl⟩
      obtain ⟨⟨d, hd, rfl⟩, rfl⟩ := matches_one_iff.mp hfirst
      obtain ⟨rfl, rfl⟩ := ih.mp hrest
      rw [beq_iff_eq.mp hd]
      exact ⟨rfl, rfl⟩
    · rintro ⟨rfl, rfl⟩
      exact ⟨[c], text, [], [], .one (beq_self_eq_true c), ih.mpr ⟨rfl, rfl⟩, rfl, rfl⟩

/-- A choice between fixed texts. -/
theorem matches_anyOf_iff {texts : List String} :
    Matches (anyOf texts) cs parts ↔ (∃ text ∈ texts, cs = text.toList) ∧ parts = [] := by
  induction texts with
  | nil => simp [anyOf, matches_one_iff]
  | cons text others ih =>
    rw [anyOf, matches_either_iff, ih, matches_literal_iff, List.exists_mem_cons_iff,
      ← or_and_right]

/-! ## Forms without parts -/

/-- A form that names no parts, with the texts that have it. -/
def Plain (expression : Expression Name) (holds : List Char → Prop) : Prop :=
  ∀ (cs : List Char) (parts : List (Name × List Char)),
    Matches expression cs parts ↔ holds cs ∧ parts = []

/-- A form behind one that names no parts. -/
theorem Plain.matches_next_iff {first second : Expression Name} {holds : List Char → Prop}
    (hfirst : Plain first holds) :
    Matches (.next first second) cs parts ↔
      ∃ ds es, holds ds ∧ Matches second es parts ∧ cs = ds ++ es := by
  rw [Expression.matches_next_iff]
  constructor
  · rintro ⟨ds, es, fs, gs, hmatches, hes, rfl, rfl⟩
    obtain ⟨hds, rfl⟩ := (hfirst _ _).mp hmatches
    exact ⟨ds, es, hds, hes, rfl⟩
  · rintro ⟨ds, es, hds, hes, rfl⟩
    exact ⟨ds, es, [], parts, (hfirst _ _).mpr ⟨hds, rfl⟩, hes, rfl, rfl⟩

/-- A form behind a part with a name. -/
theorem Plain.matches_next_named_iff {first second : Expression Name} {holds : List Char → Prop}
    (hfirst : Plain first holds) {name : Name} :
    Matches (.next (.named name first) second) cs parts ↔
      ∃ ds es gs, holds ds ∧ Matches second es gs ∧ cs = ds ++ es ∧ parts = (name, ds) :: gs := by
  rw [Expression.matches_next_iff]
  constructor
  · rintro ⟨ds, es, fs, gs, hnamed, hes, rfl, rfl⟩
    obtain ⟨fs, hmatches, rfl⟩ := matches_named_iff.mp hnamed
    obtain ⟨hds, rfl⟩ := (hfirst _ _).mp hmatches
    exact ⟨ds, es, gs, hds, hes, rfl, rfl⟩
  · rintro ⟨ds, es, gs, hds, hes, rfl, rfl⟩
    exact ⟨ds, es, [(name, ds)], gs, .named ((hfirst _ _).mpr ⟨hds, rfl⟩), hes, rfl, rfl⟩

end Forms

end Expression

end ContainerOps.Text
