import ContainerOps.Proofs.Swarm.Attribute
import ContainerOps.Swarm.Inventory
import Mathlib.Data.List.Forall2

/-!
# What a rule names

A rule follows its key to a value of the description.  If there is none, or one that counts as none,
the rule passes over the node or, being strict, fails.  Of the other values some are of a kind that
gives no names; the rest give texts, and a text behind the lead and the separator is a name once
every character that may not stand in one is replaced.

Main results:

- `isEmptyKey_iff`, `keyedTexts_eq_some_iff` and `keyedTexts_eq_none_iff`: the kinds of values.
- `safeName_eq_iff`: how a text is turned into a name, character by character.
- `keyedNames_eq_iff`: what a rule comes to.
- `keyedNames_outcome`: the same with what can be said about the value and the names.
-/

namespace ContainerOps

/-! ## Kinds of values -/

namespace Json

/-- A value that counts as none. -/
inductive CountsAsNone : Json → Prop where
  | null : CountsAsNone null
  | emptyText : CountsAsNone (string "")
  | no : CountsAsNone (bool false)
  | zero {n : Number} (hzero : n.toRat = 0) : CountsAsNone (number n)

/-- A value that counts and yet gives no names. -/
inductive IsNameless : Json → Prop where
  | yes : IsNameless (bool true)
  | number {n : Number} (hnumber : n.toRat ≠ 0) : IsNameless (number n)

/-- A simple value has a text. -/
inductive HasText : Json → String → Prop where
  | string (s : String) : HasText (string s) s
  | yes : HasText (bool true) "true"
  | no : HasText (bool false) "false"
  | number (n : Number) : HasText (number n) n.text

/-- A member of an object with a simple value has a text with its key. -/
def MemberHasText (separator : String) (member : String × Json) (text : String) : Prop :=
  ∃ inner, member.2.HasText inner ∧ text = member.1 ++ separator ++ inner

end Json

namespace Swarm

variable {α : Type} {gives : α → String → Prop}

/-- The texts that some parts give, in their order; a part that gives none is passed over. -/
inductive Collected (gives : α → String → Prop) : List α → List String → Prop where
  | nil : Collected gives [] []
  | pass {part : α} {rest : List α} {texts : List String} (hnone : ∀ text, ¬ gives part text)
      (hrest : Collected gives rest texts) : Collected gives (part :: rest) texts
  | give {part : α} {rest : List α} {text : String} {texts : List String} (htext : gives part text)
      (hrest : Collected gives rest texts) : Collected gives (part :: rest) (text :: texts)

/-- The texts that a value gives to the names of groups. -/
inductive GivesTexts (separator : String) : Json → List String → Prop where
  | string {s : String} (hne : s ≠ "") : GivesTexts separator (.string s) [s]
  | array {items : List Json} {texts : List String} (hitems : Collected Json.HasText items texts) :
      GivesTexts separator (.array items) texts
  | object {members : List (String × Json)} {texts : List String}
      (hmembers : Collected (Json.MemberHasText separator) members texts) :
      GivesTexts separator (.object members) texts

/-- Parts are collected by a function that gives each its text. -/
theorem filterMap_eq_iff {text? : α → Option String}
    (htext : ∀ part text, text? part = some text ↔ gives part text) {parts : List α}
    {texts : List String} : parts.filterMap text? = texts ↔ Collected gives parts texts := by
  constructor
  · rintro rfl
    induction parts with
    | nil => exact .nil
    | cons part rest ih =>
      cases hpart : text? part with
      | none =>
        rw [List.filterMap_cons_none hpart]
        refine .pass (fun text hgives => ?_) ih
        rw [(htext part text).mpr hgives] at hpart
        cases hpart
      | some text =>
        rw [List.filterMap_cons_some hpart]
        exact .give ((htext part text).mp hpart) ih
  · intro hcollected
    induction hcollected with
    | nil => rfl
    | @pass part rest texts hnone _ ih =>
      have hpart : text? part = none :=
        Option.eq_none_iff_forall_ne_some.mpr fun text h => hnone text ((htext part text).mp h)
      rw [List.filterMap_cons_none hpart, ih]
    | give hgives _ ih => rw [List.filterMap_cons_some ((htext _ _).mpr hgives), ih]

/-- The test for a value that counts as none. -/
theorem isEmptyKey_iff (value : Json) : isEmptyKey value = true ↔ value.CountsAsNone := by
  constructor
  · intro hempty
    cases value with
    | null => exact .null
    | string s =>
      obtain rfl : s = "" := String.isEmpty_iff.mp hempty
      exact .emptyText
    | bool b =>
      cases b with
      | true => cases hempty
      | false => exact .no
    | number n => exact .zero (n.isZero_iff_toRat.mp hempty)
    | array | object => cases hempty
  · intro hnone
    cases hnone with
    | null | emptyText | no => rfl
    | zero hzero => exact (Json.Number.isZero_iff_toRat _).mpr hzero

/-- The text of a simple value. -/
theorem scalarText_eq_some_iff (value : Json) (text : String) :
    scalarText value = some text ↔ value.HasText text := by
  constructor
  · intro htext
    cases value with
    | string s =>
      cases htext
      exact .string _
    | bool b =>
      cases b with
      | true =>
        cases htext
        exact .yes
      | false =>
        cases htext
        exact .no
    | number n =>
      cases htext
      exact .number _
    | null | array | object => cases htext
  · intro htext
    cases htext <;> rfl

/-- The text of a member. -/
theorem memberText_eq_some_iff (separator : String) (member : String × Json) (text : String) :
    ((scalarText member.2).map fun inner => member.1 ++ separator ++ inner) = some text ↔
      Json.MemberHasText separator member text := by
  simp only [Option.map_eq_some_iff, scalarText_eq_some_iff, Json.MemberHasText, @eq_comm _ text]

/-- The texts of a value that counts. -/
theorem keyedTexts_eq_some_iff {separator : String} {value : Json} {texts : List String}
    (hcounts : ¬ value.CountsAsNone) :
    keyedTexts separator value = some texts ↔ GivesTexts separator value texts := by
  constructor
  · intro htexts
    cases value with
    | string s =>
      cases htexts
      refine .string fun hs => hcounts ?_
      subst hs
      exact .emptyText
    | array items =>
      exact .array ((filterMap_eq_iff scalarText_eq_some_iff).mp (Option.some.inj htexts))
    | object members =>
      exact .object
        ((filterMap_eq_iff (memberText_eq_some_iff separator)).mp (Option.some.inj htexts))
    | null | bool | number => cases htexts
  · intro htexts
    cases htexts with
    | string => rfl
    | array hitems => exact congrArg some ((filterMap_eq_iff scalarText_eq_some_iff).mpr hitems)
    | object hmembers =>
      exact congrArg some ((filterMap_eq_iff (memberText_eq_some_iff separator)).mpr hmembers)

/-- The values that count and have no texts. -/
theorem keyedTexts_eq_none_iff {separator : String} {value : Json}
    (hcounts : ¬ value.CountsAsNone) :
    keyedTexts separator value = none ↔ value.IsNameless := by
  constructor
  · intro htexts
    cases value with
    | null => exact absurd .null hcounts
    | bool b =>
      cases b with
      | true => exact .yes
      | false => exact absurd .no hcounts
    | number n => exact .number fun hzero => hcounts (.zero hzero)
    | string | array | object => cases htexts
  · intro hnameless
    cases hnameless <;> rfl

/-- A value that gives no names counts. -/
theorem not_countsAsNone_of_isNameless {value : Json} (hnameless : value.IsNameless) :
    ¬ value.CountsAsNone := by
  intro hnone
  cases hnameless with
  | yes => cases hnone
  | number hnumber =>
    cases hnone with
    | zero hzero => exact hnumber hzero

/-- A value that gives texts counts. -/
theorem not_countsAsNone_of_givesTexts {separator : String} {value : Json} {texts : List String}
    (htexts : GivesTexts separator value texts) : ¬ value.CountsAsNone := by
  intro hnone
  cases htexts with
  | string hne =>
    cases hnone
    exact hne rfl
  | array | object => cases hnone

/-! ## Names -/

/-- A character that may stand in the name of a group: an ASCII letter, a digit or an underscore. -/
def IsNameChar (c : Char) : Prop :=
  ('A' ≤ c ∧ c ≤ 'Z') ∨ ('a' ≤ c ∧ c ≤ 'z') ∨ ('0' ≤ c ∧ c ≤ '9') ∨ c = '_'

/-- A name has the characters of a text, with an underscore for each that may not stand in one. -/
def IsNameOf (text name : String) : Prop :=
  List.Forall₂ (fun c d => (IsNameChar c ∧ d = c) ∨ (¬ IsNameChar c ∧ d = '_'))
    text.toList name.toList

/-- The test for characters that may stand in a name. -/
theorem isSafe_iff (c : Char) : isSafe c = true ↔ IsNameChar c := by
  have hupper : c.isUpper = true ↔ 'A' ≤ c ∧ c ≤ 'Z' := decide_eq_true_iff
  have hlower : c.isLower = true ↔ 'a' ≤ c ∧ c ≤ 'z' :=
    (Bool.and_eq_true_iff).trans (and_congr decide_eq_true_iff decide_eq_true_iff)
  have hdigit : c.isDigit = true ↔ '0' ≤ c ∧ c ≤ '9' :=
    (Bool.and_eq_true_iff).trans (and_congr decide_eq_true_iff decide_eq_true_iff)
  have hsafe : isSafe c = (c.isUpper || c.isLower || c.isDigit || c == '_') := rfl
  rw [hsafe, IsNameChar, ← hupper, ← hlower, ← hdigit]
  simp only [Bool.or_eq_true, beq_iff_eq, or_assoc]

/-- How a text is turned into a name. -/
theorem safeName_eq_iff (text name : String) : safeName text = name ↔ IsNameOf text name := by
  have hchar : ∀ c d, (if isSafe c then c else '_') = d ↔
      (IsNameChar c ∧ d = c) ∨ (¬ IsNameChar c ∧ d = '_') := by
    intro c d
    rw [← isSafe_iff]
    cases isSafe c <;> simp [eq_comm]
  unfold IsNameOf
  simp only [← hchar]
  rw [← List.forall₂_map_left_iff, List.forall₂_eq_eq_eq, ← String.toList_inj, safeName,
    String.toList_ofList]

/-- A name has as many characters as its text. -/
theorem IsNameOf.length_eq {text name : String} (hname : IsNameOf text name) :
    name.length = text.length := by
  rw [← String.length_toList, ← String.length_toList]
  exact (List.Forall₂.length_eq hname).symm

/-- All characters of a name may stand in one. -/
theorem IsNameOf.isNameChar {text name : String} (hname : IsNameOf text name) :
    ∀ d ∈ name.toList, IsNameChar d := by
  unfold IsNameOf at hname
  generalize text.toList = cs at hname
  generalize name.toList = ds at hname ⊢
  induction hname with
  | nil => exact List.forall_mem_nil _
  | cons hchar _ ih =>
    refine List.forall_mem_cons.mpr ⟨?_, ih⟩
    rcases hchar with ⟨hc, rfl⟩ | ⟨_, rfl⟩
    · exact hc
    · exact .inr (.inr (.inr rfl))

/-! ## Rules -/

/-- A rule finds no value for a node, or one that counts as none. -/
def FindsNone (rule : KeyedGroup) (node : Node) : Prop :=
  (∀ value, ¬ node.attributes.LeadsTo rule.key value) ∨
    ∃ value, node.attributes.LeadsTo rule.key value ∧ value.CountsAsNone

/-- What a rule comes to for a node, if it is strict and if it is not. -/
inductive Outcome (rule : KeyedGroup) (node : Node) : Bool → Except Error (List String) → Prop where
  | missing (hnone : FindsNone rule node) :
      Outcome rule node true (.error (.missingField node.id rule.key))
  | passed (hnone : FindsNone rule node) : Outcome rule node false (.ok [])
  | invalid {strict : Bool} {value : Json} (hvalue : node.attributes.LeadsTo rule.key value)
      (hnameless : value.IsNameless) :
      Outcome rule node strict (.error (.invalidKeyedValue node.id rule.key value.compact))
  | named {strict : Bool} {value : Json} {texts names : List String}
      (hvalue : node.attributes.LeadsTo rule.key value)
      (htexts : GivesTexts rule.separator value texts)
      (hnames : List.Forall₂ (fun text => IsNameOf (rule.lead ++ rule.separator ++ text))
        texts names) :
      Outcome rule node strict (.ok names)

variable {rule : KeyedGroup} {node : Node} {strict : Bool} {value : Json}

/-- A rule that finds no value that counts. -/
theorem keyedNames_of_findsNone (hnone : FindsNone rule node) :
    keyedNames rule node strict =
      if strict then .error (.missingField node.id rule.key) else .ok [] := by
  unfold keyedNames
  rcases hnone with habsent | ⟨value, hvalue, hempty⟩
  · have hnone : node.attributeAt rule.key = none := by
      rw [Option.eq_none_iff_forall_ne_some]
      exact fun value hvalue => habsent value ((node.attributeAt_eq_some_iff _ _).mp hvalue)
    rw [hnone]
  · have hsome : node.attributeAt rule.key = some value :=
      (node.attributeAt_eq_some_iff _ _).mpr hvalue
    simp only [hsome, (isEmptyKey_iff value).mpr hempty, if_true]

/-- A rule that finds a value that counts. -/
theorem keyedNames_of_leadsTo (hvalue : node.attributes.LeadsTo rule.key value)
    (hcounts : ¬ value.CountsAsNone) :
    keyedNames rule node strict =
      match keyedTexts rule.separator value with
      | none => .error (.invalidKeyedValue node.id rule.key value.compact)
      | some texts =>
        .ok (texts.map fun text => safeName (rule.lead ++ rule.separator ++ text)) := by
  have hsome : node.attributeAt rule.key = some value :=
    (node.attributeAt_eq_some_iff _ _).mpr hvalue
  unfold keyedNames
  simp only [hsome, mt (isEmptyKey_iff value).mp hcounts]
  rfl

/-- Texts are turned into names one by one. -/
theorem map_safeName_eq_iff (lead : String) (texts names : List String) :
    texts.map (fun text => safeName (lead ++ text)) = names ↔
      List.Forall₂ (fun text => IsNameOf (lead ++ text)) texts names := by
  have hname : (fun text => IsNameOf (lead ++ text)) =
      fun text name => safeName (lead ++ text) = name := by
    ext text name
    exact (safeName_eq_iff _ _).symm
  rw [hname, ← List.forall₂_map_left_iff, List.forall₂_eq_eq_eq]

/-- A rule comes to an outcome. -/
theorem outcome_keyedNames (rule : KeyedGroup) (node : Node) (strict : Bool) :
    Outcome rule node strict (keyedNames rule node strict) := by
  by_cases hnone : FindsNone rule node
  · rw [keyedNames_of_findsNone hnone]
    cases strict with
    | false => exact .passed hnone
    | true => exact .missing hnone
  · simp only [FindsNone, not_or, not_forall, not_not, not_exists, not_and] at hnone
    obtain ⟨⟨value, hvalue⟩, hnone⟩ := hnone
    have hcounts := hnone value hvalue
    rw [keyedNames_of_leadsTo hvalue hcounts]
    cases htexts : keyedTexts rule.separator value with
    | none => exact .invalid hvalue ((keyedTexts_eq_none_iff hcounts).mp htexts)
    | some texts =>
      exact .named hvalue ((keyedTexts_eq_some_iff hcounts).mp htexts)
        ((map_safeName_eq_iff _ texts _).mp rfl)

/-- What a rule comes to. -/
theorem keyedNames_eq_iff (outcome : Except Error (List String)) :
    keyedNames rule node strict = outcome ↔ Outcome rule node strict outcome := by
  constructor
  · rintro rfl
    exact outcome_keyedNames rule node strict
  · intro houtcome
    cases houtcome with
    | missing hnone => exact keyedNames_of_findsNone hnone
    | passed hnone => exact keyedNames_of_findsNone hnone
    | invalid hvalue hnameless =>
      have hcounts := not_countsAsNone_of_isNameless hnameless
      rw [keyedNames_of_leadsTo hvalue hcounts, (keyedTexts_eq_none_iff hcounts).mpr hnameless]
    | named hvalue htexts hnames =>
      have hcounts := not_countsAsNone_of_givesTexts htexts
      rw [keyedNames_of_leadsTo hvalue hcounts, (keyedTexts_eq_some_iff hcounts).mpr htexts]
      exact congrArg Except.ok ((map_safeName_eq_iff _ _ _).mpr hnames)

/-- What a rule comes to for a node.  An attribute is looked up part by part along the key, and the
value at its end decides.  Without one, or with one that counts as none, the rule fails if it is
strict and gives no names otherwise.  A value of a kind without names is an error in both ways.  All
others give a name for each of their texts, in order, which for a node that is read is the order of
the members' keys.  Names have as many characters as the texts they are made from. -/
theorem keyedNames_outcome (rule : KeyedGroup) (node : Node) (strict : Bool) :
    (∀ first rest, node.attributeAt (first ++ "." ++ rest) =
      (node.attributeAt first).bind fun inner => Node.lookUp inner rest) ∧
    (∀ path value, node.attributeAt path = some value ↔ node.attributes.LeadsTo path value) ∧
    (∀ outcome, keyedNames rule node strict = outcome ↔ Outcome rule node strict outcome) ∧
    (∀ text name, IsNameOf text name →
      name.length = text.length ∧ ∀ c ∈ name.toList, IsNameChar c) ∧
    ∀ stdout nodes, Node.parse stdout = .ok nodes → node ∈ nodes →
      ∀ path members, node.attributeAt path = some (.object members) →
        Entries.Ascending members := by
  refine ⟨Node.lookUp_append _, node.attributeAt_eq_some_iff, keyedNames_eq_iff,
    fun text name hname => ⟨hname.length_eq, hname.isNameChar⟩, ?_⟩
  intro stdout nodes hparse hnode path members hmembers
  have hordered := Node.ordered_attributes_of_parse hparse node hnode
  exact (Node.ordered_of_valueAt hordered hmembers).ascending

/-- Labels of several kinds, and a weight of minus zero.  A label whose key has a dot gives a name,
and yet no path leads to it. -/
theorem keyedNames_of_labels :
    ∃ (rule weight : KeyedGroup) (node : Node),
      Outcome rule node true (.ok ["k_a_b_x_y", "k_on_true", "k_z_3"]) ∧
      node.attributeAt (rule.key ++ "." ++ "a.b") = none ∧
      Outcome weight node true (.error (.missingField "a" "Spec.Weight")) := by
  obtain ⟨rule, hrule⟩ : ∃ rule : KeyedGroup,
      rule = { key := "Spec.Labels", lead := "k", separator := "-" } := ⟨_, rfl⟩
  obtain ⟨weight, hweight⟩ : ∃ rule : KeyedGroup,
      rule = { key := "Spec.Weight", lead := "", separator := "_" } := ⟨_, rfl⟩
  obtain ⟨node, hnode⟩ : ∃ node : Node, node =
      { id := "a", role := .worker, address := "10.0.0.1", managerStatus := none
        attributes := .object [("Spec", .object [("Labels", .object
          [("a.b", .string "x y"), ("n", .null), ("on", .bool true), ("sub", .object []),
            ("z", Json.ofNat 3)]),
          ("Weight", .number (.double (.zero true)))])] } := ⟨_, rfl⟩
  obtain ⟨hpath, _, houtcome, _, _⟩ := keyedNames_outcome rule node true
  obtain ⟨_, _, hweightOutcome, _, _⟩ := keyedNames_outcome weight node true
  refine ⟨rule, weight, node, (houtcome _).mp ?_, ?_, (hweightOutcome _).mp ?_⟩
  · rw [hrule, hnode]
    rfl
  · rw [hpath, hrule, hnode]
    rfl
  · rw [hweight, hnode]
    rfl

end Swarm

end ContainerOps
