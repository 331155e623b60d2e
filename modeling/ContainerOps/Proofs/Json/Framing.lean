import ContainerOps.Proofs.Json.Scalar

/-!
# Values in front of more text

A value that is read to its end at the front of a text is read so before any text that cannot
belong to it, with more steps, and with as much room as its own nesting takes.

Main results:

- `exists_valueRead` and `ValueRead.value_eq`: how a value is read to its end.
- `items_succ_iff` and `members_succ_iff`: how items and members are read to theirs.
- `value_append`: a value is read so before any delimited text, where it fits.
-/

namespace ContainerOps.Json

/-! ## Nesting -/

namespace Outline

mutual

/-- How many arrays and objects are inside one another, with the outermost. -/
def depth : Outline → Nat
  | .array items _ => itemsDepth items + 1
  | .object members _ => membersDepth members + 1
  | _ => 0

/-- The greatest depth among some items. -/
def itemsDepth : List Outline → Nat
  | [] => 0
  | item :: rest => max (depth item) (itemsDepth rest)

/-- The greatest depth among some members. -/
def membersDepth : List (String × Outline) → Nat
  | [] => 0
  | (_, item) :: rest => max (depth item) (membersDepth rest)

end

end Outline

namespace Reader

open ContainerOps.Text

variable {fuel fuel' room room' : Nat} {cs rest tail : List Char} {o : Outline}
  {found : List Outline} {named : List (String × Outline)}

/-! ## What is read to its end -/

/-- The words with a meaning of their own. -/
def words : List (String × Outline) :=
  [("null", .null), ("true", .bool true), ("false", .bool false)]

/-- The characters that no number begins with, since another kind of value does. -/
def marks : List Char :=
  ['"', '[', '\x7b', 'n', 't', 'f']

/-- How a value is read to its end, by its first character. -/
inductive ValueRead (fuel : Nat) : Nat → Char → List Char → Outline → List Char → Prop where
  | string {room : Nat} {body rest : List Char} {s : String}
      (hbody : string body = some (s, rest)) : ValueRead fuel room '"' body (.string s) rest
  | emptyArray {room : Nat} {body rest : List Char} (hend : skipSpace body = ']' :: rest) :
      ValueRead fuel (room + 1) '[' body (.array [] true) rest
  | array {room : Nat} {body rest : List Char} {found : List Outline}
      (hfirst : ∀ more, skipSpace body ≠ ']' :: more)
      (hitems : items fuel room (skipSpace body) = (found, some rest)) :
      ValueRead fuel (room + 1) '[' body (.array found true) rest
  | emptyObject {room : Nat} {body rest : List Char} (hend : skipSpace body = '\x7d' :: rest) :
      ValueRead fuel (room + 1) '\x7b' body (.object [] true) rest
  | object {room : Nat} {body rest : List Char} {named : List (String × Outline)}
      (hfirst : ∀ more, skipSpace body ≠ '\x7d' :: more)
      (hmembers : members fuel room (skipSpace body) = (named, some rest)) :
      ValueRead fuel (room + 1) '\x7b' body (.object named true) rest
  | word {room : Nat} {c : Char} {body rest : List Char} {w : String × Outline} (hw : w ∈ words)
      (htext : c :: body = w.1.toList ++ rest) : ValueRead fuel room c body w.2 rest
  | number {room : Nat} {c : Char} {body rest : List Char} {n : Number} (hc : c ∉ marks)
      (hnumber : number (c :: body) = some (n, rest)) :
      ValueRead fuel room c body (.number n) rest

/-- A string or a number is read to its end when it is read. -/
theorem leaf_eq_some_iff {α : Type} {wrap : α → Outline} {a? : Option (α × List Char)} :
    leaf wrap a? = (o, some rest) ↔ ∃ a, a? = some (a, rest) ∧ wrap a = o := by
  cases a? with
  | none => simp [leaf]
  | some found =>
    obtain ⟨a, after⟩ := found
    simp [leaf, and_comm]

/-- A word is read to its end when it stands there. -/
theorem word_eq_some_iff {w : String} {meaning : Outline} :
    word w meaning cs = (o, some rest) ↔ cs = w.toList ++ rest ∧ meaning = o := by
  rw [← after?_eq_some_iff, word]
  cases after? w.toList cs with
  | none => simp
  | some after => simp [and_comm]

/-- A value that is read to its end is read as its first character tells. -/
theorem exists_valueRead (h : value (fuel + 1) room cs = (o, some rest)) :
    ∃ c body, skipSpace cs = c :: body ∧ ValueRead fuel room c body o rest := by
  rw [value] at h
  split at h
  case h_1 body hcs =>
    obtain ⟨s, hs, rfl⟩ := leaf_eq_some_iff.mp h
    exact ⟨'"', body, hcs, .string hs⟩
  case h_2 body hcs =>
    cases room with
    | zero => cases h
    | succ room =>
      refine ⟨'[', body, hcs, ?_⟩
      dsimp only at h
      split at h
      case h_1 after hend =>
        cases h
        exact .emptyArray hend
      case h_2 hfirst =>
        obtain ⟨rfl, hrest⟩ := Prod.mk.inj h
        rw [hrest]
        exact .array hfirst (Prod.ext rfl hrest)
  case h_3 body hcs =>
    cases room with
    | zero => cases h
    | succ room =>
      refine ⟨'\x7b', body, hcs, ?_⟩
      dsimp only at h
      split at h
      case h_1 after hend =>
        cases h
        exact .emptyObject hend
      case h_2 hfirst =>
        obtain ⟨rfl, hrest⟩ := Prod.mk.inj h
        rw [hrest]
        exact .object hfirst (Prod.ext rfl hrest)
  case h_4 body hcs =>
    obtain ⟨htext, rfl⟩ := word_eq_some_iff.mp h
    exact ⟨'n', body, hcs, .word (w := ("null", .null)) (by simp [words]) htext⟩
  case h_5 body hcs =>
    obtain ⟨htext, rfl⟩ := word_eq_some_iff.mp h
    exact ⟨'t', body, hcs, .word (w := ("true", .bool true)) (by simp [words]) htext⟩
  case h_6 body hcs =>
    obtain ⟨htext, rfl⟩ := word_eq_some_iff.mp h
    exact ⟨'f', body, hcs, .word (w := ("false", .bool false)) (by simp [words]) htext⟩
  case h_7 hquote hbracket hbrace hn ht hf =>
    obtain ⟨n, hn, rfl⟩ := leaf_eq_some_iff.mp h
    cases hcs : skipSpace cs with
    | nil =>
      rw [hcs] at hn
      cases hn
    | cons c body =>
      rw [hcs] at hn
      refine ⟨c, body, rfl, .number ?_ hn⟩
      simp only [marks, List.mem_cons, List.not_mem_nil, or_false, not_or]
      refine ⟨?_, ?_, ?_, ?_, ?_, ?_⟩ <;> (rintro rfl; simp_all)

/-- A value that is read as its first character tells is read to its end. -/
theorem ValueRead.value_eq {c : Char} {body : List Char} (hcs : skipSpace cs = c :: body)
    (hread : ValueRead fuel room c body o rest) : value (fuel + 1) room cs = (o, some rest) := by
  rw [value, hcs]
  cases hread with
  | string hbody => exact leaf_eq_some_iff.mpr ⟨_, hbody, rfl⟩
  | emptyArray hend => simp only [hend]
  | array hfirst hitems => simp only [hitems, Option.isSome_some]
  | emptyObject hend => simp only [hend]
  | object hfirst hmembers => simp only [hmembers, Option.isSome_some]
  | word hw htext =>
    simp only [words, List.mem_cons, List.not_mem_nil, or_false] at hw
    rcases hw with rfl | rfl | rfl
    all_goals
      obtain ⟨rfl, -⟩ := List.cons.inj htext
      exact word_eq_some_iff.mpr ⟨htext, rfl⟩
  | number hc hnumber =>
    split
    case h_7 => exact leaf_eq_some_iff.mpr ⟨_, hnumber, rfl⟩
    all_goals
      rename_i heq
      obtain ⟨rfl, -⟩ := List.cons.inj heq
      exact absurd (by decide) hc

/-- How items are read to the closing bracket. -/
inductive ItemsRead (fuel room : Nat) (cs : List Char) : List Outline → List Char → Prop where
  | last {o : Outline} {after rest : List Char} (hitem : value fuel room cs = (o, some after))
      (hend : skipSpace after = ']' :: rest) : ItemsRead fuel room cs [o] rest
  | more {o : Outline} {after next rest : List Char} {found : List Outline}
      (hitem : value fuel room cs = (o, some after)) (hcomma : skipSpace after = ',' :: next)
      (hnext : ∀ more, skipSpace next ≠ ']' :: more)
      (hmore : items fuel room (skipSpace next) = (found, some rest)) :
      ItemsRead fuel room cs (o :: found) rest

/-- Items are read to the closing bracket one after another. -/
theorem items_succ_iff :
    items (fuel + 1) room cs = (found, some rest) ↔ ItemsRead fuel room cs found rest := by
  constructor
  · intro h
    rw [items] at h
    split at h
    case h_1 o hitem => cases h
    case h_2 o after hitem =>
      split at h
      case h_1 hend =>
        cases h
        exact .last hitem hend
      case h_2 next hcomma =>
        split at h
        case h_1 => cases h
        case h_2 hnext =>
          obtain ⟨rfl, hrest⟩ := Prod.mk.inj h
          exact .more hitem hcomma hnext (Prod.ext rfl hrest)
      case h_3 => cases h
  · intro h
    cases h with
    | last hitem hend => rw [items, hitem]; simp only [hend]
    | more hitem hcomma hnext hmore => rw [items, hitem]; simp only [hcomma, hmore]

/-- How members are read to the closing brace. -/
inductive MembersRead (fuel room : Nat) (cs : List Char) :
    List (String × Outline) → List Char → Prop where
  | last {key : String} {o : Outline} {body after text behind rest : List Char}
      (hquote : skipSpace cs = '"' :: body) (hkey : string body = some (key, after))
      (hcolon : skipSpace after = ':' :: text) (hvalue : value fuel room text = (o, some behind))
      (hend : skipSpace behind = '\x7d' :: rest) : MembersRead fuel room cs [(key, o)] rest
  | more {key : String} {o : Outline} {body after text behind next rest : List Char}
      {named : List (String × Outline)}
      (hquote : skipSpace cs = '"' :: body) (hkey : string body = some (key, after))
      (hcolon : skipSpace after = ':' :: text) (hvalue : value fuel room text = (o, some behind))
      (hcomma : skipSpace behind = ',' :: next)
      (hmore : members fuel room next = (named, some rest)) :
      MembersRead fuel room cs ((key, o) :: named) rest

/-- Members are read to the closing brace one after another. -/
theorem members_succ_iff :
    members (fuel + 1) room cs = (named, some rest) ↔ MembersRead fuel room cs named rest := by
  constructor
  · intro h
    rw [members] at h
    split at h
    case h_1 body hquote =>
      split at h
      case h_1 => cases h
      case h_2 key after hkey =>
        split at h
        case h_1 text hcolon =>
          split at h
          case h_1 => cases h
          case h_2 o behind hvalue =>
            split at h
            case h_1 hend =>
              cases h
              exact .last hquote hkey hcolon hvalue hend
            case h_2 next hcomma =>
              obtain ⟨rfl, hrest⟩ := Prod.mk.inj h
              exact .more hquote hkey hcolon hvalue hcomma (Prod.ext rfl hrest)
            case h_3 => cases h
        case h_2 => cases h
    case h_2 => cases h
  · intro h
    cases h with
    | last hquote hkey hcolon hvalue hend =>
      rw [members, hquote]
      simp only [hkey, hcolon, hvalue, hend]
    | more hquote hkey hcolon hvalue hcomma hmore =>
      rw [members, hquote]
      simp only [hkey, hcolon, hvalue, hcomma, hmore]

/-! ## What is read so before more text -/

/-- A value that is read to its end begins with something else than white space. -/
theorem skipSpace_ne_nil_of_value (h : value fuel room cs = (o, some rest)) :
    skipSpace cs ≠ [] := by
  cases fuel with
  | zero => cases h
  | succ fuel =>
    obtain ⟨c, body, hcs, -⟩ := exists_valueRead h
    simp [hcs]

/-- Items that are read to their end begin with a value that is. -/
theorem exists_value_of_items (h : items fuel room cs = (found, some rest)) :
    ∃ fuel o after, value fuel room cs = (o, some after) := by
  cases fuel with
  | zero => cases h
  | succ fuel =>
    cases items_succ_iff.mp h with
    | last hitem hend => exact ⟨fuel, _, _, hitem⟩
    | more hitem hcomma hnext hmore => exact ⟨fuel, _, _, hitem⟩

/-- Items that are read to their end begin with something else than white space. -/
theorem skipSpace_ne_nil_of_items (h : items fuel room cs = (found, some rest)) :
    skipSpace cs ≠ [] := by
  obtain ⟨fuel, o, after, hvalue⟩ := exists_value_of_items h
  exact skipSpace_ne_nil_of_value hvalue

/-- Members that are read to their end begin with something else than white space. -/
theorem skipSpace_ne_nil_of_members (h : members fuel room cs = (named, some rest)) :
    skipSpace cs ≠ [] := by
  cases fuel with
  | zero => cases h
  | succ fuel =>
    cases members_succ_iff.mp h with
    | last hquote => simp [hquote]
    | more hquote => simp [hquote]

/-- White space is passed over only once. -/
theorem skipSpace_skipSpace (cs : List Char) : skipSpace (skipSpace cs) = skipSpace cs :=
  List.dropWhile_idempotent _ cs

/-- What is read to its end with so many steps is read so before a given text, with more steps and
where it fits. -/
structure ReadsBefore (tail : List Char) (fuel : Nat) : Prop where
  value : ∀ {fuel' room room' : Nat} {cs rest : List Char} {o : Outline}, fuel ≤ fuel' →
    value fuel room cs = (o, some rest) → o.depth ≤ room' →
      value fuel' room' (cs ++ tail) = (o, some (rest ++ tail))
  items : ∀ {fuel' room room' : Nat} {cs rest : List Char} {found : List Outline}, fuel ≤ fuel' →
    items fuel room cs = (found, some rest) → Outline.itemsDepth found ≤ room' →
      items fuel' room' (cs ++ tail) = (found, some (rest ++ tail))
  members : ∀ {fuel' room room' : Nat} {cs rest : List Char} {named : List (String × Outline)},
    fuel ≤ fuel' → members fuel room cs = (named, some rest) →
      Outline.membersDepth named ≤ room' →
      members fuel' room' (cs ++ tail) = (named, some (rest ++ tail))

/-- A first character that is not a closing mark is none before more text either. -/
theorem skipSpace_append_ne_cons {mark : Char} (hne : skipSpace cs ≠ [])
    (hcs : ∀ more, skipSpace cs ≠ mark :: more) (tail more : List Char) :
    skipSpace (cs ++ tail) ≠ mark :: more := by
  obtain ⟨c, after, hafter⟩ := List.exists_cons_of_ne_nil hne
  rw [skipSpace_append_of_eq_cons hafter]
  intro heq
  exact hcs after (by rw [hafter, (List.cons.inj heq).1])

/-- A value that is read by its first character is read so before delimited text, if what is in it
is. -/
theorem ValueRead.append {c : Char} {body : List Char} (htail : Delimited tail)
    (hbefore : ReadsBefore tail fuel) (hfuel : fuel ≤ fuel')
    (hread : ValueRead fuel room c body o rest) (hdepth : o.depth ≤ room') :
    ValueRead fuel' room' c (body ++ tail) o (rest ++ tail) := by
  cases hread with
  | string hbody => exact .string (string_append hbody tail)
  | emptyArray hend =>
    rw [Outline.depth] at hdepth
    obtain ⟨room', rfl, -⟩ := exists_bound_of_succ_le hdepth
    exact .emptyArray (skipSpace_append_of_eq_cons hend tail)
  | array hfirst hitems =>
    rw [Outline.depth] at hdepth
    obtain ⟨room', rfl, hle⟩ := exists_bound_of_succ_le hdepth
    have hne := skipSpace_ne_nil_of_items hitems
    rw [skipSpace_skipSpace] at hne
    refine .array (skipSpace_append_ne_cons hne hfirst tail) ?_
    rw [skipSpace_append hne]
    exact hbefore.items hfuel hitems hle
  | emptyObject hend =>
    rw [Outline.depth] at hdepth
    obtain ⟨room', rfl, -⟩ := exists_bound_of_succ_le hdepth
    exact .emptyObject (skipSpace_append_of_eq_cons hend tail)
  | object hfirst hmembers =>
    rw [Outline.depth] at hdepth
    obtain ⟨room', rfl, hle⟩ := exists_bound_of_succ_le hdepth
    have hne := skipSpace_ne_nil_of_members hmembers
    rw [skipSpace_skipSpace] at hne
    refine .object (skipSpace_append_ne_cons hne hfirst tail) ?_
    rw [skipSpace_append hne]
    exact hbefore.members hfuel hmembers hle
  | word hw htext =>
    refine .word hw ?_
    rw [← List.cons_append, htext, List.append_assoc]
  | number hc hnumber => exact .number hc (number_append htail hnumber)

/-- Items are read so before a text, if the first and the others are. -/
theorem ItemsRead.append (hbefore : ReadsBefore tail fuel) (hfuel : fuel ≤ fuel')
    (hread : ItemsRead fuel room cs found rest) (hdepth : Outline.itemsDepth found ≤ room') :
    ItemsRead fuel' room' (cs ++ tail) found (rest ++ tail) := by
  cases hread with
  | last hitem hend =>
    simp only [Outline.itemsDepth] at hdepth
    exact .last (hbefore.value hfuel hitem (by omega)) (skipSpace_append_of_eq_cons hend tail)
  | more hitem hcomma hnext hmore =>
    rw [Outline.itemsDepth] at hdepth
    have hne := skipSpace_ne_nil_of_items hmore
    rw [skipSpace_skipSpace] at hne
    refine .more (hbefore.value hfuel hitem (by omega)) (skipSpace_append_of_eq_cons hcomma tail)
      (skipSpace_append_ne_cons hne hnext tail) ?_
    rw [skipSpace_append hne]
    exact hbefore.items hfuel hmore (by omega)

/-- Members are read so before a text, if the first and the others are. -/
theorem MembersRead.append (hbefore : ReadsBefore tail fuel) (hfuel : fuel ≤ fuel')
    (hread : MembersRead fuel room cs named rest) (hdepth : Outline.membersDepth named ≤ room') :
    MembersRead fuel' room' (cs ++ tail) named (rest ++ tail) := by
  cases hread with
  | last hquote hkey hcolon hvalue hend =>
    simp only [Outline.membersDepth] at hdepth
    exact .last (skipSpace_append_of_eq_cons hquote tail) (string_append hkey tail)
      (skipSpace_append_of_eq_cons hcolon tail) (hbefore.value hfuel hvalue (by omega))
      (skipSpace_append_of_eq_cons hend tail)
  | more hquote hkey hcolon hvalue hcomma hmore =>
    rw [Outline.membersDepth] at hdepth
    exact .more (skipSpace_append_of_eq_cons hquote tail) (string_append hkey tail)
      (skipSpace_append_of_eq_cons hcolon tail) (hbefore.value hfuel hvalue (by omega))
      (skipSpace_append_of_eq_cons hcomma tail) (hbefore.members hfuel hmore (by omega))

/-- Whatever the number of steps, what is read to its end is read so before delimited text. -/
theorem readsBefore (htail : Delimited tail) (fuel : Nat) : ReadsBefore tail fuel := by
  induction fuel with
  | zero =>
    constructor
    all_goals
      intro fuel' room room' cs rest o hfuel h
      cases h
  | succ fuel ih =>
    constructor
    case value =>
      intro fuel' room room' cs rest o hfuel h hdepth
      obtain ⟨fuel', rfl, hle⟩ := exists_bound_of_succ_le hfuel
      obtain ⟨c, body, hcs, hread⟩ := exists_valueRead h
      exact (hread.append htail ih hle hdepth).value_eq (skipSpace_append_of_eq_cons hcs tail)
    case items =>
      intro fuel' room room' cs rest found hfuel h hdepth
      obtain ⟨fuel', rfl, hle⟩ := exists_bound_of_succ_le hfuel
      exact items_succ_iff.mpr ((items_succ_iff.mp h).append ih hle hdepth)
    case members =>
      intro fuel' room room' cs rest named hfuel h hdepth
      obtain ⟨fuel', rfl, hle⟩ := exists_bound_of_succ_le hfuel
      exact members_succ_iff.mpr ((members_succ_iff.mp h).append ih hle hdepth)

/-- A value that is read to its end is read so before any delimited text, with more steps and
with room for its nesting. -/
theorem value_append (htail : Delimited tail) (hfuel : fuel ≤ fuel')
    (h : value fuel room cs = (o, some rest)) (hdepth : o.depth ≤ room') :
    value fuel' room' (cs ++ tail) = (o, some (rest ++ tail)) :=
  (readsBefore htail fuel).value hfuel h hdepth

end Reader

end ContainerOps.Json
