import ContainerOps.Proofs.Json.Leaves
import ContainerOps.Proofs.Json.Reading
import ContainerOps.Proofs.Json.Sequence

/-!
# Values that are read back from their text

What is written of a value is read as that value again, with arrays and objects in as many levels as
a text may have.  Doubles are the exception.  The reader does not always make the nearest double of
some digits, so that the text of a double may be read as another one, and it has to be asked whether
a number is read back.

Main results:

- `Exact.isReadBack`: the text of a value is read as the value written out in full.
- `parse?_compact`: a value is parsed back from its text.
- `Reader.depth_document` and `Outline.depth_of_value?`: how deep a value that was read can be.
-/

namespace ContainerOps.Json

open ContainerOps.Text

/-! ## Values -/

/-- Every number in a value is read back from its digits. -/
inductive Exact : Json → Prop where
  | null : Exact null
  | bool (b : Bool) : Exact (bool b)
  | number {n : Number} (hn : n.ReadsBack) : Exact (number n)
  | string (s : String) : Exact (string s)
  | array {items : List Json} (hitems : ∀ item ∈ items, Exact item) : Exact (array items)
  | object {members : List (String × Json)} (hmembers : ∀ member ∈ members, Exact member.2) :
      Exact (object members)

/-- The text of a value is read as that value written out in full. -/
def IsReadBack (v : Json) : Prop :=
  Reader.document v.compact = { outline := .ofJson v, ended := true }

/-- The nesting of a value. -/
def depth (v : Json) : Nat :=
  (Outline.ofJson v).depth

/-- The texts of items are those of each. -/
theorem compactItems_eq_map (items : List Json) : compactItems items = items.map compact := by
  induction items with
  | nil => rfl
  | cons v rest ih => rw [compactItems, ih, List.map_cons]

/-- The texts of members are those of each. -/
theorem compactMembers_eq_map (members : List (String × Json)) :
    compactMembers members = members.map fun m => quotedText m.1 ++ ":" ++ m.2.compact := by
  induction members with
  | nil => rfl
  | cons member rest ih => rw [compactMembers, ih, List.map_cons]

namespace Outline

/-- Items are written out in full one by one. -/
theorem ofItems_eq_map (items : List Json) : ofItems items = items.map ofJson := by
  induction items with
  | nil => rfl
  | cons v rest ih => rw [ofItems, ih, List.map_cons]

/-- Members are written out in full one by one. -/
theorem ofObject_eq_map (members : List (String × Json)) :
    ofObject members = members.map fun m => (m.1, ofJson m.2) := by
  induction members with
  | nil => rfl
  | cons member rest ih => rw [ofObject, ih, List.map_cons]

/-- Items are as deep as the deepest of them. -/
theorem itemsDepth_le_iff {items : List Outline} {n : Nat} :
    itemsDepth items ≤ n ↔ ∀ item ∈ items, item.depth ≤ n := by
  induction items with
  | nil => simp [itemsDepth]
  | cons item rest ih => rw [itemsDepth, Nat.max_le, ih, List.forall_mem_cons]

/-- Members are as deep as the deepest of them. -/
theorem membersDepth_le_iff {members : List (String × Outline)} {n : Nat} :
    membersDepth members ≤ n ↔ ∀ member ∈ members, member.2.depth ≤ n := by
  induction members with
  | nil => simp [membersDepth]
  | cons member rest ih => rw [membersDepth, Nat.max_le, ih, List.forall_mem_cons]

end Outline

/-- An array has room for its items one level further in. -/
theorem depth_array_le_iff {items : List Json} {n : Nat} :
    (array items).depth ≤ n + 1 ↔ ∀ item ∈ items, item.depth ≤ n := by
  rw [depth, Outline.ofJson, Outline.depth, Nat.add_le_add_iff_right, Outline.itemsDepth_le_iff,
    Outline.ofItems_eq_map, List.forall_mem_map]
  rfl

/-- An object has room for its members one level further in. -/
theorem depth_object_le_iff {members : List (String × Json)} {n : Nat} :
    (object members).depth ≤ n + 1 ↔ ∀ member ∈ members, member.2.depth ≤ n := by
  rw [depth, Outline.ofJson, Outline.depth, Nat.add_le_add_iff_right,
    Outline.membersDepth_le_iff, Outline.ofObject_eq_map, List.forall_mem_map]
  rfl

namespace Reader

variable {cs rest : List Char}

/-- A text that is read to its end is read as the whole. -/
theorem document_of_valueRead {text : String} {fuel : Nat} {c : Char} {body : List Char}
    {o : Outline} (htext : text.toList = c :: body) (hc : isSpace c = false)
    (hfuel : 2 * text.toList.length + 1 = fuel) (hread : ValueRead fuel maxDepth c body o []) :
    document text = { outline := o, ended := true } := by
  subst hfuel
  have hvalue := hread.value_eq (skipSpace_cons_of_not_space hc body)
  rw [← htext] at hvalue
  simp only [document, hvalue]
  rfl

/-- What a number is read of begins with a minus sign or a digit. -/
theorem eq_minus_or_digit?_of_number {c : Char} {body : List Char} {n : Number}
    (hnumber : number (c :: body) = some (n, rest)) : c = '-' ∨ digit? c ≠ none := by
  by_contra hneither
  obtain ⟨hminus, hdigit⟩ := not_or.mp hneither
  rw [number_cons_of_ne hminus, unsigned_eq] at hnumber
  simp [digits, not_not.mp hdigit] at hnumber

/-- A number is read of its digits alone. -/
theorem document_number {n : Number} (hn : n.ReadsBack) :
    document n.text = { outline := .number n, ended := true } := by
  unfold Number.ReadsBack at hn
  cases htext : n.text.toList with
  | nil =>
    rw [htext] at hn
    cases hn
  | cons c body =>
    rw [htext] at hn
    have hc : c ∉ marks ∧ isSpace c = false := by
      rcases eq_minus_or_digit?_of_number hn with rfl | hdigit
      · decide
      · refine ⟨fun hmark => ?_, Bool.eq_false_iff.mpr fun hspace => ?_⟩
        · simp only [marks, List.mem_cons, List.not_mem_nil, or_false] at hmark
          rcases hmark with rfl | rfl | rfl | rfl | rfl | rfl <;> exact hdigit rfl
        · exact hdigit (delimited_of_isSpace hspace [] c rfl).1
    exact document_of_valueRead htext hc.2 rfl (.number hc.1 hn)

/-- A text is read of what is written as a string. -/
theorem document_quotedText (s : String) :
    document (quotedText s) = { outline := .string s, ended := true } := by
  have htext : (quotedText s).toList = '"' :: (s.toList.flatMap escapedChar ++ '"' :: []) := by
    simp [quotedText]
  exact document_of_valueRead htext (by decide) rfl (.string (string_quoted s []))

/-- Items that are joined stand next to each other without gaps. -/
theorem spaced_join {docs : List String} (hne : docs ≠ []) :
    Spaced isSpace "," docs (join "," docs) := by
  have hempty : IsGap isSpace "" := by decide
  induction docs with
  | nil => exact absurd rfl hne
  | cons doc docs ih =>
    cases docs with
    | nil =>
      have hlast : Spaced isSpace "," [doc] ("" ++ doc ++ "") := .last hempty hempty
      simpa using hlast
    | cons second docs =>
      have hmore : Spaced isSpace "," (doc :: second :: docs)
          ("" ++ doc ++ "" ++ "," ++ join "," (second :: docs)) :=
        .more (List.cons_ne_nil second docs) hempty hempty (ih (List.cons_ne_nil second docs))
      simpa [join_cons_cons] using hmore

/-- A value that is read back is a text of its own nesting. -/
theorem isNested_compact {room : Nat} {v : Json} (hv : v.IsReadBack) (hdepth : v.depth ≤ room) :
    IsNested room v.compact := by
  rw [IsReadBack] at hv
  exact ⟨by rw [hv], by rw [hv]; exact hdepth⟩

/-- An array is read back if its items are. -/
theorem isReadBack_array {items : List Json} (hitems : ∀ item ∈ items, item.IsReadBack)
    (hdepth : (array items).depth ≤ maxDepth) : (array items).IsReadBack := by
  have hnested : ∀ doc ∈ items.map compact, IsNested 126 doc :=
    List.forall_mem_map.mpr fun item hitem =>
      isNested_compact (hitems item hitem) (depth_array_le_iff.mp hdepth item hitem)
  have hbody : Spaced isSpace "," (items.map compact) (join "," (items.map compact)) := by
    by_cases hnil : items = []
    · subst hnil
      exact .none (by decide)
    · exact spaced_join (by simpa using hnil)
  have htext : (array items).compact = "" ++ "[" ++ join "," (items.map compact) ++ "]" ++ "" := by
    rw [compact, compactItems_eq_map, String.empty_append, String.append_empty]
  have harray : IsArrayOf (items.map compact) (array items).compact :=
    ⟨"", join "," (items.map compact), "", by decide, by decide, hbody, htext⟩
  rw [IsReadBack, document_array harray hnested, List.map_map, Outline.ofJson,
    Outline.ofItems_eq_map]
  congr 2
  refine List.map_congr_left fun item hitem => ?_
  have hitem := hitems item hitem
  rw [IsReadBack] at hitem
  rw [Function.comp_apply, hitem]

/-- A member is written as its key, a colon and its value. -/
theorem toList_member (key : String) (v : Json) :
    (quotedText key ++ ":" ++ v.compact).toList =
      '"' :: (key.toList.flatMap escapedChar ++ '"' :: ':' :: v.compact.toList) := by
  simp [quotedText]

/-- A value that is read back is read up to a mark behind it. -/
theorem exists_value_compact {fuel room : Nat} {v : Json} (hv : v.IsReadBack)
    (hdepth : v.depth ≤ room) (hfuel : 2 * v.compact.toList.length + 2 ≤ fuel) {mark : Char}
    (hmark : IsMark mark) (more : List Char) :
    ∃ behind, value fuel room (v.compact.toList ++ mark :: more) = (.ofJson v, some behind) ∧
      skipSpace behind = mark :: more := by
  have hgap : IsSpaceText [] := List.forall_mem_nil _
  obtain ⟨behind, hread, hbehind⟩ : ∃ behind,
      value fuel room ([] ++ (v.compact.toList ++ ([] ++ mark :: more))) =
        ((document v.compact).outline, some behind) ∧ skipSpace behind = mark :: more :=
    exists_value_item (isNested_compact hv hdepth) hfuel hgap hgap hmark
  rw [IsReadBack] at hv
  rw [hv] at hread
  exact ⟨behind, hread, hbehind⟩

/-- Members that are read back are read up to the closing brace. -/
theorem members_join {fuel room : Nat} {members : List (String × Json)} (hne : members ≠ [])
    (hmembers : ∀ member ∈ members, member.2.IsReadBack ∧ member.2.depth ≤ room)
    (hfuel : 2 * (join "," (compactMembers members)).toList.length + 3 ≤ fuel)
    (after : List Char) :
    Reader.members fuel room ((join "," (compactMembers members)).toList ++ '\x7d' :: after) =
      (Outline.ofObject members, some after) := by
  induction members generalizing fuel with
  | nil => exact absurd rfl hne
  | cons member rest ih =>
    obtain ⟨key, v⟩ := member
    obtain ⟨⟨hv : v.IsReadBack, hdepth : v.depth ≤ room⟩, hrest⟩ :=
      List.forall_mem_cons.mp hmembers
    obtain ⟨fuel, rfl, hle⟩ := exists_bound_of_succ_le hfuel
    have hquote : ∀ more, skipSpace ('"' :: more) = '"' :: more :=
      skipSpace_cons_of_not_space (by decide)
    have hcolon : ∀ more, skipSpace (':' :: more) = ':' :: more :=
      skipSpace_cons_of_not_space (by decide)
    by_cases hlast : rest = []
    · subst hlast
      rw [compactMembers, compactMembers, join_singleton, toList_member] at hle ⊢
      simp only [List.length_cons, List.length_append] at hle
      have hfuel : 2 * v.compact.toList.length + 2 ≤ fuel := by omega
      obtain ⟨behind, hread, hbehind⟩ :=
        exists_value_compact hv hdepth hfuel (by decide : IsMark '\x7d') after
      simp only [List.cons_append, List.append_assoc]
      exact members_succ_iff.mpr
        (.last (hquote _) (string_quoted key _) (hcolon _) hread hbehind)
    · have hcompact : compactMembers rest ≠ [] := by
        rw [compactMembers_eq_map]
        simpa using hlast
      rw [compactMembers, join_cons _ _ hcompact, String.toList_append, String.toList_append,
        toList_member] at hle ⊢
      have hcomma : ",".toList = [','] := rfl
      simp only [List.length_cons, List.length_append, hcomma, List.length_nil] at hle
      have hfuel : 2 * v.compact.toList.length + 2 ≤ fuel := by omega
      have hmore := ih hlast hrest (show _ ≤ fuel by omega)
      obtain ⟨behind, hread, hbehind⟩ :=
        exists_value_compact hv hdepth hfuel (by decide : IsMark ',')
          ((join "," (compactMembers rest)).toList ++ '\x7d' :: after)
      simp only [hcomma, List.cons_append, List.append_assoc, List.nil_append]
      exact members_succ_iff.mpr
        (.more (hquote _) (string_quoted key _) (hcolon _) hread hbehind hmore)

/-- Members that are read to their end begin with no closing brace. -/
theorem ne_brace_of_members {fuel room : Nat} {named : List (String × Outline)}
    (h : Reader.members fuel room cs = (named, some rest)) (more : List Char) :
    skipSpace cs ≠ '\x7d' :: more := by
  cases fuel with
  | zero => cases h
  | succ fuel =>
    cases members_succ_iff.mp h with
    | last hquote => simp [hquote]
    | more hquote => simp [hquote]

/-- Members are read from their first character that is not white space. -/
theorem members_skipSpace (fuel room : Nat) (cs : List Char) :
    Reader.members fuel room (skipSpace cs) = Reader.members fuel room cs := by
  cases fuel with
  | zero => rfl
  | succ fuel => rw [Reader.members, Reader.members, skipSpace_skipSpace]

/-- An object is read back if its members are. -/
theorem isReadBack_object {members : List (String × Json)}
    (hmembers : ∀ member ∈ members, member.2.IsReadBack)
    (hdepth : (object members).depth ≤ maxDepth) : (object members).IsReadBack := by
  have htext : (object members).compact.toList =
      '\x7b' :: ((join "," (compactMembers members)).toList ++ '\x7d' :: []) := by
    simp [compact]
  refine document_of_valueRead htext (by decide) rfl ?_
  rw [Outline.ofJson]
  by_cases hnil : members = []
  · subst hnil
    exact .emptyObject rfl
  · have hnested : ∀ member ∈ members, member.2.IsReadBack ∧ member.2.depth ≤ 126 :=
      fun member hmember =>
        ⟨hmembers member hmember, depth_object_le_iff.mp hdepth member hmember⟩
    have hfuel : 2 * (join "," (compactMembers members)).toList.length + 3 ≤
        2 * (object members).compact.toList.length + 1 := by
      rw [htext, List.length_cons, List.length_append]
      omega
    have hread := members_join hnil hnested hfuel []
    exact .object (ne_brace_of_members hread) ((members_skipSpace _ _ _).trans hread)

end Reader

mutual

/-- A value is read back if its numbers are and it is not nested too deeply. -/
theorem Exact.isReadBack : ∀ (v : Json), v.Exact → v.depth ≤ Reader.maxDepth → v.IsReadBack
  | .null, _, _ => rfl
  | .bool true, _, _ => rfl
  | .bool false, _, _ => rfl
  | .number n, h, _ => by
    cases h with
    | number hn => exact Reader.document_number hn
  | .string s, _, _ => Reader.document_quotedText s
  | .array items, h, hdepth => by
    cases h with
    | array hitems =>
      exact Reader.isReadBack_array (isReadBack_items items hitems fun item hitem =>
        (depth_array_le_iff.mp hdepth item hitem).trans (Nat.le_succ _)) hdepth
  | .object members, h, hdepth => by
    cases h with
    | object hmembers =>
      exact Reader.isReadBack_object (isReadBack_members members hmembers fun member hmember =>
        (depth_object_le_iff.mp hdepth member hmember).trans (Nat.le_succ _)) hdepth

/-- So are items. -/
theorem isReadBack_items : ∀ (items : List Json), (∀ item ∈ items, item.Exact) →
    (∀ item ∈ items, item.depth ≤ Reader.maxDepth) → ∀ item ∈ items, item.IsReadBack
  | [], _, _ => List.forall_mem_nil _
  | v :: rest, h, hdepth => by
    obtain ⟨hv, hrest⟩ := List.forall_mem_cons.mp h
    obtain ⟨hvDepth, hrestDepth⟩ := List.forall_mem_cons.mp hdepth
    exact List.forall_mem_cons.mpr
      ⟨Exact.isReadBack v hv hvDepth, isReadBack_items rest hrest hrestDepth⟩

/-- So are members. -/
theorem isReadBack_members : ∀ (members : List (String × Json)),
    (∀ member ∈ members, member.2.Exact) →
      (∀ member ∈ members, member.2.depth ≤ Reader.maxDepth) →
        ∀ member ∈ members, member.2.IsReadBack
  | [], _, _ => List.forall_mem_nil _
  | (key, v) :: rest, h, hdepth => by
    obtain ⟨hv, hrest⟩ := List.forall_mem_cons.mp h
    obtain ⟨hvDepth, hrestDepth⟩ := List.forall_mem_cons.mp hdepth
    exact List.forall_mem_cons.mpr
      ⟨Exact.isReadBack v hv hvDepth, isReadBack_members rest hrest hrestDepth⟩

end

/-- An ordered value is parsed back from its text if its numbers are and it is not nested too
deeply. -/
theorem parse?_compact {v : Json} (hordered : v.Ordered) (hexact : v.Exact)
    (hdepth : v.depth ≤ Reader.maxDepth) : parse? v.compact = some v := by
  have hread : v.IsReadBack := hexact.isReadBack v hdepth
  rw [IsReadBack] at hread
  simp only [parse?, hread, if_true]
  exact Outline.value?_ofJson v hordered

/-! ## Values that were read -/

namespace Reader

/-- What is read to its end with so many steps is nested no deeper than there is room for. -/
structure FitsRoom (fuel : Nat) : Prop where
  value : ∀ {room : Nat} {cs rest : List Char} {o : Outline},
    value fuel room cs = (o, some rest) → o.depth ≤ room
  items : ∀ {room : Nat} {cs rest : List Char} {found : List Outline},
    items fuel room cs = (found, some rest) → Outline.itemsDepth found ≤ room
  members : ∀ {room : Nat} {cs rest : List Char} {named : List (String × Outline)},
    members fuel room cs = (named, some rest) → Outline.membersDepth named ≤ room

/-- Whatever the number of steps, what is read to its end fits the room. -/
theorem fitsRoom (fuel : Nat) : FitsRoom fuel := by
  induction fuel with
  | zero => exact ⟨nofun, nofun, nofun⟩
  | succ fuel ih =>
    refine ⟨fun h => ?_, fun h => ?_, fun h => ?_⟩
    · obtain ⟨c, body, -, hread⟩ := exists_valueRead h
      cases hread with
      | array _ hitems => exact Nat.succ_le_succ (ih.items hitems)
      | object _ hmembers => exact Nat.succ_le_succ (ih.members hmembers)
      | emptyArray _ => exact Nat.succ_le_succ (Nat.zero_le _)
      | emptyObject _ => exact Nat.succ_le_succ (Nat.zero_le _)
      | string _ => exact Nat.zero_le _
      | number _ _ => exact Nat.zero_le _
      | word hw _ =>
        simp only [words, List.mem_cons, List.not_mem_nil, or_false] at hw
        rcases hw with rfl | rfl | rfl <;> exact Nat.zero_le _
    · cases items_succ_iff.mp h with
      | last hitem _ => exact Nat.max_le.mpr ⟨ih.value hitem, Nat.zero_le _⟩
      | more hitem _ _ hmore => exact Nat.max_le.mpr ⟨ih.value hitem, ih.items hmore⟩
    · cases members_succ_iff.mp h with
      | last _ _ _ hvalue _ => exact Nat.max_le.mpr ⟨ih.value hvalue, Nat.zero_le _⟩
      | more _ _ _ hvalue _ hmore => exact Nat.max_le.mpr ⟨ih.value hvalue, ih.members hmore⟩

/-- The value of a whole text is not nested too deeply. -/
theorem depth_document {text : String} (hended : (document text).ended = true) :
    (document text).outline.depth ≤ maxDepth := by
  obtain ⟨rest, hread, -⟩ := exists_value_of_ended hended
  exact (fitsRoom _).value hread

end Reader

namespace Outline

mutual

/-- A value is nested no deeper than the outline that it is read of. -/
theorem depth_of_value? : ∀ (outline : Outline) {v : Json}, outline.value? = some v →
    v.depth ≤ outline.depth
  | .broken, _, h => by cases h
  | .null, _, h => by
    cases h
    exact Nat.zero_le _
  | .bool _, _, h => by
    cases h
    exact Nat.zero_le _
  | .number _, _, h => by
    cases h
    exact Nat.zero_le _
  | .string _, _, h => by
    cases h
    exact Nat.zero_le _
  | .array items false, _, h => by simp [value?] at h
  | .array items true, _, h => by
    simp only [value?, if_true, Option.map_eq_some_iff] at h
    obtain ⟨values, hvalues, rfl⟩ := h
    exact depth_array_le_iff.mpr (depth_of_values? items hvalues)
  | .object members false, _, h => by simp [value?] at h
  | .object members true, _, h => by
    simp only [value?, if_true, Option.map_eq_some_iff] at h
    obtain ⟨entries, hentries, rfl⟩ := h
    exact depth_object_le_iff.mpr fun member hmember =>
      depth_of_memberValues? members hentries member (Entries.mem_of_mem_sorted hmember)

/-- So are the values of some items. -/
theorem depth_of_values? : ∀ (items : List Outline) {values : List Json},
    values? items = some values → ∀ v ∈ values, v.depth ≤ itemsDepth items
  | [], _, h => by
    cases h
    exact List.forall_mem_nil _
  | item :: rest, _, h => by
    obtain ⟨v, found, hv, hfound, rfl⟩ := values?_cons_iff.mp h
    rw [itemsDepth]
    exact List.forall_mem_cons.mpr ⟨(depth_of_value? item hv).trans (Nat.le_max_left _ _),
      fun v hmem => (depth_of_values? rest hfound v hmem).trans (Nat.le_max_right _ _)⟩

/-- So are the values of some members. -/
theorem depth_of_memberValues? : ∀ (members : List (String × Outline))
    {entries : List (String × Json)}, memberValues? members = some entries →
      ∀ entry ∈ entries, entry.2.depth ≤ membersDepth members
  | [], _, h => by
    cases h
    exact List.forall_mem_nil _
  | (key, item) :: rest, _, h => by
    obtain ⟨v, found, hv, hfound, rfl⟩ := memberValues?_cons_iff.mp h
    rw [membersDepth]
    exact List.forall_mem_cons.mpr ⟨(depth_of_value? item hv).trans (Nat.le_max_left _ _),
      fun entry hmem =>
        (depth_of_memberValues? rest hfound entry hmem).trans (Nat.le_max_right _ _)⟩

end

end Outline

end ContainerOps.Json
