import ContainerOps.Command.Word
import ContainerOps.Shell.Reader
import ContainerOps.Proofs.Shell.Literal
import ContainerOps.Proofs.Text.Encoding
import Mathlib.Data.List.Basic

/-!
# Words in quotes as octets

The shell reads octets, and quoting is about characters; but all characters that a shell gives a
meaning to are in ASCII, so that the octets of a quoted word are its octets in quotes.  What is to
be read of such a word is a list of pieces that stand for themselves.

Main results:

- `nameOctets_inj`: no two texts have the same octets.
- `nameOctets_quoteWord`: quoting a word and quoting its octets are the same.
- `isLiteral_of_mem_shownWord`: the pieces of a quoted word stand for themselves.
- `letters_shownWord`: they have the octets of the word as their letters.
- `isAssignment_shownWord`: no quoted word sets a variable.
-/

namespace ContainerOps.Shell

open Text.Utf8

/-! ## Octets of characters -/

/-- The octets of a character. -/
def charOctets (c : Char) : Octets :=
  octets (String.utf8EncodeChar c)

/-- The octets of a text are those of its characters one after another. -/
theorem nameOctets_eq_flatMap (text : String) :
    State.nameOctets text = text.toList.flatMap charOctets := by
  rw [State.nameOctets, encode_eq_flatMap, octets, List.map_flatMap]
  rfl

/-- The octets of texts one after another. -/
theorem nameOctets_append (first second : String) :
    State.nameOctets (first ++ second) = State.nameOctets first ++ State.nameOctets second := by
  rw [nameOctets_eq_flatMap, String.toList_append, List.flatMap_append, ← nameOctets_eq_flatMap,
    ← nameOctets_eq_flatMap]

/-- A byte is an octet with the same code. -/
theorem toNat_octet (byte : UInt8) : (Char.ofNat byte.toNat).toNat = byte.toNat := by
  have hlt : byte.toNat < 256 := byte.toNat_lt
  have hvalid : byte.toNat.isValidChar := .inl (by omega)
  rw [Char.ofNat, dif_pos hvalid]
  rfl

/-- A character in ASCII is one octet. -/
theorem charOctets_of_ascii {c : Char} (hascii : c.toNat < 128) : charOctets c = [c] := by
  have hcode : c.val.toNat = c.toNat := rfl
  have hbyte : (UInt8.ofNat c.toNat).toNat = c.toNat := by
    rw [UInt8.toNat_ofNat', Nat.mod_eq_of_lt (by omega)]
  simp only [charOctets, octets, String.utf8EncodeChar, hcode]
  rw [if_pos (by omega), List.map_singleton, hbyte, Char.ofNat_toNat]

/-- A text in ASCII is its own octets. -/
theorem nameOctets_of_ascii {text : String} (hascii : ∀ c ∈ text.toList, c.toNat < 128) :
    State.nameOctets text = text.toList := by
  rw [nameOctets_eq_flatMap,
    List.flatMap_congr fun c hc => charOctets_of_ascii (hascii c hc), List.flatMap_singleton']

/-- No two texts have the same octets. -/
theorem nameOctets_inj {first second : String}
    (hsame : State.nameOctets first = State.nameOctets second) : first = second := by
  have hinjective : Function.Injective fun byte : UInt8 => Char.ofNat byte.toNat := by
    intro byte other heq
    have hcodes := congrArg Char.toNat heq
    simp only [toNat_octet] at hcodes
    exact UInt8.toNat_inj.mp hcodes
  have hbytes : encode first = encode second := List.map_injective_iff.mpr hinjective hsame
  have htexts := text_encode first
  rw [hbytes, text_encode] at htexts
  exact (Except.ok.inj htexts).symm

/-- The bytes of any other character are not in ASCII. -/
theorem le_of_mem_utf8EncodeChar {c : Char} (hc : 128 ≤ c.toNat) :
    ∀ byte ∈ String.utf8EncodeChar c, 128 ≤ byte.toNat := by
  have hcode : c.val.toNat = c.toNat := rfl
  have hvalid : c.toNat < 0xD800 ∨ 0xDFFF < c.toNat ∧ c.toNat < 0x110000 := c.valid
  simp only [String.utf8EncodeChar, hcode]
  split_ifs
  · omega
  all_goals
    simp only [List.mem_cons, List.not_mem_nil, or_false, forall_eq_or_imp, forall_eq,
      UInt8.toNat_ofNat']
    omega

/-- Nor are its octets. -/
theorem le_of_mem_charOctets {c x : Char} (hc : 128 ≤ c.toNat) (hx : x ∈ charOctets c) :
    128 ≤ x.toNat := by
  obtain ⟨byte, hbyte, rfl⟩ := List.mem_map.mp hx
  rw [toNat_octet byte]
  exact le_of_mem_utf8EncodeChar hc byte hbyte

/-- A character in ASCII is among the octets of a text exactly if it is in the text. -/
theorem mem_nameOctets_iff {x : Char} (hascii : x.toNat < 128) {text : String} :
    x ∈ State.nameOctets text ↔ x ∈ text.toList := by
  rw [nameOctets_eq_flatMap, List.mem_flatMap]
  constructor
  · rintro ⟨c, hc, hx⟩
    by_cases hcode : c.toNat < 128
    · rw [charOctets_of_ascii hcode, List.mem_singleton] at hx
      exact hx ▸ hc
    · exact absurd (le_of_mem_charOctets (Nat.le_of_not_lt hcode) hx) (Nat.not_le.mpr hascii)
  · intro hx
    exact ⟨x, hx, charOctets_of_ascii hascii ▸ List.mem_singleton_self x⟩

/-- A character has an octet. -/
theorem charOctets_ne_nil (c : Char) : charOctets c ≠ [] := by
  obtain ⟨lead, more, hbytes, -⟩ := front_utf8EncodeChar c []
  simp [charOctets, octets, hbytes]

/-! ## Octets in quotes -/

/-- A character that a shell gives a meaning to is in ASCII. -/
theorem toNat_lt_of_isSpecial {c : Char} (hspecial : Command.isSpecial c = true) :
    c.toNat < 128 := by
  simp only [Command.isSpecial, decide_eq_true_eq, List.mem_cons, List.not_mem_nil, or_false,
    ← Char.toNat_inj, Char.reduceToNat] at hspecial
  omega

/-- A character without a meaning to a shell is none that has one. -/
theorem ne_of_isSpecial {x y : Char} (hplain : Command.isSpecial x = false)
    (hspecial : Command.isSpecial y = true) : x ≠ y := by
  rintro rfl
  rw [hplain] at hspecial
  exact Bool.false_ne_true hspecial

/-- An octet that is not in ASCII has no meaning to a shell. -/
theorem not_isSpecial_of_le {x : Char} (hx : 128 ≤ x.toNat) : Command.isSpecial x = false :=
  Bool.eq_false_iff.mpr fun hspecial => Nat.not_lt.mpr hx (toNat_lt_of_isSpecial hspecial)

/-- A character has a meaning to a shell exactly if one of its octets has. -/
theorem any_isSpecial_charOctets (c : Char) :
    (charOctets c).any Command.isSpecial = Command.isSpecial c := by
  by_cases hascii : c.toNat < 128
  · rw [charOctets_of_ascii hascii, List.any_cons, List.any_nil, Bool.or_false]
  · have hc : 128 ≤ c.toNat := Nat.le_of_not_lt hascii
    rw [not_isSpecial_of_le hc, List.any_eq_false]
    intro x hx
    rw [not_isSpecial_of_le (le_of_mem_charOctets hc hx)]
    exact Bool.false_ne_true

/-- An octet that is not in ASCII is no quotation mark. -/
theorem quotedChar_of_le {x : Char} (hx : 128 ≤ x.toNat) : Command.quotedChar x = [x] := by
  refine if_neg ?_
  rintro rfl
  exact absurd hx (by decide)

/-- Between quotes, a character is written as its octets are. -/
theorem flatMap_quotedChar_charOctets (c : Char) :
    (Command.quotedChar c).flatMap charOctets = (charOctets c).flatMap Command.quotedChar := by
  by_cases hascii : c.toNat < 128
  · rw [charOctets_of_ascii hascii, List.flatMap_singleton]
    have hquoted : ∀ x ∈ Command.quotedChar c, charOctets x = [x] := by
      unfold Command.quotedChar
      split
      · simp only [List.mem_cons, List.not_mem_nil, or_false]
        rintro x (rfl | rfl | rfl | rfl)
        all_goals exact charOctets_of_ascii (by decide)
      · simp only [List.mem_singleton, forall_eq]
        exact charOctets_of_ascii hascii
    rw [List.flatMap_congr hquoted, List.flatMap_singleton']
  · have hc : 128 ≤ c.toNat := Nat.le_of_not_lt hascii
    have hquoted : ∀ x ∈ charOctets c, Command.quotedChar x = [x] :=
      fun x hx => quotedChar_of_le (le_of_mem_charOctets hc hx)
    rw [quotedChar_of_le hc, List.flatMap_singleton, List.flatMap_congr hquoted,
      List.flatMap_singleton']

/-- The octets of a word that is shown. -/
def shownOctets (o : Octets) : Octets :=
  (Command.quoteWord (String.ofList o)).toList

variable {o : Octets}

/-- Octets need no quotes if there are some and no one has a meaning to a shell. -/
theorem isBare_ofList_iff :
    Command.isBare (String.ofList o) = true ↔ o ≠ [] ∧ ∀ x ∈ o, Command.isSpecial x = false := by
  simp [Command.isBare]

/-- Octets that need no quotes are shown as they are. -/
theorem shownOctets_of_bare (hbare : Command.isBare (String.ofList o) = true) :
    shownOctets o = o := by
  rw [shownOctets, Command.quoteWord, if_pos hbare, String.toList_ofList]

/-- All others stand between quotes. -/
theorem shownOctets_of_not_bare (hbare : ¬Command.isBare (String.ofList o) = true) :
    shownOctets o = '\'' :: o.flatMap Command.quotedChar ++ ['\''] := by
  rw [shownOctets, Command.quoteWord, if_neg hbare, String.toList_ofList, String.toList_ofList]

/-- Every word is shown as some octets. -/
theorem shownOctets_ne_nil (o : Octets) : shownOctets o ≠ [] := by
  by_cases hbare : Command.isBare (String.ofList o) = true
  · rw [shownOctets_of_bare hbare]
    exact (isBare_ofList_iff.mp hbare).1
  · rw [shownOctets_of_not_bare hbare]
    exact List.cons_ne_nil _ _

/-- The first character of a word that is shown is a quotation mark, or has no meaning to a
shell. -/
theorem head_shownOctets {x : Char} {xs : Octets} (hshown : shownOctets o = x :: xs) :
    x = '\'' ∨ Command.isSpecial x = false := by
  by_cases hbare : Command.isBare (String.ofList o) = true
  · rw [shownOctets_of_bare hbare] at hshown
    exact .inr ((isBare_ofList_iff.mp hbare).2 x (hshown ▸ List.mem_cons_self))
  · rw [shownOctets_of_not_bare hbare] at hshown
    exact .inl (List.cons.inj hshown).1.symm

/-- The octets of a word need quotes exactly if the word does. -/
theorem isBare_nameOctets (word : String) :
    Command.isBare (String.ofList (State.nameOctets word)) = Command.isBare word := by
  have hempty : State.nameOctets word = [] ↔ word = "" := by
    rw [nameOctets_eq_flatMap, ← String.toList_eq_nil_iff]
    cases word.toList <;> simp [charOctets_ne_nil]
  have hany : (State.nameOctets word).any Command.isSpecial =
      word.toList.any Command.isSpecial := by
    simp only [nameOctets_eq_flatMap, List.any_flatMap, any_isSpecial_charOctets]
  rw [Bool.eq_iff_iff]
  simp only [Command.isBare, String.toList_ofList, hany, Bool.and_eq_true, Bool.not_eq_true',
    String.isEmpty_eq_false_iff, ne_eq, String.ofList_eq_empty_iff, hempty]

/-- Quoting a word and quoting its octets are the same. -/
theorem nameOctets_quoteWord (word : String) :
    State.nameOctets (Command.quoteWord word) = shownOctets (State.nameOctets word) := by
  by_cases hbare : Command.isBare word = true
  · rw [Command.quoteWord, if_pos hbare,
      shownOctets_of_bare ((isBare_nameOctets word).trans hbare)]
  · have hquote : charOctets '\'' = ['\''] := charOctets_of_ascii (by decide)
    rw [shownOctets_of_not_bare (by rwa [isBare_nameOctets]), Command.quoteWord, if_neg hbare,
      nameOctets_eq_flatMap, nameOctets_eq_flatMap, String.toList_ofList, List.flatMap_append,
      List.flatMap_cons, List.flatMap_singleton, hquote, List.flatMap_assoc, List.flatMap_assoc]
    simp only [flatMap_quotedChar_charOctets, List.nil_append, List.cons_append]

/-! ## Pieces -/

/-- What is read of a character between single quotes. -/
def quotedPiece (c : Char) : Piece :=
  if c = '\\' ∨ c ∈ Reader.protectedLetters then .escaped c else .plain c

/-- What is read of a character that is shown between single quotes.  A quotation mark is read
outside of them. -/
def quotedPieces (c : Char) : List Piece :=
  if c = '\'' then [.mark, .escaped c, .mark] else [quotedPiece c]

/-- What is read of a word that is shown. -/
def shownWord (o : Octets) : Word :=
  if Command.isBare (String.ofList o) then o.map .plain
  else .mark :: o.flatMap quotedPieces ++ [.mark]

/-- A character that a shell gives no meaning to stands for itself. -/
theorem isLiteral_plain {c : Char} (hplain : Command.isSpecial c = false) (hnul : c ≠ nul) :
    (Piece.plain c).IsLiteral := by
  refine ⟨hnul, fun hmem => ?_⟩
  simp only [List.mem_cons, List.not_mem_nil, or_false] at hmem
  rcases hmem with rfl | rfl | rfl | rfl | rfl
  all_goals exact absurd hplain (by decide)

/-- So does any character between single quotes. -/
theorem isLiteral_of_mem_quotedPieces {c : Char} (hnul : c ≠ nul) :
    ∀ piece ∈ quotedPieces c, piece.IsLiteral := by
  unfold quotedPieces
  split
  · simp only [List.mem_cons, List.not_mem_nil, or_false]
    rintro piece (rfl | rfl | rfl)
    · trivial
    · exact hnul
    · trivial
  · simp only [List.mem_singleton, forall_eq, quotedPiece]
    split
    case isTrue => exact hnul
    case isFalse hplain =>
      refine ⟨hnul, fun hmem => hplain ?_⟩
      simp only [List.mem_cons, List.not_mem_nil, or_false] at hmem
      rcases hmem with rfl | rfl | rfl | rfl | rfl
      all_goals simp [Reader.protectedLetters]

/-- The pieces of a word that is shown stand for themselves. -/
theorem isLiteral_of_mem_shownWord (hnul : nul ∉ o) : ∀ piece ∈ shownWord o, piece.IsLiteral := by
  have hne : ∀ x ∈ o, x ≠ nul := fun x hx heq => hnul (heq ▸ hx)
  unfold shownWord
  split
  case isTrue hbare =>
    obtain ⟨-, hplain⟩ := isBare_ofList_iff.mp hbare
    exact List.forall_mem_map.mpr fun x hx => isLiteral_plain (hplain x hx) (hne x hx)
  case isFalse =>
    intro piece hpiece
    simp only [List.mem_cons, List.mem_append, List.mem_flatMap, List.not_mem_nil, or_false]
      at hpiece
    obtain (rfl | ⟨x, hx, hpiece⟩) | rfl := hpiece
    · trivial
    · exact isLiteral_of_mem_quotedPieces (hne x hx) piece hpiece
    · trivial

/-- A word has pieces, be it empty. -/
theorem shownWord_ne_nil (o : Octets) : shownWord o ≠ [] := by
  unfold shownWord
  split
  case isTrue hbare => simpa using (isBare_ofList_iff.mp hbare).1
  case isFalse => simp

/-- The letters of pieces one after another. -/
theorem letters_append (before after : Word) :
    Word.letters (before ++ after) = Word.letters before ++ Word.letters after :=
  List.filterMap_append

/-- A character between single quotes is the letter of its pieces. -/
theorem letters_quotedPieces (c : Char) : Word.letters (quotedPieces c) = [c] := by
  unfold quotedPieces quotedPiece
  split
  · rfl
  split
  · rfl
  · rfl

/-- So is a text between single quotes. -/
theorem letters_flatMap_quotedPieces (o : Octets) : Word.letters (o.flatMap quotedPieces) = o := by
  induction o with
  | nil => rfl
  | cons c rest ih =>
    rw [List.flatMap_cons, letters_append, letters_quotedPieces, ih, List.singleton_append]

/-- The letters of the pieces of a word are its octets. -/
theorem letters_shownWord (o : Octets) : Word.letters (shownWord o) = o := by
  unfold shownWord
  split
  case isTrue =>
    rw [Word.letters, List.filterMap_map]
    exact List.filterMap_some
  case isFalse =>
    have hmark : Word.letters [.mark] = [] := rfl
    rw [letters_append, ← List.singleton_append, letters_append, hmark,
      letters_flatMap_quotedPieces, List.nil_append, List.append_nil]

/-- The text of characters that are written as they are. -/
theorem text?_map_plain (o : Octets) : Word.text? (o.map .plain) = some o := by
  induction o with
  | nil => rfl
  | cons x o ih =>
    rw [Word.text?] at ih
    rw [List.map_cons, Word.text?, List.mapM_cons, ih]
    rfl

/-- A word that is read as it is written is a bare one. -/
theorem text?_shownWord {text : Octets} (htext : Word.text? (shownWord o) = some text) :
    text = o := by
  unfold shownWord at htext
  split at htext
  case isTrue =>
    exact Option.some.inj (htext.symm.trans (text?_map_plain o))
  case isFalse => cases htext

/-- An equals sign in a word that is shown is protected. -/
theorem plain_equals_notMem (o : Octets) : Piece.plain '=' ∉ shownWord o := by
  unfold shownWord
  split
  case isTrue hbare =>
    intro hmem
    obtain ⟨x, hx, heq⟩ := List.mem_map.mp hmem
    cases heq
    exact absurd ((isBare_ofList_iff.mp hbare).2 _ hx) (by decide)
  case isFalse =>
    simp only [List.mem_cons, List.mem_append, List.mem_flatMap, reduceCtorEq, false_or, or_false,
      List.not_mem_nil, not_exists, not_and]
    intro x _ hmem
    unfold quotedPieces quotedPiece at hmem
    split at hmem
    · simp at hmem
    split at hmem
    · simp at hmem
    case isFalse hplain =>
      cases List.mem_singleton.mp hmem
      exact hplain (.inr (by decide))

/-- So such a word sets no variable. -/
theorem isAssignment_shownWord (o : Octets) : Word.isAssignment (shownWord o) = false := by
  have hnone : ∀ n : Nat, ((shownWord o)[n]?.bind Piece.plain? == some '=') = false := by
    intro n
    rw [beq_eq_false_iff_ne]
    intro heq
    obtain ⟨piece, hpiece, hplain⟩ := Option.bind_eq_some_iff.mp heq
    match piece with
    | .plain x =>
      cases hplain
      exact plain_equals_notMem o (List.mem_of_getElem? hpiece)
  rw [Word.isAssignment, hnone, Bool.and_false]

/-- A text between single quotes has no more pieces than characters. -/
theorem length_flatMap_quotedPieces_le (o : Octets) :
    (o.flatMap quotedPieces).length ≤ (o.flatMap Command.quotedChar).length := by
  induction o with
  | nil => exact Nat.le_refl 0
  | cons x o ih =>
    have hpieces : (quotedPieces x).length ≤ (Command.quotedChar x).length := by
      unfold quotedPieces Command.quotedChar
      split
      · exact Nat.le_succ 3
      · exact Nat.le_refl 1
    rw [List.flatMap_cons, List.flatMap_cons, List.length_append, List.length_append]
    exact Nat.add_le_add hpieces ih

/-- A word that is shown has no more pieces than characters. -/
theorem length_shownWord_le (o : Octets) : (shownWord o).length ≤ (shownOctets o).length := by
  by_cases hbare : Command.isBare (String.ofList o) = true
  · rw [shownOctets_of_bare hbare, shownWord, if_pos hbare, List.length_map]
  · have hinner := length_flatMap_quotedPieces_le o
    rw [shownOctets_of_not_bare hbare, shownWord, if_neg hbare]
    simp only [List.length_cons, List.length_append, List.length_nil]
    omega

end ContainerOps.Shell
