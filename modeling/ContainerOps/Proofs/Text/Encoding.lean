import ContainerOps.Text.Utf8
import Mathlib.Tactic.Common

/-!
# Text as bytes and back

The bytes of a text are the bytes of its characters one after another, and each character is read
back from the front of its bytes, whatever follows them.

Main results:

- `toList_toByteArray`: the bytes of a byte array that was made of a list.
- `front_utf8EncodeChar`: a character is read back from its bytes.
- `text_encode`: a text is read back from its bytes.
-/

namespace ContainerOps.Text.Utf8

/-! ## Lists and arrays of bytes -/

/-- Listing a byte array from an index on puts the bytes from there behind those found before. -/
theorem toList_loop_eq (bytes : ByteArray) (i : Nat) (found : List UInt8) :
    ByteArray.toList.loop bytes i found = found.reverse ++ bytes.data.toList.drop i := by
  fun_induction ByteArray.toList.loop bytes i found with
  | case1 i found hi ih =>
    have hlength : i < bytes.data.toList.length := hi
    rw [ih, List.drop_eq_getElem_cons hlength]
    simp [ByteArray.get!, getElem!_pos bytes.data i hi]
  | case2 i found hi =>
    rw [List.drop_eq_nil_of_le (Nat.le_of_not_lt hi), List.append_nil]

/-- A list of bytes is listed again from the array made of it. -/
theorem toList_toByteArray (bytes : List UInt8) : bytes.toByteArray.toList = bytes := by
  rw [ByteArray.toList, toList_loop_eq, List.toList_data_toByteArray]
  rfl

/-- The bytes of a text are the bytes of its characters one after another. -/
theorem encode_eq_flatMap (s : String) : encode s = s.toList.flatMap String.utf8EncodeChar := by
  rw [encode, String.toUTF8_eq_toByteArray, ← String.utf8Encode_toList, List.utf8Encode,
    toList_toByteArray]

/-! ## One character -/

/-- A byte of six low bits behind the mark of a continuation is a continuation. -/
theorem isContinuation_ofNat (n : Nat) : isContinuation (UInt8.ofNat (n % 64 + 128)) = true := by
  simp only [isContinuation, Bool.and_eq_true, decide_eq_true_eq, UInt8.le_iff_toNat_le]
  simp
  omega

/-- The low bits of a continuation. -/
theorem payload_ofNat (n : Nat) : payload (UInt8.ofNat (n % 64 + 128)) = n % 64 := by
  simp [payload]
  omega

/-- The number of bytes of a sequence, by the number that its first byte is. -/
theorem width?_ofNat {n : Nat} (hn : n < 256) :
    width? (UInt8.ofNat n) =
      if n < 0x80 then some 1
      else if 0xC2 ≤ n ∧ n ≤ 0xDF then some 2
      else if 0xE0 ≤ n ∧ n ≤ 0xEF then some 3
      else if 0xF0 ≤ n ∧ n ≤ 0xF4 then some 4
      else none := by
  simp [width?, UInt8.lt_iff_toNat_lt, UInt8.le_iff_toNat_le, Nat.mod_eq_of_lt hn]

/-- A continuation is in the range after a first byte, unless it would make a character too small,
too great or half of one. -/
theorem mem_secondRange {n m : Nat} (hn : n < 256) (hlong : n = 0xE0 → 32 ≤ m % 64)
    (hhalf : n = 0xED → m % 64 < 32) (hlonger : n = 0xF0 → 16 ≤ m % 64)
    (hgreat : n = 0xF4 → m % 64 < 16) :
    (secondRange (UInt8.ofNat n)).1 ≤ UInt8.ofNat (m % 64 + 128) ∧
      UInt8.ofNat (m % 64 + 128) ≤ (secondRange (UInt8.ofNat n)).2 := by
  have hm : m % 64 + 128 < 256 := by omega
  simp only [secondRange, beq_iff_eq, ← UInt8.toNat_inj, UInt8.le_iff_toNat_le,
    UInt8.toNat_ofNat', UInt8.reduceToNat, Nat.mod_eq_of_lt hn, Nat.mod_eq_of_lt hm]
  split_ifs <;> simp only [UInt8.reduceToNat] <;> omega

/-- A character of two bytes is read back from them. -/
theorem front_two {v : Nat} (hlow : 127 < v) (hhigh : v ≤ 2047) (rest : List UInt8) :
    front (UInt8.ofNat (v / 64 % 32 + 192)) (UInt8.ofNat (v % 64 + 128) :: rest) =
      .char (Char.ofNat v) 1 := by
  have hlead : v / 64 % 32 + 192 < 256 := by omega
  have hwidth : width? (UInt8.ofNat (v / 64 % 32 + 192)) = some 2 := by
    rw [width?_ofNat hlead, if_neg (by omega), if_pos (by omega)]
  have hsecond := mem_secondRange (m := v) hlead (by omega) (by omega) (by omega) (by omega)
  have hvalue : (v / 64 % 32 + 192) % 32 * 64 + v % 64 = v := by omega
  simp only [front, hwidth, hsecond, payload_ofNat, decide_true, Bool.and_self, if_true,
    UInt8.toNat_ofNat', Nat.mod_eq_of_lt hlead, hvalue]

/-- A character of three bytes is read back from them. -/
theorem front_three {v : Nat} (hlow : 2047 < v) (hhigh : v ≤ 65535)
    (hvalid : v < 0xD800 ∨ 0xDFFF < v) (rest : List UInt8) :
    front (UInt8.ofNat (v / 4096 % 16 + 224))
        (UInt8.ofNat (v / 64 % 64 + 128) :: UInt8.ofNat (v % 64 + 128) :: rest) =
      .char (Char.ofNat v) 2 := by
  have hlead : v / 4096 % 16 + 224 < 256 := by omega
  have hwidth : width? (UInt8.ofNat (v / 4096 % 16 + 224)) = some 3 := by
    rw [width?_ofNat hlead, if_neg (by omega), if_neg (by omega), if_pos (by omega)]
  have hsecond := mem_secondRange (m := v / 64) hlead (by omega) (by omega) (by omega) (by omega)
  have hvalue : ((v / 4096 % 16 + 224) % 16 * 64 + v / 64 % 64) * 64 + v % 64 = v := by omega
  simp only [front, hwidth, hsecond, isContinuation_ofNat, payload_ofNat, decide_true,
    Bool.and_self, Bool.not_true, Bool.false_eq_true, if_false, if_true, UInt8.toNat_ofNat',
    Nat.mod_eq_of_lt hlead, hvalue]

/-- A character of four bytes is read back from them. -/
theorem front_four {v : Nat} (hlow : 65535 < v) (hhigh : v < 0x110000) (rest : List UInt8) :
    front (UInt8.ofNat (v / 262144 % 8 + 240)) (UInt8.ofNat (v / 4096 % 64 + 128) ::
        UInt8.ofNat (v / 64 % 64 + 128) :: UInt8.ofNat (v % 64 + 128) :: rest) =
      .char (Char.ofNat v) 3 := by
  have hlead : v / 262144 % 8 + 240 < 256 := by omega
  have hwidth : width? (UInt8.ofNat (v / 262144 % 8 + 240)) = some 4 := by
    rw [width?_ofNat hlead, if_neg (by omega), if_neg (by omega), if_neg (by omega),
      if_pos (by omega)]
  have hsecond := mem_secondRange (m := v / 4096) hlead (by omega) (by omega) (by omega) (by omega)
  have hvalue : (((v / 262144 % 8 + 240) % 8 * 64 + v / 4096 % 64) * 64 + v / 64 % 64) * 64
      + v % 64 = v := by omega
  simp only [front, hwidth, hsecond, isContinuation_ofNat, payload_ofNat, decide_true,
    Bool.and_self, Bool.not_true, Bool.false_eq_true, if_false, if_true, UInt8.toNat_ofNat',
    Nat.mod_eq_of_lt hlead, hvalue]

/-- A character is read back from the bytes that encode it. -/
theorem front_utf8EncodeChar (c : Char) (rest : List UInt8) :
    ∃ lead more, String.utf8EncodeChar c = lead :: more ∧
      front lead (more ++ rest) = .char c more.length := by
  have hvalid : c.toNat < 0xD800 ∨ 0xDFFF < c.toNat ∧ c.toNat < 0x110000 := c.valid
  have hchar : Char.ofNat c.toNat = c := Char.ofNat_toNat c
  have hcode : c.val.toNat = c.toNat := rfl
  simp only [String.utf8EncodeChar, hcode]
  generalize c.toNat = v at hvalid hchar
  subst hchar
  split_ifs with h1 h2 h3
  · have hascii : UInt8.ofNat v < 0x80 := by
      rw [UInt8.lt_iff_toNat_lt, UInt8.toNat_ofNat', Nat.mod_eq_of_lt (by omega)]
      exact Nat.lt_succ_of_le h1
    refine ⟨_, _, rfl, ?_⟩
    rw [front_of_ascii hascii, UInt8.toNat_ofNat', Nat.mod_eq_of_lt (by omega)]
    rfl
  · exact ⟨_, _, rfl, front_two (by omega) h2 rest⟩
  · exact ⟨_, _, rfl, front_three (by omega) h3 (by omega) rest⟩
  · exact ⟨_, _, rfl, front_four (by omega) (by omega) rest⟩

/-! ## Whole texts -/

/-- Characters are read back from their bytes, wherever these stand. -/
theorem decodeFrom_flatMap (index : Nat) (cs : List Char) :
    decodeFrom index (cs.flatMap String.utf8EncodeChar) = .ok cs := by
  induction cs generalizing index with
  | nil => rw [List.flatMap_nil, decodeFrom]
  | cons c cs ih =>
    obtain ⟨lead, more, hbytes, hfront⟩ :=
      front_utf8EncodeChar c (cs.flatMap String.utf8EncodeChar)
    rw [List.flatMap_cons, hbytes, List.cons_append, decodeFrom, hfront]
    simp only [List.drop_left, ih, Except.map]

/-- A text is read back from its bytes. -/
theorem text_encode (s : String) : text (encode s) = .ok s := by
  rw [text, decode, encode_eq_flatMap, decodeFrom_flatMap]
  simp only [Except.map, String.ofList_toList]

end ContainerOps.Text.Utf8
