import ContainerOps.Proofs.Text.Encoding
import Mathlib.Data.List.TakeWhile

/-!
# UTF-8 sequences and their beginnings

The first byte of a sequence says how many bytes follow it and in which range the second one is; all
others only have to be continuations.  So what stands at the front of some bytes is decided by the
bytes that go on with the first one: they make up a whole sequence, or the bytes end before it is
whole, or another byte comes before it is whole.

Main results:

- `exists_utf8EncodeChar`: a first byte with all the bytes that it asks for encodes a character.
- `exists_utf8EncodeChar_append`: a sequence that is not whole can be completed.
- `isFront_front`: what stands at the front of some bytes.
-/

namespace ContainerOps.Text.Utf8

variable {lead b c d : UInt8} {width : Nat} {part rest tail : List UInt8}

/-! ## Bytes that go on with a sequence -/

/-- A byte is in the range of the second byte after a given first byte. -/
def isSecond (lead b : UInt8) : Bool :=
  (secondRange lead).1 ≤ b && b ≤ (secondRange lead).2

/-- The bytes at the front of some bytes that go on with a first byte, however many it asks for. -/
def following (lead : UInt8) : List UInt8 → List UInt8
  | [] => []
  | b :: rest => if isSecond lead b then b :: rest.takeWhile isContinuation else []

/-- The bytes that go on with a first byte are at the front. -/
theorem following_prefix (lead : UInt8) (rest : List UInt8) : following lead rest <+: rest := by
  cases rest with
  | nil => exact List.prefix_rfl
  | cons b rest =>
    by_cases hsecond : isSecond lead b = true
    · rw [following, if_pos hsecond]
      exact (List.prefix_cons_inj b).mpr (List.takeWhile_prefix _)
    · rw [following, if_neg hsecond]
      exact List.nil_prefix

/-- All of some bytes go on with a first byte. -/
theorem following_eq_self_iff :
    following lead (b :: rest) = b :: rest ↔
      isSecond lead b = true ∧ ∀ c ∈ rest, isContinuation c = true := by
  by_cases hsecond : isSecond lead b = true
  · rw [following, if_pos hsecond]
    simp [hsecond]
  · rw [following, if_neg hsecond]
    simp [hsecond]

/-- So many of the bytes that go on with a first byte go on with it. -/
theorem following_take (n : Nat) :
    following lead ((following lead rest).take n) = (following lead rest).take n := by
  rcases n with _ | n
  · rfl
  · rcases rest with _ | ⟨b, rest⟩
    · rfl
    · by_cases hsecond : isSecond lead b = true
      · rw [following, if_pos hsecond, List.take_succ_cons, following_eq_self_iff]
        exact ⟨hsecond, fun c hc => List.mem_takeWhile_imp (List.mem_of_mem_take hc)⟩
      · rw [following, if_neg hsecond]
        rfl

/-- A byte does not go on with a first byte and the bytes behind it. -/
def Breaks (lead : UInt8) (part : List UInt8) (b : UInt8) : Prop :=
  if part = [] then isSecond lead b = false else isContinuation b = false

/-- The bytes that go on with a first byte end before the first one that does not. -/
theorem following_append_cons_iff :
    following lead (part ++ b :: tail) = part ↔
      following lead part = part ∧ Breaks lead part b := by
  rcases part with _ | ⟨p, part⟩
  · by_cases hsecond : isSecond lead b = true <;> simp [following, Breaks, hsecond]
  · by_cases hsecond : isSecond lead p = true
    · rw [List.cons_append, following, if_pos hsecond, following_eq_self_iff, List.cons.injEq]
      simp only [hsecond, Breaks, true_and, reduceCtorEq, if_false]
      constructor
      · intro hpart
        have hall : ∀ c ∈ part, isContinuation c = true := by
          intro c hc
          rw [← hpart] at hc
          exact List.mem_takeWhile_imp hc
        refine ⟨hall, ?_⟩
        rw [List.takeWhile_append_of_pos hall] at hpart
        by_contra hb
        simp [hb] at hpart
      · rintro ⟨hall, hb⟩
        rw [List.takeWhile_append_of_pos hall]
        simp [hb]
    · rw [List.cons_append, following, following, if_neg hsecond, if_neg hsecond]
      simp

/-! ## Bytes as numbers -/

/-- A byte is known by its number. -/
theorem ofNat_eq_of_toNat {n : Nat} (hn : b.toNat = n) : UInt8.ofNat n = b := by
  rw [← hn, UInt8.ofNat_toNat]

/-- Which first bytes ask for how many bytes. -/
theorem width?_eq_toNat (lead : UInt8) :
    width? lead =
      if lead.toNat < 0x80 then some 1
      else if 0xC2 ≤ lead.toNat ∧ lead.toNat ≤ 0xDF then some 2
      else if 0xE0 ≤ lead.toNat ∧ lead.toNat ≤ 0xEF then some 3
      else if 0xF0 ≤ lead.toNat ∧ lead.toNat ≤ 0xF4 then some 4
      else none := by
  rw [← width?_ofNat lead.toNat_lt, UInt8.ofNat_toNat]

/-- Which bytes continue a sequence. -/
theorem isContinuation_iff_toNat :
    isContinuation b = true ↔ 0x80 ≤ b.toNat ∧ b.toNat ≤ 0xBF := by
  simp [isContinuation, UInt8.le_iff_toNat_le]

/-- Which bytes are the second of a sequence: the continuations, but those that would make a
character too small, too great or half of one. -/
theorem isSecond_iff_toNat :
    isSecond lead b = true ↔
      (0x80 ≤ b.toNat ∧ b.toNat ≤ 0xBF) ∧ (lead.toNat = 0xE0 → 0xA0 ≤ b.toNat) ∧
        (lead.toNat = 0xED → b.toNat ≤ 0x9F) ∧ (lead.toNat = 0xF0 → 0x90 ≤ b.toNat) ∧
        (lead.toNat = 0xF4 → b.toNat ≤ 0x8F) := by
  simp only [isSecond, secondRange, beq_iff_eq, ← UInt8.toNat_inj, UInt8.reduceToNat]
  split_ifs <;> simp only [Bool.and_eq_true, decide_eq_true_eq, UInt8.le_iff_toNat_le,
    UInt8.reduceToNat] <;> omega

/-- A sequence has one to four bytes. -/
theorem width?_le (hwidth : width? lead = some width) :
    width = 1 ∨ width = 2 ∨ width = 3 ∨ width = 4 := by
  rw [width?_eq_toNat] at hwidth
  split_ifs at hwidth <;> simp_all

/-! ## Whole sequences -/

/-- The code of a character that is made of a number. -/
theorem toNat_ofNat_of_valid {v : Nat} (hvalid : v < 0xD800 ∨ 0xDFFF < v ∧ v < 0x110000) :
    (Char.ofNat v).val.toNat = v := by
  have hv : v.isValidChar := hvalid
  rw [Char.ofNat, dif_pos hv]
  rfl

/-- The character of one byte. -/
theorem utf8EncodeChar_one (hwidth : width? lead = some 1) :
    String.utf8EncodeChar (Char.ofNat lead.toNat) = [lead] := by
  rw [width?_eq_toNat] at hwidth
  have hlead : lead.toNat < 0x80 := by
    split_ifs at hwidth <;> simp_all
  have hcode := toNat_ofNat_of_valid (v := lead.toNat) (.inl (by omega))
  simp only [String.utf8EncodeChar, hcode]
  rw [if_pos (by omega), UInt8.ofNat_toNat]

/-- The character of two bytes. -/
theorem utf8EncodeChar_two (hwidth : width? lead = some 2) (hb : isSecond lead b = true) :
    String.utf8EncodeChar (Char.ofNat ((lead.toNat - 0xC0) * 64 + (b.toNat - 0x80))) =
      [lead, b] := by
  rw [width?_eq_toNat] at hwidth
  have hlead : 0xC2 ≤ lead.toNat ∧ lead.toNat ≤ 0xDF := by
    split_ifs at hwidth <;> simp_all
  obtain ⟨hb, -⟩ := isSecond_iff_toNat.mp hb
  generalize hv : (lead.toNat - 0xC0) * 64 + (b.toNat - 0x80) = v
  have hcode := toNat_ofNat_of_valid (v := v) (.inl (by omega))
  simp only [String.utf8EncodeChar, hcode]
  rw [if_neg (by omega), if_pos (by omega), ofNat_eq_of_toNat (b := lead) (by omega),
    ofNat_eq_of_toNat (b := b) (by omega)]

/-- The character of three bytes. -/
theorem utf8EncodeChar_three (hwidth : width? lead = some 3) (hb : isSecond lead b = true)
    (hc : isContinuation c = true) :
    String.utf8EncodeChar (Char.ofNat
      (((lead.toNat - 0xE0) * 64 + (b.toNat - 0x80)) * 64 + (c.toNat - 0x80))) =
      [lead, b, c] := by
  rw [width?_eq_toNat] at hwidth
  have hlead : 0xE0 ≤ lead.toNat ∧ lead.toNat ≤ 0xEF := by
    split_ifs at hwidth <;> simp_all
  obtain ⟨hb, hlong, hhalf, -⟩ := isSecond_iff_toNat.mp hb
  have hc := isContinuation_iff_toNat.mp hc
  generalize hv : ((lead.toNat - 0xE0) * 64 + (b.toNat - 0x80)) * 64 + (c.toNat - 0x80) = v
  have hcode := toNat_ofNat_of_valid (v := v) (by omega)
  simp only [String.utf8EncodeChar, hcode]
  rw [if_neg (by omega), if_neg (by omega), if_pos (by omega),
    ofNat_eq_of_toNat (b := lead) (by omega), ofNat_eq_of_toNat (b := b) (by omega),
    ofNat_eq_of_toNat (b := c) (by omega)]

/-- The character of four bytes. -/
theorem utf8EncodeChar_four (hwidth : width? lead = some 4) (hb : isSecond lead b = true)
    (hc : isContinuation c = true) (hd : isContinuation d = true) :
    String.utf8EncodeChar (Char.ofNat
      ((((lead.toNat - 0xF0) * 64 + (b.toNat - 0x80)) * 64 + (c.toNat - 0x80)) * 64 +
        (d.toNat - 0x80))) = [lead, b, c, d] := by
  rw [width?_eq_toNat] at hwidth
  have hlead : 0xF0 ≤ lead.toNat ∧ lead.toNat ≤ 0xF4 := by
    split_ifs at hwidth <;> simp_all
  obtain ⟨hb, -, -, hlong, hgreat⟩ := isSecond_iff_toNat.mp hb
  have hc := isContinuation_iff_toNat.mp hc
  have hd := isContinuation_iff_toNat.mp hd
  generalize hv : (((lead.toNat - 0xF0) * 64 + (b.toNat - 0x80)) * 64 + (c.toNat - 0x80)) * 64 +
    (d.toNat - 0x80) = v
  have hcode := toNat_ofNat_of_valid (v := v) (by omega)
  simp only [String.utf8EncodeChar, hcode]
  rw [if_neg (by omega), if_neg (by omega), if_neg (by omega),
    ofNat_eq_of_toNat (b := lead) (by omega), ofNat_eq_of_toNat (b := b) (by omega),
    ofNat_eq_of_toNat (b := c) (by omega), ofNat_eq_of_toNat (b := d) (by omega)]

/-- A first byte with all the bytes that it asks for encodes a character. -/
theorem exists_utf8EncodeChar (hwidth : width? lead = some width)
    (hpart : following lead part = part) (hlength : part.length + 1 = width) :
    ∃ c, String.utf8EncodeChar c = lead :: part := by
  subst hlength
  rcases part with _ | ⟨b, part⟩
  · exact ⟨_, utf8EncodeChar_one hwidth⟩
  · obtain ⟨hb, hothers⟩ := following_eq_self_iff.mp hpart
    rcases part with _ | ⟨c, _ | ⟨d, _ | ⟨e, part⟩⟩⟩
    · exact ⟨_, utf8EncodeChar_two hwidth hb⟩
    · exact ⟨_, utf8EncodeChar_three hwidth hb (hothers c (by simp))⟩
    · exact ⟨_, utf8EncodeChar_four hwidth hb (hothers c (by simp)) (hothers d (by simp))⟩
    · have hle := width?_le hwidth
      simp only [List.length_cons] at hle
      omega

/-! ## Sequences that are not whole -/

/-- Bytes that go on with a first byte can be followed by one more. -/
theorem exists_following_concat (lead : UInt8) (hpart : following lead part = part) :
    ∃ b, following lead (part ++ [b]) = part ++ [b] := by
  rcases part with _ | ⟨p, part⟩
  · refine ⟨(secondRange lead).1, following_eq_self_iff.mpr ⟨?_, nofun⟩⟩
    simp only [isSecond, secondRange]
    split_ifs <;> decide
  · obtain ⟨hsecond, hothers⟩ := following_eq_self_iff.mp hpart
    refine ⟨0x80, following_eq_self_iff.mpr ⟨hsecond, ?_⟩⟩
    intro c hc
    rcases List.mem_append.mp hc with hc | hc
    · exact hothers c hc
    · rw [List.mem_singleton.mp hc]
      decide

/-- A sequence that is not whole can be completed. -/
theorem exists_utf8EncodeChar_append (hwidth : width? lead = some width)
    (hpart : following lead part = part) (hlength : part.length + 1 ≤ width) :
    ∃ c more, String.utf8EncodeChar c = lead :: (part ++ more) := by
  induction hmissing : width - (part.length + 1) generalizing part with
  | zero =>
    obtain ⟨c, hc⟩ := exists_utf8EncodeChar hwidth hpart (by omega)
    exact ⟨c, [], by rw [List.append_nil, hc]⟩
  | succ missing ih =>
    obtain ⟨b, hb⟩ := exists_following_concat lead hpart
    have hlength' : (part ++ [b]).length = part.length + 1 := by simp
    obtain ⟨c, more, hc⟩ := ih hb (by omega) (by omega)
    exact ⟨c, b :: more, by rw [hc, List.append_assoc, List.singleton_append]⟩

/-- A sequence that is not whole at the end of the bytes is cut short there. -/
theorem front_of_cut (hwidth : width? lead = some width) (hrest : following lead rest = rest)
    (hshort : rest.length + 1 < width) : front lead rest = .cutShort := by
  have hle := width?_le hwidth
  rcases rest with _ | ⟨b, rest⟩
  · rcases hle with rfl | rfl | rfl | rfl <;> simp_all [front]
  · obtain ⟨hb, hothers⟩ := following_eq_self_iff.mp hrest
    unfold isSecond at hb
    rcases rest with _ | ⟨c, _ | ⟨d, rest⟩⟩
    · rcases hle with rfl | rfl | rfl | rfl <;> simp_all [front]
    · rcases hle with rfl | rfl | rfl | rfl <;> simp_all [front]
    · simp only [List.length_cons] at hshort
      omega

/-- A sequence that is not whole before another byte is ill-formed. -/
theorem front_of_broken (hwidth : width? lead = some width) (hpart : following lead part = part)
    (hbreaks : Breaks lead part b) (hshort : part.length + 1 < width) (tail : List UInt8) :
    front lead (part ++ b :: tail) = .illFormed part.length := by
  have hle := width?_le hwidth
  rcases part with _ | ⟨p, part⟩
  · have hb : isSecond lead b = false := hbreaks
    unfold isSecond at hb
    rcases hle with rfl | rfl | rfl | rfl
    · exact absurd hshort (lt_irrefl 1)
    all_goals
      rw [List.nil_append]
      simp only [front, hwidth, hb]
      rfl
  · have hb : isContinuation b = false := hbreaks
    obtain ⟨hp, hothers⟩ := following_eq_self_iff.mp hpart
    unfold isSecond at hp
    rcases part with _ | ⟨q, _ | ⟨r, part⟩⟩
    · rcases hle with rfl | rfl | rfl | rfl <;> simp_all [front]
    · rcases hle with rfl | rfl | rfl | rfl <;> simp_all [front]
    · simp only [List.length_cons] at hshort
      omega

/-! ## What stands at the front -/

/-- What can stand at the front of some bytes. -/
inductive IsFront (lead : UInt8) (rest : List UInt8) : Front → Prop where
  /-- No sequence begins with the first byte. -/
  | stray (hwidth : width? lead = none) : IsFront lead rest (.illFormed 0)
  /-- The first byte begins a sequence. -/
  | whole {c : Char} {part tail : List UInt8} (hbytes : String.utf8EncodeChar c = lead :: part)
      (hrest : rest = part ++ tail) : IsFront lead rest (.char c part.length)
  /-- The bytes end before the sequence is whole. -/
  | cut {width : Nat} (hwidth : width? lead = some width) (hgoes : following lead rest = rest)
      (hshort : rest.length + 1 < width) : IsFront lead rest .cutShort
  /-- Another byte comes before the sequence is whole. -/
  | broken {width : Nat} {part tail : List UInt8} {b : UInt8} (hwidth : width? lead = some width)
      (hrest : rest = part ++ b :: tail) (hgoes : following lead part = part)
      (hbreaks : Breaks lead part b) (hshort : part.length + 1 < width) :
      IsFront lead rest (.illFormed part.length)

/-- A sequence at the front is read as its character. -/
theorem front_of_whole {c : Char} (hbytes : String.utf8EncodeChar c = lead :: part)
    (tail : List UInt8) : front lead (part ++ tail) = .char c part.length := by
  obtain ⟨first, more, hencoded, hfront⟩ := front_utf8EncodeChar c tail
  rw [hbytes, List.cons.injEq] at hencoded
  rw [hencoded.1, hencoded.2, hfront]

/-- What stands at the front of some bytes. -/
theorem isFront_front (lead : UInt8) (rest : List UInt8) : IsFront lead rest (front lead rest) := by
  cases hwidth : width? lead with
  | none =>
    have hfront : front lead rest = .illFormed 0 := by simp [front, hwidth]
    rw [hfront]
    exact .stray hwidth
  | some width =>
    have hle := width?_le hwidth
    obtain ⟨tail, htail⟩ := following_prefix lead rest
    by_cases hlong : width ≤ (following lead rest).length + 1
    · -- there are as many bytes as the first one asks for
      have hpart : following lead ((following lead rest).take (width - 1)) =
          (following lead rest).take (width - 1) := following_take (width - 1)
      have hlength : ((following lead rest).take (width - 1)).length + 1 = width := by
        rw [List.length_take]
        omega
      obtain ⟨c, hbytes⟩ := exists_utf8EncodeChar hwidth hpart hlength
      have hrest : rest = (following lead rest).take (width - 1) ++
          ((following lead rest).drop (width - 1) ++ tail) := by
        rw [← List.append_assoc, List.take_append_drop, htail]
      have hfront := front_of_whole hbytes ((following lead rest).drop (width - 1) ++ tail)
      rw [← hrest] at hfront
      rw [hfront]
      exact .whole hbytes hrest
    · cases tail with
      | nil =>
        rw [List.append_nil] at htail
        have hshort : rest.length + 1 < width := by
          rw [← htail]
          omega
        rw [front_of_cut hwidth htail hshort]
        exact .cut hwidth htail hshort
      | cons b tail =>
        have hstop : following lead (following lead rest ++ b :: tail) = following lead rest := by
          rw [htail]
        obtain ⟨hgoes, hbreaks⟩ := following_append_cons_iff.mp hstop
        have hfront := front_of_broken hwidth hgoes hbreaks (by omega) tail
        rw [htail] at hfront
        rw [hfront]
        exact .broken hwidth htail.symm hgoes hbreaks (by omega)

end ContainerOps.Text.Utf8
