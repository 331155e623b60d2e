import ContainerOps.Proofs.Text.Sequence

/-!
# Ill-formed parts and their replacement

Lossy reading cuts bytes into sequences, which are read as their characters, and maximal ill-formed
parts, for each of which one replacement character is put.  There is one way to cut, and an ASCII
byte is always cut off from what stands before it: it begins no longer sequence and continues none.

Main results:

- `replaced_iff`: lossy reading replaces each maximal ill-formed part by one character.
- `Replaced.append_ascii`: bytes around an ASCII byte are cut separately.
- `decodeLossy_append_ascii`: so they are read separately.
-/

namespace ContainerOps.Text.Utf8

variable {lead ascii : UInt8} {part rest longer bytes tail : List UInt8} {cs ds : List Char}

/-! ## Ill-formed parts -/

/-- Some bytes are the beginning of a sequence. -/
def Begins (part : List UInt8) : Prop :=
  ∃ c, part <+: String.utf8EncodeChar c

/-- Some bytes are the maximal ill-formed part in front of others: no sequence stands there, and the
part is the longest beginning of one, or a single byte if there is none. -/
structure IsIllFormedPart (part rest : List UInt8) : Prop where
  /-- There is such a part. -/
  ne_nil : part ≠ []
  /-- No sequence stands here. -/
  not_sequence : ∀ c, ¬ String.utf8EncodeChar c <+: part ++ rest
  /-- The part is the beginning of a sequence, or a single byte. -/
  begins : Begins part ∨ part.length = 1
  /-- There is no longer beginning of a sequence. -/
  longest : ∀ longer, longer <+: part ++ rest → Begins longer → longer.length ≤ part.length

/-- Some bytes are read as some characters, with a replacement for each ill-formed part. -/
inductive Replaced : List UInt8 → List Char → Prop where
  /-- No bytes are read as no characters. -/
  | nil : Replaced [] []
  /-- A sequence is read as its character. -/
  | char (c : Char) {rest : List UInt8} {cs : List Char} (hrest : Replaced rest cs) :
      Replaced (String.utf8EncodeChar c ++ rest) (c :: cs)
  /-- An ill-formed part is replaced. -/
  | illFormed {part rest : List UInt8} {cs : List Char} (hpart : IsIllFormedPart part rest)
      (hrest : Replaced rest cs) : Replaced (part ++ rest) (replacement :: cs)

/-! ## Reading is cutting -/

/-- Where a sequence stands its character is read. -/
theorem front_of_prefix {c : Char} (hstart : String.utf8EncodeChar c <+: lead :: rest) :
    ∃ extra, front lead rest = .char c extra := by
  obtain ⟨tail, htail⟩ := hstart
  obtain ⟨first, more, hbytes, hfront⟩ := front_utf8EncodeChar c tail
  rw [hbytes, List.cons_append, List.cons.injEq] at htail
  obtain ⟨rfl, rfl⟩ := htail
  exact ⟨more.length, hfront⟩

/-- What is found ill-formed in front of other bytes is a maximal ill-formed part. -/
theorem isIllFormedPart_of_front {extra : Nat} (hfront : front lead rest = .illFormed extra) :
    IsIllFormedPart (lead :: rest.take extra) (rest.drop extra) := by
  have hsplit : lead :: rest.take extra ++ rest.drop extra = lead :: rest := by
    rw [List.cons_append, List.take_append_drop]
  have hnone : ∀ c, ¬ String.utf8EncodeChar c <+: lead :: rest := by
    intro c hstart
    obtain ⟨n, hchar⟩ := front_of_prefix hstart
    rw [hfront] at hchar
    cases hchar
  have hcases := isFront_front lead rest
  rw [hfront] at hcases
  refine ⟨List.cons_ne_nil _ _, fun c => hsplit ▸ hnone c, ?_, ?_⟩
  · cases hcases with
    | stray => exact .inr rfl
    | broken hwidth hrest hgoes hbreaks hshort =>
      obtain ⟨c, more, hbytes⟩ := exists_utf8EncodeChar_append hwidth hgoes (Nat.le_of_lt hshort)
      left
      refine ⟨c, ?_⟩
      rw [hrest, List.take_left, hbytes]
      exact ⟨more, rfl⟩
  · rw [hsplit]
    rintro longer hlonger ⟨c, hbegins⟩
    by_contra hlength
    cases hcases with
    | stray hwidth =>
      -- a longer beginning has the first byte too
      have hlead : [lead] <+: longer :=
        List.prefix_of_prefix_length_le ⟨rest, rfl⟩ hlonger (by simp at hlength ⊢; omega)
      obtain ⟨more, hmore⟩ := hlead.trans hbegins
      have hwhole := front_of_whole hmore.symm []
      simp [front, hwidth] at hwhole
    | @broken width part tail b hwidth hrest hgoes hbreaks hshort =>
      -- a longer beginning has the byte that breaks the sequence too
      subst hrest
      have hbreak : lead :: part ++ [b] <+: longer := by
        refine List.prefix_of_prefix_length_le ⟨tail, by simp⟩ hlonger ?_
        simp at hlength ⊢
        omega
      obtain ⟨more, hmore⟩ := hbreak.trans hbegins
      have hbytes : String.utf8EncodeChar c = lead :: (part ++ b :: more) := by
        rw [← hmore]
        simp
      have hwhole := front_of_whole hbytes []
      rw [List.append_nil, front_of_broken hwidth hgoes hbreaks hshort] at hwhole
      cases hwhole

/-- What is cut short by the end of the bytes is a maximal ill-formed part. -/
theorem isIllFormedPart_of_cutShort (hfront : front lead rest = .cutShort) :
    IsIllFormedPart (lead :: rest) [] := by
  have hcases := isFront_front lead rest
  rw [hfront] at hcases
  cases hcases with
  | cut hwidth hgoes hshort =>
    rename_i width
    obtain ⟨c, more, hbytes⟩ := exists_utf8EncodeChar_append hwidth hgoes (Nat.le_of_lt hshort)
    refine ⟨List.cons_ne_nil _ _, ?_, .inl ⟨c, ⟨more, ?_⟩⟩, ?_⟩
    · intro d hstart
      rw [List.append_nil] at hstart
      obtain ⟨n, hchar⟩ := front_of_prefix hstart
      rw [hfront] at hchar
      cases hchar
    · rw [hbytes, List.cons_append]
    · intro longer hlonger _
      rw [List.append_nil] at hlonger
      exact hlonger.length_le

/-- Lossy reading cuts the bytes. -/
theorem replaced_decodeLossy (bytes : List UInt8) : Replaced bytes (decodeLossy bytes) := by
  fun_induction decodeLossy bytes with
  | case1 => exact .nil
  | case2 lead rest c extra hfront ih =>
    have hcases := isFront_front lead rest
    rw [hfront] at hcases
    cases hcases with
    | @whole c part tail hbytes hrest =>
      subst hrest
      rw [List.drop_left] at ih ⊢
      rw [← List.cons_append, ← hbytes]
      exact .char c ih
  | case3 lead rest extra hfront ih =>
    have hreplaced := Replaced.illFormed (isIllFormedPart_of_front hfront) ih
    rwa [List.cons_append, List.take_append_drop] at hreplaced
  | case4 lead rest hfront =>
    have hreplaced := Replaced.illFormed (isIllFormedPart_of_cutShort hfront) .nil
    rwa [List.append_nil] at hreplaced

/-! ## One way to cut -/

/-- Bytes with a sequence at their front are not empty. -/
theorem utf8EncodeChar_append_ne_nil (c : Char) (rest : List UInt8) :
    String.utf8EncodeChar c ++ rest ≠ [] := by
  obtain ⟨lead, more, hbytes, -⟩ := front_utf8EncodeChar c rest
  rw [hbytes, List.cons_append]
  exact List.cons_ne_nil _ _

/-- Two sequences at the front of the same bytes are one. -/
theorem eq_of_sequences {c d : Char} (heq : String.utf8EncodeChar c ++ rest =
    String.utf8EncodeChar d ++ tail) : c = d ∧ rest = tail := by
  obtain ⟨lead, more, hbytes, hfront⟩ := front_utf8EncodeChar c rest
  obtain ⟨other, more', hbytes', hfront'⟩ := front_utf8EncodeChar d tail
  have hsame := heq
  rw [hbytes, hbytes', List.cons_append, List.cons_append, List.cons.injEq] at hsame
  rw [hsame.1, hsame.2, hfront', Front.char.injEq] at hfront
  obtain ⟨rfl, -⟩ := hfront
  exact ⟨rfl, List.append_cancel_left heq⟩

/-- A maximal ill-formed part is not longer than another one of the same bytes. -/
theorem IsIllFormedPart.length_le {other : List UInt8} (hpart : IsIllFormedPart part rest)
    (hother : IsIllFormedPart other tail) (heq : part ++ rest = other ++ tail) :
    part.length ≤ other.length := by
  rcases hpart.begins with hbegins | hone
  · exact hother.longest part (heq ▸ List.prefix_append part rest) hbegins
  · rw [hone]
    exact List.length_pos_iff.mpr hother.ne_nil

/-- Bytes are cut in one way only. -/
theorem Replaced.unique (hcs : Replaced bytes cs) (hds : Replaced bytes ds) : cs = ds := by
  induction hcs generalizing ds with
  | nil =>
    generalize hbytes : ([] : List UInt8) = bytes at hds
    cases hds with
    | nil => rfl
    | char c hrest => exact absurd hbytes.symm (utf8EncodeChar_append_ne_nil c _)
    | illFormed hpart hrest => exact absurd (List.append_eq_nil_iff.mp hbytes.symm).1 hpart.ne_nil
  | @char c rest cs hrest ih =>
    generalize hbytes : String.utf8EncodeChar c ++ rest = bytes at hds
    cases hds with
    | nil => exact absurd hbytes (utf8EncodeChar_append_ne_nil c rest)
    | char d hother =>
      obtain ⟨rfl, rfl⟩ := eq_of_sequences hbytes
      rw [ih hother]
    | illFormed hpart hother =>
      exact absurd (hbytes ▸ List.prefix_append _ rest) (hpart.not_sequence c)
  | @illFormed part rest cs hpart hrest ih =>
    generalize hbytes : part ++ rest = bytes at hds
    cases hds with
    | nil => exact absurd (List.append_eq_nil_iff.mp hbytes).1 hpart.ne_nil
    | @char d tail ds hother =>
      exact absurd (hbytes ▸ List.prefix_append _ tail) (hpart.not_sequence d)
    | illFormed hpart' hother =>
      have hlength := Nat.le_antisymm (hpart.length_le hpart' hbytes)
        (hpart'.length_le hpart hbytes.symm)
      obtain ⟨rfl, rfl⟩ := List.append_inj hbytes hlength
      rw [ih hother]

/-- Lossy reading replaces each maximal ill-formed part by one character. -/
theorem replaced_iff : Replaced bytes cs ↔ decodeLossy bytes = cs := by
  constructor
  · intro hcs
    exact (replaced_decodeLossy bytes).unique hcs
  · rintro rfl
    exact replaced_decodeLossy bytes

/-! ## ASCII bytes -/

/-- A sequence with an ASCII byte in it is that byte alone. -/
theorem utf8EncodeChar_eq_singleton {c : Char} (hascii : ascii < 0x80)
    (hmem : ascii ∈ String.utf8EncodeChar c) : String.utf8EncodeChar c = [ascii] := by
  have hne : ∀ n, n < 256 → 0x80 ≤ n → ascii ≠ UInt8.ofNat n := by
    rintro n hn hlow rfl
    rw [UInt8.lt_iff_toNat_lt, UInt8.toNat_ofNat', Nat.mod_eq_of_lt hn] at hascii
    exact absurd hascii (Nat.not_lt.mpr hlow)
  unfold String.utf8EncodeChar at hmem ⊢
  dsimp only at hmem ⊢
  split_ifs at hmem ⊢
  · rw [List.mem_singleton.mp hmem]
  all_goals simp only [List.mem_cons, List.not_mem_nil, or_false] at hmem
  · rcases hmem with hbyte | hbyte <;> exact absurd hbyte (hne _ (by omega) (by omega))
  · rcases hmem with hbyte | hbyte | hbyte <;> exact absurd hbyte (hne _ (by omega) (by omega))
  · rcases hmem with hbyte | hbyte | hbyte | hbyte <;>
      exact absurd hbyte (hne _ (by omega) (by omega))

/-- The sequence of an ASCII byte. -/
theorem utf8EncodeChar_ascii (hascii : ascii < 0x80) :
    String.utf8EncodeChar (Char.ofNat ascii.toNat) = [ascii] :=
  utf8EncodeChar_one (by simp [width?, hascii])

/-- A beginning of a sequence that stands at the front of some bytes ends before the first ASCII
byte behind them. -/
theorem Begins.prefix_of_ascii (hbegins : Begins longer) (hascii : ascii < 0x80)
    (hne : part ≠ []) (hstart : longer <+: part ++ ascii :: tail) : longer <+: part := by
  have hpart : part <+: part ++ ascii :: tail := List.prefix_append part _
  by_cases hlength : longer.length ≤ part.length
  · exact List.prefix_of_prefix_length_le hstart hpart hlength
  · -- otherwise the ASCII byte would be in a sequence of two bytes at least
    obtain ⟨c, hc⟩ := hbegins
    have hwith : part ++ [ascii] <+: longer := by
      refine List.prefix_of_prefix_length_le ⟨tail, by simp⟩ hstart ?_
      simp only [List.length_append, List.length_singleton]
      omega
    have hsequence : part ++ [ascii] <+: String.utf8EncodeChar c := hwith.trans hc
    have hmem : ascii ∈ String.utf8EncodeChar c := hsequence.subset (by simp)
    have hle := hsequence.length_le
    rw [utf8EncodeChar_eq_singleton hascii hmem] at hle
    have hpos := List.length_pos_iff.mpr hne
    simp only [List.length_append, List.length_singleton] at hle
    omega

/-- A maximal ill-formed part stays one with an ASCII byte behind the bytes. -/
theorem IsIllFormedPart.append_ascii (hpart : IsIllFormedPart part rest) (hascii : ascii < 0x80)
    (tail : List UInt8) : IsIllFormedPart part (rest ++ ascii :: tail) where
  ne_nil := hpart.ne_nil
  not_sequence c hstart := by
    rw [← List.append_assoc] at hstart
    have hne : part ++ rest ≠ [] := List.append_ne_nil_of_left_ne_nil hpart.ne_nil rest
    have hbegins : Begins (String.utf8EncodeChar c) := ⟨c, List.prefix_rfl⟩
    exact hpart.not_sequence c (hbegins.prefix_of_ascii hascii hne hstart)
  begins := hpart.begins
  longest longer hstart hbegins := by
    rw [← List.append_assoc] at hstart
    have hne : part ++ rest ≠ [] := List.append_ne_nil_of_left_ne_nil hpart.ne_nil rest
    exact hpart.longest longer (hbegins.prefix_of_ascii hascii hne hstart) hbegins

/-- Bytes around an ASCII byte are cut separately. -/
theorem Replaced.append_ascii (hcs : Replaced bytes cs) (hascii : ascii < 0x80)
    (hds : Replaced tail ds) :
    Replaced (bytes ++ ascii :: tail) (cs ++ Char.ofNat ascii.toNat :: ds) := by
  induction hcs with
  | nil =>
    have hchar := Replaced.char (Char.ofNat ascii.toNat) hds
    rwa [utf8EncodeChar_ascii hascii] at hchar
  | char c hrest ih =>
    rw [List.append_assoc]
    exact .char c ih
  | illFormed hpart hrest ih =>
    rw [List.append_assoc]
    exact .illFormed (hpart.append_ascii hascii tail) ih

/-- Bytes around an ASCII byte are read separately. -/
theorem decodeLossy_append_ascii (hascii : ascii < 0x80) (bytes tail : List UInt8) :
    decodeLossy (bytes ++ ascii :: tail) =
      decodeLossy bytes ++ Char.ofNat ascii.toNat :: decodeLossy tail :=
  replaced_iff.mp
    ((replaced_decodeLossy bytes).append_ascii hascii (replaced_decodeLossy tail))

end ContainerOps.Text.Utf8
