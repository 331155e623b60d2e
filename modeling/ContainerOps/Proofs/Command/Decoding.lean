import ContainerOps.Proofs.Command.Combination
import ContainerOps.Proofs.Text.Replacement
import Mathlib.Data.List.Induction

/-!
# Combining outputs as bytes and as texts

Outputs are combined as bytes before they are decoded, or as texts after that.  Both come to the
same: the line feed between two parts is an ASCII byte, so what a part ends in, be it a sequence
that is cut short, is never read together with the part behind it.

Main results:

- `combineBytes_pair`: combinations of bytes are combined into the combination of all parts.
- `lossyText_combineBytes`: decoding a combination is combining what was decoded.
- `combineBytes_map_encode`: encoding a combination is combining what was encoded.
- `decoding_commutes_with_combining`: all of this, and what makes no difference.
-/

namespace ContainerOps.Command

open ContainerOps.Text
open ContainerOps.Text.Utf8

/-! ## Combined bytes -/

/-- One part is its own combination. -/
theorem combineBytes_singleton (part : List UInt8) : combineBytes [part] = part := by
  by_cases hempty : part = []
  · subst hempty
    rfl
  · simp [combineBytes, appendPart, hempty]

/-- An empty part in front makes no difference. -/
theorem combineBytes_nil_cons (part : List UInt8) : combineBytes [[], part] = part :=
  combineBytes_singleton part

/-- An empty part at the end makes no difference. -/
theorem combineBytes_nil_end (part : List UInt8) : combineBytes [part, []] = part :=
  combineBytes_singleton part

/-- Two parts that are not empty stand on two lines. -/
theorem combineBytes_of_ne_nil {first second : List UInt8} (hfirst : first ≠ [])
    (hsecond : second ≠ []) : combineBytes [first, second] = first ++ lineFeed :: second := by
  simp [combineBytes, appendPart, hfirst, hsecond]

/-- One more part is combined with the combination of those before it. -/
theorem combineBytes_concat (parts : List (List UInt8)) (part : List UInt8) :
    combineBytes (parts ++ [part]) = combineBytes [combineBytes parts, part] := by
  by_cases hpart : part = []
  · rw [hpart, combineBytes_nil_end, combineBytes, combineBytes, List.filter_append]
    simp
  · have hlast : combineBytes (parts ++ [part]) = appendPart (combineBytes parts) part := by
      rw [combineBytes, combineBytes, List.filter_append, List.foldl_append]
      simp [hpart]
    by_cases hbuffer : combineBytes parts = []
    · rw [hlast, hbuffer, combineBytes_nil_cons]
      rfl
    · rw [hlast, combineBytes_of_ne_nil hbuffer hpart]
      simp [appendPart, hbuffer]

/-- Three parts are combined from either end. -/
theorem combineBytes_assoc (first second third : List UInt8) :
    combineBytes [combineBytes [first, second], third] =
      combineBytes [first, combineBytes [second, third]] := by
  by_cases hfirst : first = []
  · rw [hfirst, combineBytes_nil_cons, combineBytes_nil_cons]
  by_cases hsecond : second = []
  · rw [hsecond, combineBytes_nil_cons, combineBytes_nil_end]
  by_cases hthird : third = []
  · rw [hthird, combineBytes_nil_end, combineBytes_nil_end]
  rw [combineBytes_of_ne_nil hfirst hsecond, combineBytes_of_ne_nil hsecond hthird,
    combineBytes_of_ne_nil (by simp) hthird, combineBytes_of_ne_nil hfirst (by simp)]
  simp

/-- Combinations are combined into the combination of all parts. -/
theorem combineBytes_pair (before after : List (List UInt8)) :
    combineBytes [combineBytes before, combineBytes after] = combineBytes (before ++ after) := by
  induction after using List.reverseRecOn with
  | nil => rw [List.append_nil]; exact combineBytes_nil_end _
  | append_singleton after part ih =>
    rw [← List.append_assoc, combineBytes_concat, combineBytes_concat, ← ih, combineBytes_assoc]

/-- An empty part makes no difference. -/
theorem combineBytes_of_empty (before after : List (List UInt8)) :
    combineBytes (before ++ [] :: after) = combineBytes (before ++ after) := by
  simp [combineBytes, List.filter_append]

/-- Two parts have no combination that is empty, unless they are. -/
theorem combineBytes_pair_eq_nil_iff {first second : List UInt8} :
    combineBytes [first, second] = [] ↔ first = [] ∧ second = [] := by
  by_cases hfirst : first = []
  · rw [hfirst, combineBytes_nil_cons]
    simp
  · by_cases hsecond : second = []
    · rw [hsecond, combineBytes_nil_end]
      simp
    · rw [combineBytes_of_ne_nil hfirst hsecond]
      simp [hfirst]

/-- A combination is empty only if all its parts are. -/
theorem combineBytes_eq_nil_iff {parts : List (List UInt8)} :
    combineBytes parts = [] ↔ ∀ part ∈ parts, part = [] := by
  induction parts using List.reverseRecOn with
  | nil => simp [combineBytes]
  | append_singleton parts part ih =>
    rw [combineBytes_concat, combineBytes_pair_eq_nil_iff, ih]
    simp only [List.forall_mem_append, List.forall_mem_singleton]

/-! ## Combined texts -/

/-- A combination is empty only if all its parts are missing or empty. -/
theorem combineText_eq_empty_iff {parts : List (Option String)} :
    combineText parts = "" ↔ ∀ part ∈ parts, part = none ∨ part = some "" := by
  have hshown : combineText parts = "" ↔ shownParts parts = [] :=
    join_eq_empty_iff "\n" fun part => ne_empty_of_mem_shownParts
  rw [hshown, shownParts, List.filter_eq_nil_iff]
  constructor
  · intro hempty part hpart
    cases part with
    | none => exact .inl rfl
    | some text =>
      have htext := hempty text (List.mem_filterMap.mpr ⟨some text, hpart, rfl⟩)
      right
      simpa using htext
  · intro hall text htext
    obtain ⟨_, hpart, rfl⟩ := List.mem_filterMap.mp htext
    rcases hall _ hpart with hnone | hsome
    · cases hnone
    · simpa using hsome

/-- A part that is not shown makes no difference. -/
theorem combineText_of_not_shown (before after : List (Option String)) {part : Option String}
    (hpart : shownParts [part] = []) :
    combineText (before ++ part :: after) = combineText (before ++ after) := by
  have hcons : shownParts (part :: after) = shownParts after := by
    rw [← List.singleton_append, shownParts_append, hpart, List.nil_append]
  rw [combineText_eq_join, combineText_eq_join, shownParts_append, shownParts_append, hcons]

/-! ## Decoding -/

/-- Only no bytes are decoded as an empty text. -/
theorem lossyText_eq_empty_iff {bytes : List UInt8} : lossyText bytes = "" ↔ bytes = [] := by
  cases bytes with
  | nil => simp [lossyText, decodeLossy]
  | cons lead rest =>
    rw [lossyText, decodeLossy]
    split <;> simp [← String.toList_inj]

/-- Two parts are decoded one by one. -/
theorem lossyText_pair (first second : List UInt8) :
    lossyText (combineBytes [first, second]) =
      combineText [some (lossyText first), some (lossyText second)] := by
  by_cases hfirst : first = []
  · rw [hfirst, combineBytes_nil_cons, lossyText_eq_empty_iff.mpr rfl, combineText_empty_cons]
  by_cases hsecond : second = []
  · rw [hsecond, combineBytes_nil_end, lossyText_eq_empty_iff.mpr rfl, combineText_empty_end]
  rw [combineBytes_of_ne_nil hfirst hsecond,
    combineText_of_ne_empty (mt lossyText_eq_empty_iff.mp hfirst)
      (mt lossyText_eq_empty_iff.mp hsecond)]
  rw [lossyText, decodeLossy_append_ascii (by decide), ← String.toList_inj]
  simp [lossyText, lineFeed]

/-- Decoding a combination is combining what was decoded. -/
theorem lossyText_combineBytes (parts : List (List UInt8)) :
    lossyText (combineBytes parts) = combineText (parts.map fun part => some (lossyText part)) := by
  induction parts using List.reverseRecOn with
  | nil => exact lossyText_eq_empty_iff.mpr rfl
  | append_singleton parts part ih =>
    rw [combineBytes_concat, lossyText_pair, ih, List.map_append, ← combineText_pair,
      List.map_singleton, combineText_singleton]

/-! ## Encoding -/

/-- Only an empty text has no bytes. -/
theorem encode_eq_nil_iff {s : String} : encode s = [] ↔ s = "" := by
  rw [encode_eq_flatMap, ← String.toList_inj]
  cases s.toList with
  | nil => simp
  | cons c cs =>
    obtain ⟨lead, more, hbytes, -⟩ := front_utf8EncodeChar c []
    simp [hbytes]

/-- Two texts are encoded one by one. -/
theorem encode_pair (first second : String) :
    combineBytes [encode first, encode second] =
      encode (combineText [some first, some second]) := by
  by_cases hfirst : first = ""
  · rw [hfirst, encode_eq_nil_iff.mpr rfl, combineBytes_nil_cons, combineText_empty_cons]
  by_cases hsecond : second = ""
  · rw [hsecond, encode_eq_nil_iff.mpr rfl, combineBytes_nil_end, combineText_empty_end]
  have hlineFeed : String.utf8EncodeChar '\n' = [lineFeed] := by decide
  rw [combineBytes_of_ne_nil (mt encode_eq_nil_iff.mp hfirst) (mt encode_eq_nil_iff.mp hsecond),
    combineText_of_ne_empty hfirst hsecond]
  simp [encode_eq_flatMap, hlineFeed]

/-- Encoding a combination is combining what was encoded. -/
theorem combineBytes_map_encode (texts : List String) :
    combineBytes (texts.map encode) = encode (combineText (texts.map some)) := by
  induction texts using List.reverseRecOn with
  | nil => exact (encode_eq_nil_iff.mpr rfl).symm
  | append_singleton texts text ih =>
    rw [List.map_append, List.map_append, List.map_singleton, List.map_singleton,
      combineBytes_concat, ih, encode_pair, ← combineText_pair, combineText_singleton]

/-! ## Both orders -/

/-- Decoding commutes with combining, for any bytes, and so does encoding, so that combined bytes
are the bytes of the combined texts.  Neither way of combining cares how the parts are grouped, or
about parts that are missing or empty, and it gives nothing only if no part has anything.  Decoding
is what it is meant to be: one replacement character for each maximal ill-formed part. -/
theorem decoding_commutes_with_combining (parts more : List (List UInt8))
    (texts : List String) (shown others : List (Option String)) (bytes : List UInt8)
    (cs : List Char) :
    lossyText (combineBytes parts) = combineText (parts.map fun part => some (lossyText part)) ∧
    combineBytes (texts.map encode) = encode (combineText (texts.map some)) ∧
    (combineBytes [combineBytes parts, combineBytes more] = combineBytes (parts ++ more) ∧
      combineText [some (combineText shown), some (combineText others)] =
        combineText (shown ++ others)) ∧
    (combineBytes (parts ++ [] :: more) = combineBytes (parts ++ more) ∧
      combineText (shown ++ none :: others) = combineText (shown ++ others) ∧
      combineText (shown ++ some "" :: others) = combineText (shown ++ others)) ∧
    ((combineBytes parts = [] ↔ ∀ part ∈ parts, part = []) ∧
      (combineText shown = "" ↔ ∀ part ∈ shown, part = none ∨ part = some "")) ∧
    (decodeLossy bytes = cs ↔ Replaced bytes cs) := by
  refine ⟨lossyText_combineBytes parts, combineBytes_map_encode texts, ⟨?_, ?_⟩, ⟨?_, ?_, ?_⟩,
    ⟨combineBytes_eq_nil_iff, combineText_eq_empty_iff⟩, replaced_iff.symm⟩
  · exact combineBytes_pair parts more
  · exact combineText_pair shown others
  · exact combineBytes_of_empty parts more
  · exact combineText_of_not_shown shown others rfl
  · exact combineText_of_not_shown shown others rfl

/-- A sequence of three bytes that is cut short at the end of a part is replaced before the line
feed, and the bytes that would have completed it are replaced behind it. -/
example : lossyText (combineBytes [[0x61, 0xE2, 0x82], [], [0xAC, 0x62]]) =
    "a\uFFFD\n\uFFFDb" := by
  cbv

end ContainerOps.Command
