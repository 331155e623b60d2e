/-!
# UTF-8

Program output is bytes.  Reading it as text either refuses the first ill-formed place or puts
U+FFFD for each maximal ill-formed part: the longest beginning of a well-formed sequence that can
stand at that place, or one byte if there is none.

Main results:

- `front_of_ascii`: an ASCII byte is a character of its own.
-/

namespace ContainerOps.Text.Utf8

/-! ## Encoding -/

/-- The bytes of a text. -/
def encode (s : String) : List UInt8 :=
  s.toUTF8.toList

/-! ## One sequence -/

/-- What stands at the front of some bytes, after their first byte. -/
inductive Front where
  /-- A character, with the number of bytes it takes beyond the first. -/
  | char (c : Char) (extra : Nat)
  /-- An ill-formed part, with the number of bytes it takes beyond the first. -/
  | illFormed (extra : Nat)
  /-- The beginning of a sequence that the bytes end in. -/
  | cutShort

/-- A byte of a sequence after its first. -/
def isContinuation (b : UInt8) : Bool :=
  0x80 ≤ b && b ≤ 0xBF

/-- The range of the second byte after a given first byte of a sequence. -/
def secondRange (lead : UInt8) : UInt8 × UInt8 :=
  if lead == 0xE0 then (0xA0, 0xBF)
  else if lead == 0xED then (0x80, 0x9F)
  else if lead == 0xF0 then (0x90, 0xBF)
  else if lead == 0xF4 then (0x80, 0x8F)
  else (0x80, 0xBF)

/-- The number of bytes of a sequence, by its first byte; none if no sequence begins so. -/
def width? (lead : UInt8) : Option Nat :=
  if lead < 0x80 then some 1
  else if 0xC2 ≤ lead && lead ≤ 0xDF then some 2
  else if 0xE0 ≤ lead && lead ≤ 0xEF then some 3
  else if 0xF0 ≤ lead && lead ≤ 0xF4 then some 4
  else none

/-- The low six bits of a continuation byte. -/
def payload (b : UInt8) : Nat :=
  b.toNat % 64

/-- Reads the sequence at the front of some bytes. -/
def front (lead : UInt8) (rest : List UInt8) : Front :=
  let range := secondRange lead
  match width? lead with
  | none => .illFormed 0
  | some 1 => .char (Char.ofNat lead.toNat) 0
  | some 2 =>
    match rest with
    | [] => .cutShort
    | b :: _ =>
      if range.1 ≤ b && b ≤ range.2 then
        .char (Char.ofNat (lead.toNat % 32 * 64 + payload b)) 1
      else .illFormed 0
  | some 3 =>
    match rest with
    | [] => .cutShort
    | b :: rest =>
      if !(range.1 ≤ b && b ≤ range.2) then .illFormed 0
      else
        match rest with
        | [] => .cutShort
        | c :: _ =>
          if isContinuation c then
            .char (Char.ofNat ((lead.toNat % 16 * 64 + payload b) * 64 + payload c)) 2
          else .illFormed 1
  | some _ =>
    match rest with
    | [] => .cutShort
    | b :: rest =>
      if !(range.1 ≤ b && b ≤ range.2) then .illFormed 0
      else
        match rest with
        | [] => .cutShort
        | c :: rest =>
          if !isContinuation c then .illFormed 1
          else
            match rest with
            | [] => .cutShort
            | d :: _ =>
              if isContinuation d then
                .char (Char.ofNat
                  (((lead.toNat % 8 * 64 + payload b) * 64 + payload c) * 64 + payload d)) 3
              else .illFormed 2

/-! ## Whole texts -/

/-- The sign for bytes that are no text. -/
def replacement : Char := '\uFFFD'

/-- Reads bytes as text, with one replacement character for each maximal ill-formed part. -/
def decodeLossy : List UInt8 → List Char
  | [] => []
  | lead :: rest =>
    match front lead rest with
    | .char c extra => c :: decodeLossy (rest.drop extra)
    | .illFormed extra => replacement :: decodeLossy (rest.drop extra)
    | .cutShort => [replacement]
termination_by bytes => bytes.length
decreasing_by all_goals (simp only [List.length_drop, List.length_cons]; omega)

/-- The first place at which bytes are not text. -/
structure Fault where
  /-- The number of bytes before it. -/
  index : Nat
  /-- The number of ill-formed bytes, or none where the bytes end inside a sequence. -/
  width : Option Nat
deriving DecidableEq

/-- The place in words. -/
def Fault.message (fault : Fault) : String :=
  match fault.width with
  | some n =>
    "invalid utf-8 sequence of " ++ toString n ++ " bytes from index " ++ toString fault.index
  | none => "incomplete utf-8 byte sequence from index " ++ toString fault.index

/-- Reads bytes as text from a given index on, or finds the first fault. -/
def decodeFrom (index : Nat) : List UInt8 → Except Fault (List Char)
  | [] => .ok []
  | lead :: rest =>
    match front lead rest with
    | .char c extra => (decodeFrom (index + extra + 1) (rest.drop extra)).map (c :: ·)
    | .illFormed extra => .error { index := index, width := some (extra + 1) }
    | .cutShort => .error { index := index, width := none }
termination_by bytes => bytes.length
decreasing_by all_goals (simp only [List.length_drop, List.length_cons]; omega)

/-- Reads bytes as text, or finds the first fault. -/
def decode (bytes : List UInt8) : Except Fault (List Char) :=
  decodeFrom 0 bytes

/-- The text of some bytes, ill-formed parts replaced. -/
def lossyText (bytes : List UInt8) : String :=
  String.ofList (decodeLossy bytes)

/-- The text of some bytes, if they are one. -/
def text (bytes : List UInt8) : Except Fault String :=
  (decode bytes).map String.ofList

/-! ## ASCII bytes -/

/-- An ASCII byte is a character of its own. -/
theorem front_of_ascii {lead : UInt8} (h : lead < 0x80) (rest : List UInt8) :
    front lead rest = .char (Char.ofNat lead.toNat) 0 := by
  simp [front, width?, h]

end ContainerOps.Text.Utf8
