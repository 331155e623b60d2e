/-!
# Blank characters, trimming and cutting

Text is cut and trimmed by one notion of blank: the Unicode property White_Space.  The functions
here work on lists of characters; the ones on strings are their images under the two-way
conversion between strings and lists.

Main results:

- `pieces_ne_nil`: cutting never yields the empty list of pieces.
- `trimStart_append_of_blank`: leading blanks never matter to a trimmed text.
-/

namespace ContainerOps.Text

/-! ## Blank characters -/

/-- The Unicode property White_Space. -/
def isBlank (c : Char) : Bool :=
  let n := c.toNat
  (9 ≤ n && n ≤ 13) || n == 0x20 || n == 0x85 || n == 0xA0 || n == 0x1680 ||
    (0x2000 ≤ n && n ≤ 0x200A) || n == 0x2028 || n == 0x2029 || n == 0x202F ||
    n == 0x205F || n == 0x3000

/-- A line ends at a line feed and at a carriage return alike. -/
def isLineBreak (c : Char) : Bool :=
  c == '\n' || c == '\r'

/-- Every line break is blank. -/
theorem isBlank_of_isLineBreak {c : Char} (h : isLineBreak c = true) : isBlank c = true := by
  simp only [isLineBreak, Bool.or_eq_true, beq_iff_eq] at h
  rcases h with rfl | rfl <;> decide

/-! ## Trimming -/

/-- The text from its first character that is not blank. -/
def trimStart (cs : List Char) : List Char :=
  cs.dropWhile isBlank

/-- The text up to its last character that is not blank. -/
def trimEnd : List Char → List Char
  | [] => []
  | c :: rest =>
    match trimEnd rest with
    | [] => if isBlank c then [] else [c]
    | kept => c :: kept

/-- The text without the blanks at either end. -/
def trim (cs : List Char) : List Char :=
  trimEnd (trimStart cs)

/-- Blanks in front of a text do not change its trimmed form. -/
theorem trimStart_append_of_blank {blanks cs : List Char}
    (h : ∀ c ∈ blanks, isBlank c = true) :
    trimStart (blanks ++ cs) = trimStart cs := by
  induction blanks with
  | nil => rfl
  | cons b blanks ih =>
    have hb : isBlank b = true := h b (by simp)
    have hrest : ∀ c ∈ blanks, isBlank c = true := fun c hc => h c (by simp [hc])
    simpa [trimStart, hb] using ih hrest

/-- A string without the blanks at either end. -/
def trimmed (s : String) : String :=
  String.ofList (trim s.toList)

/-! ## Words -/

/-- The first word of a text, a longest run of characters that are not blank, and the text
after it.  The word is empty exactly when the text is blank. -/
def splitWord (cs : List Char) : List Char × List Char :=
  ((trimStart cs).takeWhile (fun c => !isBlank c), (trimStart cs).dropWhile (fun c => !isBlank c))

/-! ## Cutting -/

/-- The pieces of a text between the characters that satisfy a test.  There is one piece more
than there are such characters. -/
def pieces (cut : Char → Bool) : List Char → List (List Char)
  | [] => [[]]
  | c :: rest =>
    if cut c then [] :: pieces cut rest
    else
      match pieces cut rest with
      | [] => [[c]]
      | first :: others => (c :: first) :: others

/-- A text has at least one piece. -/
theorem pieces_ne_nil (cut : Char → Bool) (cs : List Char) : pieces cut cs ≠ [] := by
  cases cs with
  | nil => simp [pieces]
  | cons c rest =>
    unfold pieces
    split
    · simp
    · split <;> simp

/-- The pieces of a string between the occurrences of one character. -/
def splitOn (mark : Char) (s : String) : List String :=
  (pieces (· == mark) s.toList).map String.ofList

/-- The text before and after the first occurrence of a character. -/
def cutAt? (mark : Char) : List Char → Option (List Char × List Char)
  | [] => none
  | c :: rest =>
    if c == mark then some ([], rest)
    else (cutAt? mark rest).map fun halves => (c :: halves.1, halves.2)

/-- What follows a given beginning, if the text begins with it. -/
def after? : List Char → List Char → Option (List Char)
  | [], cs => some cs
  | _ :: _, [] => none
  | l :: lead, c :: cs => if l == c then after? lead cs else none

/-! ## Joining -/

/-- The strings one after another with a separator between neighbours. -/
def join (separator : String) : List String → String
  | [] => ""
  | [s] => s
  | s :: rest => s ++ separator ++ join separator rest

/-- Joining one string gives that string. -/
@[simp]
theorem join_singleton (separator s : String) : join separator [s] = s := rfl

/-- Joining a longer list puts the separator after its first string. -/
theorem join_cons_cons (separator s t : String) (rest : List String) :
    join separator (s :: t :: rest) = s ++ separator ++ join separator (t :: rest) := rfl

end ContainerOps.Text
