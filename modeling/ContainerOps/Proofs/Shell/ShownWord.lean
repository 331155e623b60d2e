import ContainerOps.Proofs.Shell.Quoting

/-!
# Reading a word in quotes

The shell reads a word piece by piece, and enters and leaves quotes while it is in the word.  One
step of that is known for every character that can stand in a quoted word; from there the pieces
follow by induction on the octets of the word.  The bound on the depth of calls goes down by one
with every piece.

Main results:

- `partsHere_plain`, `partsHere_quotedPiece` and `partsHere_escaped`: how one character is read.
- `partsHere_shown`: a quoted word is read as its pieces.
- `wordToken_shown`: and these are the word that was read.
-/

namespace ContainerOps.Shell

/-! ## Characters -/

/-- Behind a reading that succeeds, the next one goes on from where it ended. -/
theorem Reading.bind_of_ok {α β : Type} {reading : Reading α} {c d : Cursor} {a : α}
    (hreading : reading c = .ok (a, d)) (next : α → Reading β) :
    (reading >>= next) c = next a d := by
  simp only [bind, StateT.bind, hreading]
  rfl

/-- What is known about a cursor is read from that cursor. -/
theorem Reading.bind_get {α : Type} (c : Cursor) (next : Cursor → Reading α) :
    (get >>= next) c = next c c :=
  rfl

namespace Cursor

/-- The cursor in front of a text, on a line, in or behind a word in which something may be
quoted. -/
def inFrontOf (c : Cursor) (unread : List Unread) (line : Nat) (quotes : Bool) : Cursor :=
  { c with unread := unread, line := line, hasQuotes := quotes }

variable {c : Cursor} {rest : List Unread} {line : Nat} {quotes joining : Bool}

/-- Where no alias has ended, nothing counts again. -/
theorem release_of_finished (hfinished : c.finished = []) : c.release = c := by
  rw [release, hfinished]
  rfl

/-- The next character is taken unless it joins two lines. -/
theorem take_char {x : Char} (hfinished : c.finished = [])
    (hjoint : joining = true → x = '\\' → ∀ behind, rest ≠ .char '\n' :: behind) :
    (c.inFrontOf (.char x :: rest) line quotes).take joining =
      (some x, c.inFrontOf rest line quotes) := by
  have hsettle : ∀ d : Cursor,
      settle joining (.char x :: rest) d = { d with unread := .char x :: rest } := by
    intro d
    unfold settle
    split
    · next heq => cases heq
    · next behind heq =>
      cases heq
      split
      · next hjoining => exact absurd rfl (hjoint hjoining rfl behind)
      · rfl
    · rfl
  rw [take, release_of_finished (c := c.inFrontOf _ line quotes) hfinished, inFrontOf, hsettle]
  rfl

/-- At the end of the text there is no character. -/
theorem take_nil (hfinished : c.finished = []) :
    (c.inFrontOf [] line quotes).take joining = (none, c.inFrontOf [] line quotes) := by
  rw [take, release_of_finished (c := c.inFrontOf _ line quotes) hfinished]
  rfl

end Cursor

namespace Reader

/-! ## Pieces -/

/-- Reads on in a word from where the cursor stands. -/
def partsHere (fuel : Nat) (f : Frame) (pieces : List Piece) :
    Reading (List Piece × Frame × Option Char) := do
  parts fuel .word f pieces (← nextIn f)

/-- The frame outside of quotes. -/
def bareFrame : Frame :=
  Frame.of .bare false

/-- The frame between single quotes. -/
def quotedFrame : Frame :=
  { bareFrame with quoting := .single }

/-- Outside of quotes, a character without a meaning to a shell belongs to the word; a brace would
close a parameter, but none is open. -/
theorem roleOf_bareFrame {x : Char} (hplain : Command.isSpecial x = false) :
    roleOf bareFrame x = if x = '\x7d' then .closesParameter else .plain := by
  have hnewline : x ≠ '\n' := ne_of_isSpecial hplain (by decide)
  have hends : x ∉ ['<', '>', '(', ')', ';', '&', '|', ' ', '\t'] := by
    intro hmem
    simp only [List.mem_cons, List.not_mem_nil, or_false] at hmem
    rcases hmem with rfl | rfl | rfl | rfl | rfl | rfl | rfl | rfl | rfl
    all_goals exact absurd hplain (by decide)
  have hsingle : x ≠ '\'' := ne_of_isSpecial hplain (by decide)
  have hdouble : x ≠ '"' := ne_of_isSpecial hplain (by decide)
  have hbackslash : x ≠ '\\' := ne_of_isSpecial hplain (by decide)
  have hback : x ≠ backQuote := ne_of_isSpecial hplain (by decide)
  have hdollar : x ≠ '$' := ne_of_isSpecial hplain (by decide)
  simp only [roleOf, bareFrame, Frame.of, beq_iff_eq, hnewline, if_false, hends, hsingle, hdouble,
    hbackslash, hback, hdollar]

/-- The role of a character between single quotes. -/
theorem roleOf_quotedFrame {x : Char} (hquote : x ≠ '\'') :
    roleOf quotedFrame x =
      if x = '\n' then .newline
      else if x = '\\' ∨ x ∈ protectedLetters then .protected_
      else .plain := by
  simp only [roleOf, quotedFrame, bareFrame, Frame.of, beq_iff_eq, hquote, if_false,
    Bool.or_eq_true, decide_eq_true_eq]
  rfl

/-- The text behind a word: there is none, or it begins with a blank. -/
def EndsWord (rest : List Unread) : Prop :=
  rest = [] ∨ ∃ more, rest = .char ' ' :: more

section Pieces

variable {c : Cursor} (hfinished : c.finished = []) {rest : List Unread} {line : Nat}
  {quotes : Bool} {fuel : Nat} {pieces : List Piece} {x : Char} {o : Octets}

include hfinished

/-- Between single quotes, the next character is taken whatever it is. -/
theorem nextIn_quotedFrame : nextIn quotedFrame (c.inFrontOf (.char x :: rest) line quotes) =
    .ok (some x, c.inFrontOf rest line quotes) :=
  congrArg Except.ok (Cursor.take_char hfinished fun hjoining => nomatch hjoining)

/-- Outside of quotes, so is every character but a backslash. -/
theorem nextIn_bareFrame (hbackslash : x ≠ '\\') :
    nextIn bareFrame (c.inFrontOf (.char x :: rest) line quotes) =
      .ok (some x, c.inFrontOf rest line quotes) :=
  congrArg Except.ok (Cursor.take_char hfinished fun _ heq => absurd heq hbackslash)

/-- Outside of quotes, a character without a meaning to a shell is read as it is. -/
theorem partsHere_plain (hplain : Command.isSpecial x = false) :
    partsHere (fuel + 1) bareFrame pieces (c.inFrontOf (.char x :: rest) line quotes) =
      partsHere fuel bareFrame (.plain x :: pieces) (c.inFrontOf rest line quotes) := by
  have hbackslash : x ≠ '\\' := ne_of_isSpecial hplain (by decide)
  rw [partsHere, Reading.bind_of_ok (nextIn_bareFrame hfinished hbackslash), parts,
    roleOf_bareFrame hplain]
  split
  · rfl
  · rfl

/-- Quotes are opened. -/
theorem partsHere_open :
    partsHere (fuel + 1) bareFrame pieces (c.inFrontOf (.char '\'' :: rest) line quotes) =
      partsHere fuel quotedFrame (.mark :: pieces) (c.inFrontOf rest line quotes) := by
  rw [partsHere, Reading.bind_of_ok (nextIn_bareFrame hfinished (by decide)), parts]
  rfl

/-- Quotes are closed. -/
theorem partsHere_close :
    partsHere (fuel + 1) quotedFrame pieces (c.inFrontOf (.char '\'' :: rest) line quotes) =
      partsHere fuel bareFrame (.mark :: pieces) (c.inFrontOf rest line true) := by
  rw [partsHere, Reading.bind_of_ok (nextIn_quotedFrame hfinished), parts]
  rfl

/-- Between single quotes, any other character stands for itself; behind the end of a line, the
cursor is on the next one. -/
theorem partsHere_quotedPiece (hquote : x ≠ '\'') :
    partsHere (fuel + 1) quotedFrame pieces (c.inFrontOf (.char x :: rest) line quotes) =
      partsHere fuel quotedFrame (quotedPiece x :: pieces)
        (c.inFrontOf rest (if x = '\n' then line + 1 else line) quotes) := by
  rw [partsHere, Reading.bind_of_ok (nextIn_quotedFrame hfinished), parts,
    roleOf_quotedFrame hquote]
  split
  case isTrue hnewline =>
    subst hnewline
    rfl
  case isFalse =>
    unfold quotedPiece
    split
    · rfl
    · rfl

/-- Outside of quotes, a quotation mark behind a backslash stands for itself. -/
theorem partsHere_escaped :
    partsHere (fuel + 1) bareFrame pieces
        (c.inFrontOf (.char '\\' :: .char '\'' :: rest) line quotes) =
      partsHere fuel bareFrame (.escaped '\'' :: pieces) (c.inFrontOf rest line true) := by
  have hbackslash : nextIn bareFrame (c.inFrontOf (.char '\\' :: .char '\'' :: rest) line quotes) =
      .ok (some '\\', c.inFrontOf (.char '\'' :: rest) line quotes) :=
    congrArg Except.ok (Cursor.take_char hfinished
      fun _ _ behind heq => absurd (List.cons.inj heq).1 (by simp))
  have hquote : next (c.inFrontOf (.char '\'' :: rest) line quotes) =
      .ok (some '\'', c.inFrontOf rest line quotes) :=
    congrArg Except.ok (Cursor.take_char hfinished fun hjoining => nomatch hjoining)
  rw [partsHere, Reading.bind_of_ok hbackslash, parts]
  exact (Reading.bind_of_ok hquote _).trans rfl

/-! ## Words -/

/-- Characters without a meaning to a shell are read as they are. -/
theorem partsHere_bare (hplain : ∀ x ∈ o, Command.isSpecial x = false) :
    partsHere (fuel + o.length) bareFrame pieces
        (c.inFrontOf (o.map .char ++ rest) line quotes) =
      partsHere fuel bareFrame ((o.map .plain).reverse ++ pieces)
        (c.inFrontOf rest line quotes) := by
  induction o generalizing pieces with
  | nil => rfl
  | cons x o ih =>
    obtain ⟨hx, ho⟩ := List.forall_mem_cons.mp hplain
    rw [List.length_cons, ← Nat.add_assoc, List.map_cons, List.cons_append,
      partsHere_plain hfinished hx, ih ho, List.map_cons, List.reverse_cons, List.append_assoc,
      List.singleton_append]

/-- A character that is shown between single quotes is read as its pieces, and the cursor is between
single quotes again. -/
theorem partsHere_quotedChar (fuel : Nat) (pieces : List Piece) (x : Char) (rest : List Unread)
    (line : Nat) (quotes : Bool) :
    ∃ line' quotes', partsHere (fuel + (quotedPieces x).length) quotedFrame pieces
        (c.inFrontOf ((Command.quotedChar x).map .char ++ rest) line quotes) =
      partsHere fuel quotedFrame ((quotedPieces x).reverse ++ pieces)
        (c.inFrontOf rest line' quotes') := by
  by_cases hquote : x = '\''
  · subst hquote
    exact ⟨line, true, (partsHere_close hfinished).trans
      ((partsHere_escaped hfinished).trans (partsHere_open hfinished))⟩
  · rw [quotedPieces, if_neg hquote, Command.quotedChar, if_neg hquote]
    exact ⟨_, quotes, partsHere_quotedPiece hfinished hquote⟩

/-- A text that is shown between single quotes is read as the pieces of its characters. -/
theorem partsHere_flatMap_quotedChar (fuel : Nat) (pieces : List Piece) (o : Octets)
    (rest : List Unread) (line : Nat) (quotes : Bool) :
    ∃ line' quotes', partsHere (fuel + (o.flatMap quotedPieces).length) quotedFrame pieces
        (c.inFrontOf ((o.flatMap Command.quotedChar).map .char ++ rest) line quotes) =
      partsHere fuel quotedFrame ((o.flatMap quotedPieces).reverse ++ pieces)
        (c.inFrontOf rest line' quotes') := by
  induction o generalizing pieces line quotes with
  | nil => exact ⟨line, quotes, rfl⟩
  | cons x o ih =>
    obtain ⟨line₁, quotes₁, hfirst⟩ := partsHere_quotedChar hfinished
      (fuel + (o.flatMap quotedPieces).length) pieces x
      ((o.flatMap Command.quotedChar).map .char ++ rest) line quotes
    obtain ⟨line₂, quotes₂, hothers⟩ := ih ((quotedPieces x).reverse ++ pieces) line₁ quotes₁
    refine ⟨line₂, quotes₂, ?_⟩
    rw [List.flatMap_cons, List.flatMap_cons, List.map_append, List.append_assoc,
      List.length_append, Nat.add_comm (quotedPieces x).length, ← Nat.add_assoc, hfirst, hothers,
      List.reverse_append, List.append_assoc]

/-- A word that is shown is read as its pieces. -/
theorem partsHere_shown (fuel : Nat) (o : Octets) (rest : List Unread) (line : Nat)
    (quotes : Bool) :
    ∃ line' quotes', partsHere (fuel + (shownWord o).length) bareFrame []
        (c.inFrontOf ((shownOctets o).map .char ++ rest) line quotes) =
      partsHere fuel bareFrame (shownWord o).reverse (c.inFrontOf rest line' quotes') := by
  by_cases hbare : Command.isBare (String.ofList o) = true
  · rw [shownOctets_of_bare hbare, shownWord, if_pos hbare, List.length_map,
      partsHere_bare hfinished (isBare_ofList_iff.mp hbare).2, List.append_nil]
    exact ⟨line, quotes, rfl⟩
  · obtain ⟨line', quotes', hinner⟩ := partsHere_flatMap_quotedChar hfinished (fuel + 1) [.mark]
      o (.char '\'' :: rest) line quotes
    have hlength : fuel + (.mark :: o.flatMap quotedPieces ++ [Piece.mark]).length =
        fuel + 1 + (o.flatMap quotedPieces).length + 1 := by
      simp only [List.length_cons, List.length_append, List.length_nil]
      omega
    have htext : ('\'' :: o.flatMap Command.quotedChar ++ ['\'']).map Unread.char ++ rest =
        .char '\'' :: ((o.flatMap Command.quotedChar).map .char ++ .char '\'' :: rest) := by
      simp
    rw [shownOctets_of_not_bare hbare, shownWord, if_neg hbare, hlength, htext,
      partsHere_open hfinished, hinner, partsHere_close hfinished]
    refine ⟨line', true, ?_⟩
    simp

/-- A word ends at the end of the text. -/
theorem partsHere_nil :
    partsHere (fuel + 1) bareFrame pieces (c.inFrontOf [] line quotes) =
      .ok ((pieces.reverse, bareFrame, none), c.inFrontOf [] line quotes) := by
  have hnext : nextIn bareFrame (c.inFrontOf [] line quotes) =
      .ok (none, c.inFrontOf [] line quotes) :=
    congrArg Except.ok (Cursor.take_nil hfinished)
  rw [partsHere, Reading.bind_of_ok hnext, parts]
  rfl

/-- A word ends at a blank. -/
theorem partsHere_blank :
    partsHere (fuel + 1) bareFrame pieces (c.inFrontOf (.char ' ' :: rest) line quotes) =
      .ok ((pieces.reverse, bareFrame, some ' '), c.inFrontOf rest line quotes) := by
  rw [partsHere, Reading.bind_of_ok (nextIn_bareFrame hfinished (by decide)), parts]
  rfl

/-- A word ends in front of such a text; what was read behind it is no sign of a redirection, and is
put back. -/
theorem partsHere_ends (hends : EndsWord rest) (fuel : Nat) (pieces : List Piece) (line : Nat)
    (quotes : Bool) :
    ∃ behind more, partsHere (fuel + 1) bareFrame pieces (c.inFrontOf rest line quotes) =
        .ok ((pieces.reverse, bareFrame, behind), c.inFrontOf more line quotes) ∧
      behind.filter (fun x => x == '<' || x == '>') = none ∧
      (c.inFrontOf more line quotes).putBack behind = c.inFrontOf rest line quotes := by
  obtain rfl | ⟨more, rfl⟩ := hends
  · exact ⟨none, [], partsHere_nil hfinished, rfl, rfl⟩
  · exact ⟨some ' ', more, partsHere_blank hfinished, rfl, rfl⟩

end Pieces

/-- A word that is shown is read as a word, of which the pieces are known. -/
theorem wordToken_shown {c : Cursor} {rest : List Unread} {x : Char} {o xs : Octets}
    (hfinished : c.finished = []) (hshown : shownOctets o = x :: xs) (hends : EndsWord rest)
    (fuel line : Nat) (quotes : Bool) :
    ∃ line' quotes', wordToken (fuel + (shownWord o).length + 2) (some x)
        (c.inFrontOf (xs.map .char ++ rest) line quotes) =
      .ok (.word, { c.inFrontOf rest line' quotes' with word := shownWord o }) := by
  have hbackslash : x ≠ '\\' := by
    rintro rfl
    obtain heq | hplain := head_shownOctets hshown
    · exact absurd heq (by decide)
    · exact absurd hplain (by decide)
  obtain ⟨line', quotes', hread⟩ := partsHere_shown hfinished (fuel + 1) o rest line false
  refine ⟨line', quotes', ?_⟩
  rw [hshown, List.map_cons, List.cons_append, partsHere,
    Reading.bind_of_ok (nextIn_bareFrame hfinished hbackslash)] at hread
  obtain ⟨behind, more, hend, hsign, hput⟩ := partsHere_ends hfinished hends fuel
    (shownWord o).reverse line' quotes'
  have hparts := hread.trans hend
  rw [List.reverse_reverse, Nat.add_right_comm] at hparts
  rw [wordToken]
  refine (Reading.bind_of_ok (a := ()) (d := c.inFrontOf (xs.map .char ++ rest) line false)
    rfl _).trans ?_
  refine (Reading.bind_of_ok hparts _).trans ?_
  refine (Reading.bind_get _ _).trans ?_
  simp only [hsign, ite_self]
  exact (Reading.bind_of_ok (a := ()) (congrArg (fun d => Except.ok ((), d)) hput) _).trans rfl

end Reader

end ContainerOps.Shell
