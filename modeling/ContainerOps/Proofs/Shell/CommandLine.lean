import ContainerOps.Proofs.Shell.ShownWord

/-!
# Reading a shown command

What is shown of a command is a line of quoted words with blanks between them.  The shell reads it
token by token: the first word is no keyword unless the name of the command is one, the others are
words wherever they stand, and behind them there is the end of the text.  So it is one simple
command, and its words are expanded to the name and the arguments.

Main results:

- `readToken_shown`: a quoted word is the next token.
- `simple_shown`: a line of quoted words is read one by one.
- `nextCommand_shown`: such a line is one complete command.
- `reads_render`: a command that is shown is read back by the shell, and expanded to its name and
  its arguments, whatever the state of the shell.
-/

namespace ContainerOps.Shell

/-! ## Places -/

/-- The shown words behind the first one. -/
def shownRest (os : List Octets) : Octets :=
  os.flatMap fun o => ' ' :: shownOctets o

namespace Cursor

/-- The cursor behind a token that is a shown word, in front of a text. -/
def behindWord (c : Cursor) (o : Octets) (unread : List Unread) (line : Nat) (quotes : Bool) :
    Cursor :=
  { c.inFrontOf unread line quotes with check := .nothing, token := .word, word := shownWord o }

/-- A cursor in a text in which no words stand for others, and in which no document begins. -/
structure IsPlain (c : Cursor) : Prop where
  /-- No words stand for others. -/
  aliases : c.aliases = []
  /-- No alias has ended. -/
  finished : c.finished = []
  /-- No document begins on the next line. -/
  awaited : c.awaited = []

/-- Whether the text at a cursor is plain depends on nothing else. -/
theorem IsPlain.congr {c d : Cursor} (hplain : c.IsPlain) (haliases : d.aliases = c.aliases)
    (hfinished : d.finished = c.finished) (hawaited : d.awaited = c.awaited) : d.IsPlain :=
  ⟨haliases.trans hplain.aliases, hfinished.trans hplain.finished, hawaited.trans hplain.awaited⟩

/-- A cursor in a plain text of which the end was found, and comes again. -/
structure IsOver (c : Cursor) : Prop extends c.IsPlain where
  /-- The last token comes again. -/
  again : c.again = true
  /-- It is the end of the text. -/
  token : c.token = .endOfFile
  /-- Ends of lines count. -/
  newlines : c.check.newlines = false

/-- A cursor in a plain text behind the first word of a command, which comes again. -/
structure IsAtFirst (c : Cursor) (o : Octets) (os : List Octets) : Prop extends c.IsPlain where
  /-- Behind it there are the other words. -/
  unread : c.unread = (shownRest os).map .char
  /-- The last token comes again. -/
  again : c.again = true
  /-- It is a word. -/
  token : c.token = .word
  /-- It is the first word. -/
  word : c.word = shownWord o
  /-- The next token is taken as it is. -/
  check : c.check = .nothing

end Cursor

namespace Reader

/-! ## Tokens -/

section Tokens

variable {c : Cursor} {rest : List Unread} {line : Nat} {quotes : Bool} {fuel : Nat} {x : Char}
  {o xs : Octets}

/-- Nothing is passed in front of a character that begins a word. -/
theorem skipBlanks_char {unread : List Unread} (hblank : x ≠ ' ') (htab : x ≠ '\t')
    (hcomment : x ≠ '#') (hbackslash : x ≠ '\\') :
    Cursor.skipBlanks false (.char x :: unread) c = { c with unread := .char x :: unread } := by
  rw [Cursor.skipBlanks]
  · simp [hblank, htab, hcomment]
  · intro _ _
    exact hbackslash

/-- The character that begins a word begins no other token. -/
structure BeginsWord (x : Char) : Prop where
  /-- It is no blank. -/
  blank : x ≠ ' ' ∧ x ≠ '\t' ∧ x ≠ '\n'
  /-- It begins no comment. -/
  comment : x ≠ '#'
  /-- It does not protect the character behind it. -/
  backslash : x ≠ '\\'
  /-- It ends no command. -/
  sign : x ≠ '&' ∧ x ≠ '|' ∧ x ≠ ';' ∧ x ≠ '(' ∧ x ≠ ')'

/-- A word that is shown begins with such a character. -/
theorem beginsWord_of_shown (hshown : shownOctets o = x :: xs) : BeginsWord x := by
  obtain rfl | hplain := head_shownOctets hshown
  · exact ⟨by decide, by decide, by decide, by decide⟩
  · have hne : ∀ y : Char, Command.isSpecial y = true → x ≠ y :=
      fun y => ne_of_isSpecial hplain
    exact ⟨⟨hne _ (by decide), hne _ (by decide), hne _ (by decide)⟩, hne _ (by decide),
      hne _ (by decide), hne _ (by decide), hne _ (by decide), hne _ (by decide),
      hne _ (by decide), hne _ (by decide)⟩

/-- A word that is shown is the next token, be there a blank in front of it or not. -/
theorem rawToken_shown (hfinished : c.finished = []) (hagain : c.again = false)
    (hunread : c.unread = (shownOctets o).map .char ++ rest ∨
      c.unread = .char ' ' :: ((shownOctets o).map .char ++ rest))
    (hends : EndsWord rest) (fuel : Nat) :
    ∃ line' quotes', rawToken (fuel + (shownWord o).length + 3) c =
      .ok (.word, { c.inFrontOf rest line' quotes' with word := shownWord o, token := .word }) := by
  obtain ⟨x, xs, hshown⟩ := List.exists_cons_of_ne_nil (shownOctets_ne_nil o)
  have hbegins := beginsWord_of_shown hshown
  obtain ⟨hspace, htab, hnewline⟩ := hbegins.blank
  obtain ⟨hamp, hbar, hsemi, hopen, hclose⟩ := hbegins.sign
  obtain ⟨line', quotes', hword⟩ := wordToken_shown hfinished hshown hends fuel c.line c.hasQuotes
  refine ⟨line', quotes', ?_⟩
  have hskip : Cursor.skipBlanks false c.unread c =
      c.inFrontOf (.char x :: (xs.map .char ++ rest)) c.line c.hasQuotes := by
    have hfirst : Cursor.skipBlanks false ((shownOctets o).map .char ++ rest) c =
        c.inFrontOf (.char x :: (xs.map .char ++ rest)) c.line c.hasQuotes := by
      rw [hshown, List.map_cons, List.cons_append]
      exact skipBlanks_char hspace htab hbegins.comment hbegins.backslash
    obtain hnone | hblank := hunread
    · rw [hnone, hfirst]
    · rw [hblank, ← hfirst]
      exact congrArg _ (Cursor.release_of_finished hfinished)
  have hnext : nextJoined (c.inFrontOf (.char x :: (xs.map .char ++ rest)) c.line c.hasQuotes) =
      .ok (some x, c.inFrontOf (xs.map .char ++ rest) c.line c.hasQuotes) :=
    congrArg Except.ok (Cursor.take_char hfinished fun _ heq => absurd heq hbegins.backslash)
  rw [rawToken]
  refine (Reading.bind_get _ _).trans ?_
  rw [hagain, if_neg Bool.false_ne_true]
  refine (Reading.bind_of_ok (a := ()) (congrArg (fun d => Except.ok ((), d)) hskip) _).trans ?_
  refine (Reading.bind_of_ok hnext _).trans ?_
  -- the character is none of those that are tokens of their own
  simp only
  exact (Reading.bind_of_ok hword _).trans rfl

/-- A word that has no meaning of its own where a command begins. -/
def NotKeyword (word : Word) : Prop :=
  ∀ text, Word.text? word = some text → String.ofList text ∉ keywords

/-- A token is taken as it is where no words stand for others and it is no keyword. -/
theorem checkedToken_of_raw {d : Cursor} {token : Token} {check : Check}
    (hraw : rawToken fuel c = .ok (token, d)) (hnewlines : check.newlines = false)
    (haliases : d.aliases = [])
    (hkeyword : token = .word → (check.and d.check).keywords = true → NotKeyword d.word) :
    checkedToken (fuel + 1) check c =
      .ok (token, { d with check := .nothing, token := token }) := by
  have halias : ∀ text : Option Octets, text.bind d.alias? = none := by
    intro text
    cases text with
    | none => rfl
    | some text => simp [Cursor.alias?, haliases]
  rw [checkedToken]
  refine (Reading.bind_of_ok hraw _).trans ?_
  simp only [hnewlines, Bool.false_eq_true, if_false]
  refine (Reading.bind_of_ok (a := token) (d := d) rfl _).trans ?_
  refine (Reading.bind_get _ _).trans ?_
  generalize htext :
    (if (decide (token = .word) && !d.hasQuotes) = true then d.word.text? else none) = text
  have hnone : (text.map String.ofList).filter
      (fun text => (check.and d.check).keywords && decide (text ∈ keywords)) = none := by
    rw [Option.filter_eq_none_iff]
    intro shown hshown
    obtain ⟨letters, rfl, rfl⟩ := Option.map_eq_some_iff.mp hshown
    split at htext
    case isFalse => cases htext
    case isTrue hword =>
      have htoken : token = .word := by simp_all
      intro hboth
      obtain ⟨hlooks, hmem⟩ := Bool.and_eq_true_iff.mp hboth
      exact hkeyword htoken hlooks letters htext (of_decide_eq_true hmem)
  simp only [hnone, halias, ite_self]
  cases text with
  | none => rfl
  | some text => rfl

/-- In a plain text, a token is looked at for keywords only. -/
theorem readToken_of_raw {d : Cursor} {token : Token} (hraw : rawToken fuel c = .ok (token, d))
    (hnewlines : c.check.newlines = false) (haliases : d.aliases = []) (hcheck : d.check = c.check)
    (hkeyword : token = .word → c.check.keywords = true → NotKeyword d.word) :
    readToken (fuel + 2) c = .ok (token, { d with check := .nothing, token := token }) := by
  rw [readToken]
  refine (Reading.bind_get _ _).trans ?_
  have hsame : (c.check.and d.check).keywords = c.check.keywords := by
    rw [hcheck]
    exact Bool.or_self _
  exact checkedToken_of_raw hraw hnewlines haliases fun hword hlooks =>
    hkeyword hword (hsame ▸ hlooks)

/-- The last token comes again as it was. -/
theorem readToken_again {token : Token} (hplain : c.IsPlain) (hagain : c.again = true)
    (htoken : c.token = token) (hnewlines : c.check.newlines = false)
    (hkeyword : token = .word → c.check.keywords = true → NotKeyword c.word) (hfuel : 3 ≤ fuel) :
    readToken fuel c = .ok (token, { c with again := false, check := .nothing }) := by
  subst htoken
  obtain ⟨fuel, rfl⟩ := Nat.exists_eq_add_of_le' hfuel
  have hraw : rawToken (fuel + 1) c = .ok (c.token, { c with again := false }) := by
    rw [rawToken]
    refine (Reading.bind_get _ _).trans ?_
    rw [hagain]
    rfl
  exact readToken_of_raw hraw hnewlines hplain.aliases rfl hkeyword

/-- At the end of the text there is a token that says so. -/
theorem readToken_nil (hplain : c.IsPlain) (hagain : c.again = false) (hunread : c.unread = [])
    (hnewlines : c.check.newlines = false) (hfuel : 3 ≤ fuel) :
    readToken fuel c = .ok (.endOfFile, { c with check := .nothing, token := .endOfFile }) := by
  obtain ⟨fuel, rfl⟩ := Nat.exists_eq_add_of_le' hfuel
  have hskip : Cursor.skipBlanks false c.unread c = c.inFrontOf [] c.line c.hasQuotes := by
    rw [hunread]
    rfl
  have hnext : nextJoined (c.inFrontOf [] c.line c.hasQuotes) =
      .ok (none, c.inFrontOf [] c.line c.hasQuotes) :=
    congrArg Except.ok (Cursor.take_nil hplain.finished)
  have hraw : rawToken (fuel + 1) c =
      .ok (.endOfFile, { c.inFrontOf [] c.line c.hasQuotes with token := .endOfFile }) := by
    rw [rawToken]
    refine (Reading.bind_get _ _).trans ?_
    rw [hagain, if_neg Bool.false_ne_true]
    refine (Reading.bind_of_ok (a := ()) (congrArg (fun d => Except.ok ((), d)) hskip) _).trans ?_
    exact (Reading.bind_of_ok hnext _).trans rfl
  rw [readToken_of_raw hraw hnewlines hplain.aliases rfl (fun hword => nomatch hword)]
  rw [Cursor.inFrontOf, ← hunread]

/-- A word that is shown is the next token unless it is a keyword where one counts. -/
theorem readToken_shown (hplain : c.IsPlain) (hagain : c.again = false)
    (hunread : c.unread = (shownOctets o).map .char ++ rest ∨
      c.unread = .char ' ' :: ((shownOctets o).map .char ++ rest))
    (hends : EndsWord rest) (hnewlines : c.check.newlines = false)
    (hkeyword : c.check.keywords = true → NotKeyword (shownWord o))
    (hfuel : (shownWord o).length + 5 ≤ fuel) :
    ∃ line' quotes', readToken fuel c = .ok (.word, c.behindWord o rest line' quotes') := by
  obtain ⟨fuel, rfl⟩ := Nat.exists_eq_add_of_le' hfuel
  obtain ⟨line', quotes', hraw⟩ := rawToken_shown hplain.finished hagain hunread hends fuel
  refine ⟨line', quotes', ?_⟩
  rw [show fuel + ((shownWord o).length + 5) = fuel + (shownWord o).length + 3 + 2 by omega]
  exact readToken_of_raw hraw hnewlines hplain.aliases rfl fun _ => hkeyword

end Tokens

/-! ## Commands -/

section Commands

variable {c : Cursor} {fuel line : Nat} {o : Octets} {os : List Octets}

/-- Behind a shown word there are the others, or nothing. -/
theorem endsWord_shownRest (os : List Octets) : EndsWord ((shownRest os).map .char) := by
  cases os with
  | nil => exact .inl rfl
  | cons o os => exact .inr ⟨_, rfl⟩

/-- The words behind the first one are read one by one, up to the end of the text. -/
theorem simple_shown (line : Nat) (words : List Word) (hplain : c.IsPlain)
    (hagain : c.again = false) (hunread : c.unread = (shownRest os).map .char)
    (hfuel : c.unread.length + 6 ≤ fuel) :
    ∃ d : Cursor, simple fuel false line [] words [] c =
      .ok (.simple line [] (words.reverse ++ os.map shownWord) [], d) ∧ d.IsOver := by
  induction os generalizing c fuel words with
  | nil =>
    obtain ⟨fuel, rfl⟩ := Nat.exists_eq_add_of_le' (show 1 ≤ fuel by omega)
    have hread := readToken_nil (c := { c with check := .nothing }) (hplain.congr rfl rfl rfl)
      hagain hunread rfl (show 3 ≤ fuel by omega)
    refine ⟨{ c with check := .nothing, token := .endOfFile, again := true }, ?_,
      hplain.congr rfl rfl rfl, rfl, rfl, rfl⟩
    rw [simple]
    refine (Reading.bind_of_ok (a := ()) (d := { c with check := .nothing }) rfl _).trans ?_
    refine (Reading.bind_of_ok hread _).trans ?_
    rw [List.map_nil, List.append_nil]
    rfl
  | cons o os ih =>
    obtain ⟨fuel, rfl⟩ := Nat.exists_eq_add_of_le' (show 1 ≤ fuel by omega)
    have htext : c.unread =
        .char ' ' :: ((shownOctets o).map .char ++ (shownRest os).map .char) := by
      rw [hunread, shownRest, List.flatMap_cons, List.cons_append, List.map_cons, List.map_append]
      rfl
    have hlength := length_shownWord_le o
    rw [htext] at hfuel
    simp only [List.length_cons, List.length_append, List.length_map] at hfuel
    obtain ⟨line', quotes', hread⟩ := readToken_shown (c := { c with check := .nothing })
      (hplain.congr rfl rfl rfl) hagain (.inr htext) (endsWord_shownRest os) rfl
      (fun hlooks => nomatch hlooks) (show (shownWord o).length + 5 ≤ fuel by omega)
    obtain ⟨d, hothers, hover⟩ := ih (shownWord o :: words)
      (c := Cursor.behindWord { c with check := .nothing } o ((shownRest os).map .char) line'
        quotes')
      (hplain.congr rfl rfl rfl) hagain rfl (show _ ≤ fuel by
        simp only [Cursor.behindWord, Cursor.inFrontOf, List.length_map]
        omega)
    refine ⟨d, ?_, hover⟩
    rw [simple]
    refine (Reading.bind_of_ok (a := ()) (d := { c with check := .nothing }) rfl _).trans ?_
    refine (Reading.bind_of_ok hread _).trans ?_
    rw [List.map_cons, ← List.singleton_append, ← List.append_assoc, ← List.reverse_cons]
    exact hothers

/-- At the end of the text, the end is the next token again and again. -/
theorem readToken_over (hover : c.IsOver) (hfuel : 3 ≤ fuel) :
    readToken fuel c = .ok (.endOfFile, { c with again := false, check := .nothing }) :=
  readToken_again hover.toIsPlain hover.again hover.token hover.newlines
    (fun hword => nomatch hword) hfuel

/-- Behind the last command there is no pipe. -/
theorem pipedCommands_over (hover : c.IsOver) (hfuel : 4 ≤ fuel) :
    ∃ d : Cursor, pipedCommands fuel c = .ok ([], d) ∧ d.IsOver := by
  obtain ⟨fuel, rfl⟩ := Nat.exists_eq_add_of_le' (show 1 ≤ fuel by omega)
  refine ⟨{ c with check := .nothing, again := true }, ?_,
    hover.toIsPlain.congr rfl rfl rfl, rfl, hover.token, rfl⟩
  rw [pipedCommands]
  exact (Reading.bind_of_ok (readToken_over hover (by omega)) _).trans rfl

/-- Nor does anything depend on its outcome. -/
theorem andOrFrom_over (hover : c.IsOver) (hfuel : 4 ≤ fuel) (left : Node) :
    ∃ d : Cursor, andOrFrom fuel left c = .ok (left, d) ∧ d.IsOver := by
  obtain ⟨fuel, rfl⟩ := Nat.exists_eq_add_of_le' (show 1 ≤ fuel by omega)
  refine ⟨{ c with check := .nothing, again := true }, ?_,
    hover.toIsPlain.congr rfl rfl rfl, rfl, hover.token, rfl⟩
  rw [andOrFrom]
  exact (Reading.bind_of_ok (readToken_over hover (by omega)) _).trans rfl

/-- A list of commands ends there. -/
theorem list_over (hover : c.IsOver) (hfuel : 5 ≤ fuel) (found : Option Node) :
    ∃ d : Cursor, list fuel true true found c = .ok (found, d) ∧ d.IsOver := by
  obtain ⟨fuel, rfl⟩ := Nat.exists_eq_add_of_le' (show 2 ≤ fuel by omega)
  let looking : Cursor := { c with check := ⟨false, true, true, false⟩ }
  have hlooking : looking.IsOver :=
    ⟨hover.toIsPlain.congr rfl rfl rfl, hover.again, hover.token, rfl⟩
  have hdocuments : documents (fuel + 1) { looking with again := false, check := .nothing } =
      .ok ((), { looking with again := false, check := .nothing }) := by
    rw [documents]
    refine (Reading.bind_get _ _).trans ?_
    simp only [looking, hover.awaited]
    rfl
  refine ⟨{ c with check := .nothing, again := true, token := .endOfFile }, ?_,
    hover.toIsPlain.congr rfl rfl rfl, rfl, rfl, rfl⟩
  rw [list]
  refine (Reading.bind_of_ok (a := ()) (d := looking) rfl _).trans ?_
  refine (Reading.bind_of_ok (readToken_over hlooking (by omega)) _).trans ?_
  exact (Reading.bind_of_ok hdocuments _).trans rfl

/-- The first word of a command comes again and again. -/
theorem readToken_first (hfirst : c.IsAtFirst o os) (hfuel : 3 ≤ fuel) :
    readToken fuel c = .ok (.word, { c with again := false }) := by
  rw [readToken_again hfirst.toIsPlain hfirst.again hfirst.token
    (congrArg Check.newlines hfirst.check)
    (fun _ hlooks => absurd hlooks (by simp [hfirst.check, Check.nothing])) hfuel, ← hfirst.check]

/-- The cursor at which it comes again is the same. -/
theorem again_first (hfirst : c.IsAtFirst o os) :
    again { c with again := false } = .ok ((), c) := by
  have hsame : { c with again := true } = c := by rw [← hfirst.again]
  exact congrArg (fun d => Except.ok ((), d)) hsame

/-- A simple command is read with all its words. -/
theorem simple_first (line : Nat) (hfirst : c.IsAtFirst o os) (hfuel : c.unread.length + 7 ≤ fuel) :
    ∃ d : Cursor, simple fuel true line [] [] [] c =
      .ok (.simple line [] ((o :: os).map shownWord) [], d) ∧ d.IsOver := by
  obtain ⟨fuel, rfl⟩ := Nat.exists_eq_add_of_le' (show 1 ≤ fuel by omega)
  let looking : Cursor := { c with check := ⟨false, false, true, false⟩ }
  have hread : readToken fuel looking =
      .ok (.word, { looking with again := false, check := .nothing }) :=
    readToken_again (hfirst.toIsPlain.congr rfl rfl rfl) hfirst.again hfirst.token rfl
      (fun _ hlooks => nomatch hlooks) (by omega)
  obtain ⟨d, hothers, hover⟩ := simple_shown line [shownWord o]
    (c := { looking with again := false, check := .nothing })
    (hfirst.toIsPlain.congr rfl rfl rfl) rfl hfirst.unread (Nat.le_of_succ_le_succ hfuel)
  refine ⟨d, ?_, hover⟩
  rw [simple]
  refine (Reading.bind_of_ok (a := ()) (d := looking) rfl _).trans ?_
  refine (Reading.bind_of_ok hread _).trans ?_
  refine (Reading.bind_get _ _).trans ?_
  have hnone : ¬(true && Word.isAssignment looking.word) = true := by
    rw [show looking.word = shownWord o from hfirst.word, isAssignment_shownWord]
    decide
  have hwords : [looking.word] = [shownWord o] := congrArg (fun word => [word]) hfirst.word
  rw [if_neg hnone]
  exact (congrArg (fun words => simple fuel false line [] words [] _) hwords).trans hothers

/-- It is the command that begins with its first word. -/
theorem command_first (hfirst : c.IsAtFirst o os) (hfuel : c.unread.length + 8 ≤ fuel) :
    ∃ d : Cursor, command fuel c =
      .ok (.simple c.line [] ((o :: os).map shownWord) [], d) ∧ d.IsOver := by
  obtain ⟨fuel, rfl⟩ := Nat.exists_eq_add_of_le' (show 1 ≤ fuel by omega)
  obtain ⟨d, hsimple, hover⟩ := simple_first c.line hfirst (Nat.le_of_succ_le_succ hfuel)
  refine ⟨d, ?_, hover⟩
  rw [command]
  refine (Reading.bind_get _ _).trans ?_
  refine (Reading.bind_of_ok (readToken_first hfirst (by omega)) _).trans ?_
  refine (Reading.bind_of_ok (again_first hfirst) _).trans ?_
  exact (Reading.bind_get _ _).trans hsimple

/-- It is a pipeline of its own, which is not turned around. -/
theorem pipeline_first (hfirst : c.IsAtFirst o os) (hfuel : c.unread.length + 9 ≤ fuel) :
    ∃ d : Cursor, pipeline fuel c =
      .ok (.simple c.line [] ((o :: os).map shownWord) [], d) ∧ d.IsOver := by
  obtain ⟨fuel, rfl⟩ := Nat.exists_eq_add_of_le' (show 1 ≤ fuel by omega)
  obtain ⟨d, hcommand, hover⟩ := command_first hfirst (Nat.le_of_succ_le_succ hfuel)
  obtain ⟨e, hpiped, hend⟩ := pipedCommands_over hover (show 4 ≤ fuel by omega)
  refine ⟨e, ?_, hend⟩
  rw [pipeline]
  refine (Reading.bind_of_ok (readToken_first hfirst (by omega)) _).trans ?_
  refine (Reading.bind_of_ok (again_first hfirst) _).trans ?_
  refine (Reading.bind_of_ok hcommand _).trans ?_
  exact (Reading.bind_of_ok hpiped _).trans rfl

/-- No other command depends on its outcome. -/
theorem andOr_first (hfirst : c.IsAtFirst o os) (hfuel : c.unread.length + 10 ≤ fuel) :
    ∃ d : Cursor, andOr fuel c =
      .ok (.simple c.line [] ((o :: os).map shownWord) [], d) ∧ d.IsOver := by
  obtain ⟨fuel, rfl⟩ := Nat.exists_eq_add_of_le' (show 1 ≤ fuel by omega)
  obtain ⟨d, hpipeline, hover⟩ := pipeline_first hfirst (Nat.le_of_succ_le_succ hfuel)
  obtain ⟨e, hrest, hend⟩ := andOrFrom_over hover (show 4 ≤ fuel by omega)
    (.simple c.line [] ((o :: os).map shownWord) [])
  refine ⟨e, ?_, hend⟩
  rw [andOr]
  exact (Reading.bind_of_ok hpipeline _).trans hrest

/-- A line of shown words is read as one list, which is one command. -/
theorem list_shown (hplain : c.IsPlain) (hagain : c.again = false)
    (hunread : c.unread = (shownOctets o ++ shownRest os).map .char)
    (hkeyword : NotKeyword (shownWord o)) (hfuel : c.unread.length + 12 ≤ fuel) :
    ∃ (line : Nat) (d : Cursor), list fuel true false none c =
      .ok (some (.simple line [] ((o :: os).map shownWord) []), d) ∧ d.IsOver := by
  obtain ⟨fuel, rfl⟩ := Nat.exists_eq_add_of_le' (show 1 ≤ fuel by omega)
  let looking : Cursor := { c with check := ⟨false, true, true, false⟩ }
  have hlength := length_shownWord_le o
  have htext : c.unread.length = (shownOctets o).length + (shownRest os).length := by
    rw [hunread, List.length_map, List.length_append]
  obtain ⟨line', quotes', hread⟩ := readToken_shown (c := looking) (hplain.congr rfl rfl rfl) hagain
    (.inl (hunread.trans List.map_append)) (endsWord_shownRest os) rfl (fun _ => hkeyword)
    (show (shownWord o).length + 5 ≤ fuel by omega)
  let first : Cursor :=
    { looking.behindWord o ((shownRest os).map .char) line' quotes' with again := true }
  have hfirst : first.IsAtFirst o os :=
    ⟨hplain.congr rfl rfl rfl, rfl, rfl, rfl, rfl, rfl⟩
  have hrest : first.unread.length = (shownRest os).length := List.length_map _
  obtain ⟨d, hcommand, hover⟩ := andOr_first hfirst (show first.unread.length + 10 ≤ fuel by omega)
  let behind : Cursor := { d with again := true, check := .nothing }
  have hbehind : behind.IsOver :=
    ⟨hover.toIsPlain.congr rfl rfl rfl, rfl, hover.token, rfl⟩
  obtain ⟨e, hlist, hend⟩ := list_over hbehind (show 5 ≤ fuel by omega)
    (some (.simple first.line [] ((o :: os).map shownWord) []))
  refine ⟨first.line, e, ?_, hend⟩
  rw [list]
  refine (Reading.bind_of_ok (a := ()) (d := looking) rfl _).trans ?_
  refine (Reading.bind_of_ok hread _).trans ?_
  refine (Reading.bind_of_ok (a := ()) (d := first) rfl _).trans ?_
  refine (Reading.bind_of_ok hcommand _).trans ?_
  refine (Reading.bind_of_ok (readToken_over hover (by omega)) _).trans ?_
  exact (Reading.bind_of_ok (a := ()) (d := behind) rfl _).trans hlist

end Commands

/-- A line of shown words is one complete command, at the end of the text. -/
theorem nextCommand_shown (documents : List Document) {o : Octets} {os : List Octets}
    (hkeyword : NotKeyword (shownWord o))
    (hlength : (shownOctets o ++ shownRest os).length + 12 ≤ maxDepth) :
    ∃ (line : Nat) (d : Cursor),
      nextCommand (.ofText [] documents (shownOctets o ++ shownRest os)) =
        .ok (some (some (.simple line [] ((o :: os).map shownWord) [])), d) ∧
      d.isAtEnd = true := by
  let start : Cursor := .ofText [] documents (shownOctets o ++ shownRest os)
  have hstart : start.unread.length = (shownOctets o ++ shownRest os).length := List.length_map _
  obtain ⟨line, d, hlist, hover⟩ := list_shown (c := start) ⟨rfl, rfl, rfl⟩ rfl rfl hkeyword
    (show start.unread.length + 12 ≤ maxDepth from hstart ▸ hlength)
  refine ⟨line, d, ?_, ?_⟩
  · rw [nextCommand]
    refine (Reading.bind_of_ok (a := ()) (d := start) rfl _).trans ?_
    exact (Reading.bind_of_ok hlist _).trans rfl
  · rw [Cursor.isAtEnd, hover.again, hover.token]
    decide

end Reader

/-! ## Shown commands -/

/-- The octets of a command that is shown are its shown words. -/
theorem nameOctets_render (name : String) (args : List String) :
    State.nameOctets (Command.render name args) =
      shownOctets (State.nameOctets name) ++ shownRest (args.map State.nameOctets) := by
  unfold Command.render
  induction args generalizing name with
  | nil =>
    rw [List.map_singleton, Text.join_singleton, nameOctets_quoteWord]
    exact (List.append_nil _).symm
  | cons next args ih =>
    have hblank : State.nameOctets " " = [' '] := nameOctets_of_ascii (by simp)
    rw [List.map_cons, List.map_cons, Text.join_cons_cons, nameOctets_append, nameOctets_append,
      nameOctets_quoteWord, hblank, ← List.map_cons, ih, List.append_assoc, List.map_cons,
      shownRest, shownRest, List.flatMap_cons]
    rfl

/-- The keywords of the shell are in ASCII. -/
theorem nameOctets_of_mem_keywords {keyword : String} (hmem : keyword ∈ keywords) :
    State.nameOctets keyword = keyword.toList := by
  refine nameOctets_of_ascii ?_
  simp only [keywords, List.mem_cons, List.not_mem_nil, or_false] at hmem
  rcases hmem with rfl | rfl | rfl | rfl | rfl | rfl | rfl | rfl | rfl | rfl | rfl | rfl | rfl |
    rfl | rfl | rfl
  all_goals simp

/-- A name that is no keyword is not shown as one. -/
theorem notKeyword_shownWord {name : String} (hname : name ∉ keywords) :
    Reader.NotKeyword (shownWord (State.nameOctets name)) := by
  intro text htext hmem
  have hkeyword := nameOctets_of_mem_keywords hmem
  rw [String.toList_ofList, text?_shownWord htext] at hkeyword
  rw [text?_shownWord htext, nameOctets_inj hkeyword] at hmem
  exact hname hmem

/-- A command that is shown is read by the shell as one command without assignments and
redirections, of which the words stand for its name and its arguments, whatever the state of the
shell.  No aliases are defined, the text is not longer than the reader goes, and the name is no
keyword: one would be shown without quotes. -/
theorem reads_render (name : String) (args : List String) (documents : List Document)
    (hname : name ∉ keywords) (hnul : ∀ word ∈ name :: args, nul ∉ word.toList)
    (hlength : (State.nameOctets (Command.render name args)).length + 12 ≤ Reader.maxDepth) :
    ∃ (line : Nat) (words : List Word) (d : Cursor),
      Reader.nextCommand (.ofText [] documents (State.nameOctets (Command.render name args))) =
        .ok (some (some (.simple line [] words [])), d) ∧
      d.isAtEnd = true ∧
      ∀ (substitute : Substitution) (s : State), Expansion.fields substitute words s =
        (.ok ((name :: args).map State.nameOctets), s) := by
  rw [nameOctets_render] at hlength ⊢
  obtain ⟨line, d, hread, hend⟩ :=
    Reader.nextCommand_shown documents (notKeyword_shownWord hname) hlength
  refine ⟨line, _, d, hread, hend, fun substitute s => ?_⟩
  have hliteral : ∀ word ∈ ((name :: args).map State.nameOctets).map shownWord,
      word ≠ [] ∧ ∀ piece ∈ word, piece.IsLiteral := by
    rw [List.map_map]
    refine List.forall_mem_map.mpr fun word hword => ⟨shownWord_ne_nil _, ?_⟩
    have hnone : nul ∉ State.nameOctets word :=
      fun hmem => hnul word hword ((mem_nameOctets_iff (by decide)).mp hmem)
    exact isLiteral_of_mem_shownWord hnone
  have hletters : Word.letters ∘ shownWord = id := funext letters_shownWord
  refine (Expansion.fields_of_literal substitute hliteral s).trans ?_
  rw [List.map_map, hletters, List.map_id]

end ContainerOps.Shell
