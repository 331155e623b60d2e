import ContainerOps.Shell.Syntax

/-!
# Cursors in scripts

A cursor stands in a script and knows the line.  A word that is an alias is replaced in the text
itself; the end of what it stands for is marked there, and until that is passed the alias does not
count.  A backslash joins two lines unless quotes protect it.
-/

namespace ContainerOps.Shell

/-! ## Tokens -/

/-- The sign of a redirection. -/
inductive RedirectionSign where
  /-- It opens a file. -/
  | opens (opening : Opening)
  /-- It leads where another descriptor leads. -/
  | duplicates
  /-- It begins a document, of which tabs at the front of lines may not be part. -/
  | begins (stripped : Bool)
deriving DecidableEq

/-- A token of a script. -/
inductive Token where
  | endOfFile | newline | semicolon | ampersand | both | either | pipe | opening | closing
  | endOfArm | redirection (descriptor : Nat) (sign : RedirectionSign) | word
  /-- A word that has a meaning of its own where a command begins. -/
  | keyword (text : String)
deriving DecidableEq

/-- The words that have a meaning of their own where a command begins. -/
def keywords : List String :=
  ["!", "case", "do", "done", "elif", "else", "esac", "fi", "for", "if", "in", "then", "until",
    "while", "\x7b", "\x7d"]

/-- The commands of the shell whose errors end it and whose assignments stay. -/
def specialNames : List String :=
  [":", ".", "break", "continue", "eval", "exec", "exit", "export", "local", "readonly", "return",
    "set", "shift", "times", "trap", "unset"]

/-- The keywords that end a list of commands. -/
def endingKeywords : List String :=
  ["do", "done", "elif", "else", "esac", "fi", "then", "\x7d"]

/-- A token in words. -/
def Token.shown : Token → String
  | .endOfFile => "end of file"
  | .newline => "newline"
  | .semicolon => "\";\""
  | .ampersand => "\"&\""
  | .both => "\"&&\""
  | .either => "\"||\""
  | .pipe => "\"|\""
  | .opening => "\"(\""
  | .closing => "\")\""
  | .endOfArm => "\";;\""
  | .redirection _ _ => "redirection"
  | .word => "word"
  | .keyword text => "\"" ++ text ++ "\""

/-- A list of commands ends here. -/
def Token.endsList : Token → Bool
  | .endOfFile => true
  | .closing => true
  | .endOfArm => true
  | .keyword text => text ∈ endingKeywords
  | _ => false

/-! ## Cursors -/

/-- What stands in front of a cursor. -/
inductive Unread where
  /-- A character. -/
  | char (c : Char)
  /-- The end of what an alias stands for; behind a blank, the next word may be an alias too. -/
  | endOfAlias (name : Octets) (continues : Bool)

/-- What the next token is looked at for. -/
structure Check where
  /-- The ends of lines before it are passed over. -/
  newlines : Bool
  /-- It may be a keyword. -/
  keywords : Bool
  /-- It may be an alias. -/
  aliases : Bool
  /-- It is the mark at which a document ends, in which nothing is replaced. -/
  mark : Bool

/-- The next token is taken as it is. -/
def Check.nothing : Check :=
  { newlines := false, keywords := false, aliases := false, mark := false }

/-- The next token is looked at for both. -/
def Check.and (a b : Check) : Check :=
  { newlines := a.newlines || b.newlines
    keywords := a.keywords || b.keywords
    aliases := a.aliases || b.aliases
    mark := a.mark || b.mark }

/-- A document that begins on the next line. -/
structure Awaited where
  /-- Its number. -/
  number : Nat
  /-- The line at which it ends. -/
  mark : Octets
  /-- Tabs at the front of lines are not part of it. -/
  stripped : Bool
  /-- Parameters, commands and expressions in it are replaced. -/
  expands : Bool

/-- A place in a script. -/
structure Cursor where
  /-- The text from there on. -/
  unread : List Unread
  /-- The line. -/
  line : Nat
  /-- What words stand for others. -/
  aliases : List (Octets × Octets)
  /-- The aliases that do not count here. -/
  inUse : List Octets
  /-- The aliases that count again from the next character on. -/
  finished : List Octets
  /-- What the next token is looked at for. -/
  check : Check
  /-- The last token comes again. -/
  again : Bool
  /-- The last token. -/
  token : Token
  /-- The last word. -/
  word : Word
  /-- Something in the last word is quoted. -/
  hasQuotes : Bool
  /-- The documents found so far. -/
  documents : List Document
  /-- The documents that begin on the next line. -/
  awaited : List Awaited

namespace Cursor

/-- The front of a text, where some words stand for others, behind some documents. -/
def ofText (aliases : List (Octets × Octets)) (documents : List Document) (text : Octets) :
    Cursor :=
  { unread := text.map .char
    line := 1
    aliases := aliases
    inUse := []
    finished := []
    check := .nothing
    again := false
    token := .newline
    word := []
    hasQuotes := false
    documents := documents
    awaited := [] }

/-- The end of the text was found, and comes again. -/
def isAtEnd (c : Cursor) : Bool :=
  c.again && c.token = .endOfFile

/-- The aliases of which the end is passed count again. -/
def release (c : Cursor) : Cursor :=
  if c.finished.isEmpty then c
  else { c with inUse := c.inUse.filter (!c.finished.contains ·), finished := [] }

/-- Passes the end of an alias. -/
def pass (c : Cursor) (name : Octets) (continues : Bool) : Cursor :=
  { c with
    finished := name :: c.finished
    check := { c.check with aliases := c.check.aliases || continues } }

/-- Passes the ends of aliases in front, and the joints of lines where these count. -/
def settle (joining : Bool) : List Unread → Cursor → Cursor
  | .endOfAlias name continues :: rest, c => settle joining rest (c.pass name continues)
  | .char '\\' :: .char '\n' :: rest, c =>
    if joining then settle joining rest { c with line := c.line + 1 }
    else { c with unread := .char '\\' :: .char '\n' :: rest }
  | unread, c => { c with unread := unread }

/-- The next character and the cursor behind it. -/
def take (joining : Bool) (c : Cursor) : Option Char × Cursor :=
  let c := settle joining c.unread c.release
  match c.unread with
  | .char x :: rest => (some x, { c with unread := rest })
  | _ => (none, c)

/-- The cursor before a character that was read; before the end there is none. -/
def putBack (c : Cursor) : Option Char → Cursor
  | some x => { c with unread := .char x :: c.unread }
  | none => c

/-- Passes blanks, comments, and the joints of lines between tokens. -/
def skipBlanks (inComment : Bool) : List Unread → Cursor → Cursor
  | [], c => { c with unread := [] }
  | .endOfAlias name continues :: rest, c => skipBlanks inComment rest (c.pass name continues)
  | .char '\\' :: .char '\n' :: rest, c =>
    if inComment then { c with unread := .char '\n' :: rest }
    else skipBlanks inComment rest { c.release with line := c.line + 1 }
  | .char x :: rest, c =>
    if inComment then
      if x == '\n' then { c with unread := .char x :: rest }
      else skipBlanks inComment rest c.release
    else if x == ' ' || x == '\t' then skipBlanks inComment rest c.release
    else if x == '#' then skipBlanks true rest c.release
    else { c with unread := .char x :: rest }

/-- The characters in front that a condition holds of. -/
def takeWhile (holds : Char → Bool) : List Unread → Octets → Cursor → Octets × Cursor
  | .endOfAlias name continues :: rest, found, c =>
    takeWhile holds rest found (c.pass name continues)
  | .char '\\' :: .char '\n' :: rest, found, c =>
    takeWhile holds rest found { c with line := c.line + 1 }
  | .char x :: rest, found, c =>
    if holds x then takeWhile holds rest (x :: found) c.release
    else (found.reverse, { c with unread := .char x :: rest })
  | [], found, c => (found.reverse, { c with unread := [] })

/-- Passes the mark of a document, of which the first character was read, if it is the whole
line. -/
def passMark : Octets → Option Char → Cursor → Option Cursor
  | [], some '\n', c => some { c with line := c.line + 1 }
  | [], none, c => some c
  | m :: rest, some x, c =>
    if m == x then
      let found := c.take false
      passMark rest found.1 found.2
    else none
  | _, _, _ => none

/-- Passes tabs, of which the first was read, to the first character behind them. -/
def passTabs (x : Option Char) (c : Cursor) : Option Char × Cursor :=
  if x == some '\t' then
    { c with unread := c.unread.dropWhile fun
        | .char '\t' => true
        | _ => false }.take false
  else (x, c)

/-- The text between back quotes, of which the first was read, and the cursor behind the second;
where that is missing there is no text, and the cursor is at the end.  Backslashes protect some
characters; between double quotes these are more. -/
def backQuoted (inDouble : Bool) : List Unread → Octets → Cursor → Option Octets × Cursor
  | [], _, c => (none, { c with unread := [] })
  | .endOfAlias name continues :: rest, found, c =>
    backQuoted inDouble rest found (c.pass name continues)
  | .char '\\' :: .char x :: rest, found, c =>
    if x == '\n' then backQuoted inDouble rest found { c with line := c.line + 1 }
    else
      let bare := x == '\\' || x == backQuote || x == '$' || (inDouble && x == '"')
      backQuoted inDouble rest (if bare then x :: found else x :: '\\' :: found) c
  | .char x :: rest, found, c =>
    if x == backQuote then (some found.reverse, { c with unread := rest })
    else if x == '\n' then backQuoted inDouble rest (x :: found) { c with line := c.line + 1 }
    else backQuoted inDouble rest (x :: found) c

/-- What a word stands for, unless it is an alias that does not count here. -/
def alias? (c : Cursor) (word : Octets) : Option Octets :=
  if c.inUse.contains word then none else c.aliases.lookup word

/-- The cursor in front of what an alias stands for. -/
def replace (c : Cursor) (name value : Octets) : Cursor :=
  match value.getLast? with
  | none => c
  | some last =>
    { c with
      unread := value.map .char ++ .endOfAlias name (last == ' ' || last == '\t') :: c.unread
      inUse := name :: c.inUse }

end Cursor

end ContainerOps.Shell
