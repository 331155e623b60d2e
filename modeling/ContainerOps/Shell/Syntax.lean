import ContainerOps.Shell.Octet

/-!
# Shell scripts

A script is a sequence of commands of a POSIX shell.  A word is kept as the pieces that it is
written in; what they stand for is found out when a command runs.
-/

namespace ContainerOps.Shell

/-! ## Parameters and redirections -/

/-- What is done with the value of a parameter. -/
inductive ParameterUse where
  /-- It is taken as it is. -/
  | plain
  /-- It is taken as it is; a colon behind the name changes nothing. -/
  | colon
  /-- Its length is taken. -/
  | size
  /-- A word is taken if there is none. -/
  | orElse (emptyToo : Bool)
  /-- A word is taken if there is one. -/
  | ifSet (emptyToo : Bool)
  /-- If there is none, it is set to a word. -/
  | assigned (emptyToo : Bool)
  /-- If there is none, a word is the message that ends the shell. -/
  | demanded (emptyToo : Bool)
  /-- The part of it that a pattern fits is cut off. -/
  | cut (atStart longest : Bool)
  /-- It is no use of a parameter. -/
  | bad
deriving DecidableEq

/-- What a redirection opens a file for. -/
inductive Opening where
  /-- For reading. -/
  | input
  /-- For reading and writing. -/
  | both
  /-- For writing in place of what it holds. -/
  | output
  /-- For writing in place of what it holds, also where files are to be kept. -/
  | replacement
  /-- For writing at its end. -/
  | append
deriving DecidableEq

/-! ## Words and commands -/

mutual

/-- A piece of a word. -/
inductive Piece where
  /-- A character as it is written. -/
  | plain (c : Char)
  /-- A character that has no meaning of its own. -/
  | escaped (c : Char)
  /-- A quotation mark: a quoted part begins or ends. -/
  | mark
  /-- A parameter with the word that its use takes. -/
  | parameter (name : Octets) (use : ParameterUse) (word : List Piece)
  /-- What a command writes. -/
  | command (body : Option Node)
  /-- The value of an expression. -/
  | arithmetic (expression : List Piece)

/-- A redirection of one descriptor. -/
inductive Redirection where
  /-- It leads to a file. -/
  | file (descriptor : Nat) (opening : Opening) (path : List Piece)
  /-- It leads where another one leads, or nowhere. -/
  | duplicate (descriptor : Nat) (source : Option Nat)
  /-- It leads where the one that a word names leads. -/
  | duplicateNamed (descriptor : Nat) (word : List Piece)
  /-- It leads to a document in the script, which has a number. -/
  | document (descriptor number : Nat)

/-- A command. -/
inductive Node where
  /-- Assignments and words on a line, with redirections. -/
  | simple (line : Nat) (assignments words : List (List Piece)) (redirections : List Redirection)
  /-- Each command reads what the one before writes. -/
  | pipeline (awaited : Bool) (parts : List Node)
  /-- A command whose outcome is turned around. -/
  | negation (body : Node)
  /-- The second command runs if the first succeeds. -/
  | both (left right : Node)
  /-- The second command runs if the first fails. -/
  | either (left right : Node)
  /-- One command after the other. -/
  | sequence (left right : Node)
  /-- The body runs if the test succeeds, and else the alternative. -/
  | choice (test body : Node) (alternative : Option Node)
  /-- The body runs again and again while the test has the wanted outcome. -/
  | loop (wanted : Bool) (test body : Node)
  /-- The body runs for each field of some words. -/
  | each (line : Nat) (name : Octets) (words : List (List Piece)) (body : Node)
  /-- The first body runs that has a pattern for the word. -/
  | cases (line : Nat) (word : List Piece) (arms : List (List (List Piece) × Option Node))
  /-- A command with redirections. -/
  | redirected (line : Nat) (body : Node) (redirections : List Redirection)
  /-- A command that leaves the state of the shell alone. -/
  | subshell (line : Nat) (body : Node) (redirections : List Redirection)
  /-- A command that the shell does not wait for. -/
  | background (body : Node) (redirections : List Redirection)
  /-- The definition of a function. -/
  | function (name : Octets) (body : Node)

end

/-- A word as the pieces that it is written in. -/
abbrev Word := List Piece

instance : Inhabited Node :=
  ⟨.simple 0 [] [] []⟩

/-- The character of a piece that is written as it is. -/
def Piece.plain? : Piece → Option Char
  | .plain c => some c
  | _ => none

/-- The characters of a word in which all are written as they are. -/
def Word.text? (word : Word) : Option Octets :=
  word.mapM Piece.plain?

/-- The characters of a word, quotation marks left out. -/
def Word.letters (word : Word) : Octets :=
  word.filterMap fun
    | .plain c => some c
    | .escaped c => some c
    | _ => none

/-- The characters at the front of a word that are written as they are and belong to a name. -/
def Word.leadingName (word : Word) : Octets :=
  (word.map Piece.plain?).takeWhile (fun c => (c.map isNameChar).getD false) |>.filterMap id

/-- A word that sets a variable: a name, an equals sign and the value. -/
def Word.isAssignment (word : Word) : Bool :=
  let name := word.leadingName
  isName name && (word[name.length]?.bind Piece.plain?) == some '='

/-- The word that stands for all arguments. -/
def Word.allArguments : Word :=
  [.mark, .parameter ['@'] .plain [], .mark]

/-- A text in a script that is the input of a command. -/
structure Document where
  /-- Its text. -/
  body : Word
  /-- Parameters, commands and expressions in it are replaced. -/
  expands : Bool

/-- A text that is no script. -/
structure SyntaxError where
  /-- The line at which that shows. -/
  line : Nat
  /-- What was found there, in words. -/
  detail : String
deriving DecidableEq

end ContainerOps.Shell
