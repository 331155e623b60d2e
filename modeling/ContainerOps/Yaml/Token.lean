/-!
# YAML tokens

A YAML text is first taken apart into tokens.  Indentation becomes tokens of its own, so that what
reads the tokens need not know about columns.
-/

namespace ContainerOps.Yaml

/-- How a scalar is written. -/
inductive Style where
  /-- As it is, without quotes. -/
  | plain
  /-- Between single or double quotes. -/
  | quoted
  /-- As an indented block whose line breaks are kept. -/
  | literal
  /-- As an indented block whose lines are joined. -/
  | folded
deriving DecidableEq

/-- A token. -/
inductive Token where
  /-- The end of the text. -/
  | streamEnd
  /-- A directive with the version of the language. -/
  | version (major minor : Nat)
  /-- A directive that gives a meaning to a tag handle. -/
  | handle (name meaning : String)
  /-- The mark for the start of a document. -/
  | documentStart
  /-- The mark for the end of a document. -/
  | documentEnd
  /-- An indented sequence starts. -/
  | blockSequence
  /-- An indented mapping starts. -/
  | blockMapping
  /-- An indented sequence or mapping ends. -/
  | blockEnd
  /-- An opening bracket. -/
  | sequenceOpen
  /-- A closing bracket. -/
  | sequenceClose
  /-- An opening brace. -/
  | mappingOpen
  /-- A closing brace. -/
  | mappingClose
  /-- The hyphen before an item. -/
  | item
  /-- A comma. -/
  | comma
  /-- A key follows. -/
  | key
  /-- A value follows. -/
  | value
  /-- A reference to a node that has a name. -/
  | reference (name : String)
  /-- A name for the node that follows. -/
  | anchor (name : String)
  /-- A tag for the node that follows, with its handle. -/
  | tag (handle rest : String)
  /-- A scalar with its text. -/
  | scalar (text : String) (style : Style)
deriving DecidableEq

end ContainerOps.Yaml
