import ContainerOps.Text.Blank

/-!
# Shell words

A command line is shown so that a POSIX shell would read the same words back: a word that a shell
might take apart or change stands between single quotes, and a single quote in it is written
outside of them behind a backslash.
-/

namespace ContainerOps.Command

/-- The characters that a shell gives a meaning to. -/
def isSpecial (c : Char) : Bool :=
  c ∈ ['\n', '\'', '|', '&', ';', '<', '>', '(', ')', '$', '`', '\\', '"', ' ', '\t', '*', '?',
    '[', '#', '~', '=', '%']

/-- A word that needs no quotes. -/
def isBare (word : String) : Bool :=
  !word.isEmpty && !word.toList.any isSpecial

/-- One character between single quotes. -/
def quotedChar (c : Char) : List Char :=
  if c = '\'' then ['\'', '\\', '\'', '\''] else [c]

/-- A word as a shell reads it back. -/
def quoteWord (word : String) : String :=
  if isBare word then word
  else String.ofList ('\'' :: word.toList.flatMap quotedChar ++ ['\''])

/-- A command and its arguments as one line for a shell. -/
def render (command : String) (args : List String) : String :=
  Text.join " " ((command :: args).map quoteWord)

end ContainerOps.Command
