import ContainerOps.Command.Word
import ContainerOps.Table
import ContainerOps.Text.Utf8

/-!
# Requests and outputs

A request says which program to run with which arguments, where, and with which variables in its
environment.  A program that ends leaves an output.

Paths are texts, here and in all that is built on requests: only paths in valid UTF-8 are modelled.
The lossy decoding of such a path, which is what is shown of it and passed on as an argument, is the
path itself.
-/

namespace ContainerOps.Command

/-! ## Requests -/

/-- One run of a program. -/
structure Request where
  /-- The path or name of the program, in valid UTF-8. -/
  binary : String
  /-- Its arguments. -/
  args : List String
  /-- The path of the directory to run it in, where it is not the current one; in valid UTF-8. -/
  directory : Option String
  /-- The variables set in its environment. -/
  environment : Table String

namespace Request

/-- The request to run a program without arguments. -/
def of (binary : String) : Request :=
  { binary := binary, args := [], directory := none, environment := Table.empty }

/-- The request with more arguments. -/
def withArgs (r : Request) (args : List String) : Request :=
  { r with args := r.args ++ args }

/-- The request in a given directory. -/
def inDirectory (r : Request) (directory : String) : Request :=
  { r with directory := some directory }

/-- The request with more variables; one that is there already is set anew. -/
def withEnvironment (r : Request) (environment : Table String) : Request :=
  { r with
    environment := environment.entries.foldl (fun t e => t.insert e.1 e.2) r.environment }

/-- The request as one line for a shell. -/
def display (r : Request) : String :=
  render r.binary r.args

end Request

/-! ## Outputs -/

/-- What a finished run leaves. -/
structure Output where
  /-- The exit code, or `-1` for a run that was ended by a signal. -/
  code : Int
  /-- What it wrote to its output. -/
  stdout : List UInt8
  /-- What it wrote to its error output. -/
  stderr : List UInt8

namespace Output

/-- The run succeeded. -/
def success (o : Output) : Bool :=
  o.code == 0

/-- The output as text. -/
def stdoutText (o : Output) : String :=
  Text.Utf8.lossyText o.stdout

/-- The error output as text. -/
def stderrText (o : Output) : String :=
  Text.Utf8.lossyText o.stderr

end Output

/-! ## Combined outputs -/

/-- The parts that are there and not empty, one per line. -/
def combineText (parts : List (Option String)) : String :=
  Text.join "\n" ((parts.filterMap id).filter fun part => !part.isEmpty)

/-- The line feed as a byte. -/
def lineFeed : UInt8 := 0x0A

/-- Appends a part to a buffer, on a new line if the buffer holds anything. -/
def appendPart (buffer part : List UInt8) : List UInt8 :=
  if buffer.isEmpty then part else buffer ++ lineFeed :: part

/-- The parts that are not empty, one per line. -/
def combineBytes (parts : List (List UInt8)) : List UInt8 :=
  (parts.filter fun part => !part.isEmpty).foldl appendPart []

end ContainerOps.Command
