/-!
# File trees

A file tree is a finite set of directories and files with absolute paths.  A path is resolved step
by step: every step but the last needs a directory to step from, and so does a path that ends in a
slash.
-/

namespace ContainerOps.World

/-! ## Trees -/

/-- What a file that holds nothing stands for. -/
inductive Device where
  /-- It takes everything and gives nothing. -/
  | null
  /-- It has no room and gives nothing. -/
  | full
  /-- The terminal, which there is not. -/
  | terminal
  /-- What a descriptor of the program that opens it leads to. -/
  | descriptor (number : Nat)
deriving DecidableEq

/-- What stands at a path. -/
inductive Entry where
  /-- A directory. -/
  | directory
  /-- A file with its content; some files can be run. -/
  | file (content : List UInt8) (executable : Bool)
  /-- A device. -/
  | device (kind : Device)

/-- An absolute path without empty steps, `.` and `..`. -/
abbrev Location := List String

/-- The directories and files other than the root. -/
structure FileTree where
  /-- What stands at which path. -/
  entries : List (Location × Entry)

namespace FileTree

/-- What stands at a location. -/
def entryAt (tree : FileTree) (location : Location) : Option Entry :=
  if location.isEmpty then some .directory
  else (tree.entries.find? fun e => e.1 == location).map (·.2)

/-- The tree with something at a location in place of what stands there. -/
def put (tree : FileTree) (location : Location) (entry : Entry) : FileTree :=
  if tree.entries.any fun e => e.1 == location then
    { entries := tree.entries.map fun e => if e.1 == location then (location, entry) else e }
  else { entries := tree.entries ++ [(location, entry)] }

/-- The locations above a location, from the root on, and the location itself. -/
def ancestors (location : Location) : List Location :=
  (List.range location.length).map fun n => location.take (n + 1)

/-- The tree with a directory, and the directories above it, where there are none yet. -/
def addDirectory (tree : FileTree) (location : Location) : FileTree :=
  { entries := tree.entries ++ ((ancestors location).filter fun above =>
      (tree.entryAt above).isNone).map fun above => (above, .directory) }

/-- The tree with a file, and the directories above it. -/
def addFile (tree : FileTree) (location : Location) (content : List UInt8)
    (executable : Bool) : FileTree :=
  (tree.addDirectory location.dropLast).put location (.file content executable)

/-- The names in a directory. -/
def names (tree : FileTree) (directory : Location) : List String :=
  tree.entries.filterMap fun e =>
    if e.1.dropLast == directory then e.1.getLast? else none

/-! ## Paths -/

/-- Why a path leads nowhere. -/
inductive PathFault where
  /-- Some step names nothing. -/
  | notFound
  /-- Some step starts from a file. -/
  | notDirectory
deriving DecidableEq

/-- Follows the steps of a path. -/
def follow (tree : FileTree) (from_ : Location) : List String → Except PathFault Location
  | [] => .ok from_
  | step :: rest =>
    match tree.entryAt from_ with
    | none => .error .notFound
    | some (.file _ _) => .error .notDirectory
    | some (.device _) => .error .notDirectory
    | some .directory =>
      if step.isEmpty || step = "." then follow tree from_ rest
      else if step = ".." then follow tree from_.dropLast rest
      else follow tree (from_ ++ [step]) rest

/-- The steps of a path, a slash at its end included. -/
def steps (path : String) : List String :=
  path.splitOn "/"

/-- The location that a path names, seen from a directory.  The empty path names none. -/
def resolve (tree : FileTree) (current : Location) (path : String) :
    Except PathFault Location :=
  if path.isEmpty then .error .notFound
  else
    match steps path with
    | "" :: rest => tree.follow [] rest
    | all => tree.follow current all

/-- The location at which a path would put a new file, seen from a directory. -/
def target (current : Location) (path : String) : Location :=
  let start := if path.startsWith "/" then [] else current
  (steps path).foldl (fun at_ step =>
    if step.isEmpty || step = "." then at_
    else if step = ".." then at_.dropLast
    else at_ ++ [step]) start

/-- The location at which a path puts a new file in a directory that is there. -/
def place (tree : FileTree) (current : Location) (path : String) : Except PathFault Location :=
  let last := (steps path).getLastD ""
  if last.isEmpty || last = "." || last = ".." then .error .notFound
  else
    match steps path with
    | "" :: rest => (tree.follow [] (rest.dropLast ++ ["."])).map (· ++ [last])
    | all => (tree.follow current (all.dropLast ++ ["."])).map (· ++ [last])

/-- What a path names, seen from a directory. -/
def lookup (tree : FileTree) (current : Location) (path : String) : Except PathFault Entry :=
  match tree.resolve current path with
  | .error fault => .error fault
  | .ok location =>
    match tree.entryAt location with
    | none => .error .notFound
    | some entry => .ok entry

/-- A path names a directory. -/
def isDirectory (tree : FileTree) (current : Location) (path : String) : Bool :=
  match tree.lookup current path with
  | .ok .directory => true
  | _ => false

/-- A path names a file. -/
def isFile (tree : FileTree) (current : Location) (path : String) : Bool :=
  match tree.lookup current path with
  | .ok (.file _ _) => true
  | _ => false

/-- The content of the file that a path names. -/
def read? (tree : FileTree) (current : Location) (path : String) : Option (List UInt8) :=
  match tree.lookup current path with
  | .ok (.file content _) => some content
  | _ => none

end FileTree

/-! ## Directories and names -/

/-- A location as an absolute path. -/
def pathOf (location : Location) : String :=
  if location.isEmpty then "/"
  else location.foldl (fun path step => path ++ "/" ++ step) ""

/-- The path of a name in a directory. -/
def joinPath (directory name : String) : String :=
  if directory.isEmpty || directory.endsWith "/" then directory ++ name
  else directory ++ "/" ++ name

end ContainerOps.World
