import ContainerOps.Json.Reader
import ContainerOps.Json.Source
import ContainerOps.Project.Error

/-!
# Listings

Compose lists containers and images as JSON, in one array or with one value per line.  A container
is listed with a few known members, some of which join several values with commas, and with
further members that are kept as they are.

Main results:

- `parseLabels_empty`: no text, no labels.
-/

namespace ContainerOps.Project

open ContainerOps.Decoding
open ContainerOps.Json (Outline)

/-! ## Containers as listed -/

/-- A container as compose lists it. -/
structure RawContainer where
  /-- Its name. -/
  name : String
  /-- All its names, joined with commas. -/
  names : Option String
  /-- Its labels, joined with commas. -/
  labels : Option String
  /-- Its networks, joined with commas. -/
  networks : Option String
  /-- Its published ports. -/
  publishers : Option (List Json)
  /-- The other members. -/
  extra : Table Json

namespace RawContainer

/-- A member of a listed container. -/
inductive Member where
  | name
  | names
  | labels
  | networks
  | publishers
  | extra (key : String)
deriving DecidableEq

/-- The member under a key. -/
def Member.ofKey (key : String) : Member :=
  if key = "Name" then .name
  else if key = "Names" then .names
  else if key = "Labels" then .labels
  else if key = "Networks" then .networks
  else if key = "Publishers" then .publishers
  else .extra key

/-- The key of a known member. -/
def Member.known? : Member → Option String
  | .name => some "Name"
  | .names => some "Names"
  | .labels => some "Labels"
  | .networks => some "Networks"
  | .publishers => some "Publishers"
  | .extra _ => none

/-- A member with its value. -/
inductive Setting where
  | name (value : String)
  | names (value : Option String)
  | labels (value : Option String)
  | networks (value : Option String)
  | publishers (value : Option (List Json))
  | extra (key : String) (value : Json)

/-- A text, or none for the value without content. -/
def optionalText (outline : Outline) : Except Fault (Option String) :=
  match outline with
  | .null => .ok none
  | outline => outline.text.map some

/-- A list of values, or none for the value without content. -/
def optionalValues (outline : Outline) : Except Fault (Option (List Json)) :=
  match outline with
  | .null => .ok none
  | outline =>
    match outline.items with
    | .error fault => .error fault
    | .ok items => (readItems Outline.complete items).map some

/-- Reads the value of a member. -/
def readMember (member : Member) (outline : Outline) : Except Fault Setting :=
  match member with
  | .name => outline.text.map .name
  | .names => (optionalText outline).map .names
  | .labels => (optionalText outline).map .labels
  | .networks => (optionalText outline).map .networks
  | .publishers => (optionalValues outline).map .publishers
  | .extra key => outline.complete.map (.extra key)

/-- How a listed container is read. -/
def schema : Schema Outline Member Setting where
  record := "RawContainer"
  declared := [.name, .names, .labels, .networks, .publishers]
  ofKey key := some (.ofKey key)
  once := Member.known?
  read := readMember
  skip _ := .ok ()

/-- The container of its members. -/
def assemble (settings : List Setting) : Except Problem RawContainer :=
  match settings.findSome? fun | .name s => some s | _ => none with
  | none => .error (.missingField "Name")
  | some name =>
    .ok
      { name := name
        names := (settings.findSome? fun | .names s => some s | _ => none).join
        labels := (settings.findSome? fun | .labels s => some s | _ => none).join
        networks := (settings.findSome? fun | .networks s => some s | _ => none).join
        publishers := (settings.findSome? fun | .publishers s => some s | _ => none).join
        extra := .ofList (settings.filterMap fun | .extra k v => some (k, v) | _ => none) }

/-- Reads a listed container, which has to be an object. -/
def read (outline : Outline) : Except Fault RawContainer :=
  match outline with
  | .object members closed =>
    match collect schema Json.fault [] (Outline.parts members closed) with
    | .error fault => .error fault
    | .ok settings => (assemble settings).mapError Json.fault
  | outline => .error (outline.mismatch "struct RawContainer")

/-- The member of an optional value; none without one. -/
def optionalMember (key : String) : Option Json → List (String × Json)
  | none => []
  | some value => [(key, value)]

/-- A listed container as an object.  Members without a value are left out. -/
def toJson (c : RawContainer) : Json :=
  .ofMembers (("Name", .string c.name) :: optionalMember "Names" (c.names.map .string)
    ++ optionalMember "Labels" (c.labels.map .string)
    ++ optionalMember "Networks" (c.networks.map .string)
    ++ optionalMember "Publishers" (c.publishers.map .array)
    ++ c.extra.entries)

end RawContainer

/-! ## Labels -/

/-- A label: the text before and after its first equals sign.  A label without one has an empty
value. -/
def parseLabel (text : String) : String × String :=
  match Text.cutAt? '=' text.toList with
  | some halves => (String.ofList halves.1, String.ofList halves.2)
  | none => (text, "")

/-- Labels joined with commas.  Of two labels with one key the later counts. -/
def parseLabels (text : String) : Table String :=
  if text.isEmpty then .empty else .ofList ((Text.splitOn ',' text).map parseLabel)

/-- No text, no labels. -/
@[simp]
theorem parseLabels_empty : parseLabels "" = .empty := rfl

/-! ## Containers -/

/-- A container with its joined members taken apart. -/
structure Container where
  /-- Its name. -/
  name : String
  /-- All its names. -/
  names : List String
  /-- Its labels. -/
  labels : Table String
  /-- Its networks. -/
  networks : List String
  /-- Its published ports. -/
  publishers : List Json
  /-- The other members. -/
  extra : Table Json

namespace Container

/-- A listed container with its joined members taken apart.  Its names fall back to its name. -/
def ofRaw (raw : RawContainer) : Container :=
  { name := raw.name
    names := Text.splitOn ',' (raw.names.getD raw.name)
    labels := parseLabels (raw.labels.getD "")
    networks := Text.splitOn ',' (raw.networks.getD "")
    publishers := raw.publishers.getD []
    extra := raw.extra }

/-- A container as an object. -/
def toJson (c : Container) : Json :=
  .ofMembers ([("Name", .string c.name), ("Names", .array (c.names.map .string)),
    ("Labels", .object (c.labels.entries.map fun e => (e.1, .string e.2))),
    ("Networks", .array (c.networks.map .string)), ("Publishers", .array c.publishers)]
    ++ c.extra.entries)

end Container

/-! ## Documents -/

/-- Reads an array of values. -/
def readArray {α : Type} (read : Outline → Except Fault α) (outline : Outline) :
    Except Fault (List α) :=
  match outline.items with
  | .error fault => .error fault
  | .ok items => readItems read items

/-- Reads output that holds one JSON value. -/
def parseDocument {α : Type} (subject : Subject) (read : Outline → Except Fault α)
    (stdout : String) : Except Error α :=
  ((Json.Reader.document stdout).read read).mapError (.listing subject stdout)

/-- The lines of an output that are not blank, without the blanks around them. -/
def valueLines (stdout : String) : List String :=
  ((Text.splitOn '\n' stdout).map Text.trimmed).filter fun line => !line.isEmpty

/-- Reads one JSON value from each of some lines. -/
def parseLines {α : Type} (subject : Subject) (read : Outline → Except Fault α) :
    List String → Except Error (List α)
  | [] => .ok []
  | line :: rest =>
    match parseDocument subject read line with
    | .error e => .error e
    | .ok value => (parseLines subject read rest).map (value :: ·)

/-- Reads output that holds one JSON value per line; blank lines are passed over. -/
def parseStream {α : Type} (subject : Subject) (read : Outline → Except Fault α)
    (stdout : String) : Except Error (List α) :=
  parseLines subject read (valueLines stdout)

end ContainerOps.Project
