import ContainerOps.Decoding.Fault

/-!
# Reading records from documents

A source is a kind of document value that can be asked for a text, a truth value, a natural number
and so on.  A record is read entry by entry in the order of the document: the first entry that is
at fault decides, a field that is met again is a fault before its value is looked at, and only then
are fields found missing, in the order of their declaration.
-/

namespace ContainerOps.Decoding

universe u

/-! ## Sources -/

/-- The fields of a record as a document gives them. -/
inductive Fields (α : Type u) where
  /-- Values under keys; an entry that cannot be read is the last. -/
  | named (entries : List (Except Fault (String × α)))
  /-- Values in the order of declaration. -/
  | positional (items : List α)

/-- A kind of document value. -/
class Source (α : Type u) where
  /-- The value as a text of the expected kind. -/
  text : String → α → Except Fault String
  /-- The value as a truth value. -/
  flag : α → Except Fault Bool
  /-- The value as a natural number up to a limit, with the name of that range. -/
  natural : Nat → String → α → Except Fault Nat
  /-- The value, if it is not the one that stands for nothing. -/
  optional : α → Except Fault (Option α)
  /-- The items of the value; one that cannot be read is the last. -/
  items : α → Except Fault (List (Except Fault α))
  /-- The fields of the value as the record of a given name. -/
  fields : String → α → Except Fault (Fields α)
  /-- The value is of no interest, but has to be readable. -/
  skip : α → Except Fault Unit
  /-- The fault of the value as a whole with a given problem. -/
  blame : α → Problem → Fault

/-! ## Schemas -/

/-- How the fields of one kind of record are read. -/
structure Schema (α : Type u) (field setting : Type) where
  /-- The name of the record in messages. -/
  record : String
  /-- The fields in the order of declaration. -/
  declared : List field
  /-- The field that a key stands for. -/
  ofKey : String → Option field
  /-- The name under which a field that comes twice is reported; none if it may. -/
  once : field → Option String
  /-- Reads the value of a field. -/
  read : field → α → Except Fault setting
  /-- Passes over the value of a key that stands for no field. -/
  skip : α → Except Fault Unit

variable {α : Type u} {field setting : Type} [DecidableEq field]

/-- Reads named entries in their order; `seen` are the fields met before. -/
def collect (schema : Schema α field setting) (blame : Problem → Fault)
    (seen : List field) : List (Except Fault (String × α)) → Except Fault (List setting)
  | [] => .ok []
  | .error fault :: _ => .error fault
  | .ok (key, value) :: rest =>
    match schema.ofKey key with
    | none =>
      match schema.skip value with
      | .error fault => .error fault
      | .ok _ => collect schema blame seen rest
    | some f =>
      match if f ∈ seen then schema.once f else none with
      | some name => .error (blame (.duplicateField name))
      | none =>
        match schema.read f value with
        | .error fault => .error fault
        | .ok s => (collect schema blame (f :: seen) rest).map (s :: ·)

/-- Reads values for fields in the order of declaration, as far as there are values. -/
def collectInOrder (schema : Schema α field setting) :
    List field → List α → Except Fault (List setting)
  | f :: fs, value :: values =>
    match schema.read f value with
    | .error fault => .error fault
    | .ok s => (collectInOrder schema fs values).map (s :: ·)
  | _, _ => .ok []

/-- How many fields a record has, in words. -/
def Schema.sized (schema : Schema α field setting) : String :=
  let n := schema.declared.length
  "struct " ++ schema.record ++ " with " ++ toString n ++
    (if n = 1 then " element" else " elements")

/-- Reads a record.  What the settings amount to is decided by `assemble`, which is told how to
report a field that is missing: by its name, or by its position where the values have no keys. -/
def readRecord [Source α] {result : Type} (schema : Schema α field setting)
    (assemble : (field → String → Problem) → List setting → Except Problem result) (value : α) :
    Except Fault result :=
  let blame := Source.blame value
  match Source.fields schema.record value with
  | .error fault => .error fault
  | .ok (.named entries) =>
    match collect schema blame [] entries with
    | .error fault => .error fault
    | .ok settings =>
      (assemble (fun _ name => .missingField name) settings).mapError blame
  | .ok (.positional items) =>
    match collectInOrder schema schema.declared items with
    | .error fault => .error fault
    | .ok settings =>
      match assemble (fun f _ => .wrongLength (schema.declared.idxOf f) schema.sized) settings with
      | .error problem => .error (blame problem)
      | .ok result =>
        if schema.declared.length < items.length then
          .error (blame (.wrongLength items.length "fewer elements in array"))
        else .ok result

/-- Reads the items of a sequence in their order. -/
def readItems {result : Type} (read : α → Except Fault result) :
    List (Except Fault α) → Except Fault (List result)
  | [] => .ok []
  | .error fault :: _ => .error fault
  | .ok value :: rest =>
    match read value with
    | .error fault => .error fault
    | .ok r => (readItems read rest).map (r :: ·)

end ContainerOps.Decoding
