import ContainerOps.Yaml.Outline
import ContainerOps.Yaml.Token.Lexer

/-!
# From tokens to documents

A document is read by recursive descent.  A missing node is a scalar without characters wherever
the language allows that.  Every function answers with what it read and, where it has not met an
error, the state after it.
-/

namespace ContainerOps.Yaml.Reader

/-! ## State -/

/-- What a reader of tokens knows. -/
structure State where
  /-- The tokens that are left. -/
  tokens : List Token
  /-- The names of nodes with their numbers. -/
  names : List (String × Nat)
  /-- The meanings of tag handles. -/
  handles : List (String × String)

/-- A part that was read, and the state after it unless an error was met. -/
abbrev Step (α : Type) := α × Option State

namespace State

/-- The next token. -/
def peek? (s : State) : Option Token :=
  s.tokens.head?

/-- The next token is one of some. -/
def sees (s : State) (ts : List Token) : Bool :=
  match s.tokens with
  | t :: _ => t ∈ ts
  | [] => false

/-- The state after the next token. -/
def skip (s : State) : State :=
  { s with tokens := s.tokens.tail }

/-- Numbers a name, if there is one.  The number is that of the names so far; a name that is
there already gets a new number. -/
def define (s : State) (name : Option String) : Option Nat × State :=
  match name with
  | none => (none, s)
  | some name =>
    let number := s.names.length
    (some number, { s with names := (name, number) :: s.names.filter fun e => e.1 != name })

end State

/-- Nothing, because of an error. -/
def broken : Step Outline :=
  (.broken, none)

/-! ## Properties -/

/-- The name and the tag of a node. -/
structure Properties where
  /-- The name. -/
  anchor : Option String
  /-- The tag. -/
  tag : Option String

/-- The tag that a handle and a rest stand for. -/
def resolveTag (s : State) (handle rest : String) : Option String :=
  if handle.isEmpty then some rest else (s.handles.lookup handle).map (· ++ rest)

/-- The properties of a node, in either order; at least one more token has to follow. -/
def properties (s : State) : Option (Properties × State) :=
  let found : Option String × Option (String × String) × State :=
    match s.tokens with
    | .anchor name :: .tag handle rest :: after =>
      (some name, some (handle, rest), { s with tokens := after })
    | .tag handle rest :: .anchor name :: after =>
      (some name, some (handle, rest), { s with tokens := after })
    | .anchor name :: after => (some name, none, { s with tokens := after })
    | .tag handle rest :: after => (none, some (handle, rest), { s with tokens := after })
    | _ => (none, none, s)
  if found.2.2.tokens.isEmpty then none
  else
    match found.2.1 with
    | none => some ({ anchor := found.1, tag := none }, found.2.2)
    | some (handle, rest) =>
      (resolveTag s handle rest).map fun tag =>
        ({ anchor := found.1, tag := some tag }, found.2.2)

/-! ## Nodes -/

mutual

/-- A node.  `block` admits indented sequences and mappings, and `flush` also a sequence whose
items are not indented. -/
def node : Nat → Bool → Bool → State → Step Outline
  | 0, _, _, _ => broken
  | fuel + 1, block, flush, s =>
    match s.peek? with
    | some (.reference name) =>
      match s.names.lookup name with
      | some number => (.reference number, some s.skip)
      | none => broken
    | _ =>
      match properties s with
      | none => broken
      | some (p, s) => content fuel block flush p s

/-- A node after its properties. -/
def content : Nat → Bool → Bool → Properties → State → Step Outline
  | 0, _, _, _, _ => broken
  | fuel + 1, block, flush, p, s =>
    let named := s.define p.anchor
    let number := named.1
    let s := named.2
    match s.peek? with
    | some (.scalar text style) =>
      (.scalar number { text := text, style := style, tag := p.tag }, some s.skip)
    | some .sequenceOpen =>
      let found := flowItems fuel true s.skip
      (.sequence number found.1 found.2.isSome, found.2)
    | some .mappingOpen =>
      let found := flowEntries fuel true s.skip
      (.mapping number found.1 found.2.isSome, found.2)
    | t =>
      if flush && t = some .item then
        let found := flushItems fuel s
        (.sequence number found.1 found.2.isSome, found.2)
      else if block && t = some .blockSequence then
        let found := blockItems fuel s.skip
        (.sequence number found.1 found.2.isSome, found.2)
      else if block && t = some .blockMapping then
        let found := blockEntries fuel s.skip
        (.mapping number found.1 found.2.isSome, found.2)
      else if p.anchor.isSome || p.tag.isSome then
        (.scalar number { text := "", style := .plain, tag := p.tag }, some s)
      else broken

/-- A node, or none where one of some tokens follows. -/
def nodeUnless : Nat → Bool → Bool → List Token → State → Step Outline
  | 0, _, _, _, _ => broken
  | fuel + 1, block, flush, stops, s =>
    if s.sees stops then (.blank, some s) else node fuel block flush s

/-- The items of an indented sequence up to its end. -/
def blockItems : Nat → State → Step (List Outline)
  | 0, _ => ([], none)
  | fuel + 1, s =>
    match s.peek? with
    | some .blockEnd => ([], some s.skip)
    | some .item =>
      match nodeUnless fuel true false [.item, .blockEnd] s.skip with
      | (item, none) => ([item], none)
      | (item, some s) =>
        let more := blockItems fuel s
        (item :: more.1, more.2)
    | _ => ([], none)

/-- The items of a sequence that is not indented, as far as they go. -/
def flushItems : Nat → State → Step (List Outline)
  | 0, _ => ([], none)
  | fuel + 1, s =>
    match s.peek? with
    | none => ([], none)
    | some .item =>
      match nodeUnless fuel true false [.item, .key, .value, .blockEnd] s.skip with
      | (item, none) => ([item], none)
      | (item, some s) =>
        let more := flushItems fuel s
        (item :: more.1, more.2)
    | some _ => ([], some s)

/-- The entries of an indented mapping up to its end. -/
def blockEntries : Nat → State → Step (List (Outline × Outline))
  | 0, _ => ([], none)
  | fuel + 1, s =>
    match s.peek? with
    | some .blockEnd => ([], some s.skip)
    | some .key =>
      match nodeUnless fuel true true [.key, .value, .blockEnd] s.skip with
      | (key, none) => ([(key, .broken)], none)
      | (key, some s) =>
        match blockValue fuel s with
        | (value, none) => ([(key, value)], none)
        | (value, some s) =>
          let more := blockEntries fuel s
          ((key, value) :: more.1, more.2)
    | _ => ([], none)

/-- The value after a key of an indented mapping. -/
def blockValue : Nat → State → Step Outline
  | 0, _ => broken
  | fuel + 1, s =>
    match s.peek? with
    | none => broken
    | some .value => nodeUnless fuel true true [.key, .value, .blockEnd] s.skip
    | some _ => (.blank, some s)

/-- The items between brackets up to the closing one.  `first` says that none came before. -/
def flowItems : Nat → Bool → State → Step (List Outline)
  | 0, _, _ => ([], none)
  | fuel + 1, first, s =>
    if s.sees [.sequenceClose] then ([], some s.skip)
    else if !first && !s.sees [.comma] then ([], none)
    else
      let s := if first then s else s.skip
      match s.peek? with
      | none => ([], none)
      | some .sequenceClose => ([], some s.skip)
      | some .key =>
        match flowPair fuel s.skip with
        | (item, none) => ([item], none)
        | (item, some s) =>
          let more := flowItems fuel false s
          (item :: more.1, more.2)
      | some _ =>
        match node fuel false false s with
        | (item, none) => ([item], none)
        | (item, some s) =>
          let more := flowItems fuel false s
          (item :: more.1, more.2)

/-- The only entry of a mapping that stands between brackets without braces.  Where the key is
missing, the token in its place is passed over. -/
def flowPair : Nat → State → Step Outline
  | 0, _ => broken
  | fuel + 1, s =>
    let keyed : Step Outline :=
      if s.sees [.value, .comma, .sequenceClose] then (.blank, some s.skip)
      else node fuel false false s
    match keyed with
    | (key, none) => (.mapping none [(key, .broken)] false, none)
    | (key, some s) =>
      match flowValue fuel [.comma, .sequenceClose] s with
      | (value, none) => (.mapping none [(key, value)] false, none)
      | (value, some s) => (.mapping none [(key, value)] (!s.tokens.isEmpty), some s)

/-- The value after a key between brackets or braces. -/
def flowValue : Nat → List Token → State → Step Outline
  | 0, _, _ => broken
  | fuel + 1, stops, s =>
    match s.peek? with
    | none => broken
    | some .value => nodeUnless fuel false false stops s.skip
    | some _ => (.blank, some s)

/-- The entries between braces up to the closing one.  `first` says that none came before. -/
def flowEntries : Nat → Bool → State → Step (List (Outline × Outline))
  | 0, _, _ => ([], none)
  | fuel + 1, first, s =>
    if s.sees [.mappingClose] then ([], some s.skip)
    else if !first && !s.sees [.comma] then ([], none)
    else
      let s := if first then s else s.skip
      match s.peek? with
      | none => ([], none)
      | some .mappingClose => ([], some s.skip)
      | some .key =>
        match nodeUnless fuel false false [.value, .comma, .mappingClose] s.skip with
        | (key, none) => ([(key, .broken)], none)
        | (key, some s) =>
          match flowValue fuel [.comma, .mappingClose] s with
          | (value, none) => ([(key, value)], none)
          | (value, some s) =>
            let more := flowEntries fuel false s
            ((key, value) :: more.1, more.2)
      | some _ =>
        match node fuel false false s with
        | (key, none) => ([(key, .broken)], none)
        | (key, some s) =>
          if s.tokens.isEmpty then ([(key, .broken)], none)
          else
            let more := flowEntries fuel false s
            ((key, .blank) :: more.1, more.2)

end

/-! ## Documents -/

/-- The number of steps that suffice for some tokens: between two of them there are at most four
calls. -/
def enough (tokens : List Token) : Nat :=
  4 * tokens.length + 8

/-- The first version of the language. -/
def isKnownVersion (major minor : Nat) : Bool :=
  major = 1 && (minor = 1 || minor = 2)

/-- The directives before a document, up to the mark for its start.  There may be one version and
one meaning for each handle. -/
def directives : Bool → List (String × String) → List Token → Option State
  | _, handles, .documentStart :: rest =>
    some { tokens := rest, names := [], handles := handles ++ defaultHandles }
  | versioned, handles, .version major minor :: rest =>
    if versioned || !isKnownVersion major minor then none else directives true handles rest
  | versioned, handles, .handle name meaning :: rest =>
    if (handles.lookup name).isSome then none
    else directives versioned ((name, meaning) :: handles) rest
  | _, _, _ => none

/-- The root of a document that is marked at its start. -/
def markedRoot (fuel : Nat) (s : State) : Step Outline :=
  match s.peek? with
  | some (.version _ _) => (.blank, some s)
  | some (.handle _ _) => (.blank, some s)
  | some .documentStart => (.blank, some s)
  | some .documentEnd => (.blank, some s)
  | some .streamEnd => (.blank, some s)
  | _ => node fuel true false s

/-- The root of the first document. -/
def root (tokens : List Token) : Step Outline :=
  let fuel := enough tokens
  let marked : Step Outline :=
    match directives false [] tokens with
    | some s => markedRoot fuel s
    | none => broken
  match tokens with
  | .streamEnd :: _ => (.blank, some { tokens := tokens, names := [], handles := [] })
  | .version _ _ :: _ => marked
  | .handle _ _ :: _ => marked
  | .documentStart :: _ => marked
  | _ => node fuel true false { tokens := tokens, names := [], handles := defaultHandles }

/-- Nothing but marks for the end of a document is left. -/
def isEnd (s : State) : Bool :=
  s.tokens.dropWhile (· == .documentEnd) == [.streamEnd]

/-- Reads a whole text. -/
def document (text : String) : Document :=
  let found := root (tokens text)
  { root := found.1
    ended :=
      match found.2 with
      | some s => isEnd s
      | none => false }

end ContainerOps.Yaml.Reader
