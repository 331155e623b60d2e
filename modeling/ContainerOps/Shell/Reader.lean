import ContainerOps.Shell.Cursor

/-!
# From text to commands

The commands of a script are read one complete line at a time, because the lines before an error in
form still run, and may change what words stand for.  A word is read with all that is nested in it;
a frame says which characters have a meaning at its place.  Every function takes a bound on the
depth of its calls.
-/

namespace ContainerOps.Shell

/-- Reads from where a cursor stands, or finds an error in form. -/
abbrev Reading := StateT Cursor (Except SyntaxError)

namespace Reader

/-! ## Characters -/

/-- The error that shows at the line of the cursor. -/
def refuse {α : Type} (detail : String) : Reading α := fun c =>
  .error { line := c.line, detail := detail }

/-- The error of a text that is nested too deeply. -/
def tooDeep {α : Type} : Reading α :=
  refuse "too deep"

/-- The next character. -/
def next : Reading (Option Char) := fun c => .ok (c.take false)

/-- The next character where lines may be joined. -/
def nextJoined : Reading (Option Char) := fun c => .ok (c.take true)

/-- Puts a character back. -/
def putBack (x : Option Char) : Reading Unit :=
  modify (·.putBack x)

/-- One line more is passed. -/
def passLine : Reading Unit :=
  modify fun c => { c with line := c.line + 1 }

/-- Something in the word is quoted. -/
def quote : Reading Unit :=
  modify fun c => { c with hasQuotes := true }

/-- The characters in front that a condition holds of, after one that was read, and the character
behind them. -/
def nameFrom (x : Char) (holds : Char → Bool) : Reading (Octets × Option Char) := do
  let name ← modifyGet fun c => Cursor.takeWhile holds c.unread [x] c
  let behind ← nextJoined
  return (name, behind)

/-! ## Frames -/

/-- What a text that is read as pieces belongs to. -/
inductive Extent where
  /-- A word. -/
  | word
  /-- A document, up to a line of its own. -/
  | document (mark : Octets) (stripped : Bool)
  /-- A text that is a document as a whole. -/
  | text

/-- A word, and not a document. -/
def Extent.isWord : Extent → Bool
  | .word => true
  | _ => false

/-- Which characters have a meaning. -/
inductive Quoting where
  /-- All of them, outside of quotes. -/
  | bare
  /-- Those between double quotes. -/
  | double
  /-- None but the closing quote, between single quotes. -/
  | single
  /-- Those in an expression. -/
  | arithmetic
deriving DecidableEq

/-- What is open around a character. -/
structure Frame where
  /-- Which characters have a meaning. -/
  quoting : Quoting
  /-- The frame stands between double quotes. -/
  inDouble : Bool
  /-- The number of parameters in braces that are open. -/
  depth : Nat
  /-- How many of them stand between double quotes. -/
  doubleDepth : Nat
  /-- The number of parentheses that are open in an expression. -/
  parentheses : Nat
  /-- A part in double quotes is open inside such a parameter. -/
  innerDouble : Bool

/-- A frame in which nothing is open. -/
def Frame.of (quoting : Quoting) (inDouble : Bool) : Frame :=
  { quoting := quoting
    inDouble := inDouble
    depth := 0
    doubleDepth := 0
    parentheses := 0
    innerDouble := false }

/-- A frame in which one parameter in braces more is open. -/
def Frame.opened (f : Frame) : Frame :=
  { f with
    depth := f.depth + 1
    doubleDepth := if f.inDouble then f.doubleDepth + 1 else f.doubleDepth }

/-- A frame in which one parameter in braces less is open. -/
def Frame.closed (f : Frame) : Frame :=
  { f with depth := f.depth - 1, doubleDepth := f.doubleDepth - 1 }

/-- A frame behind a double quote: inside a parameter, it opens or closes a part there. -/
def Frame.toggled (f : Frame) : Frame :=
  if f.depth = 0 then f else { f with innerDouble := !f.innerDouble }

/-- What a character does in a frame. -/
inductive Role where
  | ends | newline | plain | protected_ | backslash | opensSingle | opensDouble | closesQuote
  | dollar | closesParameter | opensParenthesis | closesParenthesis | backQuote

/-- The characters that double quotes keep from having a meaning in patterns and paths. -/
def protectedLetters : List Char :=
  ['!', '*', '?', '[', '=', '~', ':', '/', '-', ']']

/-- What a character does in a frame. -/
def roleOf (f : Frame) (x : Char) : Role :=
  let common :=
    if x == '\\' then .backslash
    else if x == backQuote then .backQuote
    else if x == '$' then .dollar
    else if x == '\x7d' then .closesParameter
    else .plain
  if x == '\n' then if f.quoting = .bare && f.depth = 0 then .ends else .newline
  else
    match f.quoting with
    | .bare =>
      if x ∈ ['<', '>', '(', ')', ';', '&', '|', ' ', '\t'] then
        if f.depth = 0 then .ends else .plain
      else if x == '\'' then .opensSingle
      else if x == '"' then .opensDouble
      else common
    | .double =>
      if x == '"' then .closesQuote
      else if x ∈ protectedLetters then .protected_
      else common
    | .single =>
      if x == '\'' then .closesQuote
      else if x == '\\' || x ∈ protectedLetters then .protected_
      else .plain
    | .arithmetic =>
      if x == '(' then .opensParenthesis
      else if x == ')' then .closesParenthesis
      else common

/-- The next character in a frame; between single quotes lines are not joined. -/
def nextIn (f : Frame) : Reading (Option Char) :=
  if f.quoting = .single then next else nextJoined

/-- The first character of a line, which is the end if the line ends the document. -/
def lineStart (extent : Extent) (x : Option Char) : Reading (Option Char) :=
  match extent with
  | .document mark stripped => fun c =>
    let first := if stripped then c.passTabs x else (x, c)
    match Cursor.passMark mark first.1 first.2 with
    | some behind => .ok (none, behind)
    | none => .ok first
  | _ => pure x

/-- A quotation mark as a piece of a word; in documents there are none. -/
def markPiece (extent : Extent) (pieces : List Piece) : List Piece :=
  if extent.isWord then .mark :: pieces else pieces

/-- A backslash protects nothing before these characters between double quotes. -/
def keepsBackslash (extent : Extent) (f : Frame) (x : Char) : Bool :=
  f.inDouble && x != '\\' && x != backQuote && x != '$' &&
    (x != '"' || (!extent.isWord && f.depth = 0)) && (x != '\x7d' || f.depth = 0)

/-- The pieces of a text at its end; what is still open is an error. -/
def ended (extent : Extent) (f : Frame) (pieces : List Piece) (x : Option Char) :
    Reading (List Piece × Frame × Option Char) :=
  if f.quoting = .arithmetic then refuse "Missing '))'"
  else if f.quoting ≠ .bare && extent.isWord then refuse "Unterminated quoted string"
  else if f.depth ≠ 0 then refuse "Missing '\x7d'"
  else pure (pieces.reverse, f, x)

/-! ## Parameters -/

/-- What a sign behind the name in braces means for a parameter; none if the parameter ends. -/
def signUse? (emptyToo : Bool) (x : Option Char) : Option ParameterUse :=
  match x with
  | some '\x7d' => some (if emptyToo then .colon else .plain)
  | some '-' => some (.orElse emptyToo)
  | some '+' => some (.ifSet emptyToo)
  | some '?' => some (.demanded emptyToo)
  | some '=' => some (.assigned emptyToo)
  | _ => none

/-- What is done with the value of a parameter in braces, by what stands behind the name. -/
def useAfter (x : Option Char) : Reading ParameterUse := do
  match x with
  | some ':' => return (signUse? true (← nextJoined)).getD .bad
  | some '%' => return .cut false (← repeated '%')
  | some '#' => return .cut true (← repeated '#')
  | x => return (signUse? false x).getD .bad
where
  /-- A sign comes a second time. -/
  repeated (sign : Char) : Reading Bool := do
    let x ← nextJoined
    if x == some sign then return true
    else
      putBack x
      return false

/-- The name of a parameter of which the length is taken, and that use if nothing follows. -/
def sizeOf (name : Octets) (x : Option Char) : Reading (Octets × ParameterUse) := do
  putBack x
  return (name, if x == some '\x7d' then .size else .bad)

/-- The name and the use of a parameter in braces, of which the first character was read. -/
def bracedParameter (x : Option Char) : Reading (Octets × ParameterUse) := do
  let used := fun (name : Octets) (x : Option Char) => do return (name, ← useAfter x)
  match x with
  | none => return ([], .bad)
  | some x =>
    if isNameStart x then
      let (name, behind) ← nameFrom x isNameChar
      used name behind
    else if isDigit x then
      let (name, behind) ← nameFrom x isDigit
      used name behind
    else if x == '\x7d' then
      putBack (some x)
      return ([], .bad)
    else
      let y ← nextJoined
      if x == '#' then
        match y with
        | some y =>
          if isNameStart y then
            let (name, behind) ← nameFrom y isNameChar
            sizeOf name behind
          else if isDigit y then
            let (name, behind) ← nameFrom y isDigit
            sizeOf name behind
          else
            let z ← nextJoined
            if y == '\x7d' || z != some '\x7d' then
              putBack z
              used ['#'] (some y)
            else if isSpecial y then sizeOf [y] z
            else
              putBack z
              return ([], .bad)
        | none => used ['#'] none
      else if isSpecial x then used [x] y
      else
        putBack y
        return ([], .bad)

/-- The name and the use of a parameter without braces, of which the first character was read. -/
def bareParameter (x : Char) : Reading (Octets × ParameterUse) := do
  if isNameStart x then
    let (name, behind) ← nameFrom x isNameChar
    putBack behind
    return (name, .plain)
  else return ([x], .plain)

/-- The frame in which the word of a parameter is read, and whether it is a new one. -/
def wordFrame (f : Frame) (use : ParameterUse) : Frame × Bool :=
  let quoting : Quoting :=
    match use with
    | .cut _ _ => .bare
    | _ => if f.quoting = .arithmetic then .double else f.quoting
  if quoting ≠ f.quoting || f.innerDouble then ((Frame.of quoting (quoting ≠ .bare)).opened, true)
  else (f.opened, false)

/-! ## Errors -/

/-- The error of a token that does not go on as it should. -/
def unexpected {α : Type} (expected : Option Token) : Reading α := do
  let found := (← get).token.shown ++ " unexpected"
  match expected with
  | none => refuse found
  | some token => refuse (found ++ " (expecting " ++ token.shown ++ ")")

/-- The last token comes again. -/
def again : Reading Unit :=
  modify fun c => { c with again := true }

/-- Says what the next token is looked at for. -/
def look (newlines keywords aliases : Bool) : Reading Unit :=
  modify fun c => { c with check :=
    { newlines := newlines, keywords := keywords, aliases := aliases, mark := false } }

/-- The descriptor in front of the sign of a redirection. -/
def descriptor? (pieces : List Piece) : Option (Option Nat) :=
  match pieces with
  | [] => some none
  | [.plain c] => if isDigit c then some (some (c.toNat - 48)) else none
  | _ => none

/-- The sign of a redirection of which the first character was read, with the descriptor that it
redirects without one. -/
def redirectionSign (x : Char) : Reading (Nat × RedirectionSign) := do
  let y ← nextJoined
  if x == '>' then
    match y with
    | some '>' => return (1, .opens .append)
    | some '|' => return (1, .opens .replacement)
    | some '&' => return (1, .duplicates)
    | y =>
      putBack y
      return (1, .opens .output)
  else
    match y with
    | some '<' =>
      let z ← nextJoined
      if z == some '-' then return (0, .begins true)
      else
        putBack z
        return (0, .begins false)
    | some '&' => return (0, .duplicates)
    | some '>' => return (0, .opens .both)
    | y =>
      putBack y
      return (0, .opens .input)

/-- One of two tokens, by the next character. -/
def doubled (sign : Char) (twice once : Token) : Reading Token := do
  let x ← nextJoined
  if x == some sign then return twice
  else
    putBack x
    return once

/-- A command after others. -/
def joined (first : Option Node) (second : Node) : Node :=
  match first with
  | some first => .sequence first second
  | none => second

/-- A command that the shell does not wait for. -/
def unawaited : Node → Node
  | .pipeline _ parts => .pipeline false parts
  | .redirected _ body redirections => .background body redirections
  | node => .background node []

/-- A command with redirections. -/
def withRedirections (line : Nat) (node : Node) (redirections : List Redirection) : Node :=
  if redirections.isEmpty then node
  else
    match node with
    | .subshell line body _ => .subshell line body redirections
    | node => .redirected line node redirections

/-- The name of a function. -/
def functionName : Reading Octets := do
  match Word.text? (← get).word with
  | some name =>
    if isName name && String.ofList name ∉ specialNames then return name
    else refuse "Bad function name"
  | none => refuse "Bad function name"

/-! ## Words and commands -/

mutual

/-- Reads pieces in a frame from a character that was read, up to where it closes, or up to the end
of the word or document. -/
def parts : Nat → Extent → Frame → List Piece → Option Char →
    Reading (List Piece × Frame × Option Char)
  | 0, _, _, _, _ => tooDeep
  | _ + 1, extent, f, pieces, none => ended extent f pieces none
  | fuel + 1, extent, f, pieces, some x =>
    match roleOf f x with
    | .ends => ended extent f pieces (some x)
    | .newline => do
      passLine
      parts fuel extent f (.plain x :: pieces) (← lineStart extent (← nextIn f))
    | .plain => do parts fuel extent f (.plain x :: pieces) (← nextIn f)
    | .protected_ => do
      let piece := if extent.isWord || f.inDouble || f.depth ≠ 0 then .escaped x else .plain x
      parts fuel extent f (piece :: pieces) (← nextIn f)
    | .backslash => do
      match ← next with
      | none => parts fuel extent f (.escaped x :: pieces) none
      | some y =>
        quote
        let pieces := if keepsBackslash extent f y then .escaped x :: pieces else pieces
        parts fuel extent f (.escaped y :: pieces) (← nextIn f)
    | .opensSingle => do
      let f := { f with quoting := .single }
      parts fuel extent f (markPiece extent pieces) (← nextIn f)
    | .opensDouble => do
      let f := { f with quoting := .double, inDouble := true }.toggled
      parts fuel extent f (markPiece extent pieces) (← nextIn f)
    | .closesQuote => do
      if !extent.isWord && f.depth = 0 then
        parts fuel extent f (.plain x :: pieces) (← nextIn f)
      else
        quote
        let f := if f.doubleDepth = 0 then { f with quoting := .bare, inDouble := false } else f
        let f := if x == '"' then f.toggled else f
        parts fuel extent f (markPiece extent pieces) (← nextIn f)
    | .dollar => do
      let found ← dollar fuel extent f
      parts fuel extent found.2 (found.1 :: pieces) (← nextIn found.2)
    | .closesParameter =>
      if !f.innerDouble && f.depth ≠ 0 then pure (pieces.reverse, f.closed, none)
      else do parts fuel extent f (.plain x :: pieces) (← nextIn f)
    | .opensParenthesis => do
      parts fuel extent { f with parentheses := f.parentheses + 1 } (.plain x :: pieces)
        (← nextIn f)
    | .closesParenthesis => do
      if f.parentheses ≠ 0 then
        parts fuel extent { f with parentheses := f.parentheses - 1 } (.plain x :: pieces)
          (← nextIn f)
      else
        let y ← nextJoined
        if y == some ')' then return (pieces.reverse, f, none)
        else
          putBack y
          parts fuel extent f (.plain x :: pieces) (← nextIn f)
    | .backQuote => do
      if (← get).check.mark then
        quote
        parts fuel extent f (.plain x :: pieces) (← nextIn f)
      else
        let body ← backQuotedCommand fuel f.inDouble
        parts fuel extent f (.command body :: pieces) (← nextIn f)
termination_by structural fuel => fuel

/-- Reads what belongs to a dollar sign, and gives the frame behind it. -/
def dollar : Nat → Extent → Frame → Reading (Piece × Frame)
  | 0, _, _ => tooDeep
  | fuel + 1, extent, f => do
    let x ← nextJoined
    let begins := fun (x : Char) => x == '(' || x == '\x7b' || isNameStart x || isSpecial x
    match if (← get).check.mark then none else x.filter begins with
    | none =>
      putBack x
      return (.plain '$', f)
    | some '(' =>
      let y ← nextJoined
      if y == some '(' then
        let inside := Frame.of .arithmetic true
        let found ← parts fuel extent inside [] (← nextIn inside)
        return (.arithmetic found.1, f)
      else
        putBack y
        return (.command (← enclosedCommand fuel), f)
    | some x =>
      let (name, use) ←
        if x == '\x7b' then do bracedParameter (← nextJoined) else bareParameter x
      if use = .plain then return (.parameter name use [], f)
      else
        let inside := wordFrame f use
        let found ← parts fuel extent inside.1 [] (← nextIn inside.1)
        return (.parameter name use found.1, if inside.2 then f else found.2.1)
termination_by structural fuel => fuel

/-- Reads a command up to its closing parenthesis. -/
def enclosedCommand : Nat → Reading (Option Node)
  | 0 => tooDeep
  | fuel + 1 => do
    let before ← get
    set { before with awaited := [] }
    let body ← list fuel false true none
    if (← readToken fuel) ≠ .closing then unexpected (some .closing)
    else
      let after ← get
      set { after with unread := [] }
      documents fuel
      modify fun c =>
        { c with
          unread := after.unread
          line := after.line
          awaited := before.awaited
          hasQuotes := before.hasQuotes }
      return body
termination_by structural fuel => fuel

/-- Reads a command up to its closing back quote. -/
def backQuotedCommand : Nat → Bool → Reading (Option Node)
  | 0, _ => tooDeep
  | fuel + 1, inDouble => do
    let before ← get
    match Cursor.backQuoted inDouble before.unread [] before with
    | (none, after) =>
      set after
      refuse "EOF in backquote substitution"
    | (some text, after) =>
      set { after with
        unread := text.map .char
        line := 1
        awaited := [] }
      let body ← list fuel false true none
      modify fun c =>
        { c with
          unread := after.unread
          line := after.line
          awaited := before.awaited
          hasQuotes := before.hasQuotes
          again := false }
      return body
termination_by structural fuel => fuel

/-- Reads the documents that begin here. -/
def documents : Nat → Reading Unit
  | 0 => tooDeep
  | fuel + 1 => do
    match (← get).awaited with
    | [] => return
    | a :: rest =>
      modify fun c => { c with awaited := rest }
      let extent := Extent.document a.mark a.stripped
      let first ← if a.expands then nextJoined else next
      let f := if a.expands then Frame.of .double true else Frame.of .single false
      let found ← parts fuel extent f [] (← lineStart extent first)
      modify fun c =>
        { c with documents :=
            c.documents.set a.number { body := found.1, expands := a.expands } }
      documents fuel
termination_by structural fuel => fuel

/-- Reads a word from a character that was read, or the sign of a redirection. -/
def wordToken : Nat → Option Char → Reading Token
  | 0, _ => tooDeep
  | fuel + 1, x => do
    modify fun c => { c with hasQuotes := false }
    let found ← parts fuel .word (Frame.of .bare false) [] x
    let behind := found.2.2
    let sign := behind.filter fun x => x == '<' || x == '>'
    match if (← get).hasQuotes then none else sign, descriptor? found.1 with
    | some x, some descriptor =>
      let sign ← redirectionSign x
      return .redirection (descriptor.getD sign.1) sign.2
    | _, _ =>
      putBack behind
      modify fun c => { c with word := found.1 }
      return .word
termination_by structural fuel => fuel

/-- Reads the next token as it is. -/
def rawToken : Nat → Reading Token
  | 0 => tooDeep
  | fuel + 1 => do
    if (← get).again then
      modify fun c => { c with again := false }
      return (← get).token
    else
      modify fun c => Cursor.skipBlanks false c.unread c
      let token ←
        match ← nextJoined with
        | none => pure .endOfFile
        | some '\n' => do
          passLine
          pure .newline
        | some '&' => doubled '&' .both .ampersand
        | some '|' => doubled '|' .either .pipe
        | some ';' => doubled ';' .endOfArm .semicolon
        | some '(' => pure .opening
        | some ')' => pure .closing
        | some x => wordToken fuel (some x)
      modify fun c => { c with token := token }
      return token
termination_by structural fuel => fuel

/-- Passes the ends of lines, and reads the documents behind each. -/
def skipNewlines : Nat → Token → Reading Token
  | 0, _ => tooDeep
  | fuel + 1, token => do
    if token = .newline then
      documents fuel
      modify fun c => { c with check := .nothing }
      skipNewlines fuel (← rawToken fuel)
    else return token
termination_by structural fuel => fuel

/-- Reads the next token, looked at for what was said before. -/
def readToken : Nat → Reading Token
  | 0 => tooDeep
  | fuel + 1 => do checkedToken fuel (← get).check
termination_by structural fuel => fuel

/-- Reads the next token and looks at it for some things. -/
def checkedToken : Nat → Check → Reading Token
  | 0, _ => tooDeep
  | fuel + 1, check => do
    let raw ← rawToken fuel
    let raw ← if check.newlines then skipNewlines fuel raw else pure raw
    let c ← get
    let check := check.and c.check
    let text := if raw = .word && !c.hasQuotes then Word.text? c.word else none
    let keyword := (text.map String.ofList).filter fun text => check.keywords && text ∈ keywords
    let value := if check.aliases && keyword.isNone then text.bind c.alias? else none
    match text, value with
    | some name, some value =>
      set (Cursor.replace { c with check := .nothing } name value)
      checkedToken fuel check
    | _, _ =>
      let token := (keyword.map Token.keyword).getD raw
      set { c with check := .nothing, token := token }
      return token
termination_by structural fuel => fuel

/-- Reads a list of commands behind those that were found: the complete ones of a line, or all up to
where the list ends.  `closes` says that it may end here. -/
def list : Nat → Bool → Bool → Option Node → Reading (Option Node)
  | 0, _, _, _ => tooDeep
  | fuel + 1, line, closes, found => do
    look (!line) true true
    match ← readToken fuel with
    | .newline =>
      documents fuel
      return found
    | .endOfFile =>
      documents fuel
      modify fun c => { c with again := true, token := .endOfFile }
      return found
    | token =>
      again
      if !line && closes && token.endsList then return found
      else
        let node ← andOr fuel
        let behind ← readToken fuel
        let node := joined found (if behind = .ampersand then unawaited node else node)
        match behind with
        | .ampersand => list fuel line true (some node)
        | .semicolon => list fuel line true (some node)
        | _ =>
          if behind = .newline || behind = .endOfFile then
            again
            list fuel line true (some node)
          else if line then unexpected none
          else
            again
            return some node
termination_by structural fuel => fuel

/-- Reads a list that is not empty. -/
def body : Nat → Reading Node
  | 0 => tooDeep
  | fuel + 1 => do return (← list fuel false false none).getD default
termination_by structural fuel => fuel

/-- Reads pipelines that depend on each other's outcomes. -/
def andOr : Nat → Reading Node
  | 0 => tooDeep
  | fuel + 1 => do andOrFrom fuel (← pipeline fuel)
termination_by structural fuel => fuel

/-- Reads the pipelines that depend on the outcome of a command. -/
def andOrFrom : Nat → Node → Reading Node
  | 0, _ => tooDeep
  | fuel + 1, left => do
    match ← readToken fuel with
    | .both =>
      look true true true
      andOrFrom fuel (.both left (← pipeline fuel))
    | .either =>
      look true true true
      andOrFrom fuel (.either left (← pipeline fuel))
    | _ =>
      again
      return left
termination_by structural fuel => fuel

/-- Reads a pipeline, which may be turned around. -/
def pipeline : Nat → Reading Node
  | 0 => tooDeep
  | fuel + 1 => do
    let negated := (← readToken fuel) = .keyword "!"
    if negated then look false true true else again
    let first ← command fuel
    let rest ← pipedCommands fuel
    let node := if rest.isEmpty then first else .pipeline true (first :: rest)
    return if negated then .negation node else node
termination_by structural fuel => fuel

/-- Reads the commands that read what the one before writes. -/
def pipedCommands : Nat → Reading (List Node)
  | 0 => tooDeep
  | fuel + 1 => do
    if (← readToken fuel) = .pipe then
      look true true true
      let first ← command fuel
      return first :: (← pipedCommands fuel)
    else
      again
      return []
termination_by structural fuel => fuel

/-- Reads one command with its redirections. -/
def command : Nat → Reading Node
  | 0 => tooDeep
  | fuel + 1 => do
    let line := (← get).line
    let closing := fun (node : Node) (token : Token) => do
      if (← readToken fuel) ≠ token then unexpected (some token)
      else
        look false true true
        return withRedirections line node (← redirections fuel)
    match ← readToken fuel with
    | .keyword "if" => closing (← choice fuel) (.keyword "fi")
    | .keyword "while" => closing (← loop fuel true) (.keyword "done")
    | .keyword "until" => closing (← loop fuel false) (.keyword "done")
    | .keyword "for" => closing (← each fuel line) (.keyword "done")
    | .keyword "case" => do
      let node ← cases fuel line
      look false true true
      return withRedirections line node (← redirections fuel)
    | .opening => closing (.subshell line (← body fuel) []) .closing
    | .keyword "\x7b" => closing (← body fuel) (.keyword "\x7d")
    | .word =>
      again
      simple fuel true (← get).line [] [] []
    | .redirection _ _ =>
      again
      simple fuel true (← get).line [] [] []
    | _ => unexpected none
termination_by structural fuel => fuel

/-- Reads a test with what depends on it, behind the first keyword. -/
def choice : Nat → Reading Node
  | 0 => tooDeep
  | fuel + 1 => do
    let test ← body fuel
    if (← readToken fuel) ≠ .keyword "then" then unexpected (some (.keyword "then"))
    else
      let yes ← body fuel
      match ← readToken fuel with
      | .keyword "elif" => return .choice test yes (some (← choice fuel))
      | .keyword "else" => return .choice test yes (some (← body fuel))
      | _ =>
        again
        return .choice test yes none
termination_by structural fuel => fuel

/-- Reads a loop behind its first keyword. -/
def loop : Nat → Bool → Reading Node
  | 0, _ => tooDeep
  | fuel + 1, wanted => do
    let test ← body fuel
    if (← readToken fuel) ≠ .keyword "do" then unexpected (some (.keyword "do"))
    else return .loop wanted test (← body fuel)
termination_by structural fuel => fuel

/-- Reads a loop over words behind its first keyword. -/
def each : Nat → Nat → Reading Node
  | 0, _ => tooDeep
  | fuel + 1, line => do
    let token ← readToken fuel
    let c ← get
    let name := if token = .word && !c.hasQuotes then Word.text? c.word else none
    match name.filter isName with
    | none => refuse "Bad for loop variable"
    | some name =>
      look true true true
      let words ←
        if (← readToken fuel) = .keyword "in" then do
          let words ← plainWords fuel
          let behind := (← get).token
          if behind = .newline || behind = .semicolon then pure words else unexpected none
        else do
          if (← get).token ≠ .semicolon then again
          pure [Word.allArguments]
      look true true true
      if (← readToken fuel) ≠ .keyword "do" then unexpected (some (.keyword "do"))
      else return .each line name words (← body fuel)
termination_by structural fuel => fuel

/-- Reads words up to another token. -/
def plainWords : Nat → Reading (List Word)
  | 0 => tooDeep
  | fuel + 1 => do
    if (← readToken fuel) = .word then
      let word := (← get).word
      return word :: (← plainWords fuel)
    else return []
termination_by structural fuel => fuel

/-- Reads a choice between patterns behind its first keyword. -/
def cases : Nat → Nat → Reading Node
  | 0, _ => tooDeep
  | fuel + 1, line => do
    if (← readToken fuel) ≠ .word then unexpected (some .word)
    else
      let word := (← get).word
      look true true true
      if (← readToken fuel) ≠ .keyword "in" then unexpected (some (.keyword "in"))
      else return .cases line word (← arms fuel)
termination_by structural fuel => fuel

/-- Reads the patterns with what depends on them, up to the last keyword. -/
def arms : Nat → Reading (List (List Word × Option Node))
  | 0 => tooDeep
  | fuel + 1 => do
    look true true false
    if (← readToken fuel) = .keyword "esac" then return []
    else
      if (← get).token = .opening then
        let _ ← readToken fuel
      let patterns ← patterns fuel
      if (← get).token ≠ .closing then unexpected (some .closing)
      else
        let body ← list fuel false true none
        look true true false
        match ← readToken fuel with
        | .keyword "esac" => return [(patterns, body)]
        | .endOfArm => return (patterns, body) :: (← arms fuel)
        | _ => unexpected (some .endOfArm)
termination_by structural fuel => fuel

/-- Reads patterns of which the first was read. -/
def patterns : Nat → Reading (List Word)
  | 0 => tooDeep
  | fuel + 1 => do
    let first := (← get).word
    if (← readToken fuel) = .pipe then
      let _ ← readToken fuel
      return first :: (← patterns fuel)
    else return [first]
termination_by structural fuel => fuel

/-- Reads the redirections behind a command. -/
def redirections : Nat → Reading (List Redirection)
  | 0 => tooDeep
  | fuel + 1 => do
    match ← readToken fuel with
    | .redirection descriptor sign =>
      let first ← target fuel descriptor sign
      return first :: (← redirections fuel)
    | _ =>
      again
      return []
termination_by structural fuel => fuel

/-- Reads what a redirection leads to. -/
def target : Nat → Nat → RedirectionSign → Reading Redirection
  | 0, _, _ => tooDeep
  | fuel + 1, descriptor, sign => do
    if sign matches .begins _ then
      modify fun c => { c with check := { Check.nothing with mark := true } }
    if (← readToken fuel) ≠ .word then unexpected none
    else
      let c ← get
      match sign with
      | .opens opening => return .file descriptor opening c.word
      | .duplicates =>
        match c.word with
        | [.plain '-'] => return .duplicate descriptor none
        | [.plain x] =>
          if isDigit x then return .duplicate descriptor (some (x.toNat - 48))
          else return .duplicateNamed descriptor c.word
        | word => return .duplicateNamed descriptor word
      | .begins stripped =>
        let awaited : Awaited :=
          { number := c.documents.length
            mark := Word.letters c.word
            stripped := stripped
            expands := !c.hasQuotes }
        let empty : Document := { body := [], expands := false }
        set { c with
          documents := c.documents ++ [empty]
          awaited := c.awaited ++ [awaited] }
        return .document descriptor awaited.number
termination_by structural fuel => fuel

/-- Reads the parts of a simple command, of which some were read, the last first; or the definition
of a function.  `begins` says that words may still be assignments. -/
def simple : Nat → Bool → Nat → List Word → List Word → List Redirection → Reading Node
  | 0, _, _, _, _, _ => tooDeep
  | fuel + 1, begins, line, assignments, words, redirections => do
    look false false begins
    let finished : Reading Node := do
      again
      return .simple line assignments.reverse words.reverse redirections.reverse
    match ← readToken fuel with
    | .word =>
      let word := (← get).word
      if begins && Word.isAssignment word then
        simple fuel true line (word :: assignments) words redirections
      else simple fuel false line assignments (word :: words) redirections
    | .redirection descriptor sign =>
      let r ← target fuel descriptor sign
      simple fuel begins line assignments words (r :: redirections)
    | .opening =>
      if words.length = 1 && assignments.isEmpty && redirections.isEmpty then
        if (← readToken fuel) ≠ .closing then unexpected (some .closing)
        else
          let name ← functionName
          look true true true
          return .function name (← command fuel)
      else finished
    | _ => finished
termination_by structural fuel => fuel

end

/-! ## Whole texts -/

/-- The bound on the depth of calls. -/
def maxDepth : Nat := 1000000000

/-- Reads the complete commands of a line: nothing at the end of the text, and no command if the
line has none. -/
def nextCommand : Reading (Option (Option Node)) := do
  modify fun c => { c with again := false, check := .nothing, awaited := [] }
  let found ← list maxDepth true false none
  let c ← get
  return if found.isNone && c.again then none else some found

/-- Reads a text as the pieces of a document. -/
def wholeText : Reading Word := do
  let found ← parts maxDepth .text (Frame.of .double true) [] (← nextJoined)
  return found.1

end Reader

end ContainerOps.Shell
