import ContainerOps.Shell.Octet

/-!
# Arithmetic

An expression is read into a tree, which is then evaluated from left to right.  Numbers are words of
64 bits; names stand for variables, which an expression can also set.  What decides an operation
alone is evaluated first, and what it makes superfluous is not evaluated at all.  An error in form
is part of the tree, because what stands before it is evaluated first.
-/

namespace ContainerOps.Shell.Arithmetic

/-! ## Expressions -/

/-- An operator between two numbers. -/
inductive Operator where
  | times | quotient | remainder | plus | minus | shiftLeft | shiftRight
  | less | atMost | more | atLeast | equal | different
  | bitAnd | bitXor | bitOr
deriving DecidableEq

/-- Why an expression has no value. -/
inductive Fault where
  /-- A number or a name should stand here. -/
  | missingOperand
  /-- A choice has no alternative. -/
  | missingColon
  /-- A parenthesis is not closed. -/
  | missingParenthesis
  /-- Something stands behind the expression. -/
  | trailing
  /-- A division by zero. -/
  | divisionByZero
  /-- The value of a variable is no number. -/
  | badNumber (text : Octets)
deriving DecidableEq

/-- An expression. -/
inductive Expression where
  /-- A number. -/
  | number (n : Int)
  /-- The number that is the value of a variable. -/
  | variable_ (name : Octets)
  /-- The opposite number. -/
  | negative (e : Expression)
  /-- The number with all bits turned. -/
  | complement (e : Expression)
  /-- One for zero, and zero for any other number. -/
  | isZero (e : Expression)
  /-- An operator with its numbers. -/
  | binary (operator : Operator) (a b : Expression)
  /-- One if neither is zero. -/
  | both (a b : Expression)
  /-- One if not both are zero. -/
  | either (a b : Expression)
  /-- The second unless the first is zero, and then the third. -/
  | choice (test yes no : Expression)
  /-- Sets a variable, to the outcome of an operator on its value if there is one. -/
  | assignment (name : Octets) (operator : Option Operator) (e : Expression)
  /-- An error in form behind an expression, if there is one. -/
  | fault (before : Option Expression) (f : Fault)
  /-- A choice without an alternative. -/
  | halfChoice (test yes : Expression)

/-- The number that is the value of a variable; blanks alone are zero. -/
def valueNumber (text : Octets) : Except Fault Int :=
  if text.all isSpace then .ok 0
  else
    match integer? true text with
    | some n => .ok n
    | none => .error (.badNumber text)

/-! ## Tokens -/

/-- A token of an expression. -/
inductive Token where
  | number (n : Int)
  | name (text : Octets)
  | operator (o : Operator)
  | assign (o : Option Operator)
  | both | either | isZero | complement | question | colon | opening | closing
  /-- A character that does not belong here. -/
  | stray
deriving DecidableEq

/-- The signs, the longer ones first. -/
def signs : List (String × Token) :=
  [("<<=", .assign (some .shiftLeft)), (">>=", .assign (some .shiftRight)), ("||", .either),
    ("&&", .both), ("==", .operator .equal), ("!=", .operator .different),
    ("<=", .operator .atMost), (">=", .operator .atLeast), ("<<", .operator .shiftLeft),
    (">>", .operator .shiftRight), ("*=", .assign (some .times)), ("/=", .assign (some .quotient)),
    ("%=", .assign (some .remainder)), ("+=", .assign (some .plus)),
    ("-=", .assign (some .minus)), ("&=", .assign (some .bitAnd)), ("^=", .assign (some .bitXor)),
    ("|=", .assign (some .bitOr)), ("=", .assign none), ("<", .operator .less),
    (">", .operator .more), ("*", .operator .times), ("/", .operator .quotient),
    ("%", .operator .remainder), ("+", .operator .plus), ("-", .operator .minus),
    ("&", .operator .bitAnd), ("^", .operator .bitXor), ("|", .operator .bitOr), ("!", .isZero),
    ("~", .complement), ("?", .question), (":", .colon), ("(", .opening), (")", .closing)]

/-- The sign at the front of a text. -/
def sign? (cs : Octets) : Option (String × Token) :=
  signs.find? fun sign => sign.1.toList.isPrefixOf cs

/-- The tokens of an expression. -/
def tokens : Nat → Octets → List Token
  | 0, _ => []
  | _, [] => []
  | fuel + 1, c :: rest =>
    if isBlank c then tokens fuel rest
    else if isDigit c then
      let found := leadingNumber (c :: rest)
      .number (min found.1 maxInteger) :: tokens fuel found.2
    else if isNameStart c then
      .name ((c :: rest).takeWhile isNameChar) :: tokens fuel ((c :: rest).dropWhile isNameChar)
    else
      match sign? (c :: rest) with
      | some (text, token) => token :: tokens fuel ((c :: rest).drop text.length)
      | none => .stray :: tokens fuel rest

/-! ## Reading -/

/-- The operators that chain numbers, the weakest first. -/
def levels : List (List Operator) :=
  [[.bitOr], [.bitXor], [.bitAnd], [.equal, .different], [.less, .atMost, .more, .atLeast],
    [.shiftLeft, .shiftRight], [.plus, .minus], [.times, .quotient, .remainder]]

/-- An expression and the tokens behind it. -/
abbrev Step := Expression × List Token

/-- An error in form, behind which nothing matters. -/
def wrong (f : Fault) : Step :=
  (.fault none f, [])

/-- The operand behind a sign. -/
def Step.under (sign : Expression → Expression) (step : Step) : Step :=
  (sign step.1, step.2)

mutual

/-- An expression that may set a variable. -/
def whole : Nat → List Token → Step
  | 0, _ => wrong .missingOperand
  | fuel + 1, .name name :: .assign o :: rest => (whole fuel rest).under (.assignment name o)
  | fuel + 1, ts => choice fuel ts

/-- A choice, or what can be its test. -/
def choice : Nat → List Token → Step
  | 0, _ => wrong .missingOperand
  | fuel + 1, ts =>
    match disjunction fuel ts with
    | (test, .question :: rest) =>
      match whole fuel rest with
      | (yes, .colon :: rest) => (choice fuel rest).under (.choice test yes)
      | (yes, _) => (.halfChoice test yes, [])
    | found => found

/-- Expressions of which one may be other than zero. -/
def disjunction : Nat → List Token → Step
  | 0, _ => wrong .missingOperand
  | fuel + 1, ts =>
    match conjunction fuel ts with
    | (a, .either :: rest) => (disjunction fuel rest).under (.either a)
    | found => found

/-- Expressions of which none may be zero. -/
def conjunction : Nat → List Token → Step
  | 0, _ => wrong .missingOperand
  | fuel + 1, ts =>
    match chain fuel levels ts with
    | (a, .both :: rest) => (conjunction fuel rest).under (.both a)
    | found => found

/-- A chain of operators of one level or of stronger ones. -/
def chain : Nat → List (List Operator) → List Token → Step
  | 0, _, _ => wrong .missingOperand
  | fuel + 1, [], ts => operand fuel ts
  | fuel + 1, level :: stronger, ts =>
    let first := chain fuel stronger ts
    chainRest fuel level stronger first.1 first.2

/-- The rest of a chain behind an expression. -/
def chainRest : Nat → List Operator → List (List Operator) → Expression → List Token → Step
  | 0, _, _, _, _ => wrong .missingOperand
  | fuel + 1, level, stronger, a, ts =>
    match ts with
    | .operator o :: rest =>
      if o ∈ level then
        let b := chain fuel stronger rest
        chainRest fuel level stronger (.binary o a b.1) b.2
      else (a, ts)
    | ts => (a, ts)

/-- A number, a name, an expression in parentheses, or one of them behind a sign. -/
def operand : Nat → List Token → Step
  | 0, _ => wrong .missingOperand
  | fuel + 1, ts =>
    match ts with
    | .number n :: rest => (.number n, rest)
    | .name name :: rest => (.variable_ name, rest)
    | .operator .plus :: rest => operand fuel rest
    | .operator .minus :: rest => (operand fuel rest).under .negative
    | .isZero :: rest => (operand fuel rest).under .isZero
    | .complement :: rest => (operand fuel rest).under .complement
    | .opening :: rest =>
      match whole fuel rest with
      | (e, .closing :: rest) => (e, rest)
      | (e, _) => (.fault (some e) .missingParenthesis, [])
    | _ => wrong .missingOperand

end

/-- Reads an expression. -/
def read (text : Octets) : Expression :=
  let ts := tokens (text.length + 1) text
  match whole (16 * ts.length + 32) ts with
  | (e, []) => e
  | (e, _) => .fault (some e) .trailing

/-! ## Values -/

/-- A truth value as a number. -/
def ofBool (b : Bool) : Int :=
  if b then 1 else 0

/-- A number as a word with a sign. -/
def word (n : Int) : Int :=
  Int.bmod n 0x10000000000000000

/-- The outcome of an operator. -/
def Operator.apply (o : Operator) (a b : Int) : Except Fault Int :=
  let x := BitVec.ofInt 64 a
  let y := BitVec.ofInt 64 b
  match o with
  | .times => .ok (word (a * b))
  | .quotient => if b = 0 then .error .divisionByZero else .ok (word (Int.tdiv a b))
  | .remainder => if b = 0 then .error .divisionByZero else .ok (Int.tmod a b)
  | .plus => .ok (word (a + b))
  | .minus => .ok (word (a - b))
  | .shiftLeft => .ok (word (a * Nat.pow 2 (y.toNat % 64)))
  | .shiftRight => .ok (Int.fdiv a (Nat.pow 2 (y.toNat % 64)))
  | .less => .ok (ofBool (a < b))
  | .atMost => .ok (ofBool (a ≤ b))
  | .more => .ok (ofBool (b < a))
  | .atLeast => .ok (ofBool (b ≤ a))
  | .equal => .ok (ofBool (a == b))
  | .different => .ok (ofBool (a != b))
  | .bitAnd => .ok (x &&& y).toInt
  | .bitXor => .ok (x ^^^ y).toInt
  | .bitOr => .ok (x ||| y).toInt

/-- What variables were set to, the last first. -/
abbrev Changes := List (Octets × Int)

/-- The number that a name stands for. -/
def numberOf (valueOf : Octets → Octets) (set : Changes) (name : Octets) : Except Fault Int :=
  match set.lookup name with
  | some n => .ok n
  | none => valueNumber (valueOf name)

/-- The first error in form in an expression that is not evaluated. -/
def Expression.fault? : Expression → Option Fault
  | .number _ => none
  | .variable_ _ => none
  | .negative e => e.fault?
  | .complement e => e.fault?
  | .isZero e => e.fault?
  | .binary _ a b => a.fault?.or b.fault?
  | .both a b => a.fault?.or b.fault?
  | .either a b => a.fault?.or b.fault?
  | .choice test yes no => (test.fault?.or yes.fault?).or no.fault?
  | .assignment _ _ e => e.fault?
  | .fault none f => some f
  | .fault (some before) f => before.fault?.or (some f)
  | .halfChoice test yes => (test.fault?.or yes.fault?).or (some .missingColon)

/-- What an expression that is not evaluated amounts to: nothing, unless there is an error. -/
def Expression.passed (e : Expression) (n : Int) : Except Fault Int :=
  match e.fault? with
  | some f => .error f
  | none => .ok n

/-- The number of an expression, and what its variables were set to. -/
def evaluate (valueOf : Octets → Octets) : Expression → Changes → Except Fault Int × Changes
  | .number n, set => (.ok n, set)
  | .variable_ name, set => (numberOf valueOf set name, set)
  | .negative e, set =>
    let found := evaluate valueOf e set
    (found.1.map fun n => word (-n), found.2)
  | .complement e, set =>
    let found := evaluate valueOf e set
    (found.1.map fun n => -n - 1, found.2)
  | .isZero e, set =>
    let found := evaluate valueOf e set
    (found.1.map fun n => ofBool (n == 0), found.2)
  | .binary o a b, set =>
    match evaluate valueOf a set with
    | (.error f, set) => (.error f, set)
    | (.ok x, set) =>
      let found := evaluate valueOf b set
      (found.1.bind (o.apply x), found.2)
  | .both a b, set =>
    match evaluate valueOf a set with
    | (.error f, set) => (.error f, set)
    | (.ok x, set) =>
      if x = 0 then (b.passed 0, set)
      else
        let found := evaluate valueOf b set
        (found.1.map fun n => ofBool (n != 0), found.2)
  | .either a b, set =>
    match evaluate valueOf a set with
    | (.error f, set) => (.error f, set)
    | (.ok x, set) =>
      if x ≠ 0 then (b.passed 1, set)
      else
        let found := evaluate valueOf b set
        (found.1.map fun n => ofBool (n != 0), found.2)
  | .choice test yes no, set =>
    match evaluate valueOf test set with
    | (.error f, set) => (.error f, set)
    | (.ok x, set) =>
      if x = 0 then
        match yes.fault? with
        | some f => (.error f, set)
        | none => evaluate valueOf no set
      else
        let found := evaluate valueOf yes set
        (found.1.bind no.passed, found.2)
  | .assignment name o e, set =>
    match evaluate valueOf e set with
    | (.error f, set) => (.error f, set)
    | (.ok n, set) =>
      let outcome : Except Fault Int :=
        match o with
        | none => .ok n
        | some o => (numberOf valueOf set name).bind fun old => o.apply old n
      match outcome with
      | .error f => (.error f, set)
      | .ok n => (.ok n, (name, n) :: set)
  | .fault none f, set => (.error f, set)
  | .fault (some before) f, set =>
    let found := evaluate valueOf before set
    (found.1.bind fun _ => .error f, found.2)
  | .halfChoice test yes, set =>
    match evaluate valueOf test set with
    | (.error f, set) => (.error f, set)
    | (.ok x, set) =>
      if x = 0 then (.error ((yes.fault?).getD .missingColon), set)
      else
        let found := evaluate valueOf yes set
        (found.1.bind fun _ => .error .missingColon, found.2)

/-- The value of an expression, and what its variables are set to in order, also before an
error. -/
def eval (valueOf : Octets → Octets) (text : Octets) : Except Fault Int × Changes :=
  let found := evaluate valueOf (read text) []
  (found.1, found.2.reverse)

/-- Why an expression has no value, in words. -/
def Fault.message (text : Octets) (fault : Fault) : Octets :=
  let about := fun (problem : String) =>
    octetsOf ("arithmetic expression: " ++ problem ++ ": \"") ++ text ++ ['"']
  match fault with
  | .missingOperand => about "expecting primary"
  | .missingColon => about "expecting ':'"
  | .missingParenthesis => about "expecting ')'"
  | .trailing => about "expecting EOF"
  | .divisionByZero => about "division by zero"
  | .badNumber text => octetsOf "Illegal number: " ++ text

end ContainerOps.Shell.Arithmetic
