import SigCheck.Grammar.Parameters

/-
  Expressions. The rules are given over readers of the
  expressions inside them; `exprAt` closes the circle with a
  bound on the nesting, which the number of tokens bounds.

  Key definitions include:
    * `Goal`, `Rules`
    * `Rules.orTest`, `Rules.comparison`, `Rules.binary`
    * `Rules.atom`, `Rules.primary`
    * `Rules.test`, `Rules.namedTest`, `Rules.testList`
    * `exprAt`
-/

namespace SigCheck

open Parse

------------------------------------------------------------
-- Rules
------------------------------------------------------------

/- The kinds of expressions that occur inside others. -/
inductive Goal where
  | test
  | notTest
  | factor
  deriving DecidableEq, Repr

/-
  What the rules build on: readers of inner expressions, the
  check of expressions in formatted strings, and a bound on
  the length of lists.
-/
structure Rules where
  inner : Goal → Parse Expr
  check : Format.ExprCheck
  fuel : Nat

/- Signs with which an operand may start. -/
def operandSigns : List String :=
  ["(", "[", "\x7b", "-", "+", "~", "await", "None", "True",
    "False", "..."]

/- An operand may start with the token. -/
def startsOperand : Token → Bool
  | .name _ => true
  | .int _ => true
  | .float _ => true
  | .imaginary _ => true
  | .string _ => true
  | .symbol sign => operandSigns.contains sign
  | _ => false

/- An operand or an unpacked one may start with the token. -/
def startsTarget (t : Token) : Bool :=
  startsOperand t || t == .symbol "*"

/- A test may start with the token. -/
def startsTest (t : Token) : Bool :=
  startsOperand t || t == .symbol "not"
    || t == .symbol "lambda"

/- A test or an unpacked one may start with the token. -/
def startsElement (t : Token) : Bool :=
  startsTest t || t == .symbol "*"

/- A comprehension may start with the token. -/
def startsComprehension (t : Token) : Bool :=
  t == .symbol "for" || t == .symbol "async"

/- A part of a display with what may go on with it. -/
structure Element where
  value : Expr
  isPlain : Bool

namespace Rules

------------------------------------------------------------
-- Strings
------------------------------------------------------------

/- Adjacent string literals with their starts. -/
def stringRun : Nat → Parse (List (Nat × StringToken))
  | 0 => unexpected
  | fuel + 1 => do
      match ← peek with
      | some (.string s) => do
          let start ← here
          advance
          return (start, s) :: (← stringRun fuel)
      | _ => return []

/- A string from one or several literals. -/
def stringAtom (g : Rules) (follow : Follow) : Parse Expr := do
  let start ← here
  let literals ← stringRun g.fuel
  let range ← rangeFrom start
  match StringValue.ofLiterals g.check literals with
  | .error e => failBefore follow (.string e.fault) e.offset
  | .ok (.text value) => return .literal (.str value) range
  | .ok .bytes => return .literal .bytes range
  | .ok .formatted => return .formatted range

------------------------------------------------------------
-- Operators
------------------------------------------------------------

/- Signs in front of an operand, or a power. -/
def factor (power : Parse Expr) (g : Rules) : Parse Expr := do
  let start ← here
  if ← acceptAny ["-", "+", "~"] then
    let operand ← g.inner .factor
    return .unary operand (← rangeFrom start)
  else power

/- Go on with the operators of one level, left to right. -/
def binaryRest
    (level : List (String × BinaryOp))
    (operand : Parse Expr)
    (start : Nat) : Nat → Expr → Parse Expr
  | 0, _ => unexpected
  | fuel + 1, left => do
      match (← peek).bind (binaryOpOf? level) with
      | none => return left
      | some op => do
          advance
          let right ← operand
          let range ← rangeFrom start
          binaryRest level operand start fuel
            (.binary left op right range)

/- Operands with the operators of some levels. -/
def binaryAt
    (operand : Parse Expr)
    (fuel : Nat) :
    List (List (String × BinaryOp)) → Parse Expr
  | [] => operand
  | level :: levels => do
      let start ← here
      let tighter := binaryAt operand fuel levels
      let left ← tighter
      binaryRest level tighter start fuel left

/- Move behind a comparison if one comes next. -/
def acceptComparison : Parse Bool := do
  match ← peek with
  | some (.symbol "not") => do
      advance
      expect "in"
      return true
  | some (.symbol "is") => do
      advance
      let _ ← accept "not"
      return true
  | some (.symbol sign) =>
      if comparisonSigns.contains sign then
        advance
        return true
      else return false
  | _ => return false

/- The operands behind the first one of a comparison. -/
def comparedRest
    (operand : Parse Expr) : Nat → Parse (List Expr)
  | 0 => unexpected
  | fuel + 1 => do
      if ← acceptComparison then
        let next ← operand
        return next :: (← comparedRest operand fuel)
      else return []

/- A comparison, or an operand alone. -/
def comparison
    (operand : Parse Expr)
    (g : Rules) : Parse Expr := do
  let start ← here
  let left ← operand
  match ← comparedRest operand g.fuel with
  | [] => return left
  | others => return .compare left others (← rangeFrom start)

/- A negation, or a comparison. -/
def notTest
    (operand : Parse Expr)
    (g : Rules) : Parse Expr := do
  let start ← here
  if ← accept "not" then
    let value ← g.inner .notTest
    return .negation value (← rangeFrom start)
  else comparison operand g

/- Operands joined by a word. -/
def joinedRest
    (word : String)
    (operand : Parse Expr) : Nat → Parse (List Expr)
  | 0 => unexpected
  | fuel + 1 => do
      if ← accept word then
        let next ← operand
        return next :: (← joinedRest word operand fuel)
      else return []

/- Tests joined by a word, or a test alone. -/
def joined
    (word : String)
    (operand : Parse Expr)
    (fuel : Nat) : Parse Expr := do
  let start ← here
  let first ← operand
  match ← joinedRest word operand fuel with
  | [] => return first
  | others =>
      return .boolean (first :: others) (← rangeFrom start)

/- A test without a condition. -/
def orTestOf
    (operand : Parse Expr)
    (g : Rules) : Parse Expr :=
  joined "or" (joined "and" (notTest operand g) g.fuel) g.fuel

------------------------------------------------------------
-- Parts of Displays
------------------------------------------------------------

/- An operand that unpacks an iterable. -/
def starredOf (operand : Parse Expr) : Parse Expr := do
  let start ← here
  expect "*"
  let value ← operand
  return .starred value (← rangeFrom start)

/- A test, or a name bound to one. -/
def namedTest (g : Rules) : Parse Expr := do
  match ← peek, ← peekSecond with
  | some (.name id), some (.symbol ":=") => do
      let start ← here
      advance
      let target := Expr.name id (← rangeFrom start)
      advance
      let value ← g.inner .test
      return .named target value (← rangeFrom start)
  | _, _ => g.inner .test

/- A part of a display, and whether it is a mere test. -/
def element
    (operand : Parse Expr)
    (g : Rules) : Parse Element := do
  if ← atSign "*" then
    return ⟨← starredOf operand, false⟩
  else
    let isNamed := (← peekSecond) == some (.symbol ":=")
    return ⟨← namedTest g, !isNamed⟩

/- Conditions of a comprehension. -/
def conditions
    (orTest : Parse Expr) : Nat → Parse Unit
  | 0 => unexpected
  | fuel + 1 => do
      if ← accept "if" then
        let _ ← orTest
        conditions orTest fuel
      else return ()

/- Targets in front of an `in`. -/
def targetList
    (operand : Parse Expr)
    (fuel : Nat) : Parse Expr := do
  let start ← here
  let target : Parse Expr := do
    if ← atSign "*" then starredOf operand else operand
  match ← separated fuel startsTarget target with
  | ([single], false) => return single
  | (items, _) => return .tuple items (← rangeFrom start)

/- One or more loops of a comprehension. -/
def comprehension
    (operand orTest : Parse Expr)
    (bound : Nat) : Nat → Parse Unit
  | 0 => unexpected
  | fuel + 1 => do
      let _ ← accept "async"
      expect "for"
      let _ ← targetList operand bound
      expect "in"
      let _ ← orTest
      conditions orTest bound
      if (← peek).any startsComprehension then
        comprehension operand orTest bound fuel
      else return ()

/- The readers that displays are built from. -/
structure Parts where
  operand : Parse Expr
  orTest : Parse Expr

/- The loops of a comprehension. -/
def loops (g : Rules) (p : Parts) : Parse Unit :=
  comprehension p.operand p.orTest g.fuel g.fuel

/- Elements up to a closing sign, the first one being read. -/
def moreElements
    (g : Rules)
    (p : Parts)
    (first : Element)
    (closing : String) : Parse (List Expr × Bool) := do
  if ← accept "," then
    if (← peek).any startsElement then
      let (rest, trailing) ←
        separated g.fuel startsElement (element p.operand g)
      expect closing
      let items := first.value :: rest.map (·.value)
      return (items, trailing || !rest.isEmpty)
    else
      expect closing
      return ([first.value], true)
  else
    expect closing
    return ([first.value], false)

/- A list, or a comprehension between square brackets. -/
def listDisplay (g : Rules) (p : Parts) : Parse Expr := do
  let start ← here
  expect "["
  if ← accept "]" then return .list [] (← rangeFrom start)
  else
    let first ← element p.operand g
    if (← peek).any startsComprehension then
      loops g p
      expect "]"
      return .closed (← rangeFrom start)
    else
      let (items, _) ← moreElements g p first "]"
      return .list items (← rangeFrom start)

/- An entry of a dictionary; an unpacked mapping has no key. -/
def dictEntry
    (g : Rules)
    (p : Parts) : Parse (Option Expr × Expr) := do
  if ← accept "**" then return (none, ← p.operand)
  else
    let key ← g.inner .test
    expect ":"
    return (some key, ← g.inner .test)

/- A test or two stars may start an entry. -/
def startsEntry (t : Token) : Bool :=
  startsTest t || t == .symbol "**"

/- A dictionary from its entries. -/
def dictOf
    (entries : List (Option Expr × Expr))
    (range : ByteRange) : Expr :=
  .dict (entries.filterMap (·.1)) (entries.map (·.2)) range

/- The entries of a dictionary behind the first one. -/
def dictRest
    (g : Rules)
    (p : Parts)
    (start : Nat)
    (first : Option Expr × Expr) : Parse Expr := do
  if ← accept "," then
    if (← peek).any startsEntry then
      let (rest, _) ←
        separated g.fuel startsEntry (dictEntry g p)
      expect "\x7d"
      return dictOf (first :: rest) (← rangeFrom start)
    else
      expect "\x7d"
      return dictOf [first] (← rangeFrom start)
  else
    expect "\x7d"
    return dictOf [first] (← rangeFrom start)

/- A dictionary, a set, or a comprehension between braces. -/
def braceDisplay (g : Rules) (p : Parts) : Parse Expr := do
  let start ← here
  expect "\x7b"
  if ← accept "\x7d" then
    return .dict [] [] (← rangeFrom start)
  else if ← atSign "**" then
    let first ← dictEntry g p
    dictRest g p start first
  else
    let first ← element p.operand g
    if first.isPlain && (← atSign ":") then
      advance
      let value ← g.inner .test
      if (← peek).any startsComprehension then
        loops g p
        expect "\x7d"
        return .closed (← rangeFrom start)
      else dictRest g p start (some first.value, value)
    else if !first.value.isStarred
        && (← peek).any startsComprehension then
      loops g p
      expect "\x7d"
      return .closed (← rangeFrom start)
    else
      let (items, _) ← moreElements g p first "\x7d"
      return .set items (← rangeFrom start)

/- Tests between commas: one of them, or a tuple. -/
def testListOf
    (g : Rules)
    (operand : Parse Expr) : Parse Element := do
  let start ← here
  let item : Parse Expr := do
    if ← atSign "*" then starredOf operand
    else g.inner .test
  match ← separated g.fuel startsElement item with
  | ([single], false) => return ⟨single, !single.isStarred⟩
  | (items, _) =>
      return ⟨.tuple items (← rangeFrom start), false⟩

/- A `yield` with what it yields. -/
def yieldExpr
    (g : Rules)
    (operand : Parse Expr) : Parse Expr := do
  let start ← here
  expect "yield"
  if ← accept "from" then
    let _ ← g.inner .test
  else if (← peek).any startsElement then
    let _ ← testListOf g operand
  return .closed (← rangeFrom start)

/- What stands between round brackets. -/
def roundDisplay (g : Rules) (p : Parts) : Parse Expr := do
  let start ← here
  expect "("
  if ← accept ")" then return .tuple [] (← rangeFrom start)
  else if ← atSign "yield" then
    let value ← yieldExpr g p.operand
    expect ")"
    return value
  else if ← atSign "**" then
    let offset ← here
    advance
    let _ ← p.operand
    expect ")"
    failBefore (← followOfAtom start) .loneMapping offset
  else
    let first ← element p.operand g
    if !first.value.isStarred
        && (← peek).any startsComprehension then
      loops g p
      expect ")"
      return .closed (← rangeFrom start)
    else
      match ← moreElements g p first ")" with
      | ([single], false) =>
          if single.isStarred then
            failBefore (← followOfAtom start) .loneStarred
              single.range.start
          else return single
      | (items, _) => return .tuple items (← rangeFrom start)

------------------------------------------------------------
-- Calls and Subscripts
------------------------------------------------------------

/- One argument of a call. -/
def argument (g : Rules) (p : Parts) : Parse RawArg := do
  let start ← here
  match ← peek, ← peekSecond with
  | some (.symbol "*"), _ =>
      return .positional (← starredOf (g.inner .test))
  | some (.symbol "**"), _ => do
      advance
      return .keyword start ⟨none, ← g.inner .test⟩
  | some (.name id), some (.symbol "=") => do
      advance
      advance
      return .keyword start ⟨some id, ← g.inner .test⟩
  | _, _ => do
      let value ← namedTest g
      if (← peek).any startsComprehension then
        loops g p
        return .positional (.closed (← rangeFrom start))
      else return .positional value

/- An argument may start with the token. -/
def startsArgument (t : Token) : Bool :=
  startsElement t || t == .symbol "**"

/- The arguments between round brackets. -/
def arguments (g : Rules) (p : Parts) : Parse ArgList := do
  expect "("
  if ← accept ")" then return {}
  else
    let (raw, _) ←
      separated g.fuel startsArgument (argument g p)
    if !(← atSign ")") then unexpected
    let args ← checkArgs raw {}
    advance
    return args

/- What a slice has behind its first colon. -/
def sliceRest (g : Rules) : Parse Unit := do
  expect ":"
  if (← peek).any startsTest then
    let _ ← g.inner .test
  if ← accept ":" then
    if (← peek).any startsTest then
      let _ ← g.inner .test

/- An index or a slice. -/
def index (g : Rules) (p : Parts) : Parse Expr := do
  let start ← here
  if ← atSign ":" then
    sliceRest g
    return .closed (← rangeFrom start)
  else
    let first ← element p.operand g
    if first.isPlain && (← atSign ":") then
      sliceRest g
      return .closed (← rangeFrom start)
    else return first.value

/- An index may start with the token. -/
def startsIndex (t : Token) : Bool :=
  startsElement t || t == .symbol ":"

/- The indices between square brackets. -/
def indices (g : Rules) (p : Parts) : Parse Expr := do
  expect "["
  let start ← here
  match ← separated g.fuel startsIndex (index g p) with
  | ([single], false) => do
      expect "]"
      return single
  | (items, _) => do
      let range ← rangeFrom start
      expect "]"
      return .tuple items range

------------------------------------------------------------
-- Primaries
------------------------------------------------------------

/- The constants that are written as words or dots. -/
def constant? : Token → Option Literal
  | .symbol "None" => some .none
  | .symbol "True" => some (.bool true)
  | .symbol "False" => some (.bool false)
  | .symbol "..." => some .ellipsis
  | .int _ => some .int
  | .float _ => some .float
  | .imaginary _ => some .imaginary
  | _ => none

/- An expression that no operator holds together. -/
def atom (g : Rules) (p : Parts) : Parse Expr := do
  let start ← here
  match ← peek with
  | none => unexpected
  | some (.name id) => do
      advance
      return .name id (← rangeFrom start)
  | some (.string _) => stringAtom g (← followOfAtom start)
  | some (.symbol "(") => roundDisplay g p
  | some (.symbol "[") => listDisplay g p
  | some (.symbol "\x7b") => braceDisplay g p
  | some token =>
      match constant? token with
      | some value => do
          advance
          return .literal value (← rangeFrom start)
      | none => unexpected

/- Members, calls and subscripts of an expression. -/
def trailers
    (g : Rules)
    (p : Parts)
    (start : Nat) : Nat → Expr → Parse Expr
  | 0, _ => unexpected
  | fuel + 1, value => do
      match ← peek with
      | some (.symbol "(") => do
          let args ← arguments g p
          let range ← rangeFrom start
          trailers g p start fuel
            (.call value args.args args.keywords range)
      | some (.symbol "[") => do
          let item ← indices g p
          let range ← rangeFrom start
          trailers g p start fuel
            (.subscript value item range)
      | some (.symbol ".") => do
          advance
          let name ← identifier
          let range ← rangeFrom start
          trailers g p start fuel (.member value name range)
      | _ => return value

/- An atom with its trailers, perhaps awaited. -/
def primary (g : Rules) (p : Parts) : Parse Expr := do
  let start ← here
  let awaited ← accept "await"
  let from_ ← here
  let value ← trailers g p from_ g.fuel (← atom g p)
  if awaited then
    return .await value (← rangeFrom start)
  else return value

/- A primary, perhaps raised to a power. -/
def power (g : Rules) (p : Parts) : Parse Expr := do
  let start ← here
  let base ← primary g p
  if ← accept "**" then
    let exponent ← g.inner .factor
    return .binary base .pow exponent (← rangeFrom start)
  else return base

/-
  Operands and tests inside the brackets of an atom, read
  with the inner readers.
-/
def innerParts (g : Rules) : Parts :=
  let operand :=
    binaryAt (g.inner .factor) g.fuel binaryLevels
  let notTest : Parse Expr := do
    if ← atSign "not" then g.inner .notTest
    else comparison operand g
  ⟨operand,
    joined "or" (joined "and" notTest g.fuel) g.fuel⟩

/- A factor of a product. -/
def factorExpr (g : Rules) : Parse Expr :=
  factor (power g (innerParts g)) g

/- Operands with operators between them. -/
def operand (g : Rules) : Parse Expr :=
  binaryAt (factorExpr g) g.fuel binaryLevels

/- A test without a condition. -/
def orTest (g : Rules) : Parse Expr :=
  orTestOf (operand g) g

------------------------------------------------------------
-- Tests
------------------------------------------------------------

/- A parameter that has a name alone. -/
def bareParam : Parse ParamDef := do
  let start ← here
  let name ← identifier
  return { name := name, range := ← rangeFrom start }

/- A parameter with a default, if an equals sign follows. -/
def withDefault
    (g : Rules)
    (p : Parse ParamDef) : Parse ParamDef := do
  let param ← p
  if ← accept "=" then
    let _ ← g.inner .test
    return { param with hasDefault := true }
  else return param

/- A lambda. -/
def lambda (g : Rules) : Parse Expr := do
  let start ← here
  expect "lambda"
  let readers : ParamReaders :=
    ⟨withDefault g bareParam, bareParam, bareParam⟩
  let params ← parameterList readers ":" g.fuel
  expect ":"
  let body ← g.inner .test
  checkParamNames .test params
  return .lambda
    (params.positional.map fun p => (p.name, p.hasDefault))
    body (← rangeFrom start)

/- A test, perhaps with a condition. -/
def test (g : Rules) : Parse Expr := do
  if ← atSign "lambda" then lambda g
  else
    let start ← here
    let body ← orTest g
    if ← accept "if" then
      let condition ← orTest g
      expect "else"
      let orelse ← g.inner .test
      return .conditional condition body orelse
        (← rangeFrom start)
    else return body

/- The reader of each kind of inner expression. -/
def goal (g : Rules) : Goal → Parse Expr
  | .test => test g
  | .notTest => notTest (operand g) g
  | .factor => factorExpr g

/- Tests between commas, and whether it is a mere test. -/
def testList (g : Rules) : Parse Element :=
  testListOf g (operand g)

/- What may stand behind an equals sign. -/
def assigned (g : Rules) : Parse Expr := do
  if ← atSign "yield" then yieldExpr g (operand g)
  else return (← testList g).value

end Rules

------------------------------------------------------------
-- Nesting
------------------------------------------------------------

/- Expressions nested at most so many times. -/
def exprAt
    (check : Format.ExprCheck) :
    Nat → Goal → Parse Expr
  | 0, _ => unexpected
  | depth + 1, goal =>
      Rules.goal ⟨exprAt check depth, check, depth⟩ goal

/- The rules for expressions in a text of so many tokens. -/
def rulesFor
    (check : Format.ExprCheck)
    (size : Nat) : Rules :=
  ⟨exprAt check (size + 2), check, size + 2⟩

end SigCheck
