import SigCheck.Grammar.Pattern

/-
  Statements. The rules for compound statements are given
  over a reader of the blocks inside them; `statementAt`
  closes the circle with a bound on the nesting.

  Key definitions include:
    * `Rules.smallStatement`, `Rules.simpleLine`
    * `blockOf`
    * `Rules.function`, `Rules.classDef`
    * `Rules.compound`
    * `statementAt`
-/

namespace SigCheck

open Parse

namespace Rules

/- A test that is not bound to a name. -/
def plainTest (g : Rules) : Parse Expr :=
  g.inner .test

------------------------------------------------------------
-- Assignments
------------------------------------------------------------

/- What stands behind equals signs. -/
def assignedRest (g : Rules) : Nat → Parse (List Expr)
  | 0 => unexpected
  | fuel + 1 => do
      if ← accept "=" then
        let next ← g.assigned
        return next :: (← assignedRest g fuel)
      else return []

/- A chain of assignments; the last part is the value. -/
def assignment (first : Expr) : List Expr → Stmt
  | [] => .expr first
  | next :: rest =>
      let parts := first :: next :: rest
      .assign parts.dropLast (rest.getLast?.getD next)

/- An expression, an assignment or a declaration. -/
def expressionStatement (g : Rules) : Parse Stmt := do
  let first ← g.testList
  if first.isPlain && (← atSign ":") then
    advance
    let typeExpr ← g.plainTest
    if ← accept "=" then
      return .annotated first.value typeExpr
        (some (← g.assigned))
    else return .annotated first.value typeExpr none
  else if (← peek).any isAugmented then
    advance
    return .augmented (← g.assigned)
  else
    return assignment first.value (← assignedRest g g.fuel)

------------------------------------------------------------
-- Imports
------------------------------------------------------------

/- The names behind the dots of a name. -/
def dottedRest : Nat → Parse (List String)
  | 0 => unexpected
  | fuel + 1 => do
      if ← accept "." then
        let next ← identifier
        return next :: (← dottedRest fuel)
      else return []

/- Names with dots between them. -/
def dottedName (g : Rules) : Parse String := do
  let first ← identifier
  let rest ← dottedRest g.fuel
  return String.intercalate "." (first :: rest)

/- A name with the name that it gets. -/
def importAlias (name : Parse String) : Parse ImportAlias := do
  let name ← name
  if ← accept "as" then return ⟨name, some (← identifier)⟩
  else return ⟨name, none⟩

/- Modules to import. -/
def importModules (g : Rules) : Parse Stmt := do
  expect "import"
  let names ← sequence (importAlias g.dottedName) g.fuel
  return .importModules names

/- Dots in front of a module, and whether there are any. -/
def leadingDots : Nat → Parse Bool
  | 0 => unexpected
  | fuel + 1 => do
      if ← acceptAny [".", "..."] then
        let _ ← leadingDots fuel
        return true
      else return false

/- The token is a name. -/
def isName : Token → Bool
  | .name _ => true
  | _ => false

/- The names to import from a module. -/
def importedNames (g : Rules) : Parse (List ImportAlias) := do
  if ← accept "*" then return [⟨"*", none⟩]
  else if ← accept "(" then
    let (names, _) ←
      separated g.fuel isName (importAlias identifier)
    expect ")"
    return names
  else sequence (importAlias identifier) g.fuel

/- Names to import from a module. -/
def importNames (g : Rules) : Parse Stmt := do
  expect "from"
  let relative ← leadingDots g.fuel
  let module ←
    if relative && (← atSign "import") then pure ""
    else g.dottedName
  expect "import"
  return .importNames module (← g.importedNames)

------------------------------------------------------------
-- Small Statements
------------------------------------------------------------

/- A `return` with its value. -/
def returnStatement (g : Rules) : Parse Stmt := do
  let start ← here
  expect "return"
  if (← peek).any startsElement then
    let value ← g.testList
    return .ret (some value.value) (← rangeFrom start)
  else return .ret none (← rangeFrom start)

/- A `raise` with what is raised. -/
def raiseStatement (g : Rules) : Parse Stmt := do
  expect "raise"
  if (← peek).any startsTest then
    let exc ← g.plainTest
    if ← accept "from" then
      let _ ← g.plainTest
    return .raise (some exc)
  else return .raise none

/- An assertion, perhaps with a message. -/
def assertStatement (g : Rules) : Parse Stmt := do
  expect "assert"
  let test ← g.plainTest
  if ← accept "," then
    let _ ← g.plainTest
  return .assert test

/- A type parameter, perhaps with a bound. -/
def typeParam (g : Rules) : Parse Unit := do
  if ← acceptAny ["*", "**"] then
    let _ ← identifier
    return ()
  else
    let _ ← identifier
    if ← accept ":" then
      let _ ← g.plainTest

/- A type parameter may start with the token. -/
def startsTypeParam (t : Token) : Bool :=
  isName t || t == .symbol "*" || t == .symbol "**"

/- The type parameters of a definition, if there are any. -/
def typeParams (g : Rules) : Parse Unit := do
  if ← accept "[" then
    let _ ← separated g.fuel startsTypeParam g.typeParam
    expect "]"

/- A name for a type. -/
def typeAlias (g : Rules) : Parse Stmt := do
  expect "type"
  let _ ← identifier
  g.typeParams
  expect "="
  let _ ← g.plainTest
  return .inert

/- The words of statements that have nothing behind them. -/
def loneWords : List String :=
  ["pass", "break", "continue"]

/- A statement that fits on a line. -/
def smallStatement (g : Rules) : Parse Stmt := do
  match ← peek with
  | some (.symbol "return") => g.returnStatement
  | some (.symbol "raise") => g.raiseStatement
  | some (.symbol "assert") => g.assertStatement
  | some (.symbol "import") => g.importModules
  | some (.symbol "from") => g.importNames
  | some (.symbol "type") => g.typeAlias
  | some (.symbol "yield") =>
      return .expr (← yieldExpr g g.operand)
  | some (.symbol "del") => do
      advance
      let _ ← targetList g.operand g.fuel
      return .inert
  | some (.symbol sign) => do
      if loneWords.contains sign then
        advance
        return .inert
      else if sign == "global" || sign == "nonlocal" then
        advance
        let _ ← sequence identifier g.fuel
        return .inert
      else g.expressionStatement
  | _ => g.expressionStatement

/- Small statements up to the end of the line. -/
def smallRest (g : Rules) : Nat → Parse (List Stmt)
  | 0 => unexpected
  | fuel + 1 => do
      let first ← g.smallStatement
      if ← accept ";" then
        if ← acceptToken .newline then return [first]
        else return first :: (← smallRest g fuel)
      else
        expectToken .newline
        return [first]

/- A line of small statements. -/
def simpleLine (g : Rules) : Parse (List Stmt) :=
  smallRest g g.fuel

end Rules

------------------------------------------------------------
-- Blocks
------------------------------------------------------------

/- Lines up to the end of their block. -/
def blockLines
    (line : Parse (List Stmt)) : Nat → Parse (List Stmt)
  | 0 => unexpected
  | fuel + 1 => do
      let first ← line
      if ← acceptToken .dedent then return first
      else return first ++ (← blockLines line fuel)

/- The indent that a block needs. -/
def openBlock : Parse Unit := do
  if !(← acceptToken .indent) then unexpectedBlock

/- A block, or the rest of the line, behind a colon. -/
def blockOf
    (g : Rules)
    (line : Parse (List Stmt)) : Parse (List Stmt) := do
  expect ":"
  if ← acceptToken .newline then
    openBlock
    blockLines line g.fuel
  else g.simpleLine

------------------------------------------------------------
-- Compound Statements
------------------------------------------------------------

namespace Rules

/- A block behind a word, or nothing. -/
def optionalBlock
    (word : String)
    (block : Parse (List Stmt)) : Parse (List Stmt) := do
  if ← accept word then block else return []

/- Further branches of an `if`. -/
def branchRest
    (g : Rules)
    (block : Parse (List Stmt)) : Nat → Parse (List Stmt)
  | 0 => unexpected
  | fuel + 1 => do
      if ← accept "elif" then
        let test ← g.namedTest
        let body ← block
        return [.branch test body (← branchRest g block fuel)]
      else optionalBlock "else" block

/- An `if` with its branches. -/
def branch
    (g : Rules)
    (block : Parse (List Stmt)) : Parse Stmt := do
  expect "if"
  let test ← g.namedTest
  let body ← block
  return .branch test body (← branchRest g block g.fuel)

/- A `while` loop. -/
def whileLoop
    (g : Rules)
    (block : Parse (List Stmt)) : Parse Stmt := do
  expect "while"
  let test ← g.namedTest
  let body ← block
  return .whileLoop test body (← optionalBlock "else" block)

/- A `for` loop. -/
def forLoop
    (g : Rules)
    (block : Parse (List Stmt))
    (isAsync : Bool) : Parse Stmt := do
  expect "for"
  let target ← targetList g.operand g.fuel
  expect "in"
  let iter ← g.testList
  let body ← block
  return .forLoop isAsync target iter.value body
    (← optionalBlock "else" block)

/- An item of a `with` statement. -/
def withItem (g : Rules) : Parse WithItem := do
  let context ← g.plainTest
  if ← accept "as" then
    return ⟨context, some (← g.operand)⟩
  else return ⟨context, none⟩

/- Items between round brackets. -/
def bracketedItems (g : Rules) : Parse (List WithItem) := do
  expect "("
  let (items, _) ← separated g.fuel startsTest g.withItem
  expect ")"
  return items

/-
  The items of a `with` statement up to its colon. Round
  brackets belong to the list of items where that works out.
-/
def withItems (g : Rules) : Parse (List WithItem) := do
  startItems
  let upToColon := fun (items : Parse (List WithItem)) => do
    let found ← items
    if !(← atSign ":") then unexpected
    return found
  let plain := upToColon (sequence g.withItem g.fuel)
  if ← atSign "(" then
    orElseFurther (upToColon g.bracketedItems) plain
  else plain

/- A `with` statement. -/
def withBlock
    (g : Rules)
    (block : Parse (List Stmt)) : Parse Stmt := do
  expect "with"
  let items ← g.withItems
  return .withBlock items (← block)

/- A handler that catches what a test tells. -/
def handler
    (g : Rules)
    (block : Parse (List Stmt))
    (isGroup : Bool) : Parse Handler := do
  expect "except"
  if isGroup then expect "*"
  if isGroup || (← peek).any startsTest then
    let _ ← g.plainTest
    if ← accept "as" then
      return ⟨some (← identifier), ← block⟩
    else return ⟨none, ← block⟩
  else return ⟨none, ← block⟩

/- The token starts a handler. -/
def startsHandler (t : Token) : Bool :=
  t == .symbol "except"

/-
  A `try` statement with handlers or a last block. One with
  handlers of groups shows nothing of its blocks.
-/
def tryBlock
    (g : Rules)
    (block : Parse (List Stmt)) : Parse Stmt := do
  expect "try"
  let body ← block
  if ← atSign "except" then
    let isGroup := (← peekSecond) == some (.symbol "*")
    let handlers ←
      many startsHandler (g.handler block isGroup) g.fuel
    let orelse ← optionalBlock "else" block
    let finalbody ← optionalBlock "finally" block
    if isGroup then return .inert
    else return .tryBlock body handlers orelse finalbody
  else
    expect "finally"
    return .tryBlock body [] [] (← block)

/- A parameter with its annotation. -/
def annotatedParam
    (reader : Parse Expr) : Parse ParamDef := do
  let start ← here
  let name ← identifier
  let typeExpr ←
    if ← accept ":" then some <$> reader else pure none
  return ⟨name, typeExpr, false, ← rangeFrom start⟩

/- What may stand behind the colon of a star parameter. -/
def starTest (g : Rules) : Parse Expr := do
  if ← atSign "*" then starredOf g.operand else g.plainTest

/- A function. -/
def function
    (g : Rules)
    (block : Parse (List Stmt))
    (decorators : List Expr)
    (isAsync : Bool) : Parse Stmt := do
  expect "def"
  let name ← identifier
  g.typeParams
  expect "("
  let plain := annotatedParam g.plainTest
  let readers : ParamReaders :=
    ⟨withDefault g plain, annotatedParam g.starTest, plain⟩
  let params ← parameterList readers ")" g.fuel
  expect ")"
  checkParamNames .parameters params
  let returns ←
    if ← accept "->" then some <$> g.plainTest
    else pure none
  let head : FunctionHead :=
    ⟨name, params, decorators, returns, isAsync⟩
  return .function head (← block)

/- A class. -/
def classDef
    (g : Rules)
    (block : Parse (List Stmt))
    (decorators : List Expr) : Parse Stmt := do
  expect "class"
  let name ← identifier
  g.typeParams
  let args ←
    if ← atSign "(" then arguments g g.innerParts
    else pure {}
  let head : ClassHead :=
    ⟨name, args.args, args.keywords, decorators⟩
  return .cls head (← block)

/- One decorator with the end of its line. -/
def decorator (g : Rules) : Parse Expr := do
  expect "@"
  let value ← g.namedTest
  expectToken .newline
  return value

/- The token starts a decorator. -/
def startsDecorator (t : Token) : Bool :=
  t == .symbol "@"

/- A definition behind its decorators. -/
def definition
    (g : Rules)
    (block : Parse (List Stmt)) : Parse Stmt := do
  let decorators ← many startsDecorator g.decorator g.fuel
  if ← atSign "class" then g.classDef block decorators
  else
    let isAsync ← accept "async"
    g.function block decorators isAsync

/- One case of a `match` statement. -/
def matchCase
    (g : Rules)
    (block : Parse (List Stmt)) : Parse (List Stmt) := do
  expect "case"
  Pattern.caseList g
  if ← accept "if" then
    let _ ← g.namedTest
  let _ ← block
  return []

/- A `match` statement. Nothing in it is looked at. -/
def matchBlock
    (g : Rules)
    (block : Parse (List Stmt)) : Parse Stmt := do
  expect "match"
  let _ ←
    separated g.fuel startsElement (element g.operand g)
  expect ":"
  expectToken .newline
  openBlock
  let _ ← blockLines (g.matchCase block) g.fuel
  return .inert

/- A statement that starts with `async`. -/
def asyncStatement
    (g : Rules)
    (block : Parse (List Stmt)) : Parse Stmt := do
  expect "async"
  if ← atSign "for" then g.forLoop block true
  else if ← atSign "with" then g.withBlock block
  else g.function block [] true

/- A compound statement, if one comes next. -/
def compound
    (g : Rules)
    (block : Parse (List Stmt)) : Parse (Option Stmt) := do
  match ← peek with
  | some (.symbol "if") => some <$> g.branch block
  | some (.symbol "while") => some <$> g.whileLoop block
  | some (.symbol "for") => some <$> g.forLoop block false
  | some (.symbol "with") => some <$> g.withBlock block
  | some (.symbol "try") => some <$> g.tryBlock block
  | some (.symbol "def") => some <$> g.definition block
  | some (.symbol "class") => some <$> g.definition block
  | some (.symbol "@") => some <$> g.definition block
  | some (.symbol "async") => some <$> g.asyncStatement block
  | some (.symbol "match") => some <$> g.matchBlock block
  | _ => return none

end Rules

------------------------------------------------------------
-- Nesting
------------------------------------------------------------

/- A line with the blocks below it, nested so many times. -/
def statementAt (g : Rules) : Nat → Parse (List Stmt)
  | 0 => unexpected
  | depth + 1 => do
      match ← g.compound (blockOf g (statementAt g depth)) with
      | some statement => return [statement]
      | none => g.simpleLine

end SigCheck
