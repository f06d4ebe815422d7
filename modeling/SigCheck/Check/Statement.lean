import SigCheck.Check.Class

/-
  Statements, blocks and whole texts. A text that cannot be
  read gives one diagnostic at the place where reading
  stopped.

  Key definitions include:
    * `Check.declareSpec`, `Check.declareTypeVar`
    * `ImportAlias.symbol`
    * `Stmt.check`
    * `Check.source`
    * `CheckState.ofSource`
    * `CheckState.typeOf?`
-/

namespace SigCheck

------------------------------------------------------------
-- Assignments
------------------------------------------------------------

namespace Check

/- The call that is assigned, as a declaration. -/
def declarationOf
    (targets : List Expr)
    (call : CallExpr) : Check Declaration := do
  let env ← read
  return ⟨← names, env.index, targets, call,
    env.config.requireMatchingName⟩

/- Declare a parameter specification. -/
def declareSpec
    (targets : List Expr)
    (call : CallExpr) : Check Unit := do
  let d ← declarationOf targets call
  reportAll d.specErrors
  if let some decl := d.specDecl then
    define decl.name (.paramSpec decl)

/- Declare a type variable. -/
def declareTypeVar
    (targets : List Expr)
    (call : CallExpr) : Check Unit := do
  let d ← declarationOf targets call
  if let some decl := d.typeVarDecl then
    define decl.name (.typeVar decl)

/- The values of an assignment are bound to its targets. -/
def bindAll : List Expr → Ty → Check Unit
  | [], _ => return ()
  | target :: targets, ty => do
      bindTarget target ty
      bindAll targets ty

end Check

/- The parts of an expression that packs several values. -/
def Expr.packed : Expr → List Expr
  | .tuple items _ => items
  | .list items _ => items
  | _ => []

mutual

/- The declarations inside an expression that packs values. -/
def Expr.packedSpecs (names : NameEnv) : Expr → List ByteRange
  | .call callee _ _ range =>
      if (names.meaningOf callee.path?).isForm .paramSpec then
        [range]
      else []
  | .tuple items _ => Expr.packedSpecsIn names items
  | .list items _ => Expr.packedSpecsIn names items
  | _ => []

/- The declarations inside expressions. -/
def Expr.packedSpecsIn
    (names : NameEnv) : List Expr → List ByteRange
  | [] => []
  | e :: es =>
      e.packedSpecs names ++ Expr.packedSpecsIn names es

end

namespace Check

/- Report declarations that are packed with other values. -/
def rejectPacked (value : Expr) : Check Unit := do
  let names ← names
  let index := (← read).index
  let ranges := value.packed.flatMap (·.packedSpecs names)
  reportAll
    (ranges.map fun range =>
      { cause :=
          .invalidDeclaration
            ("a ParamSpec must be assigned to a single "
              ++ "plain name")
        location := index.location range })

/- Bind the value of an expression to targets. -/
def assignValue
    (targets : List Expr)
    (value : Expr) : Check Unit := do
  rejectPacked value
  bindAll targets (← value.infer)

/- An assignment, which may declare a variable. -/
def assign
    (targets : List Expr)
    (value : Expr) : Check Unit := do
  match value.call? with
  | none => assignValue targets value
  | some call =>
      match (← meaning call.callee).special? with
      | some .paramSpec => declareSpec targets call
      | some .typeVar => declareTypeVar targets call
      | _ => assignValue targets value

/- A declaration of the type of a target. -/
def annotated
    (target typeExpr : Expr)
    (value : Option Expr) : Check Unit := do
  validate .variable typeExpr
  let declared ← resolve typeExpr
  if let some value := value then value.visit
  if (← get).inClassBody then
    if let some id := target.name? then
      modify fun s =>
        s.updateClass (ClassInfo.setMember id declared)
  bindTarget target declared

------------------------------------------------------------
-- Other Statements
------------------------------------------------------------

/- Report a result that does not have the declared type. -/
def checkReturn
    (found : Ty)
    (range : ByteRange) : Check Unit := do
  if (← read).config.checkReturnTypes then
    if let some expected := (← get).expectedReturn then
      if !found.isSubtype expected then
        reportAt
          (.invalidReturnType expected.text found.text)
          (← locate range)

/- A `return` with what it returns. -/
def ret
    (value : Option Expr)
    (range : ByteRange) : Check Unit := do
  match value with
  | some value => do
      let found ← value.infer
      checkReturn found value.range
  | none => checkReturn .noneType range

end Check

------------------------------------------------------------
-- Imports
------------------------------------------------------------

namespace ImportAlias

/- The modules with the typing vocabulary. -/
def isTyping (module : String) : Bool :=
  module == "typing" || module == "typing_extensions"

/- What an imported module stands for. -/
def moduleSymbol (module : String) : Symbol :=
  if isTyping module then .special .typingModule
  else if module == "functools" then
    .special .functoolsModule
  else .value .any

/- The name that an imported module gets. -/
def moduleName (a : ImportAlias) : String :=
  match a.alias? with
  | some name => name
  | none =>
      String.ofList (a.name.toList.takeWhile (· != '.'))

/- The special form that a module has under a name. -/
def form? (module name : String) : Option SpecialForm :=
  if isTyping module then SpecialForm.ofTyping? name
  else if module == "collections.abc"
      && name == "Callable" then some .callable
  else if module == "functools" then
    SpecialForm.ofFunctools? name
  else none

/- What a name imported from a module stands for. -/
def symbol (module : String) (a : ImportAlias) : Symbol :=
  match form? module a.name with
  | some form => .special form
  | none => .value .any

end ImportAlias

namespace Check

/- Define imported modules. -/
def importModules : List ImportAlias → Check Unit
  | [] => return ()
  | a :: rest => do
      define a.moduleName (ImportAlias.moduleSymbol a.name)
      importModules rest

/- Define names imported from a module. -/
def importNames
    (module : String) : List ImportAlias → Check Unit
  | [] => return ()
  | a :: rest => do
      if a.name != "*" then
        define (a.alias?.getD a.name) (a.symbol module)
      importNames module rest

/- The head of a loop over a value. -/
def loopHead
    (isAsync : Bool)
    (target iter : Expr) : Check Unit := do
  let ty ← iter.infer
  bindTarget target (if isAsync then .any else ty.element)

/- The items of a `with` statement. -/
def withItems : List WithItem → Check Unit
  | [] => return ()
  | item :: rest => do
      item.context.visit
      if let some target := item.target then
        bindTarget target .any
      withItems rest

/- Look at an expression that may be missing. -/
def visitOption : Option Expr → Check Unit
  | some e => e.visit
  | none => return ()

end Check

------------------------------------------------------------
-- Statements
------------------------------------------------------------

mutual

/- Check a statement. -/
def Stmt.check : Stmt → Check Unit
  | .function head body =>
      Check.function head (Stmt.checkAll body)
  | .cls head body => Check.cls head (Stmt.checkAll body)
  | .assign targets value => Check.assign targets value
  | .annotated target typeExpr value =>
      Check.annotated target typeExpr value
  | .augmented value => value.visit
  | .ret value range => Check.ret value range
  | .expr value => value.visit
  | .importModules names => Check.importModules names
  | .importNames module names =>
      Check.importNames module names
  | .branch test body orelse => do
      test.visit
      Stmt.checkAll body
      Stmt.checkAll orelse
  | .whileLoop test body orelse => do
      test.visit
      Stmt.checkAll body
      Stmt.checkAll orelse
  | .forLoop isAsync target iter body orelse => do
      Check.loopHead isAsync target iter
      Stmt.checkAll body
      Stmt.checkAll orelse
  | .withBlock items body => do
      Check.withItems items
      Stmt.checkAll body
  | .tryBlock body handlers orelse finalbody => do
      Stmt.checkAll body
      Handler.checkAll handlers
      Stmt.checkAll orelse
      Stmt.checkAll finalbody
  | .raise exc => Check.visitOption exc
  | .assert test => test.visit
  | .inert => return ()

/- Check statements in order. -/
def Stmt.checkAll : List Stmt → Check Unit
  | [] => return ()
  | s :: rest => do
      s.check
      Stmt.checkAll rest

/- Check the handlers of a `try` statement. -/
def Handler.checkAll : List Handler → Check Unit
  | [] => return ()
  | ⟨name, body⟩ :: rest => do
      if let some name := name then
        Check.define name (.value .any)
      Stmt.checkAll body
      Handler.checkAll rest

end

------------------------------------------------------------
-- Texts
------------------------------------------------------------

namespace Check

/- Report a text that cannot be read. -/
def unreadable (fault : ParseError) : Check Unit := do
  let position := (← read).index.position fault.offset
  reportAt (.syntaxError fault.message)
    (.between position position)

/- Read a text and check it. -/
def source (text : String) : Check Unit := do
  match parseModule text with
  | .error fault => unreadable fault
  | .ok body =>
      if (← read).config.enabled then Stmt.checkAll body

end Check

namespace CheckState

/- The state after a step. -/
def after
    (s : CheckState)
    (env : CheckEnv)
    (step : Check Unit) : CheckState :=
  ((step.run env).run s).2

/- The state after one text is checked. -/
def ofSource (env : CheckEnv) (text : String) : CheckState :=
  after (start env) env (Check.source text)

/- The type of a name at module level. -/
def typeOf? (s : CheckState) (name : String) : Option Ty :=
  match s.globals.find? name with
  | some (.value ty) => some ty
  | some (.cls info) => some info.ctorType
  | _ => none

end CheckState

end SigCheck
