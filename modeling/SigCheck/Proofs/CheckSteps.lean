import SigCheck.Check.Statement

/-
  What checking is made of. Every check is a sequence of a
  few steps, and whether a class body is open around it says
  which of them it may take.

  Key definitions include:
    * `CheckState.takeAll`
    * `Check.exec`
    * `Check.Made`

  Correctness is proven by:
    * `Expr.infer_made`
    * `Stmt.checkAll_made`
    * `Check.made_source`
-/

namespace SigCheck

------------------------------------------------------------
-- Reports
------------------------------------------------------------

namespace CheckState

/- Take in several diagnostics in order. -/
def takeAll
    (s : CheckState)
    (ds : List Diagnostic) : CheckState :=
  { s with
    found := s.found ++ ds.toArray
    log := s.log.addAll ds }

theorem found_takeAll
    (s : CheckState)
    (ds : List Diagnostic) :
    (s.takeAll ds).found = s.found ++ ds.toArray :=
  rfl

@[simp]
theorem takeAll_nil (s : CheckState) : s.takeAll [] = s := by
  simp [takeAll, ErrorLog.addAll]

@[simp]
theorem takeAll_take
    (s : CheckState)
    (d : Diagnostic)
    (ds : List Diagnostic) :
    (s.take d).takeAll ds = s.takeAll (d :: ds) := by
  simp [takeAll, take, ErrorLog.addAll]

end CheckState

------------------------------------------------------------
-- Running Steps
------------------------------------------------------------

namespace Check

variable {α β : Type}

/- The result of a step, and the state that it leads to. -/
def exec
    (step : Check α)
    (env : CheckEnv)
    (s : CheckState) : α × CheckState :=
  (step.run env).run s

section Equations

variable (env : CheckEnv) (s : CheckState)

@[simp]
theorem exec_pure (a : α) :
    exec (pure a) env s = (a, s) :=
  rfl

@[simp]
theorem exec_bind
    (step : Check α)
    (next : α → Check β) :
    exec (step >>= next) env s =
      exec (next (step.exec env s).1) env
        (step.exec env s).2 :=
  rfl

/- What a step gives is handed to the next one. -/
theorem exec_bind_of_eq
    {env : CheckEnv} {s t : CheckState}
    {step : Check α} {next : α → Check β} {a : α}
    (h : step.exec env s = (a, t)) :
    exec (step >>= next) env s = exec (next a) env t := by
  rw [exec_bind, h]

@[simp]
theorem exec_get : exec get env s = (s, s) :=
  rfl

@[simp]
theorem exec_map (f : α → β) (step : Check α) :
    exec (f <$> step) env s =
      (f (step.exec env s).1, (step.exec env s).2) :=
  rfl

@[simp]
theorem exec_read : exec read env s = (env, s) :=
  rfl

@[simp]
theorem exec_modify (f : CheckState → CheckState) :
    exec (modify f) env s = ((), f s) :=
  rfl

@[simp]
theorem exec_report (d : Diagnostic) :
    (report d).exec env s =
      ((), s.take (d.inFile env.file)) :=
  rfl

/- Reports are added in order, with the name of the file. -/
theorem exec_reportAll (ds : List Diagnostic) :
    (reportAll ds).exec env s =
      ((), s.takeAll (ds.map (·.inFile env.file))) := by
  induction ds generalizing s with
  | nil => simp [reportAll]
  | cons d ds ih => simp [reportAll, ih]

/- The decorators tell whether a method is static. -/
theorem exec_isStatic (ds : List Expr) :
    (isStatic ds).exec env s =
      (ds.any fun d =>
        (s.names.meaningOf d.path?).isForm .staticMethod,
        s) := by
  induction ds with
  | nil => rfl
  | cons d ds ih =>
      unfold isStatic
      simp only [meaning, names, exec_bind, exec_get,
        exec_pure, List.any_cons]
      by_cases hForm :
          (s.names.meaningOf d.path?).isForm .staticMethod
            = true
      · simp [hForm]
      · simp [ih, hForm]

end Equations

end Check

------------------------------------------------------------
-- Steps
------------------------------------------------------------

/- The state with other diagnostics found so far. -/
def CheckState.withFound
    (s : CheckState)
    (found : Array Diagnostic)
    (log : ErrorLog) : CheckState :=
  { s with found := found, log := log }

/- The surroundings with another bound on what is kept. -/
def CheckEnv.withMaxErrors
    (env : CheckEnv)
    (count : Nat) : CheckEnv :=
  { env with maxErrors := count }

/-
  The step is made of the ones listed here. The first flag
  tells whether the step is taken directly inside a class
  body, the second one whether scopes that hold variables
  rigid may be opened. What comes behind a look at the
  surroundings or the state must not depend on the bound on
  diagnostics or on those that were found so far.
-/
inductive Check.Made :
    Bool → Bool → {α : Type} → Check α → Prop where
  | pure {inClass binds : Bool} {α : Type} (a : α) :
      Made inClass binds (pure a : Check α)
  | bind {inClass binds : Bool} {α β : Type}
      {step : Check α} {next : α → Check β}
      (hStep : Made inClass binds step)
      (hNext : ∀ a, Made inClass binds (next a)) :
      Made inClass binds (step >>= next)
  | read {inClass binds : Bool} {α : Type}
      {next : CheckEnv → Check α}
      (hBlind : ∀ env count,
        next (env.withMaxErrors count) = next env)
      (hNext : ∀ env, Made inClass binds (next env)) :
      Made inClass binds (read >>= next)
  | look {inClass binds : Bool} {α : Type}
      {next : CheckState → Check α}
      (hBlind : ∀ s found log,
        next (s.withFound found log) = next s)
      (hNext : ∀ s, s.inClassBody = inClass →
        Made inClass binds (next s)) :
      Made inClass binds (get >>= next)
  | define {inClass binds : Bool}
      (name : String) (symbol : Symbol) :
      Made inClass binds (define name symbol)
  | report {inClass binds : Bool} (d : Diagnostic) :
      Made inClass binds (report d)
  | instantiate {inClass binds : Bool}
      (ty : Ty) (definedIn : List Scope) :
      Made inClass binds (instantiate ty definedIn)
  | updateClass {binds : Bool} (f : ClassInfo → ClassInfo) :
      Made true binds (modify fun s => s.updateClass f)
  | inScope {inClass binds : Bool} {α : Type}
      {step : Check α}
      (scope : Scope)
      (hKind : scope.kind ≠ .cls)
      (hRigid : binds = false → scope.rigid = {})
      (hStep : Made false binds step) :
      Made inClass binds (inScope scope step)
  | classBody {inClass : Bool} {body : Check Unit}
      (info : ClassInfo)
      (hBody : Made true true body) :
      Made inClass true (classBody info body)

namespace Check

variable {inClass binds : Bool}

/- Reports are made of single ones. -/
theorem made_reportAll (ds : List Diagnostic) :
    Made inClass binds (reportAll ds) := by
  induction ds with
  | nil => exact .pure ()
  | cons d ds ih =>
      unfold reportAll
      exact (Made.report d).bind fun _ => ih

------------------------------------------------------------
-- Expressions
------------------------------------------------------------

/- Looking at the names that are visible. -/
theorem made_names : Made inClass binds names :=
  .look (fun _ _ _ => rfl) fun _ _ => .pure _

/- Looking at what an expression refers to. -/
theorem made_meaning (e : Expr) :
    Made inClass binds (meaning e) :=
  made_names.bind fun _ => .pure _

/- Looking for a location. -/
theorem made_locate (range : ByteRange) :
    Made inClass binds (locate range) :=
  .read (fun _ _ => rfl) fun _ => .pure _

/- Resolving an annotation. -/
theorem made_resolve (e : Expr) :
    Made inClass binds (resolve e) :=
  made_names.bind fun _ => .pure _

mutual

/- Binding a target defines names. -/
theorem made_bindTarget
    {inClass binds : Bool}
    (target : Expr)
    (ty : Ty) : Made inClass binds (bindTarget target ty) := by
  cases target with
  | name id range => exact .define id _
  | tuple items range => exact made_bindTargets items _
  | list items range => exact made_bindTargets items _
  | starred value range => exact made_bindTarget value _
  | _ => exact .pure ()

/- Binding targets defines names. -/
theorem made_bindTargets
    {inClass binds : Bool}
    (targets : List Expr)
    (tys : List Ty) :
    Made inClass binds (bindTargets targets tys) := by
  cases targets with
  | nil => exact .pure ()
  | cons target targets =>
      cases tys with
      | nil => exact .pure ()
      | cons ty tys =>
          exact (made_bindTarget target ty).bind
            fun _ => made_bindTargets targets tys

end

/- A call is inferred and then reported. -/
theorem made_runCall
    (callee : String)
    (ty : Ty)
    (args : CallArgs)
    (locate : IssueSite → Location) :
    Made inClass binds (runCall callee ty args locate) := by
  unfold runCall
  refine .read (fun _ _ => rfl) ?_
  intro env
  refine .look (fun _ _ _ => rfl) ?_
  intro s hInClass
  apply Made.bind
  · exact .look (fun _ _ _ => rfl) fun _ _ => made_reportAll _
  · intro _
    apply Made.bind _ fun _ => .pure _
    refine .look (fun _ _ _ => rfl) ?_
    intro _ hInClass
    exact .read (fun _ _ => rfl) fun _ => made_reportAll _

/- A revealed type is reported. -/
theorem made_reveal (ty : Ty) (range : ByteRange) :
    Made inClass binds (reveal ty range) := by
  refine .look (fun _ _ _ => rfl) ?_
  intro s hInClass
  exact (made_locate range).bind fun _ => .report _

/- The type of a name may take fresh names. -/
theorem made_nameType (id : String) :
    Made inClass binds (nameType id) := by
  unfold nameType
  refine .look (fun _ _ _ => rfl) ?_
  intro s hInClass
  split
  · exact .instantiate _ _
  · exact .instantiate _ _
  · exact .pure _

/- Looking for a member. -/
theorem made_memberType (base : Ty) (attr : String) :
    Made inClass binds (memberType base attr) :=
  .look (fun _ _ _ => rfl) fun _ _ => .pure _

end Check

open Check

mutual

/- Inferring the type of an expression. -/
theorem Expr.infer_made
    {inClass binds : Bool}
    (e : Expr) : Made inClass binds e.infer := by
  cases e with
  | name id range => exact made_nameType id
  | member value attr range =>
      exact value.infer_made.bind
        fun _ => made_memberType _ _
  | subscript value index range =>
      apply value.infer_made.bind
      intro base
      exact index.infer_made.bind fun _ => .pure _
  | call callee args keywords range =>
      unfold Expr.infer
      apply (made_meaning callee).bind
      intro m
      split
      · apply (Expr.inferFirst_made args).bind
        intro ty
        exact (made_reveal ty range).bind fun _ => .pure _
      · apply callee.infer_made.bind
        intro ty
        apply (Expr.inferArgs_made args {}).bind
        intro args'
        apply (Keyword.inferAll_made keywords args').bind
        intro args'
        refine .read (fun _ _ => rfl) ?_
        intro env
        exact made_runCall _ _ _ _
  | lambda params body range =>
      apply Made.bind _ fun _ => .pure _
      apply body.infer_made.inScope
      · simp [lambdaScope]
      · exact fun _ => rfl
  | list items range =>
      exact (Expr.inferAll_made items).bind
        fun _ => .pure _
  | set items range =>
      exact (Expr.inferAll_made items).bind
        fun _ => .pure _
  | tuple items range =>
      exact (Expr.inferAll_made items).bind
        fun _ => .pure _
  | dict keys values range =>
      apply (Expr.inferAll_made keys).bind
      intro key
      exact (Expr.inferAll_made values).bind
        fun _ => .pure _
  | boolean operands range =>
      exact (Expr.inferAll_made operands).bind
        fun _ => .pure _
  | negation operand range =>
      exact operand.infer_made.bind fun _ => .pure _
  | unary operand range => exact operand.infer_made
  | binary left op right range =>
      apply left.infer_made.bind
      intro l
      exact right.infer_made.bind fun _ => .pure _
  | compare left others range =>
      apply left.infer_made.bind
      intro l
      exact (Expr.inferAll_made others).bind
        fun _ => .pure _
  | conditional test body orelse range =>
      apply test.infer_made.bind
      intro _
      apply body.infer_made.bind
      intro b
      exact orelse.infer_made.bind fun _ => .pure _
  | named target value range =>
      apply value.infer_made.bind
      intro ty
      exact (made_bindTarget target ty).bind
        fun _ => .pure _
  | starred value range =>
      exact value.infer_made.bind fun _ => .pure _
  | await value range =>
      exact value.infer_made.bind fun _ => .pure _
  | literal value range => exact .pure _
  | formatted range => exact .pure _
  | closed range => exact .pure _

/- Inferring the types of expressions. -/
theorem Expr.inferAll_made
    {inClass binds : Bool}
    (es : List Expr) :
    Made inClass binds (Expr.inferAll es) := by
  cases es with
  | nil => exact .pure _
  | cons e es =>
      apply e.infer_made.bind
      intro ty
      exact (Expr.inferAll_made es).bind fun _ => .pure _

/- Inferring the type of the first expression. -/
theorem Expr.inferFirst_made
    {inClass binds : Bool}
    (es : List Expr) :
    Made inClass binds (Expr.inferFirst es) := by
  cases es with
  | nil => exact .pure _
  | cons e es => exact e.infer_made

/- Inferring the types of arguments. -/
theorem Expr.inferArgs_made
    {inClass binds : Bool}
    (es : List Expr)
    (args : CallArgs) :
    Made inClass binds (Expr.inferArgs es args) := by
  cases es with
  | nil => exact .pure _
  | cons e es =>
      have hInfer : Made inClass binds e.infer := e.infer_made
      cases e with
      | starred value range =>
          exact value.infer_made.bind
            fun _ => Expr.inferArgs_made es _
      | _ => exact hInfer.bind fun _ => Expr.inferArgs_made es _

/- Inferring the types of keyword arguments. -/
theorem Keyword.inferAll_made
    {inClass binds : Bool}
    (ks : List Keyword)
    (args : CallArgs) :
    Made inClass binds (Keyword.inferAll ks args) := by
  cases ks with
  | nil => exact .pure _
  | cons k ks =>
      cases k with
      | mk name value =>
          unfold Keyword.inferAll
          apply value.infer_made.bind
          intro ty
          cases name with
          | some name => exact Keyword.inferAll_made ks _
          | none => exact Keyword.inferAll_made ks _

end

/- Looking at an expression. -/
theorem Expr.visit_made
    {inClass binds : Bool}
    (e : Expr) : Made inClass binds e.visit :=
  e.infer_made.bind fun _ => .pure _

------------------------------------------------------------
-- Definitions
------------------------------------------------------------

namespace Check

/- Checking an annotation. -/
theorem made_validate (position : Position) (e : Expr) :
    Made inClass true (validate position e) := by
  refine .read (fun _ _ => rfl) ?_
  intro env
  exact made_names.bind fun _ => made_reportAll _

/- Looking at a decorator. -/
theorem made_transparentForm? (e : Expr) :
    Made inClass true (transparentForm? e) :=
  (made_meaning _).bind fun _ => .pure _

/- Applying a decorator. -/
theorem made_applyDecorator (e : Expr) (ty : Ty) :
    Made inClass true (applyDecorator e ty) := by
  apply e.infer_made.bind
  intro callee
  exact (made_locate e.range).bind
    fun _ => made_runCall _ _ _ _

/- Looking at the arguments of a decorator. -/
theorem made_visitArgs (e : Expr) :
    Made inClass true (visitArgs e) := by
  unfold visitArgs
  split
  · exact (Expr.inferAll_made _).bind fun _ => .pure _
  · exact .pure _

/- Applying decorators. -/
theorem made_applyDecorators
    (ds : List Expr)
    (ty : Ty) : Made inClass true (applyDecorators ds ty) := by
  induction ds generalizing ty with
  | nil => exact .pure _
  | cons d ds ih =>
      unfold applyDecorators
      apply (made_transparentForm? d).bind
      intro form
      split
      · apply (made_visitArgs d).bind
        intro _
        exact (ih ty).bind fun _ => .pure _
      · exact (made_applyDecorator d ty).bind fun _ => ih _

/- Looking for a form among decorators. -/
theorem made_isStatic (ds : List Expr) :
    Made inClass true (isStatic ds) := by
  induction ds with
  | nil => exact .pure _
  | cons d ds ih =>
      unfold isStatic
      apply (made_meaning d).bind
      intro m
      split
      · exact .pure _
      · exact ih

/- The facts of a header come with reports. -/
theorem made_facts (head : FunctionHead) (receiver : Bool) :
    Made inClass true (facts head receiver) := by
  apply Made.bind
  · refine .read (fun _ _ => rfl) ?_
    intro env
    exact .look (fun _ _ _ => rfl) fun _ _ => .pure _
  · intro projections
    apply (made_reportAll _).bind
    intro _
    apply made_names.bind
    intro names
    exact .read (fun _ _ => rfl) fun _ => .pure _

/- The body of a function has a scope of its own. -/
theorem made_functionBody
    {body : Check Unit}
    (hBody : Made false true body)
    (facts : FunctionFacts)
    (receiver : Bool) :
    Made inClass true (functionBody facts receiver body) := by
  refine .look (fun _ _ _ => rfl) ?_
  intro s _
  refine .inScope _ ?_ nofun hBody
  simp [FunctionFacts.bodyScope]

/- Behind its header a method becomes a member. -/
theorem made_functionRest
    {body : Check Unit}
    (hBody : Made false true body)
    (head : FunctionHead)
    (facts : FunctionFacts)
    (receiver : Bool) :
    Made inClass true (do
      functionBody facts receiver body
      let (isProperty, ty) ←
        applyDecorators head.decorators.reverse facts.type
      if inClass then
        let member := memberOf isProperty receiver ty
        modify fun s =>
          s.updateClass (ClassInfo.addMethod head.name member)
      define head.name (.value ty)) := by
  apply (made_functionBody hBody facts receiver).bind
  intro _
  apply (made_applyDecorators _ _).bind
  rintro ⟨isProperty, ty⟩
  cases inClass with
  | false => exact .define _ _
  | true => exact (Made.updateClass _).bind fun _ => .define _ _

/- A function is a method right inside a class body only. -/
theorem made_function
    {body : Check Unit}
    (hBody : Made false true body)
    (head : FunctionHead) :
    Made inClass true (function head body) := by
  unfold Check.function
  apply (made_isStatic _).bind
  intro isStatic
  refine .look (fun _ _ _ => rfl) ?_
  intro s hInClass
  subst hInClass
  apply Made.bind
  · apply made_names.bind
    intro names
    exact .read (fun _ _ => rfl) fun _ => made_reportAll _
  · intro _
    apply (made_facts head _).bind
    intro facts
    exact made_functionRest hBody head facts _

/- A class opens a class body. -/
theorem made_cls
    {body : Check Unit}
    (hBody : Made true true body)
    (head : ClassHead) :
    Made inClass true (cls head body) := by
  unfold Check.cls
  apply made_names.bind
  intro names
  refine .read (fun _ _ => rfl) ?_
  intro env
  apply (made_reportAll _).bind
  intro _
  apply (Keyword.inferAll_made _ _).bind
  intro _
  apply (Made.define _ _).bind
  intro _
  apply (Made.classBody _ hBody).bind
  intro info
  apply (Expr.inferAll_made _).bind
  intro _
  exact .define _ _

------------------------------------------------------------
-- Statements
------------------------------------------------------------

/- Declaring a parameter specification. -/
theorem made_declareSpec
    (targets : List Expr)
    (call : CallExpr) :
    Made inClass true (declareSpec targets call) := by
  unfold declareSpec
  apply Made.bind
  · refine .read (fun _ _ => rfl) ?_
    intro env
    exact made_names.bind fun _ => .pure _
  · intro d
    apply (made_reportAll _).bind
    intro _
    split
    · exact .define _ _
    · exact .pure _

/- Declaring a type variable. -/
theorem made_declareTypeVar
    (targets : List Expr)
    (call : CallExpr) :
    Made inClass true (declareTypeVar targets call) := by
  unfold declareTypeVar
  apply Made.bind
  · refine .read (fun _ _ => rfl) ?_
    intro env
    exact made_names.bind fun _ => .pure _
  · intro d
    split
    · exact .define _ _
    · exact .pure _

/- Binding a value to targets. -/
theorem made_bindAll (targets : List Expr) (ty : Ty) :
    Made inClass true (bindAll targets ty) := by
  induction targets with
  | nil => exact .pure _
  | cons target targets ih =>
      exact (made_bindTarget target ty).bind fun _ => ih

/- Assigning a value. -/
theorem made_assignValue
    (targets : List Expr)
    (value : Expr) :
    Made inClass true (assignValue targets value) := by
  unfold assignValue
  apply Made.bind
  · apply made_names.bind
    intro names
    exact .read (fun _ _ => rfl) fun _ => made_reportAll _
  · intro _
    exact value.infer_made.bind fun _ => made_bindAll _ _

/- An assignment, which may declare a variable. -/
theorem made_assign
    (targets : List Expr)
    (value : Expr) :
    Made inClass true (assign targets value) := by
  unfold assign
  split
  · exact made_assignValue _ _
  · apply (made_meaning _).bind
    intro m
    split
    · exact made_declareSpec _ _
    · exact made_declareTypeVar _ _
    · exact made_assignValue _ _

/- An annotated target may be a member. -/
theorem made_annotated
    (target typeExpr : Expr)
    (value : Option Expr) :
    Made inClass true (annotated target typeExpr value) := by
  unfold annotated
  apply (made_validate _ _).bind
  intro _
  apply (made_resolve _).bind
  intro declared
  dsimp only
  split
  -- Behind the value, if any, both cases go on alike.
  case' h_1 =>
    apply (Expr.visit_made _).bind
    intro _
  all_goals
    refine .look (fun _ _ _ => rfl) ?_
    intro s hInClass
    subst hInClass
    split
    · split
      · rename_i hInClass _ _ _
        rw [hInClass]
        exact (Made.updateClass _).bind
          fun _ => made_bindTarget _ _
      · exact made_bindTarget _ _
    · exact made_bindTarget _ _

/- Checking the type of what is returned. -/
theorem made_checkReturn (found : Ty) (range : ByteRange) :
    Made inClass true (checkReturn found range) := by
  unfold checkReturn
  refine .read (fun _ _ => rfl) ?_
  intro env
  split
  · refine .look (fun _ _ _ => rfl) ?_
    intro s hInClass
    split
    · split
      · exact (made_locate range).bind fun _ => .report _
      · exact .pure _
    · exact .pure _
  · exact .pure _

/- Checking a `return`. -/
theorem made_ret (value : Option Expr) (range : ByteRange) :
    Made inClass true (ret value range) := by
  unfold ret
  split
  · exact (Expr.infer_made _).bind
      fun _ => made_checkReturn _ _
  · exact made_checkReturn _ _

/- Importing modules defines their names. -/
theorem made_importModules (aliases : List ImportAlias) :
    Made inClass true (importModules aliases) := by
  induction aliases with
  | nil => exact .pure _
  | cons a aliases ih =>
      exact (Made.define _ _).bind fun _ => ih

/- Importing names defines them. -/
theorem made_importNames
    (module : String)
    (aliases : List ImportAlias) :
    Made inClass true (importNames module aliases) := by
  induction aliases with
  | nil => exact .pure _
  | cons a aliases ih =>
      unfold importNames
      dsimp only
      split
      · exact (Made.define _ _).bind fun _ => ih
      · exact ih

/- The head of a loop binds its target. -/
theorem made_loopHead
    (isAsync : Bool)
    (target iter : Expr) :
    Made inClass true (loopHead isAsync target iter) :=
  iter.infer_made.bind fun _ => made_bindTarget _ _

/- The items of a `with` bind their targets. -/
theorem made_withItems (items : List WithItem) :
    Made inClass true (withItems items) := by
  induction items with
  | nil => exact .pure _
  | cons item items ih =>
      unfold withItems
      apply item.context.visit_made.bind
      intro _
      dsimp only
      split
      · exact (made_bindTarget _ _).bind fun _ => ih
      · exact ih

/- Looking at an expression that may be missing. -/
theorem made_visitOption (e : Option Expr) :
    Made inClass true (visitOption e) := by
  cases e with
  | none => exact .pure _
  | some e => exact e.visit_made

end Check

mutual

/- Every statement is made of the steps. -/
theorem Stmt.check_made
    {inClass : Bool}
    (stmt : Stmt) : Made inClass true stmt.check := by
  cases stmt with
  | function head body =>
      exact made_function (Stmt.checkAll_made body) head
  | cls head body =>
      exact made_cls (Stmt.checkAll_made body) head
  | assign targets value => exact made_assign _ _
  | annotated target typeExpr value =>
      exact made_annotated _ _ _
  | augmented value => exact value.visit_made
  | ret value range => exact made_ret _ _
  | expr value => exact value.visit_made
  | importModules names => exact made_importModules _
  | importNames module names => exact made_importNames _ _
  | branch test body orelse =>
      apply test.visit_made.bind
      intro _
      exact (Stmt.checkAll_made body).bind
        fun _ => Stmt.checkAll_made orelse
  | whileLoop test body orelse =>
      apply test.visit_made.bind
      intro _
      exact (Stmt.checkAll_made body).bind
        fun _ => Stmt.checkAll_made orelse
  | forLoop isAsync target iter body orelse =>
      apply (made_loopHead _ _ _).bind
      intro _
      exact (Stmt.checkAll_made body).bind
        fun _ => Stmt.checkAll_made orelse
  | withBlock items body =>
      exact (made_withItems items).bind
        fun _ => Stmt.checkAll_made body
  | tryBlock body handlers orelse finalbody =>
      apply (Stmt.checkAll_made body).bind
      intro _
      apply (Handler.checkAll_made handlers).bind
      intro _
      exact (Stmt.checkAll_made orelse).bind
        fun _ => Stmt.checkAll_made finalbody
  | raise exc => exact made_visitOption _
  | assert test => exact test.visit_made
  | inert => exact .pure _

/- Every block is made of the steps. -/
theorem Stmt.checkAll_made
    {inClass : Bool}
    (stmts : List Stmt) :
    Made inClass true (Stmt.checkAll stmts) := by
  cases stmts with
  | nil => exact .pure _
  | cons stmt stmts =>
      exact stmt.check_made.bind
        fun _ => Stmt.checkAll_made stmts

/- Handlers are made of the steps. -/
theorem Handler.checkAll_made
    {inClass : Bool}
    (handlers : List Handler) :
    Made inClass true (Handler.checkAll handlers) := by
  cases handlers with
  | nil => exact .pure _
  | cons handler handlers =>
      cases handler with
      | mk name body =>
          have hRest :
              Made inClass true (do
                Stmt.checkAll body
                Handler.checkAll handlers) :=
            (Stmt.checkAll_made body).bind
              fun _ => Handler.checkAll_made handlers
          cases name with
          | none => exact hRest
          | some name =>
              exact (Made.define _ _).bind fun _ => hRest

end

namespace Check

variable {inClass : Bool}

/- A text that cannot be read is reported. -/
theorem made_unreadable (fault : ParseError) :
    Made inClass true (unreadable fault) := by
  refine .read (fun _ _ => rfl) ?_
  intro env
  exact .report _

/- Every text is checked by the steps. -/
theorem made_source (text : String) :
    Made inClass true (source text) := by
  unfold source
  split
  · exact made_unreadable _
  · refine .read (fun _ _ => rfl) ?_
    intro env
    split
    · exact Stmt.checkAll_made _
    · exact .pure _

end Check

end SigCheck
