import SigCheck.Check.Expression
import SigCheck.Check.Projection
import SigCheck.TypeExpr.UseSite

/-
  Types of functions: the parameter list that a definition
  presents to its callers, the scope of its body, and what
  decorators make of it.

  Key definitions include:
    * `FunctionHead.signature`
    * `FunctionHead.bodyScope`
    * `Ty.dropReceiver`
    * `Check.applyDecorators`
-/

namespace SigCheck

------------------------------------------------------------
-- Signatures
------------------------------------------------------------

/- The type of the annotation of a parameter. -/
def ParamDef.type (names : NameEnv) (p : ParamDef) : Ty :=
  match p.typeExpr with
  | some e => e.typeExpr.resolve names
  | none => .any

/- A parameter of a kind as callers see it. -/
def ParamDef.parameter
    (names : NameEnv)
    (kind : ParamKind)
    (p : ParamDef) : Parameter :=
  ⟨some p.name, kind, p.type names, p.hasDefault⟩

namespace LeadParam

/- How the parameter takes its argument. -/
def kind (dunder : Bool) (p : LeadParam) : ParamKind :=
  if p.slashed || (dunder && isDunderName p.param.name) then
    .positionalOnly
  else .positionalOrKeyword

/- The parameter as callers see it. -/
def parameter
    (names : NameEnv)
    (dunder : Bool)
    (p : LeadParam) : Parameter :=
  p.param.parameter names (p.kind dunder)

end LeadParam

namespace ParamDefs

/- The definition has a parameter before a star. -/
def hasPositional (ps : ParamDefs) : Bool :=
  !ps.positional.isEmpty

/-
  The parameter list that a definition presents. Behind a
  pair of projections the parameters in front have no names.
-/
def signature
    (names : NameEnv)
    (dunder : Bool)
    (pair : Option ProjectionPair)
    (ps : ParamDefs) : Signature :=
  let lead := ps.lead.map (LeadParam.parameter names dunder)
  match pair with
  | some pair =>
      .spec (lead.map fun p => .anonymous p.ty) pair.var
  | none =>
      .params
        (lead
          ++ ps.star.toList.map
            (ParamDef.parameter names .varPositional)
          ++ ps.keywordOnly.map
            (ParamDef.parameter names .keywordOnly)
          ++ ps.doubleStar.toList.map
            (ParamDef.parameter names .varKeyword))

end ParamDefs

------------------------------------------------------------
-- Bodies
------------------------------------------------------------

/- What the header of a definition says. -/
structure FunctionFacts where
  params : ParamDefs
  pair : Option ProjectionPair
  signature : Signature
  declared : Option Ty
  isAsync : Bool

namespace FunctionFacts

/- What a call of the function yields. -/
def callResult (f : FunctionFacts) : Ty :=
  if f.isAsync then .any else f.declared.getD .any

/- The type of the function. -/
def type (f : FunctionFacts) : Ty :=
  .callable f.signature f.callResult

/- The type variables in the header. -/
def typeVars (f : FunctionFacts) : List String :=
  (f.type.typeVars
    ++ (f.declared.map (·.typeVars)).getD []).eraseDups

/- The parameter specifications in the header. -/
def specVars (f : FunctionFacts) : List String :=
  (f.type.specVars
    ++ (f.declared.map (·.specVars)).getD []).eraseDups

/- The variables that the header binds. -/
def bound
    (f : FunctionFacts)
    (outer : RigidVars) : RigidVars where
  types := f.typeVars.filter fun v => !outer.types.contains v
  specs := f.specVars.filter fun v => !outer.specs.contains v

/- The names of parameters without a star in the body. -/
def plainNames
    (names : NameEnv)
    (receiver : Option Ty)
    (f : FunctionFacts) : List (String × Ty) :=
  let typed := fun (p : ParamDef) => (p.name, p.type names)
  let positional :=
    match receiver, f.params.positional with
    | some ty, p :: ps =>
        (p.name, if p.typeExpr.isSome then p.type names else ty)
          :: ps.map typed
    | _, ps => ps.map typed
  positional ++ f.params.keywordOnly.map typed

/- The type of what a star parameter collects. -/
def collected
    (kind : ParamKind)
    (f : FunctionFacts) : Ty :=
  match f.signature with
  | .params ps =>
      ((ps.find? (·.kind == kind)).map (·.ty)).getD .any
  | _ => .any

/- The type of the star parameter in the body. -/
def starType (f : FunctionFacts) : Ty :=
  match f.pair with
  | some pair => .specArgs pair.var
  | none => .list (f.collected .varPositional)

/- The type of the double star parameter in the body. -/
def doubleStarType (f : FunctionFacts) : Ty :=
  match f.pair with
  | some pair => .specKwargs pair.var
  | none => .dict .str (f.collected .varKeyword)

/- The scope of the body. -/
def bodyScope
    (names : NameEnv)
    (outer : RigidVars)
    (receiver : Option Ty)
    (f : FunctionFacts) : Scope where
  kind := .function
  symbols :=
    .ofPairs
      ((f.plainNames names receiver
        ++ f.params.star.toList.map (fun p =>
          (p.name, f.starType))
        ++ f.params.doubleStar.toList.map (fun p =>
          (p.name, f.doubleStarType))).map fun (name, ty) =>
            (name, .value ty))
  rigid := f.bound outer
  returns := f.declared

end FunctionFacts

------------------------------------------------------------
-- Methods
------------------------------------------------------------

/- A parameter list without the receiver in front. -/
def Signature.dropReceiver : Signature → Signature
  | .params (p :: ps) =>
      if p.kind.isPositional then .params ps
      else .params (p :: ps)
  | .spec (_ :: lead) var => .spec lead var
  | sig => sig

/- A method as it is seen through an instance. -/
def Ty.dropReceiver : Ty → Ty
  | .callable sig ret => .callable sig.dropReceiver ret
  | ty => ty

/- What a property yields. -/
def Ty.propertyType : Ty → Ty
  | .callable _ ret => ret
  | ty => ty

namespace ClassInfo

/- The class with a member set. -/
def setMember
    (name : String)
    (ty : Ty)
    (c : ClassInfo) : ClassInfo :=
  { c with members := c.members.insert name ty }

/- The class with a method; one of them makes instances. -/
def addMethod
    (name : String)
    (ty : Ty)
    (c : ClassInfo) : ClassInfo :=
  let c := c.setMember name ty
  match name, ty with
  | "__init__", .callable sig _ => { c with ctor := some sig }
  | _, _ => c

end ClassInfo

------------------------------------------------------------
-- Decorators
------------------------------------------------------------

namespace Check

/- Report the use sites in an annotation. -/
def validate (position : Position) (e : Expr) : Check Unit := do
  let index := (← read).index
  reportAll
    (e.typeExpr.useSiteErrors (← names) index position)

/- The special form that leaves a function alone. -/
def transparentForm? (e : Expr) : Check (Option SpecialForm) := do
  let target :=
    match e with
    | .call callee _ _ _ => callee
    | e => e
  return (← meaning target).special?.filter
    SpecialForm.isTransparentDecorator

/- The function that a decorator makes of a function. -/
def applyDecorator (decorator : Expr) (ty : Ty) : Check Ty := do
  let callee ← decorator.infer
  let location ← locate decorator.range
  runCall decorator.calleeName callee { positional := [ty] }
    fun _ => location

/- Look at the arguments of a decorator. -/
def visitArgs : Expr → Check Unit
  | .call _ args _ _ => do
      let _ ← Expr.inferAll args
  | _ => return ()

/-
  Apply decorators from the innermost one; the first result
  tells whether one of them makes a property.
-/
def applyDecorators : List Expr → Ty → Check (Bool × Ty)
  | [], ty => return (false, ty)
  | d :: ds, ty => do
      match ← transparentForm? d with
      | some form => do
          visitArgs d
          let (isProperty, ty) ← applyDecorators ds ty
          return (isProperty || form == .property, ty)
      | none => do
          let ty ← applyDecorator d ty
          applyDecorators ds ty

/- One of the decorators makes a method without a receiver. -/
def isStatic : List Expr → Check Bool
  | [] => return false
  | d :: ds => do
      if (← meaning d).isForm .staticMethod then return true
      else isStatic ds

end Check

------------------------------------------------------------
-- Definitions
------------------------------------------------------------

/- What is wrong with the annotations of a header. -/
def NameEnv.headErrors
    (names : NameEnv)
    (index : LineIndex)
    (head : FunctionHead) : List Diagnostic :=
  let errors := fun (position : Position) (e : Expr) =>
    e.typeExpr.useSiteErrors names index position
  (head.params.all.filterMap (·.typeExpr)).flatMap
      (errors .parameter)
    ++ head.returns.toList.flatMap (errors .ret)

namespace Check

/- Report what is wrong with the annotations of a header. -/
def validateHead (head : FunctionHead) : Check Unit := do
  let errors :=
    (← names).headErrors (← read).index head
  reportAll errors

/- The check of the projections of a header. -/
def projectionCheck
    (head : FunctionHead)
    (receiver : Bool) : Check ProjectionCheck := do
  let env ← read
  let s ← get
  return ⟨s.names, env.index, s.visibleSpecs,
    env.config.dunderPositional, head.params, receiver⟩

/- What the header of a definition says. -/
def facts
    (head : FunctionHead)
    (receiver : Bool) : Check FunctionFacts := do
  let projections ← projectionCheck head receiver
  reportAll projections.errors
  let names ← names
  let dunder := (← read).config.dunderPositional
  let pair := projections.pair?
  return {
    params := head.params
    pair := pair
    signature := head.params.signature names dunder pair
    declared :=
      head.returns.map fun e => e.typeExpr.resolve names
    isAsync := head.isAsync }

/- Check the body of a function in a scope of its own. -/
def functionBody
    (facts : FunctionFacts)
    (receiver : Bool)
    (body : Check Unit) : Check Unit := do
  let s ← get
  let receiverType :=
    if receiver then s.classes.head?.map (·.instanceType)
    else none
  inScope (facts.bodyScope s.names s.rigid receiverType) body

/- A method as a member of its class. -/
def memberOf (isProperty receiver : Bool) (ty : Ty) : Ty :=
  if isProperty then ty.propertyType
  else if receiver then ty.dropReceiver
  else ty

/- Check a function and define its name. -/
def function
    (head : FunctionHead)
    (body : Check Unit) : Check Unit := do
  let isStatic ← isStatic head.decorators
  let isMethod := (← get).inClassBody
  let receiver :=
    isMethod && !isStatic && head.params.hasPositional
  validateHead head
  let facts ← facts head receiver
  functionBody facts receiver body
  let (isProperty, ty) ←
    applyDecorators head.decorators.reverse facts.type
  if isMethod then
    let member := memberOf isProperty receiver ty
    modify fun s =>
      s.updateClass (ClassInfo.addMethod head.name member)
  define head.name (.value ty)

end Check

end SigCheck
