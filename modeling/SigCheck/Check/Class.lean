import SigCheck.Check.Function

/-
  Classes: the type parameters that their bases declare or
  mention, and the body with its methods.

  Key definitions include:
    * `declaredParams`, `declaredParamErrors`
    * `mentionedParams`
    * `ClassHead.typeParams`
    * `Check.cls`
-/

namespace SigCheck

------------------------------------------------------------
-- Type Parameters
------------------------------------------------------------

/- The variable that an annotation is, if it is one. -/
def TypeExpr.typeParam?
    (names : NameEnv)
    (t : TypeExpr) : Option TypeParam :=
  match names.meaningOf t.path? with
  | .typeVar name => some ⟨name, .typeVar⟩
  | .paramSpec name => some ⟨name, .paramSpec⟩
  | _ => none

/- The base has the arguments of a generic form. -/
def genericName? (m : Meaning) : Option String :=
  match m with
  | .special .generic => some "Generic"
  | .special .protocol => some "Protocol"
  | _ => none

/-
  The type parameters that arguments declare: each of them a
  variable, and no two the same.
-/
def declaredParams
    (names : NameEnv) :
    List TypeParam → List TypeExpr → List TypeParam
  | params, [] => params
  | params, t :: ts =>
      match t.typeParam? names with
      | some p =>
          if params.any (·.name == p.name) then
            declaredParams names params ts
          else declaredParams names (params ++ [p]) ts
      | none => declaredParams names params ts

/- What is wrong with arguments that declare parameters. -/
def declaredParamErrors
    (names : NameEnv)
    (index : LineIndex)
    (target : String) :
    List TypeParam → List TypeExpr → List Diagnostic
  | _, [] => []
  | params, t :: ts =>
      let fault := fun (reason : String) =>
        { cause := .invalidTypeArguments target reason
          location := index.location t.range : Diagnostic }
      match t.typeParam? names with
      | some p =>
          if params.any (·.name == p.name) then
            fault
                ("'" ++ p.name ++ "' appears more than once")
              :: declaredParamErrors names index target params
                ts
          else
            declaredParamErrors names index target
              (params ++ [p]) ts
      | none =>
          fault
              ("every argument must be a TypeVar or a "
                ++ "ParamSpec")
            :: declaredParamErrors names index target params ts

/- The variables that an argument mentions, in order. -/
def TypeExpr.mentionedParams
    (names : NameEnv)
    (t : TypeExpr) : List TypeParam :=
  match (names.meaningOf t.path?).paramSpec? with
  | some name => [⟨name, .paramSpec⟩]
  | none =>
      let ty := t.resolve names
      ty.typeVars.map (fun name => ⟨name, .typeVar⟩)
        ++ ty.specVars.map fun name => ⟨name, .paramSpec⟩

/- What one base of a class says about its parameters. -/
inductive BaseParams where
  | plain
  | declared (target : String) (args : List TypeExpr)
  | mentioned (params : List TypeParam)

/- What a base says about type parameters. -/
def TypeExpr.baseParams
    (names : NameEnv) : TypeExpr → BaseParams
  | .subscript head args _ =>
      match genericName? (names.meaningOf head.path?) with
      | some target => .declared target args
      | none =>
          .mentioned
            (args.flatMap (TypeExpr.mentionedParams names))
  | _ => .plain

namespace BaseParams

/- The parameters that a base declares. -/
def declared?
    (names : NameEnv) : BaseParams → Option (List TypeParam)
  | declared _ args => some (declaredParams names [] args)
  | _ => none

/- The parameters that a base mentions. -/
def mentionedList : BaseParams → List TypeParam
  | mentioned params => params
  | _ => []

/- What is wrong with what a base declares. -/
def errors
    (names : NameEnv)
    (index : LineIndex) : BaseParams → List Diagnostic
  | declared target args =>
      declaredParamErrors names index target [] args
  | _ => []

end BaseParams

/-
  The type parameters of a class: those that its first
  generic base declares, or else all that are mentioned.
-/
def classTypeParams
    (names : NameEnv)
    (bases : List TypeExpr) : List TypeParam :=
  let parts := bases.map (TypeExpr.baseParams names)
  match parts.findSome? (BaseParams.declared? names) with
  | some params => params
  | none =>
      (parts.flatMap BaseParams.mentionedList).eraseDups

/- What is wrong with the bases of a class. -/
def baseErrors
    (names : NameEnv)
    (index : LineIndex)
    (base : TypeExpr) : List Diagnostic :=
  base.useSiteErrors names index .classBase
    ++ (base.baseParams names).errors names index

------------------------------------------------------------
-- Classes
------------------------------------------------------------

/- The scope of a class body. -/
def ClassInfo.bodyScope (c : ClassInfo) : Scope where
  kind := .cls
  rigid :=
    ⟨(c.typeParams.filter (·.kind == .typeVar)).map (·.name),
      (c.typeParams.filter (·.kind == .paramSpec)).map
        (·.name)⟩

namespace Check

/- Check the body of a class that becomes its members. -/
def classBody
    (info : ClassInfo)
    (body : Check Unit) : Check ClassInfo := do
  modify fun s => { s with classes := info :: s.classes }
  inScope info.bodyScope body
  let s ← get
  set { s with classes := s.classes.tail }
  return s.classes.head?.getD info

/-
  Check a class and define its name. Its own methods see it
  before its members are known.
-/
def cls (head : ClassHead) (body : Check Unit) : Check Unit := do
  let names ← names
  let index := (← read).index
  let bases := head.bases.map Expr.typeExpr
  reportAll (bases.flatMap (baseErrors names index))
  let _ ← Keyword.inferAll head.keywords {}
  let info : ClassInfo :=
    { name := head.name
      typeParams := classTypeParams names bases }
  define head.name (.cls info)
  let info ← classBody info body
  let _ ← Expr.inferAll head.decorators
  define head.name (.cls info)

end Check

end SigCheck
