import SigCheck.TypeExpr.Meaning

/-
  Types of annotations. What makes no sense becomes `Any`,
  and in the place of a parameter list the gradual list;
  faults are reported elsewhere.

  Key definitions include:
    * `builtinType?`
    * `Meaning.bareType`
    * `Meaning.subscriptType`
    * `TypeExpr.resolve`
    * `TypeExpr.resolveParams`
-/

namespace SigCheck

------------------------------------------------------------
-- Bare Names
------------------------------------------------------------

/- The built-in type under a name. -/
def builtinType? : String → Option Ty
  | "int" => some .int
  | "float" => some .float
  | "str" => some .str
  | "bool" => some .bool
  | "bytes" => some .bytes
  | "object" => some .object
  | "None" => some .noneType
  | _ => none

/- What stands for a type parameter without an argument. -/
def TypeParam.defaultArg (p : TypeParam) : TypeArg :=
  match p.kind with
  | .typeVar => .type .any
  | .paramSpec => .params .gradual

/- A class without arguments as a type. -/
def ClassInfo.bareType (c : ClassInfo) : Ty :=
  if c.isGeneric then
    .generic c.name (c.typeParams.map TypeParam.defaultArg)
  else .cls c.name

/- The type of a form that stands without arguments. -/
def SpecialForm.bareType : SpecialForm → Ty
  | .callable => .callable .gradual .any
  | .list => .list .any
  | .set => .set .any
  | .dict => .dict .any .any
  | _ => .any

/- The type of a path that stands without arguments. -/
def Meaning.bareType : Meaning → Ty
  | .typeVar name => .typeVar name
  | .cls info => info.bareType
  | .special form => form.bareType
  | _ => .any

/- The type of a name that means nothing. -/
def NamePath.unknownType : NamePath → Ty
  | .name id => (builtinType? id).getD (.cls id)
  | .member _ _ => .any

/- The type of a path. -/
def NamePath.type (names : NameEnv) (p : NamePath) : Ty :=
  match names.projection? p with
  | some ⟨var, .args⟩ => .specArgs var
  | some ⟨var, .kwargs⟩ => .specKwargs var
  | none =>
      match names.meaning p with
      | .unknown => p.unknownType
      | meaning => meaning.bareType

------------------------------------------------------------
-- Resolution
------------------------------------------------------------

/-
  The parts of an annotation in the place of an argument:
  its type, the parameter list it is in the place of one,
  and whether it is `...`.
-/
structure ResolvedArg where
  type : Ty
  params : Signature
  isEllipsis : Bool

/- The argument at the place of a type parameter. -/
def TypeParam.argOf
    (p : TypeParam)
    (arg : ResolvedArg) : TypeArg :=
  match p.kind with
  | .typeVar => .type arg.type
  | .paramSpec => .params arg.params

/- Missing arguments take the defaults. -/
def TypeParam.argsOf :
    List TypeParam → List ResolvedArg → List TypeArg
  | [], _ => []
  | p :: ps, [] => p.defaultArg :: TypeParam.argsOf ps []
  | p :: ps, a :: args =>
      p.argOf a :: TypeParam.argsOf ps args

/- The type of the first argument. -/
def firstType : List ResolvedArg → Ty
  | [] => .any
  | a :: _ => a.type

/- The type of a form with arguments. -/
def SpecialForm.subscriptType
    (form : SpecialForm)
    (args : List ResolvedArg) : Ty :=
  match form, args with
  | .callable, [params, ret] =>
      .callable params.params ret.type
  | .callable, _ => .callable .gradual .any
  | .list, args => .list (firstType args)
  | .set, args => .set (firstType args)
  | .dict, [k, v] => .dict k.type v.type
  | .dict, _ => .dict .any .any
  | .tuple, [item, rest] =>
      if rest.isEllipsis then .list item.type
      else .tuple [item.type, rest.type]
  | .tuple, args => .tuple (args.map (·.type))
  | .optional, args =>
      Ty.unionOf [firstType args, .noneType]
  | .union, args => Ty.unionOf (args.map (·.type))
  | _, _ => .any

/- The type of what has a meaning, with arguments. -/
def Meaning.subscriptType
    (m : Meaning)
    (args : List ResolvedArg) : Ty :=
  match m with
  | .special form => form.subscriptType args
  | .cls info =>
      if info.isGeneric then
        .generic info.name
          (TypeParam.argsOf info.typeParams args)
      else .cls info.name
  | _ => .any

/- The parameter list that a path stands for. -/
def NamePath.params
    (names : NameEnv)
    (p : NamePath) : Signature :=
  match names.meaning p with
  | .paramSpec var => .ofVar var
  | _ => .gradual

/- The type of what may be no path. -/
def NameEnv.typeOf
    (names : NameEnv)
    (path : Option NamePath) : Ty :=
  match path with
  | some p => p.type names
  | none => .any

/- The parameter list that something stands for. -/
def NameEnv.paramsOf
    (names : NameEnv)
    (path : Option NamePath) : Signature :=
  match path with
  | some p => p.params names
  | none => .gradual

mutual

/- The type of an annotation. -/
def TypeExpr.resolve (names : NameEnv) : TypeExpr → Ty
  | .ident id r => names.typeOf (TypeExpr.ident id r).path?
  | .member owner attr r =>
      names.typeOf (TypeExpr.member owner attr r).path?
  | .subscript head args _ =>
      (names.meaningOf head.path?).subscriptType
        (TypeExpr.resolveArgs names args)
  | .either left right _ =>
      Ty.unionOf [left.resolve names, right.resolve names]
  | .noneType _ => .noneType
  | .quoted body _ => body.resolve names
  | .list _ _ => .any
  | .tuple _ _ => .any
  | .ellipsis _ => .any
  | .unreadable _ _ => .any
  | .other _ => .any

/-
  The parameter list of an annotation that stands in the
  place of one.
-/
def TypeExpr.resolveParams
    (names : NameEnv) : TypeExpr → Signature
  | .list items _ =>
      .params
        ((TypeExpr.resolveArgs names items).map
          fun item => .anonymous item.type)
  | .ident id r => names.paramsOf (TypeExpr.ident id r).path?
  | .member owner attr r =>
      names.paramsOf (TypeExpr.member owner attr r).path?
  | .quoted body _ => body.resolveParams names
  | .subscript _ _ _ => .gradual
  | .either _ _ _ => .gradual
  | .tuple _ _ => .gradual
  | .noneType _ => .gradual
  | .ellipsis _ => .gradual
  | .unreadable _ _ => .gradual
  | .other _ => .gradual

/- Arguments with all that they may stand for. -/
def TypeExpr.resolveArgs
    (names : NameEnv) : List TypeExpr → List ResolvedArg
  | [] => []
  | t :: ts =>
      ⟨t.resolve names, t.resolveParams names, t.isEllipsis⟩
        :: TypeExpr.resolveArgs names ts

end

end SigCheck
