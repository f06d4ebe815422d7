import SigCheck.Check.Declaration
import SigCheck.Check.State

/-
  Types of expressions. Every call is inferred and what is
  wrong with it reported at the argument it concerns.

  Key definitions include:
    * `Ty.element`, `Ty.joinOrAny`, `Ty.binary`
    * `CallExpr.argLocation`
    * `Check.bindTarget`
    * `Check.runCall`
    * `Expr.infer`
-/

namespace SigCheck

------------------------------------------------------------
-- Types of Operations
------------------------------------------------------------

namespace Ty

/- The type of what iteration over a value yields. -/
def element : Ty → Ty
  | .list t => t
  | .set t => t
  | .dict k _ => k
  | .tuple [] => .any
  | .tuple ts => unionOf ts
  | .str => .str
  | _ => .any

/- The union of types, or `Any` of none. -/
def joinOrAny : List Ty → Ty
  | [] => .any
  | ts => unionOf ts

/- The type is `int` or `bool`. -/
def isIntegral : Ty → Bool
  | .int => true
  | .bool => true
  | _ => false

/- The type is `float`. -/
def isFloat : Ty → Bool
  | .float => true
  | _ => false

/- The type of an operation on two values. -/
def binary (left : Ty) (op : BinaryOp) (right : Ty) : Ty :=
  match left, op, right with
  | .str, .add, .str => .str
  | .str, .mod, _ => .str
  | .list a, .add, .list b =>
      if a = b then .list a else .any
  | left, op, right =>
      if left.isIntegral && right.isIntegral then
        if op = .div then .float else .int
      else if (left.isFloat || left.isIntegral)
          && (right.isFloat || right.isIntegral) then
        .float
      else .any

/- The type of an item of a value. -/
def item : Ty → Ty
  | .list t => t
  | .dict _ v => v
  | .str => .str
  | _ => .any

end Ty

/- The type of a literal. -/
def Literal.type : Literal → Ty
  | .none => .noneType
  | .bool _ => .bool
  | .str _ => .str
  | .bytes => .bytes
  | .int => .int
  | .float => .float
  | .ellipsis => .any
  | .imaginary => .any

------------------------------------------------------------
-- Calls
------------------------------------------------------------

/- What messages call a callee. -/
def Expr.calleeName : Expr → String
  | .name id _ => id
  | .member value attr _ => value.calleeName ++ "." ++ attr
  | .call callee _ _ _ => callee.calleeName
  | _ => "callable"

namespace CallExpr

/- The expression of an argument. -/
def argument?
    (call : CallExpr) : ArgSource → Option Expr
  | .positional index =>
      (call.args.filter fun a => !a.isStarred)[index]?
  | .keyword name =>
      (call.keywords.find? (·.name == some name)).map (·.value)

/- The location of the part of a call. -/
def siteLocation
    (call : CallExpr)
    (index : LineIndex) : IssueSite → Location
  | .call => index.location call.range
  | .arg source =>
      index.location
        (((call.argument? source).map (·.range)).getD
          call.range)

end CallExpr

namespace Check

/- Report what is wrong with solved variables. -/
def reportSolved
    (callee : String)
    (solved : Substitution)
    (location : Location) : Check Unit := do
  let s ← get
  let hook := (← read).hook
  let specs := solved.specs.entries.filterMap fun (v, sig) =>
    ((s.lookup? (s.declaredName v)).bind
      Symbol.paramSpec?).bind fun decl => hook.spec decl sig
  let types := solved.types.entries.filterMap fun (v, ty) =>
    ((s.lookup? (s.declaredName v)).bind
      Symbol.typeVar?).bind fun decl => hook.typeVar decl ty
  reportAll
    ((specs ++ types).map fun reason =>
      { cause := .callSiteMismatch callee reason
        location := location })

/- Report the issues of a call at their sites. -/
def reportIssues
    (issues : List CallIssue)
    (locate : IssueSite → Location) : Check Unit := do
  let s ← get
  reportAll
    (issues.map fun issue =>
      { cause := s.restoreCause issue.fault.cause
        location := locate issue.site })

/- Infer a call and report what is wrong with it. -/
def runCall
    (callee : String)
    (ty : Ty)
    (args : CallArgs)
    (locate : IssueSite → Location) : Check Ty := do
  let config := (← read).config
  let options : InferOptions :=
    ⟨config.join, config.checkArgumentTypes⟩
  let outcome :=
    ty.inferCall options (← get).rigid callee args
  reportIssues outcome.issues locate
  reportSolved callee outcome.solved (locate .call)
  return outcome.ret

/- Report the type that a question was about. -/
def reveal (ty : Ty) (range : ByteRange) : Check Unit := do
  let s ← get
  reportAt (.revealedType (s.restoreNames ty.text))
    (← locate range)

end Check

------------------------------------------------------------
-- Targets
------------------------------------------------------------

/- The types of the parts of a target. -/
def Ty.parts (ty : Ty) (count : Nat) : List Ty :=
  match ty with
  | .tuple ts =>
      if ts.length = count then ts
      else List.replicate count ty.element
  | ty => List.replicate count ty.element

mutual

/- Define the names of a target. -/
def Check.bindTarget : Expr → Ty → Check Unit
  | .name id _, ty => define id (.value ty)
  | .tuple items _, ty =>
      bindTargets items (ty.parts items.length)
  | .list items _, ty =>
      bindTargets items
        (List.replicate items.length ty.element)
  | .starred value _, _ => bindTarget value (.list .any)
  | _, _ => return ()

/- Define the names of targets, place by place. -/
def Check.bindTargets : List Expr → List Ty → Check Unit
  | e :: es, ty :: tys => do
      bindTarget e ty
      bindTargets es tys
  | _, _ => return ()

end

------------------------------------------------------------
-- Expressions
------------------------------------------------------------

namespace Check

/- The type of a name. -/
def nameType (id : String) : Check Ty := do
  match (← get).find? id with
  | some ⟨.value ty, scopes⟩ => instantiate ty scopes
  | some ⟨.cls info, scopes⟩ => instantiate info.ctorType scopes
  | _ => return .any

/- The type of a member of a value. -/
def memberType (base : Ty) (attr : String) : Check Ty := do
  let s ← get
  let member? : Option Ty :=
    match base with
    | .generic name args =>
        (s.cls? name).bind fun c => c.member? attr args
    | .cls name =>
        (s.cls? name).bind fun c => c.member? attr []
    | _ => none
  return member?.getD .any

/- A parameter of a lambda. -/
def lambdaParam (p : String × Bool) : Parameter :=
  ⟨some p.1, .positionalOrKeyword, .any, p.2⟩

/- The scope of a lambda. -/
def lambdaScope (params : List (String × Bool)) : Scope where
  kind := .lambda
  symbols :=
    .ofPairs (params.map fun p => (p.1, .value .any))

end Check

open Check in
mutual

/- The type of an expression. -/
def Expr.infer : Expr → Check Ty
  | .literal value _ => return value.type
  | .formatted _ => return .str
  | .name id _ => nameType id
  | .member value attr _ => do
      memberType (← value.infer) attr
  | .subscript value index _ => do
      let base ← value.infer
      let _ ← index.infer
      return base.item
  | .call callee args keywords range => do
      if (← meaning callee).isForm .revealType then
        let ty ← Expr.inferFirst args
        reveal ty range
        return ty
      else
        let ty ← callee.infer
        let args' ← Expr.inferArgs args {}
        let args' ← Keyword.inferAll keywords args'
        let index := (← read).index
        let call : CallExpr := ⟨callee, args, keywords, range⟩
        runCall callee.calleeName ty args'
          (call.siteLocation index)
  | .lambda params body _ => do
      let ret ← inScope (lambdaScope params) body.infer
      return .callable (.params (params.map lambdaParam)) ret
  | .list items _ => do
      return .list (.joinOrAny (← Expr.inferAll items))
  | .set items _ => do
      return .set (.joinOrAny (← Expr.inferAll items))
  | .tuple items _ => do
      return .tuple (← Expr.inferAll items)
  | .dict keys values _ => do
      let key := Ty.joinOrAny (← Expr.inferAll keys)
      let value := Ty.joinOrAny (← Expr.inferAll values)
      return .dict key value
  | .boolean operands _ => do
      return .unionOf (← Expr.inferAll operands)
  | .negation operand _ => do
      let _ ← operand.infer
      return .bool
  | .unary operand _ => operand.infer
  | .binary left op right _ => do
      let l ← left.infer
      let r ← right.infer
      return .binary l op r
  | .compare left others _ => do
      let _ ← left.infer
      let _ ← Expr.inferAll others
      return .bool
  | .conditional test body orelse _ => do
      let _ ← test.infer
      let b ← body.infer
      let o ← orelse.infer
      return .unionOf [b, o]
  | .named target value _ => do
      let ty ← value.infer
      bindTarget target ty
      return ty
  | .starred value _ => do
      let _ ← value.infer
      return .any
  | .await value _ => do
      let _ ← value.infer
      return .any
  | .closed _ => return .any

/- The types of expressions, from left to right. -/
def Expr.inferAll : List Expr → Check (List Ty)
  | [] => return []
  | e :: es => do
      let ty ← e.infer
      return ty :: (← Expr.inferAll es)

/- The type of the first of several expressions. -/
def Expr.inferFirst : List Expr → Check Ty
  | [] => return .any
  | e :: _ => e.infer

/- The positional and unpacked arguments of a call. -/
def Expr.inferArgs : List Expr → CallArgs → Check CallArgs
  | [], args => return args
  | .starred value _ :: es, args => do
      let ty ← value.infer
      Expr.inferArgs es { args with star := args.star ++ [ty] }
  | e :: es, args => do
      let ty ← e.infer
      Expr.inferArgs es
        { args with positional := args.positional ++ [ty] }

/- The keyword arguments and unpacked mappings of a call. -/
def Keyword.inferAll : List Keyword → CallArgs → Check CallArgs
  | [], args => return args
  | ⟨name, value⟩ :: ks, args => do
      let ty ← value.infer
      match name with
      | some name =>
          Keyword.inferAll ks
            { args with
              keywords := args.keywords ++ [(name, ty)] }
      | none =>
          Keyword.inferAll ks
            { args with
              doubleStar := args.doubleStar ++ [ty] }

end

/- Look at an expression for what is wrong in it. -/
def Expr.visit (e : Expr) : Check Unit := do
  let _ ← e.infer

end SigCheck
