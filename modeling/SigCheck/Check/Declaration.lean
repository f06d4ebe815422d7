import SigCheck.Diagnostic.Basic
import SigCheck.TypeExpr.Resolution

/-
  Declarations of variables: a call of `ParamSpec` or
  `TypeVar` that is assigned to a name. A faulty declaration
  with a name still declares it, so that its uses are not
  reported on top.

  Key definitions include:
    * `CallExpr`, `Expr.call?`
    * `Declaration`
    * `Declaration.specDecl`, `Declaration.specErrors`
    * `Declaration.typeVarDecl`
-/

namespace SigCheck

------------------------------------------------------------
-- Calls and Literals
------------------------------------------------------------

/- A call as it is written. -/
structure CallExpr where
  callee : Expr
  args : List Expr
  keywords : List Keyword
  range : ByteRange

/- The call that an expression is, if it is one. -/
def Expr.call? : Expr → Option CallExpr
  | .call callee args keywords range =>
      some ⟨callee, args, keywords, range⟩
  | _ => none

/- The value of a string literal. -/
def Expr.string? : Expr → Option String
  | .literal (.str text) _ => some text
  | _ => none

/- The value of a truth literal. -/
def Expr.bool? : Expr → Option Bool
  | .literal (.bool value) _ => some value
  | _ => none

/- The name that an expression is, if it is one. -/
def Expr.name? : Expr → Option String
  | .name id _ => some id
  | _ => none

/- The only target of an assignment, if it is a name. -/
def singleName? : List Expr → Option String
  | [target] => target.name?
  | _ => none

------------------------------------------------------------
-- Declarations
------------------------------------------------------------

/- A call that is assigned, and what its parts mean. -/
structure Declaration where
  names : NameEnv
  index : LineIndex
  targets : List Expr
  call : CallExpr
  matching : Bool := true

namespace Declaration

/- A fault of a declaration at a stretch. -/
def fault
    (d : Declaration)
    (reason : String)
    (range : ByteRange) : Diagnostic where
  cause := .invalidDeclaration reason
  location := d.index.location range

/- The type of a keyword argument. -/
def resolve (d : Declaration) (e : Expr) : Ty :=
  e.typeExpr.resolve d.names

/- The value of the keyword argument of a name. -/
def keyword? (d : Declaration) (name : String) : Option Expr :=
  (d.call.keywords.find? (·.name == some name)).map (·.value)

/- The bound of the declared variable. -/
def bound (d : Declaration) : Option Ty :=
  (d.keyword? "bound").map d.resolve

/- The marker of a name; it is off unless set. -/
def marker (d : Declaration) (name : String) : Bool :=
  ((d.keyword? name).bind Expr.bool?).getD false

/- The variance of the declared variable. -/
def variance? (d : Declaration) : Option Variance :=
  Variance.ofFlags? (d.marker "covariant")
    (d.marker "contravariant")

/- A declared name that differs from its variable. -/
def mismatch
    (d : Declaration)
    (target literal : String)
    (range : ByteRange) : Diagnostic :=
  (d.fault
    ("name '" ++ literal ++ "' does not match the variable '"
      ++ target ++ "' it is assigned to") range).suggest
    ("Use " ++ target ++ " = ParamSpec(\"" ++ target ++ "\")")

/- What is wrong with the name that is passed. -/
def nameErrors
    (d : Declaration)
    (target : String)
    (first : Expr) : List Diagnostic :=
  match first.string? with
  | none =>
      [d.fault
        ("the name passed to ParamSpec() must be "
          ++ "a string literal") first.range]
  | some literal =>
      if literal != target && d.matching then
        [d.mismatch target literal first.range]
      else []

/- What is wrong with the positional arguments. -/
def positionalErrors
    (d : Declaration)
    (target : String) : List Diagnostic :=
  match d.call.args with
  | [] =>
      [d.fault
        ("ParamSpec() requires its name as the first "
          ++ "argument") d.call.range]
  | first :: rest =>
      d.nameErrors target first
        ++ (rest.head?.toList.map fun extra =>
          d.fault
            "ParamSpec() takes a single positional argument"
            extra.range)

/- What is wrong with a keyword argument. -/
def keywordErrors
    (d : Declaration)
    (k : Keyword) : List Diagnostic :=
  match k.name with
  | none =>
      [d.fault "ParamSpec() does not accept '**' arguments"
        k.value.range]
  | some name =>
      if name == "bound" then []
      else if name == "covariant"
          || name == "contravariant" then
        if k.value.bool?.isSome then []
        else
          [d.fault
            ("'" ++ name
              ++ "' must be a literal True or False")
            k.value.range]
      else
        [d.fault
          ("unexpected keyword argument '" ++ name ++ "'")
          k.value.range]

/- What is wrong with the two markers together. -/
def varianceErrors (d : Declaration) : List Diagnostic :=
  match d.variance? with
  | some _ => []
  | none =>
      [d.fault
        ("a ParamSpec cannot be both covariant and "
          ++ "contravariant") d.call.range]

/- What is wrong with a declaration without one name. -/
def targetError
    (d : Declaration)
    (range : ByteRange) : Diagnostic :=
  d.fault
    "a ParamSpec must be assigned to a single plain name"
    range

/- What is wrong with a parameter specification. -/
def specErrors (d : Declaration) : List Diagnostic :=
  match singleName? d.targets with
  | none => [d.targetError d.call.range]
  | some target =>
      d.positionalErrors target
        ++ d.call.keywords.flatMap d.keywordErrors
        ++ d.varianceErrors

/- The parameter specification that is declared. -/
def specDecl (d : Declaration) : Option SpecDecl :=
  (singleName? d.targets).map fun target =>
    { name := target
      bound := d.bound
      variance := d.variance?.getD .invariant
      location := d.index.location d.call.range }

/- The type variable that is declared. -/
def typeVarDecl (d : Declaration) : Option TypeVarDecl :=
  (singleName? d.targets).map fun target =>
    { name := target
      constraints := d.call.args.tail.map d.resolve
      bound := d.bound
      variance := d.variance?.getD .invariant }

end Declaration

end SigCheck
