import SigCheck.Source.Location
import SigCheck.Ty.Substitution

/-
  What a name may stand for: declared variables, classes,
  special forms of the typing vocabulary, and values.

  Key definitions include:
    * `Variance`
    * `SpecDecl`, `TypeVarDecl`
    * `ClassInfo`, `ClassInfo.member?`
    * `SpecialForm`
    * `Symbol`
    * `SymbolTable`, the symbols at module level
-/

namespace SigCheck

------------------------------------------------------------
-- Declared Variables
------------------------------------------------------------

/- How a class varies with one of its type arguments. -/
inductive Variance where
  | covariant
  | contravariant
  | invariant
  deriving DecidableEq, Repr, Inhabited

namespace Variance

/-
  The variance given by the two markers of a declaration.
  Both at once have no meaning.
-/
def ofFlags? : Bool → Bool → Option Variance
  | true, true => none
  | true, false => some covariant
  | false, true => some contravariant
  | false, false => some invariant

/- The word for a variance. -/
def text : Variance → String
  | covariant => "covariant"
  | contravariant => "contravariant"
  | invariant => "invariant"

end Variance

/- A declared parameter specification variable. -/
structure SpecDecl where
  name : String
  bound : Option Ty := none
  variance : Variance := .invariant
  location : Location := .unknown
  deriving DecidableEq

/- A declared type variable. -/
structure TypeVarDecl where
  name : String
  constraints : List Ty := []
  bound : Option Ty := none
  variance : Variance := .invariant
  deriving DecidableEq

------------------------------------------------------------
-- Classes
------------------------------------------------------------

/- What a type parameter of a class ranges over. -/
inductive TypeParamKind where
  | typeVar
  | paramSpec
  deriving DecidableEq, Repr

/- A type parameter of a class. -/
structure TypeParam where
  name : String
  kind : TypeParamKind
  deriving DecidableEq, Repr

namespace TypeParam

/- The parameter as an argument of its own class. -/
def toArg (p : TypeParam) : TypeArg :=
  match p.kind with
  | .typeVar => .type (.typeVar p.name)
  | .paramSpec => .params (.ofVar p.name)

end TypeParam

/-
  A class: its type parameters, the parameters of its
  constructor without the receiver, and its members as seen
  through an instance.
-/
structure ClassInfo where
  name : String
  typeParams : List TypeParam := []
  ctor : Option Signature := none
  members : Table Ty := ∅

namespace ClassInfo

/- The class has type parameters. -/
def isGeneric (c : ClassInfo) : Bool :=
  !c.typeParams.isEmpty

/- The type of an instance inside the class body. -/
def instanceType (c : ClassInfo) : Ty :=
  if c.isGeneric then
    .generic c.name (c.typeParams.map TypeParam.toArg)
  else .cls c.name

/- The type of the class itself as a callee. -/
def ctorType (c : ClassInfo) : Ty :=
  .callable (c.ctor.getD .gradual) c.instanceType

/- Solve a type parameter by a class argument. -/
def bindParam
    (subst : Substitution)
    (pair : TypeParam × TypeArg) : Substitution :=
  match pair.2 with
  | .type t => subst.setType pair.1.name t
  | .params sig => subst.setSpec pair.1.name sig

/- The type parameters solved by the arguments at their places. -/
def bindArgs
    (c : ClassInfo)
    (args : List TypeArg) : Substitution :=
  (c.typeParams.zip args).foldl bindParam {}

/- The type of a member of an instance with given arguments. -/
def member?
    (c : ClassInfo)
    (name : String)
    (args : List TypeArg) : Option Ty :=
  (c.members.find? name).map (·.substitute (c.bindArgs args))

end ClassInfo

------------------------------------------------------------
-- Special Forms
------------------------------------------------------------

/- The names to which the checker gives a meaning of its own. -/
inductive SpecialForm where
  | paramSpec
  | typeVar
  | callable
  | generic
  | protocol
  | any
  | optional
  | union
  | list
  | dict
  | tuple
  | set
  | revealType
  | wraps
  | staticMethod
  | classMethod
  | property
  | typingModule
  | functoolsModule
  deriving DecidableEq, Repr

namespace SpecialForm

/- The form that the typing vocabulary has under a name. -/
def ofTyping? : String → Option SpecialForm
  | "ParamSpec" => some paramSpec
  | "TypeVar" => some typeVar
  | "Callable" => some callable
  | "Generic" => some generic
  | "Protocol" => some protocol
  | "Any" => some any
  | "Optional" => some optional
  | "Union" => some union
  | "List" => some list
  | "Dict" => some dict
  | "Tuple" => some tuple
  | "Set" => some set
  | "reveal_type" => some revealType
  | _ => none

/- The form that the function tools have under a name. -/
def ofFunctools? : String → Option SpecialForm
  | "wraps" => some wraps
  | _ => none

/-
  The form that a name has without an import: a built-in
  name, or one of the typing vocabulary.
-/
def ofBuiltin? : String → Option SpecialForm
  | "list" => some list
  | "dict" => some dict
  | "tuple" => some tuple
  | "set" => some set
  | "staticmethod" => some staticMethod
  | "classmethod" => some classMethod
  | "property" => some property
  | name => ofTyping? name

/-
  As a decorator the form leaves the type of the function
  alone.
-/
def isTransparentDecorator : SpecialForm → Bool
  | staticMethod => true
  | classMethod => true
  | property => true
  | wraps => true
  | _ => false

end SpecialForm

------------------------------------------------------------
-- Symbols
------------------------------------------------------------

/- What a name stands for. -/
inductive Symbol where
  | typeVar (decl : TypeVarDecl)
  | paramSpec (decl : SpecDecl)
  | cls (info : ClassInfo)
  | special (form : SpecialForm)
  | value (ty : Ty)

namespace Symbol

/- The declaration, if the symbol is a parameter specification. -/
def paramSpec? : Symbol → Option SpecDecl
  | .paramSpec decl => some decl
  | _ => none

/- The declaration, if the symbol is a type variable. -/
def typeVar? : Symbol → Option TypeVarDecl
  | .typeVar decl => some decl
  | _ => none

/- The class, if the symbol is one. -/
def cls? : Symbol → Option ClassInfo
  | .cls info => some info
  | _ => none

end Symbol

/- The symbols at module level. -/
abbrev SymbolTable := Table Symbol

namespace SymbolTable

/- The parameter specification of a name. -/
def paramSpec?
    (m : SymbolTable)
    (name : String) : Option SpecDecl :=
  (m.find? name).bind Symbol.paramSpec?

/- The type variable of a name. -/
def typeVar?
    (m : SymbolTable)
    (name : String) : Option TypeVarDecl :=
  (m.find? name).bind Symbol.typeVar?

/- The class of a name. -/
def cls?
    (m : SymbolTable)
    (name : String) : Option ClassInfo :=
  (m.find? name).bind Symbol.cls?

/- The declared parameter specifications, sorted by name. -/
def specNames (m : SymbolTable) : List String :=
  (m.entries.filterMap fun (name, symbol) =>
    symbol.paramSpec?.map fun _ => name).mergeSort
      fun a b => a ≤ b

end SymbolTable

end SigCheck
