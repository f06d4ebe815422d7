import SigCheck.Ty.Basic

/-
  Renaming of variables in types and signatures. Unlike a
  substitution it leaves the form of the type as it is.

  Key definitions include:
    * `Ty.rename`
    * `Signature.rename`
-/

namespace SigCheck

mutual

/- Rename every variable of a type. -/
def Ty.rename (f : String → String) : Ty → Ty
  | .typeVar name => .typeVar (f name)
  | .specArgs name => .specArgs (f name)
  | .specKwargs name => .specKwargs (f name)
  | .list t => .list (t.rename f)
  | .set t => .set (t.rename f)
  | .dict k v => .dict (k.rename f) (v.rename f)
  | .tuple ts => .tuple (Ty.renameAll f ts)
  | .union ts => .union (Ty.renameAll f ts)
  | .generic name args =>
      .generic name (TypeArg.renameAll f args)
  | .callable sig ret =>
      .callable (sig.rename f) (ret.rename f)
  | .any => .any
  | .never => .never
  | .noneType => .noneType
  | .bool => .bool
  | .int => .int
  | .float => .float
  | .str => .str
  | .bytes => .bytes
  | .object => .object
  | .cls name => .cls name

/- Rename the variables in a list of types. -/
def Ty.renameAll (f : String → String) : List Ty → List Ty
  | [] => []
  | t :: ts => t.rename f :: Ty.renameAll f ts

/- Rename the variables in a class argument. -/
def TypeArg.rename (f : String → String) : TypeArg → TypeArg
  | .type t => .type (t.rename f)
  | .params sig => .params (sig.rename f)

/- Rename the variables in a list of class arguments. -/
def TypeArg.renameAll
    (f : String → String) : List TypeArg → List TypeArg
  | [] => []
  | a :: args => a.rename f :: TypeArg.renameAll f args

/- Rename the variables in the type of a parameter. -/
def Parameter.rename
    (f : String → String) : Parameter → Parameter
  | ⟨name, kind, ty, hasDefault⟩ =>
      ⟨name, kind, ty.rename f, hasDefault⟩

/- Rename the variables in a parameter list. -/
def Parameter.renameAll
    (f : String → String) : List Parameter → List Parameter
  | [] => []
  | p :: ps => p.rename f :: Parameter.renameAll f ps

/- Rename the variables in a signature. -/
def Signature.rename
    (f : String → String) : Signature → Signature
  | .gradual => .gradual
  | .params ps => .params (Parameter.renameAll f ps)
  | .spec lead var => .spec (Parameter.renameAll f lead) (f var)

end

end SigCheck
