import SigCheck.Table
import SigCheck.Ty.Union

/-
  Replacing solved variables in types and signatures.

  Key definitions include:
    * `Substitution`
    * `Ty.replaceVars`
    * `Ty.substitute`
    * `Signature.behindLead`
-/

namespace SigCheck

/- Solved type variables and parameter specifications. -/
structure Substitution where
  types : Table Ty := ∅
  specs : Table Signature := ∅
  deriving Inhabited

namespace Substitution

/- No variable is solved. -/
def isEmpty (subst : Substitution) : Bool :=
  subst.types.isEmpty && subst.specs.isEmpty

/- Solve one type variable. -/
def setType
    (subst : Substitution)
    (name : String)
    (ty : Ty) : Substitution :=
  { subst with types := subst.types.insert name ty }

/- Solve one parameter specification variable. -/
def setSpec
    (subst : Substitution)
    (name : String)
    (sig : Signature) : Substitution :=
  { subst with specs := subst.specs.insert name sig }

end Substitution

------------------------------------------------------------
-- Signatures behind Leading Parameters
------------------------------------------------------------

/-
  A signature placed behind leading parameters. The gradual
  list then becomes variadic parameters of type `Any`.
-/
def Signature.behindLead
    (lead : List Parameter) : Signature → Signature
  | .params ps => .params (lead ++ ps)
  | .spec inner var => .spec (lead ++ inner) var
  | .gradual =>
      match lead with
      | [] => .gradual
      | lead =>
          .params
            (lead
              ++ [.named "args" .varPositional .any,
                .named "kwargs" .varKeyword .any])

------------------------------------------------------------
-- Replacement
------------------------------------------------------------

mutual

/- Replace every solved variable in a type. -/
def Ty.replaceVars (subst : Substitution) : Ty → Ty
  | .typeVar name =>
      (subst.types.find? name).getD (.typeVar name)
  | .list t => .list (t.replaceVars subst)
  | .set t => .set (t.replaceVars subst)
  | .dict k v =>
      .dict (k.replaceVars subst) (v.replaceVars subst)
  | .tuple ts => .tuple (Ty.replaceVarsAll subst ts)
  | .union ts => Ty.unionOf (Ty.replaceVarsAll subst ts)
  | .generic name args =>
      .generic name (TypeArg.replaceVarsAll subst args)
  | .callable sig ret =>
      .callable (sig.replaceVars subst)
        (ret.replaceVars subst)
  | .any => .any
  | .never => .never
  | .noneType => .noneType
  | .bool => .bool
  | .int => .int
  | .float => .float
  | .str => .str
  | .bytes => .bytes
  | .object => .object
  | .cls name => .cls name
  | .specArgs name => .specArgs name
  | .specKwargs name => .specKwargs name

/- Replace the variables in a list of types. -/
def Ty.replaceVarsAll
    (subst : Substitution) : List Ty → List Ty
  | [] => []
  | t :: ts =>
      t.replaceVars subst :: Ty.replaceVarsAll subst ts

/- Replace the variables in a class argument. -/
def TypeArg.replaceVars
    (subst : Substitution) : TypeArg → TypeArg
  | .type t => .type (t.replaceVars subst)
  | .params sig => .params (sig.replaceVars subst)

/- Replace the variables in a list of class arguments. -/
def TypeArg.replaceVarsAll
    (subst : Substitution) : List TypeArg → List TypeArg
  | [] => []
  | a :: args =>
      a.replaceVars subst
        :: TypeArg.replaceVarsAll subst args

/- Replace the variables in the type of a parameter. -/
def Parameter.replaceVars
    (subst : Substitution) : Parameter → Parameter
  | ⟨name, kind, ty, hasDefault⟩ =>
      ⟨name, kind, ty.replaceVars subst, hasDefault⟩

/- Replace the variables in a parameter list. -/
def Parameter.replaceVarsAll
    (subst : Substitution) :
    List Parameter → List Parameter
  | [] => []
  | p :: ps =>
      p.replaceVars subst
        :: Parameter.replaceVarsAll subst ps

/-
  Replace the variables in a signature. What the variable of
  a signature is solved to follows the leading parameters.
-/
def Signature.replaceVars
    (subst : Substitution) : Signature → Signature
  | .gradual => .gradual
  | .params ps => .params (Parameter.replaceVarsAll subst ps)
  | .spec lead var =>
      let lead := Parameter.replaceVarsAll subst lead
      match subst.specs.find? var with
      | none => .spec lead var
      | some sig => sig.behindLead lead

end

namespace Ty

/-
  Replace solved variables. Without any there is nothing to
  do, and unions keep the form in which they stand.
-/
def substitute
    (t : Ty)
    (subst : Substitution) : Ty :=
  if subst.isEmpty then t else t.replaceVars subst

end Ty

/- Replace solved variables in a signature. -/
def Signature.substitute
    (sig : Signature)
    (subst : Substitution) : Signature :=
  if subst.isEmpty then sig else sig.replaceVars subst

end SigCheck
