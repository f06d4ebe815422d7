import SigCheck.Ty.Basic

/-
  The variables that a type mentions, in the order of their
  first mention.

  Key definitions include:
    * `VarName`
    * `Ty.mentions`
    * `Ty.typeVars`, `Ty.specVars`
-/

namespace SigCheck

/- A type variable or a parameter specification variable. -/
inductive VarName where
  | type (name : String)
  | spec (name : String)
  deriving DecidableEq, Repr

namespace VarName

/- The name of a type variable. -/
def type? : VarName → Option String
  | .type name => some name
  | .spec _ => none

/- The name of a parameter specification variable. -/
def spec? : VarName → Option String
  | .type _ => none
  | .spec name => some name

end VarName

------------------------------------------------------------
-- Mentions
------------------------------------------------------------

mutual

/- Every mention of a variable, from left to right. -/
def Ty.mentions : Ty → List VarName
  | .typeVar name => [.type name]
  | .list t => t.mentions
  | .set t => t.mentions
  | .dict k v => k.mentions ++ v.mentions
  | .tuple ts => Ty.mentionsAll ts
  | .union ts => Ty.mentionsAll ts
  | .generic _ args => TypeArg.mentionsAll args
  | .callable sig ret => sig.mentions ++ ret.mentions
  | _ => []

/- The mentions in a list of types. -/
def Ty.mentionsAll : List Ty → List VarName
  | [] => []
  | t :: ts => t.mentions ++ Ty.mentionsAll ts

/- The mentions in a class argument. -/
def TypeArg.mentions : TypeArg → List VarName
  | .type t => t.mentions
  | .params sig => sig.mentions

/- The mentions in a list of class arguments. -/
def TypeArg.mentionsAll : List TypeArg → List VarName
  | [] => []
  | a :: args => a.mentions ++ TypeArg.mentionsAll args

/- The mentions in the type of a parameter. -/
def Parameter.mentions : Parameter → List VarName
  | ⟨_, _, ty, _⟩ => ty.mentions

/- The mentions in a parameter list. -/
def Parameter.mentionsAll : List Parameter → List VarName
  | [] => []
  | p :: ps => p.mentions ++ Parameter.mentionsAll ps

/- The variable of a signature comes before its parameters. -/
def Signature.mentions : Signature → List VarName
  | .params ps => Parameter.mentionsAll ps
  | .spec lead var =>
      .spec var :: Parameter.mentionsAll lead
  | .gradual => []

end

------------------------------------------------------------
-- Names
------------------------------------------------------------

namespace Ty

/- The type variables of a type, each once. -/
def typeVars (t : Ty) : List String :=
  (t.mentions.filterMap VarName.type?).eraseDups

/- The parameter specification variables, each once. -/
def specVars (t : Ty) : List String :=
  (t.mentions.filterMap VarName.spec?).eraseDups

end Ty

end SigCheck
