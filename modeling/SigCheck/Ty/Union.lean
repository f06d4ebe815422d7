import SigCheck.Ty.Subtyping

/-
  Unions in normal form: flat, without `Never`, swallowed by
  `Any`, and without a member that another member covers.

  Key definitions include:
    * `Ty.flatten`
    * `Ty.addMember`
    * `Ty.unionOf`
-/

namespace SigCheck

namespace Ty

/- The members that a type brings into a union. -/
def flatten : Ty → List Ty
  | .union members => members
  | .never => []
  | ty => [ty]

/-
  Add a member unless it is covered, and drop those that it
  covers.
-/
def addMember
    (members : List Ty)
    (ty : Ty) : List Ty :=
  if members.any (ty.isSubtype ·) then members
  else members.filter (fun t => !t.isSubtype ty) ++ [ty]

/- The type of a list of members that none other covers. -/
def ofMembers : List Ty → Ty
  | [] => .never
  | [ty] => ty
  | members => .union members

/- The union of a list of types. -/
def unionOf (types : List Ty) : Ty :=
  let members := types.flatMap flatten
  if members.any isAny then .any
  else ofMembers (members.foldl addMember [])

end Ty

end SigCheck
