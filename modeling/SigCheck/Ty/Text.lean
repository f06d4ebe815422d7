import SigCheck.Ty.Basic

/-
  The text of types and signatures, as messages show them.

  Key definitions include:
    * `Ty.text`
    * `Signature.text`
    * `ParameterText.layOut`
-/

namespace SigCheck

------------------------------------------------------------
-- Parameter Lists
------------------------------------------------------------

namespace ParameterText

/- The mark of a parameter that may be left out. -/
def defaultMark (p : Parameter) : String :=
  if p.hasDefault then " = ..." else ""

/- One parameter, given the text of its type. -/
def entry (p : Parameter) (ty : String) : String :=
  match p.kind, p.name with
  | .positionalOnly, none => ty ++ defaultMark p
  | .varPositional, name =>
      "*" ++ name.getD "args" ++ ": " ++ ty
  | .varKeyword, name =>
      "**" ++ name.getD "kwargs" ++ ": " ++ ty
  | _, name => name.getD "_" ++ ": " ++ ty ++ defaultMark p

/- A positional-only parameter that shows its name. -/
def isNamedOnly (p : Parameter) : Bool :=
  p.kind == .positionalOnly && p.name.isSome

/- A keyword-only parameter that shows its name. -/
def isNamedKeyword (p : Parameter) : Bool :=
  p.kind == .keywordOnly && p.name.isSome

/-
  The entries with their marks: a star before the first
  keyword-only name unless one stands already, and a slash
  behind the last positional-only name.
-/
def layOut (starred : Bool) :
    List (Parameter × String) → List String
  | [] => []
  | (p, ty) :: rest =>
      let opens := isNamedKeyword p && !starred
      let closes :=
        isNamedOnly p
          && !rest.any fun (q, _) => isNamedOnly q
      (if opens then ["*"] else [])
        ++ [entry p ty]
        ++ (if closes then ["/"] else [])
        ++ layOut (starred || opens) rest

/- A parameter list, given the texts of its types. -/
def ofTypes
    (ps : List Parameter)
    (types : List String) : String :=
  let starred := ps.any (·.kind == .varPositional)
  ", ".intercalate (layOut starred (ps.zip types))

end ParameterText

------------------------------------------------------------
-- Types
------------------------------------------------------------

mutual

/- The text of a type. -/
def Ty.text : Ty → String
  | .any => "Any"
  | .never => "Never"
  | .noneType => "None"
  | .bool => "bool"
  | .int => "int"
  | .float => "float"
  | .str => "str"
  | .bytes => "bytes"
  | .object => "object"
  | .list t => "list[" ++ t.text ++ "]"
  | .set t => "set[" ++ t.text ++ "]"
  | .dict k v => "dict[" ++ k.text ++ ", " ++ v.text ++ "]"
  | .tuple [] => "tuple[()]"
  | .tuple ts =>
      "tuple[" ++ ", ".intercalate (Ty.texts ts) ++ "]"
  | .union ts => " | ".intercalate (Ty.texts ts)
  | .cls name => name
  | .generic name args =>
      name ++ "["
        ++ ", ".intercalate (TypeArg.texts args) ++ "]"
  | .callable sig ret => sig.text ++ " -> " ++ ret.text
  | .typeVar name => name
  | .specArgs name => name ++ ".args"
  | .specKwargs name => name ++ ".kwargs"

/- The texts of a list of types. -/
def Ty.texts : List Ty → List String
  | [] => []
  | t :: ts => t.text :: Ty.texts ts

/- The text of a class argument. -/
def TypeArg.text : TypeArg → String
  | .type t => t.text
  | .params sig => sig.text

/- The texts of a list of class arguments. -/
def TypeArg.texts : List TypeArg → List String
  | [] => []
  | a :: args => a.text :: TypeArg.texts args

/- The text of the type of a parameter. -/
def Parameter.typeText : Parameter → String
  | ⟨_, _, ty, _⟩ => ty.text

/- The texts of the types in a parameter list. -/
def Parameter.typeTexts : List Parameter → List String
  | [] => []
  | p :: ps => p.typeText :: Parameter.typeTexts ps

/- The text of a signature. -/
def Signature.text : Signature → String
  | .gradual => "(...)"
  | .params ps =>
      "(" ++ ParameterText.ofTypes ps (Parameter.typeTexts ps)
        ++ ")"
  | .spec [] var => "(**" ++ var ++ ")"
  | .spec lead var =>
      "("
        ++ ParameterText.ofTypes lead
          (Parameter.typeTexts lead)
        ++ ", **" ++ var ++ ")"

end

end SigCheck
