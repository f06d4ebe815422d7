import SigCheck.Symbol.Basic
import SigCheck.TypeExpr.Basic

/-
  What paths in annotations refer to, given what names mean.

  Key definitions include:
    * `Meaning`, `Symbol.meaning`
    * `NameEnv`, `NameEnv.meaning`
    * `Projection`
    * `NameEnv.projection?`
    * `NameEnv.undeclaredOwner?`
-/

namespace SigCheck

------------------------------------------------------------
-- Meanings
------------------------------------------------------------

/- What a name or path in an annotation refers to. -/
inductive Meaning where
  | paramSpec (name : String)
  | typeVar (name : String)
  | cls (info : ClassInfo)
  | special (form : SpecialForm)
  | value (ty : Ty)
  | unknown

namespace Meaning

/- The special form, if the meaning is one. -/
def special? : Meaning → Option SpecialForm
  | special form => some form
  | _ => none

/- The variable, if the meaning is a parameter specification. -/
def paramSpec? : Meaning → Option String
  | paramSpec name => some name
  | _ => none

/- Nothing is known. -/
def isUnknown : Meaning → Bool
  | unknown => true
  | _ => false

/- A special form, or nothing known. -/
def ofForm (form : Option SpecialForm) : Meaning :=
  match form with
  | some form => special form
  | none => unknown

/- The meaning has the given special form. -/
def isForm (m : Meaning) (form : SpecialForm) : Bool :=
  m.special? == some form

end Meaning

/- What a symbol means in an annotation. -/
def Symbol.meaning : Symbol → Meaning
  | .paramSpec decl => .paramSpec decl.name
  | .typeVar decl => .typeVar decl.name
  | .cls info => .cls info
  | .special form => .special form
  | .value ty => .value ty

------------------------------------------------------------
-- Environments
------------------------------------------------------------

/- What each name means. -/
abbrev NameEnv := String → Meaning

namespace NameEnv

/-
  Names mean what they were defined to be, and built-in
  names their special forms.
-/
def ofLookup (lookup : String → Option Symbol) : NameEnv :=
  fun name =>
    match lookup name with
    | some symbol => symbol.meaning
    | none => .ofForm (SpecialForm.ofBuiltin? name)

/-
  What a path means. Only the modules with special forms
  have members that mean something.
-/
def meaning (names : NameEnv) : NamePath → Meaning
  | .name id => names id
  | .member owner attr =>
      match names.meaning owner with
      | .special .typingModule =>
          .ofForm (SpecialForm.ofTyping? attr)
      | .special .functoolsModule =>
          .ofForm (SpecialForm.ofFunctools? attr)
      | _ => .unknown

/- What something means that may be no path. -/
def meaningOf
    (names : NameEnv)
    (path : Option NamePath) : Meaning :=
  match path with
  | some p => names.meaning p
  | none => .unknown

end NameEnv

------------------------------------------------------------
-- Projections
------------------------------------------------------------

/- The two components of a parameter specification. -/
inductive ProjectionKind where
  | args
  | kwargs
  deriving DecidableEq, Repr

/- The component under a member name. -/
def ProjectionKind.ofAttr? : String → Option ProjectionKind
  | "args" => some .args
  | "kwargs" => some .kwargs
  | _ => none

/- The member name of a component. -/
def ProjectionKind.attr : ProjectionKind → String
  | .args => "args"
  | .kwargs => "kwargs"

/- A component of a declared parameter specification. -/
structure Projection where
  var : String
  kind : ProjectionKind
  deriving DecidableEq, Repr

/- How the user writes a projection. -/
def Projection.label (p : Projection) : String :=
  p.var ++ "." ++ p.kind.attr

namespace NameEnv

/- The projection that a path is, if it is one. -/
def projection?
    (names : NameEnv) : NamePath → Option Projection
  | .member owner attr => do
      let kind ← ProjectionKind.ofAttr? attr
      let var ← (names.meaning owner).paramSpec?
      return ⟨var, kind⟩
  | .name _ => none

/-
  The name before the dot of what looks like a projection
  of a name that means nothing.
-/
def undeclaredOwner?
    (names : NameEnv) : NamePath → Option String
  | .member (.name id) attr =>
      if (ProjectionKind.ofAttr? attr).isSome
          && (names id).isUnknown then some id
      else none
  | _ => none

end NameEnv

end SigCheck
