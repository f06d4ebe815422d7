import SigCheck.Diagnostic.Basic
import SigCheck.Ty.Text
import SigCheck.TypeExpr.Resolution

/-
  Where a parameter specification may stand in an annotation:
  as the whole parameter list of a callable, and as an
  argument of a class in a place declared for one. Its
  projections annotate parameters only.

  Key definitions include:
    * `Position`, `Slot`, `Slot.context?`
    * `UseSite.misplacedProjection`, `UseSite.misplacedSpec`
    * `UseSite.walk`
    * `TypeExpr.useSiteErrors`
-/

namespace SigCheck

------------------------------------------------------------
-- Slots
------------------------------------------------------------

/- What an annotation as a whole annotates. -/
inductive Position where
  | parameter
  | ret
  | variable
  | classBase
  deriving DecidableEq, Repr, Inhabited

/- The place of a part of an annotation. -/
inductive Slot where
  | topLevel (position : Position)
  | callableParam
  | callableReturn
  | container (name : String)
  | typeVarArg (target : String) (param : String)
  | unchecked
  deriving DecidableEq, Repr

namespace Slot

/-
  How a message names the place in which a parameter
  specification does not belong. In an unchecked place
  anything may stand.
-/
def context? : Slot → Option String
  | topLevel .parameter =>
      some "as a standalone type in a parameter annotation"
  | topLevel .ret => some "as a return type"
  | topLevel .variable => some "as a variable annotation"
  | topLevel .classBase => some "as a base class"
  | callableParam =>
      some
        ("inside the parameter list of Callable; "
          ++ "write Callable[P, R] instead")
  | callableReturn => some "as the return type of Callable"
  | container name => some ("inside " ++ name)
  | typeVarArg target param =>
      some
        ("in place of TypeVar '" ++ param ++ "' of '"
          ++ target ++ "'")
  | unchecked => none

/-
  What is wrong with a projection in a place. Only a
  parameter takes one.
-/
def projectionFault? (label : String) : Slot → Option String
  | topLevel .parameter => none
  | topLevel .ret =>
      some ("'" ++ label ++ "' cannot annotate a return value")
  | topLevel .variable =>
      some ("'" ++ label ++ "' cannot annotate a variable")
  | topLevel .classBase =>
      some
        ("'" ++ label ++ "' cannot be used as a base class")
  | _ =>
      some
        ("'" ++ label
          ++ "' cannot be wrapped inside another type")

end Slot

------------------------------------------------------------
-- Walking
------------------------------------------------------------

/-
  What a walk is about: the meaning of names, the text of
  the source, and the outermost string literal around the
  part that is looked at.
-/
structure UseSite where
  names : NameEnv
  index : LineIndex
  outer : Option ByteRange := none

namespace UseSite

/- The location of a stretch in the source. -/
def location (site : UseSite) (range : ByteRange) : Location :=
  match site.outer with
  | some outer => site.index.relocate range outer
  | none => site.index.location range

/- Go into a string literal. -/
def enter (site : UseSite) (range : ByteRange) : UseSite :=
  { site with outer := some (site.outer.getD range) }

/- One diagnostic at a stretch. -/
def report
    (site : UseSite)
    (cause : Cause)
    (range : ByteRange) : List Diagnostic :=
  [{ cause := cause, location := site.location range }]

/- Wrong arguments of a form or class. -/
def badArguments
    (site : UseSite)
    (target reason : String)
    (range : ByteRange) : List Diagnostic :=
  site.report (.invalidTypeArguments target reason) range

/- A literal that is no expression. -/
def unreadable
    (site : UseSite)
    (fault : ParseError)
    (range : ByteRange) : List Diagnostic :=
  site.report
    (.syntaxError
      ("invalid string annotation: " ++ fault.message))
    range

/- A projection in a place that takes none. -/
def misplacedProjection
    (site : UseSite)
    (slot : Slot)
    (p : Projection)
    (range : ByteRange) : List Diagnostic :=
  match slot.projectionFault? p.label with
  | some reason => site.report (.invalidProjection reason) range
  | none => []

/- A parameter specification in a place that takes none. -/
def misplacedSpec
    (site : UseSite)
    (slot : Slot)
    (var : String)
    (range : ByteRange) : List Diagnostic :=
  match slot.context? with
  | some context =>
      site.report (.invalidUseSite var context) range
  | none => []

/- What is wrong with a path in a place. -/
def path
    (site : UseSite)
    (slot : Slot)
    (p : NamePath)
    (range : ByteRange) : List Diagnostic :=
  match site.names.projection? p with
  | some projection =>
      site.misplacedProjection slot projection range
  | none =>
      match (site.names.meaning p).paramSpec? with
      | some var => site.misplacedSpec slot var range
      | none => []

/- What is wrong with what may be a path in a place. -/
def place
    (site : UseSite)
    (slot : Slot)
    (t : TypeExpr) : List Diagnostic :=
  match t.path? with
  | some p => site.path slot p t.range
  | none => []

/- The parameter list of a callable that is no list. -/
def badParams
    (site : UseSite)
    (params : TypeExpr) : List Diagnostic :=
  site.badArguments "Callable"
    ("the parameter slot must be a list of types, '...' "
      ++ "or a ParamSpec, not '"
      ++ (params.resolve site.names).text ++ "'")
    params.range

/-
  What is no list in the place of the parameter list of a
  callable. A projection has a message of its own.
-/
def specParams
    (site : UseSite)
    (params : TypeExpr) : List Diagnostic :=
  if (site.names.meaningOf params.path?).paramSpec?.isSome then
    []
  else if (params.path?.bind site.names.projection?).isSome then
    site.place .callableParam params
  else site.badParams params

/- A callable without exactly a list and a result. -/
def badCallable
    (site : UseSite)
    (range : ByteRange) : List Diagnostic :=
  site.badArguments "Callable"
    ("expected a parameter list, '...' or a ParamSpec, "
      ++ "followed by a return type")
    range

/- An argument that should be a parameter specification. -/
def specPath
    (site : UseSite)
    (target param : String)
    (arg : TypeExpr) : List Diagnostic :=
  if (site.names.meaningOf arg.path?).paramSpec?.isSome then []
  else site.badArguments target
    ("expected a ParamSpec or '...' for '" ++ param
      ++ "', found '" ++ (arg.resolve site.names).text
      ++ "'")
    arg.range

/- A parameter list as an argument of a class. -/
def listAsSpec
    (site : UseSite)
    (target param : String)
    (range : ByteRange) : List Diagnostic :=
  site.badArguments target
    ("an explicit parameter list cannot stand in for "
      ++ "ParamSpec '" ++ param
      ++ "'; pass a ParamSpec or '...'")
    range

/- An argument in the place of a parameter specification. -/
def specArg
    (site : UseSite)
    (target param : String) :
    TypeExpr → List Diagnostic
  | .ellipsis _ => []
  | .quoted body range =>
      (site.enter range).specArg target param body
  | .list _ range => site.listAsSpec target param range
  | arg => site.specPath target param arg

/- A wrong number of arguments of a class. -/
def badCount
    (site : UseSite)
    (info : ClassInfo)
    (found : Nat)
    (range : ByteRange) : List Diagnostic :=
  let expected := info.typeParams.length
  let ending := if expected == 1 then "" else "s"
  site.badArguments info.name
    (s!"expected {expected} type argument{ending}, "
      ++ s!"found {found}")
    range

/- Arguments of a class without type parameters. -/
def notGeneric
    (site : UseSite)
    (info : ClassInfo)
    (range : ByteRange) : List Diagnostic :=
  site.badArguments info.name
    ("'" ++ info.name ++ "' is not generic") range

/- The place of the arguments of a form. -/
def formSlot
    (form : SpecialForm)
    (head : TypeExpr) : Slot :=
  match form with
  | .generic => .unchecked
  | .protocol => .unchecked
  | _ =>
      .container
        ((head.path?.map (·.last)).getD "a generic" ++ "[...]")

mutual

/- What is wrong in an annotation in a place. -/
def walk
    (site : UseSite)
    (slot : Slot) : TypeExpr → List Diagnostic
  | .ident id range => site.place slot (.ident id range)
  | .member owner attr range =>
      site.place slot (.member owner attr range)
  | .quoted body range => (site.enter range).walk slot body
  | .unreadable fault range => site.unreadable fault range
  | .subscript head args range =>
      match site.names.meaningOf head.path? with
      | .special .callable =>
          match args with
          | [params, ret] =>
              site.walkParams params
                ++ site.walk .callableReturn ret
          | _ => site.badCallable range
      | .special form =>
          site.walkAll (formSlot form head) args
      | .cls info =>
          if !info.isGeneric then site.notGeneric info range
          else if args.length != info.typeParams.length then
            site.badCount info args.length range
          else site.walkArgs info.name info.typeParams args
      | _ => site.walkAll .unchecked args
  | .either left right _ =>
      site.walk (.container "a union") left
        ++ site.walk (.container "a union") right
  | .list items _ =>
      site.walkAll (.container "a list expression") items
  | .tuple items _ =>
      site.walkAll (.container "a tuple expression") items
  | .noneType _ => []
  | .ellipsis _ => []
  | .other _ => []

/- What is wrong in annotations in one place. -/
def walkAll
    (site : UseSite)
    (slot : Slot) : List TypeExpr → List Diagnostic
  | [] => []
  | t :: ts => site.walk slot t ++ site.walkAll slot ts

/- What is wrong in the arguments of a class. -/
def walkArgs
    (site : UseSite)
    (target : String) :
    List TypeParam → List TypeExpr → List Diagnostic
  | p :: ps, t :: ts =>
      (match p.kind with
        | .paramSpec => site.specArg target p.name t
        | .typeVar =>
            site.walk (.typeVarArg target p.name) t)
        ++ site.walkArgs target ps ts
  | _, _ => []

/- What is wrong in the parameter list of a callable. -/
def walkParams
    (site : UseSite) : TypeExpr → List Diagnostic
  | .quoted body range => (site.enter range).walkParams body
  | .unreadable fault range => site.unreadable fault range
  | .list items _ => site.walkAll .callableParam items
  | .ellipsis _ => []
  | params => site.specParams params

end

end UseSite

/- What is wrong with the use sites in an annotation. -/
def TypeExpr.useSiteErrors
    (names : NameEnv)
    (index : LineIndex)
    (position : Position)
    (t : TypeExpr) : List Diagnostic :=
  UseSite.walk ⟨names, index, none⟩ (.topLevel position) t

end SigCheck
