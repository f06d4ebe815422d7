import SigCheck.Diagnostic.Basic
import SigCheck.TypeExpr.Meaning

/-
  Projections on the parameters of a definition. Both
  components of one parameter specification have to annotate
  the two star parameters together, and the parameters in
  front of them may not be reached by name.

  Key definitions include:
    * `ProjectionPair`
    * `isDunderName`, `ParamDefs.positionalKinds`
    * `ProjectionCheck`
    * `ProjectionCheck.pair?`
    * `ProjectionCheck.errors`
-/

namespace SigCheck

------------------------------------------------------------
-- Parameters
------------------------------------------------------------

/-
  Projections of one variable on the star parameters behind
  some positional ones, a receiver not counted.
-/
structure ProjectionPair where
  var : String
  leadLength : Nat
  deriving DecidableEq, Repr

/-
  By convention a name that starts with two underscores and
  does not end with two is no keyword.
-/
def isDunderName (name : String) : Bool :=
  name.startsWith "__" && !name.endsWith "__"

/- A parameter before a star, and whether a slash follows. -/
structure LeadParam where
  param : ParamDef
  slashed : Bool

namespace ParamDefs

/- The parameters before a star with how they are marked. -/
def lead (ps : ParamDefs) : List LeadParam :=
  (ps.positionalOnly.map fun p => ⟨p, true⟩)
    ++ ps.regular.map fun p => ⟨p, false⟩

end ParamDefs

------------------------------------------------------------
-- Checking
------------------------------------------------------------

/-
  The parameters of a definition and what checking them
  depends on. A receiver in front is left out.
-/
structure ProjectionCheck where
  names : NameEnv
  index : LineIndex
  known : List String
  dunder : Bool
  params : ParamDefs
  receiver : Bool

namespace ProjectionCheck

/- The path that annotates a parameter, quoted or not. -/
def path? (p : ParamDef) : Option NamePath :=
  p.typeExpr.bind fun e => e.typeExpr.unquoted.path?

/- The projection that annotates a parameter. -/
def projection?
    (c : ProjectionCheck)
    (p : ParamDef) : Option Projection :=
  (path? p).bind c.names.projection?

/- The undeclared name whose projection is annotated. -/
def undeclaredOwner?
    (c : ProjectionCheck)
    (p : ParamDef) : Option String :=
  (path? p).bind c.names.undeclaredOwner?

/- The parameters before a star but the receiver. -/
def lead (c : ProjectionCheck) : List LeadParam :=
  c.params.lead.drop (if c.receiver then 1 else 0)

/- The location of a parameter. -/
def location (c : ProjectionCheck) (p : ParamDef) : Location :=
  c.index.location p.range

/- A fault of projections at a parameter. -/
def fault
    (c : ProjectionCheck)
    (reason : String)
    (p : ParamDef) : Diagnostic where
  cause := .invalidProjection reason
  location := c.location p

/- What a projection may annotate instead. -/
def misplaced (p : Projection) : String :=
  match p.kind with
  | .args => "'" ++ p.label ++ "' can only annotate '*args'"
  | .kwargs =>
      "'" ++ p.label ++ "' can only annotate '**kwargs'"

/- Projections on parameters without a star. -/
def ordinaryErrors (c : ProjectionCheck) : List Diagnostic :=
  (c.lead.map (·.param) ++ c.params.keywordOnly).filterMap
    fun p =>
      (c.projection? p).map fun q => c.fault (misplaced q) p

/- Projections of names that are not declared. -/
def undeclaredErrors (c : ProjectionCheck) : List Diagnostic :=
  (c.params.star.toList ++ c.params.doubleStar.toList).filterMap
    fun p =>
      (c.undeclaredOwner? p).map fun owner =>
        .unknownSpec owner c.known (c.location p)

/- A parameter with its projection. -/
structure Projected where
  param : ParamDef
  projection : Projection

/- A parameter with its projection, if it has one. -/
def projected?
    (c : ProjectionCheck)
    (p : Option ParamDef) : Option Projected :=
  p.bind fun p => (c.projection? p).map fun q => ⟨p, q⟩

/- The star parameter with its projection. -/
def star? (c : ProjectionCheck) : Option Projected :=
  c.projected? c.params.star

/- The double star parameter with its projection. -/
def doubleStar? (c : ProjectionCheck) : Option Projected :=
  c.projected? c.params.doubleStar

/- Both star parameters project the same variable. -/
def pair? (c : ProjectionCheck) : Option ProjectionPair :=
  match c.star?, c.doubleStar? with
  | some ⟨_, ⟨v, .args⟩⟩, some ⟨_, ⟨w, .kwargs⟩⟩ =>
      if v = w then some ⟨v, c.lead.length⟩ else none
  | _, _ => none

/- A component that stands without the other one. -/
def loneError
    (c : ProjectionCheck)
    (own : ProjectionKind)
    (stars : String)
    (other : ProjectionKind)
    (p : Projected) : Diagnostic :=
  let q := p.projection
  if q.kind = own then
    c.fault
      ("'" ++ q.label ++ "' requires '" ++ stars ++ other.attr
        ++ ": " ++ q.var ++ "." ++ other.attr ++ "'")
      p.param
  else c.fault (misplaced q) p.param

/- Projections that stand on one star parameter alone. -/
def loneErrors (c : ProjectionCheck) : List Diagnostic :=
  (c.star?.toList.map (c.loneError .args "**" .kwargs))
    ++ c.doubleStar?.toList.map (c.loneError .kwargs "*" .args)

/- What is wrong with the two star parameters. -/
def starErrors (c : ProjectionCheck) : List Diagnostic :=
  match c.star?, c.doubleStar? with
  | some ⟨p, ⟨v, .args⟩⟩, some ⟨_, ⟨w, .kwargs⟩⟩ =>
      if v = w then []
      else
        [c.fault
          ("'" ++ v ++ ".args' and '" ++ w
            ++ ".kwargs' come from different ParamSpecs") p]
  | some ⟨p, ⟨v, .kwargs⟩⟩, some ⟨_, ⟨w, .args⟩⟩ =>
      [c.fault
        ("'*args' and '**kwargs' are swapped; write '*args: "
          ++ w ++ ".args, **kwargs: " ++ v ++ ".kwargs'") p]
  | _, _ => c.loneErrors

/- A keyword-only parameter between the two components. -/
def betweenError
    (c : ProjectionCheck)
    (var : String)
    (p : ParamDef) : Diagnostic :=
  c.fault
    ("keyword-only parameter '" ++ p.name
      ++ "' cannot appear between '*args: " ++ var
      ++ ".args' and '**kwargs: " ++ var ++ ".kwargs'") p

/- The parameter can be reached by its name. -/
def isNamed (c : ProjectionCheck) (p : LeadParam) : Bool :=
  !p.slashed && !(c.dunder && isDunderName p.param.name)

/- A parameter in front that can be reached by its name. -/
def leadError
    (c : ProjectionCheck)
    (var : String)
    (p : ParamDef) : Diagnostic :=
  (c.fault
    ("parameter '" ++ p.name ++ "' precedes '*args: " ++ var
      ++ ".args' and could collide with a parameter of '"
      ++ var ++ "'") p).suggest
    ("Make '" ++ p.name
      ++ "' positional-only by adding '/' after it")

/- What is wrong around a pair of projections. -/
def pairErrors
    (c : ProjectionCheck)
    (pair : ProjectionPair) : List Diagnostic :=
  (c.params.keywordOnly.map (c.betweenError pair.var))
    ++ (c.lead.filter c.isNamed).map fun p =>
      c.leadError pair.var p.param

/- All that is wrong with the projections. -/
def errors (c : ProjectionCheck) : List Diagnostic :=
  c.ordinaryErrors ++ c.undeclaredErrors ++ c.starErrors
    ++ c.pair?.toList.flatMap c.pairErrors

end ProjectionCheck

end SigCheck
