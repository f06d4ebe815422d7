import SigCheck.Ty.Basic

/-
  Subtyping of types, compatibility of parameter lists and
  the common supertype of two parameter lists.

  The three are one recursion. Each rule is written over an
  arbitrary relation on the types inside, so that a rule can
  be read on its own; `Ty.subtypeWithin` then applies the
  rules a bounded number of times. Every rule looks only at
  types strictly inside the two that it compares, so their
  sizes bound the depth.

  Key definitions include:
    * `meetBy`
    * `Parameter.mergeBy`
    * `LeadMerge.ofLists`
    * `sealLead`, `requireLead`
    * `Signature.commonBy`
    * `Signature.equivalent`
    * `Ty.subtypeStep`
    * `Ty.isSubtype`, `Ty.meet`
    * `Signature.commonSupertype`
    * `Signature.isCompatibleWith`
    * `TypeArg.isConsistent`
-/

namespace SigCheck

------------------------------------------------------------
-- Meet over a Relation
------------------------------------------------------------

/-
  The narrower of two comparable types. `Any` gives way to
  the other side.
-/
def meetBy
    (le : Ty → Ty → Bool)
    (a b : Ty) : Option Ty :=
  if a.isAny then some b
  else if b.isAny then some a
  else if le a b then some a
  else if le b a then some b
  else none

------------------------------------------------------------
-- Equivalence
------------------------------------------------------------

/-
  Equality of parameters as callers see them: the name of a
  positional-only parameter does not count.
-/
def Parameter.equivalent (p q : Parameter) : Bool :=
  p.kind == q.kind
    && p.hasDefault == q.hasDefault
    && p.ty == q.ty
    && (p.kind == .positionalOnly || p.name == q.name)

/- Equivalence of parameter lists, place by place. -/
def Parameter.equivalentAll :
    List Parameter → List Parameter → Bool
  | [], [] => true
  | p :: ps, q :: qs =>
      p.equivalent q && Parameter.equivalentAll ps qs
  | _, _ => false

/- Equality of signatures up to positional-only names. -/
def Signature.equivalent : Signature → Signature → Bool
  | .gradual, .gradual => true
  | .params ps, .params qs => Parameter.equivalentAll ps qs
  | .spec ps v, .spec qs w =>
      v == w && Parameter.equivalentAll ps qs
  | _, _ => false

------------------------------------------------------------
-- Merging the Positional Section
------------------------------------------------------------

/-
  One positional slot for callers of both lists. It keeps a
  keyword name only where both sides agree on it.
-/
def Parameter.mergeBy
    (meet : Ty → Ty → Option Ty)
    (p q : Parameter) : Option Parameter :=
  (meet p.ty q.ty).map fun ty =>
    if p.kind == .positionalOrKeyword
        && q.kind == .positionalOrKeyword
        && p.name == q.name then
      ⟨p.name, .positionalOrKeyword, ty,
        p.hasDefault && q.hasDefault⟩
    else
      ⟨none, .positionalOnly, ty,
        p.hasDefault && q.hasDefault⟩

/-
  A slot that only one side has, where the other side takes
  it with its star parameter.
-/
def Parameter.absorbBy
    (meet : Ty → Ty → Option Ty)
    (p star : Parameter) : Option Parameter :=
  (meet p.ty star.ty).map fun ty =>
    { p.anonymize with ty := ty }

/-
  The result of merging two positional sections: the merged
  slots, and what each side has left once the other can take
  no more.
-/
structure LeadMerge where
  merged : List Parameter
  leftRest : List Parameter
  rightRest : List Parameter

namespace LeadMerge

/- Put one more merged slot in front. -/
def cons
    (p : Parameter)
    (m : LeadMerge) : LeadMerge :=
  { m with merged := p :: m.merged }

/-
  The slots that only one side has: those that the other
  side's star parameter takes, and those that are left.
-/
def absorb
    (meet : Ty → Ty → Option Ty)
    (star : Option Parameter)
    (ps : List Parameter) :
    Option (List Parameter × List Parameter) :=
  match star with
  | none => some ([], ps)
  | some star => do
      let slots ← ps.mapM fun p => p.absorbBy meet star
      return (slots, [])

/-
  Merge index by index until one side runs out; then go on
  with its star parameter, if it has one.
-/
def ofLists
    (meet : Ty → Ty → Option Ty)
    (leftStar rightStar : Option Parameter) :
    List Parameter → List Parameter → Option LeadMerge
  | p :: ps, q :: qs => do
      let slot ← p.mergeBy meet q
      let rest ← ofLists meet leftStar rightStar ps qs
      return rest.cons slot
  | [], qs =>
      (absorb meet leftStar qs).map fun (slots, rest) =>
        ⟨slots, [], rest⟩
  | ps, [] =>
      (absorb meet rightStar ps).map fun (slots, rest) =>
        ⟨slots, rest, []⟩

end LeadMerge

/-
  Whatever stands before a positional-only slot is
  positional-only too.
-/
def sealLead : List Parameter → List Parameter
  | [] => []
  | p :: ps =>
      (if ps.any (·.kind == .positionalOnly) then
        p.anonymize
      else p) :: sealLead ps

/-
  Whatever stands before a slot without a default has no
  default either.
-/
def requireLead : List Parameter → List Parameter
  | [] => []
  | p :: ps =>
      { p with
        hasDefault :=
          p.hasDefault && ps.all (·.hasDefault) }
        :: requireLead ps

/- Both rules of a valid positional section. -/
def normalizeLead (ps : List Parameter) : List Parameter :=
  requireLead (sealLead ps)

------------------------------------------------------------
-- Merging the Keyword Section
------------------------------------------------------------

/- The first parameter of a kind. -/
def firstOfKind
    (kind : ParamKind)
    (ps : List Parameter) : Option Parameter :=
  ps.find? (·.kind == kind)

/- The positional slots of a parameter list. -/
def positionalSection
    (ps : List Parameter) : List Parameter :=
  ps.filter (·.kind.isPositional)

/-
  The parameters that a keyword still reaches, given the
  positional slots left over. A required positional-only
  slot that is left over cannot be filled at all.
-/
def keywordCandidates
    (ps rest : List Parameter) :
    Option (List Parameter) :=
  if rest.any fun p =>
      p.kind != .positionalOrKeyword && p.isRequired then
    none
  else
    some
      (rest.filter (·.kind == .positionalOrKeyword)
        ++ ps.filter (·.kind == .keywordOnly))

/- The parameter of a given name. -/
def named?
    (name : String)
    (ps : List Parameter) : Option Parameter :=
  ps.find? (·.name == some name)

/-
  The name belongs to one of the slots that were merged, so
  a keyword would give that slot a second value.
-/
def isConsumed
    (slots : List Parameter)
    (merged : Nat)
    (name : String) : Bool :=
  (slots.take merged).any fun p =>
    p.kind == .positionalOrKeyword && p.name == some name

/-
  One side of the keyword section: its candidates, the slots
  merged already, and the parameter that takes other
  keywords.
-/
structure KeywordSide where
  candidates : List Parameter
  slots : List Parameter
  others : Option Parameter

namespace KeywordSide

/- The type of argument that the side takes under a name. -/
def accepts?
    (side : KeywordSide)
    (merged : Nat)
    (name : String) : Option Ty :=
  if isConsumed side.slots merged name then none
  else
    ((named? name side.candidates).or side.others).map (·.ty)

/- The side refuses calls that leave the name out. -/
def requires
    (side : KeywordSide)
    (name : String) : Bool :=
  (named? name side.candidates).any (·.isRequired)

end KeywordSide

/- The keyword names of both sides, in order, each once. -/
def keywordNames (left right : KeywordSide) : List String :=
  ((left.candidates ++ right.candidates).filterMap
    (·.name)).eraseDups

/-
  The keyword-only parameter for a name: absent when one
  side cannot take the name, which fails when the other
  needs it.
-/
def keywordSlotBy
    (meet : Ty → Ty → Option Ty)
    (merged : Nat)
    (left right : KeywordSide)
    (name : String) : Option (Option Parameter) :=
  let required := left.requires name || right.requires name
  match left.accepts? merged name,
    right.accepts? merged name with
  | some a, some b =>
      (meet a b).map fun ty =>
        some ⟨some name, .keywordOnly, ty, !required⟩
  | _, _ => if required then none else some none

/-
  The variadic parameter that both sides have, under the
  first side's name.
-/
def variadicBy
    (meet : Ty → Ty → Option Ty) :
    Option Parameter → Option Parameter →
      Option (List Parameter)
  | some p, some q =>
      (meet p.ty q.ty).map fun ty => [{ p with ty := ty }]
  | _, _ => some []

------------------------------------------------------------
-- Common Supertypes
------------------------------------------------------------

/-
  The most general parameter list all of whose calls are
  calls of both lists.
-/
def commonParamsBy
    (meet : Ty → Ty → Option Ty)
    (ps qs : List Parameter) :
    Option (List Parameter) := do
  let left := positionalSection ps
  let right := positionalSection qs
  let leftStar := firstOfKind .varPositional ps
  let rightStar := firstOfKind .varPositional qs
  let leftOthers := firstOfKind .varKeyword ps
  let rightOthers := firstOfKind .varKeyword qs
  let lead ←
    LeadMerge.ofLists meet leftStar rightStar left right
  let star ← variadicBy meet leftStar rightStar
  let leftNamed ← keywordCandidates ps lead.leftRest
  let rightNamed ← keywordCandidates qs lead.rightRest
  let leftSide := ⟨leftNamed, left, leftOthers⟩
  let rightSide := ⟨rightNamed, right, rightOthers⟩
  let named ←
    (keywordNames leftSide rightSide).mapM
      (keywordSlotBy meet lead.merged.length
        leftSide rightSide)
  let others ← variadicBy meet leftOthers rightOthers
  return normalizeLead lead.merged
    ++ star ++ named.filterMap id ++ others

/-
  The leading parameters of two uses of one variable, slot
  by slot.
-/
def mergeLeadBy
    (meet : Ty → Ty → Option Ty) :
    List Parameter → List Parameter →
      Option (List Parameter)
  | [], [] => some []
  | p :: ps, q :: qs => do
      let slot ← p.mergeBy meet q
      let rest ← mergeLeadBy meet ps qs
      return slot.anonymize :: rest
  | _, _ => none

namespace Signature

/-
  The most general signature all of whose calls are calls of
  both. The gradual list adds no constraint.
-/
def commonBy
    (meet : Ty → Ty → Option Ty) :
    Signature → Signature → Option Signature
  | .gradual, t => some t
  | s, .gradual => some s
  | .params ps, .params qs =>
      (commonParamsBy meet ps qs).map .params
  | .spec ps v, .spec qs w =>
      if v == w then
        (mergeLeadBy meet ps qs).map (.spec · v)
      else none
  | _, _ => none

/-
  A callable with the first signature may stand where the
  second is expected: the calls common to both are all the
  expected ones.
-/
def compatibleBy
    (meet : Ty → Ty → Option Ty) :
    Signature → Signature → Bool
  | .gradual, _ => true
  | _, .gradual => true
  | s, expected =>
      match expected.commonBy meet s with
      | some common => common.equivalent expected
      | none => false

end Signature

/-
  Class arguments are invariant: each must be a subtype of
  the other, or an equivalent parameter list.
-/
def TypeArg.consistentBy
    (le : Ty → Ty → Bool) : TypeArg → TypeArg → Bool
  | .type a, .type b => le a b && le b a
  | .params .gradual, .params _ => true
  | .params _, .params .gradual => true
  | .params s, .params t => s.equivalent t
  | _, _ => false

------------------------------------------------------------
-- Subtyping
------------------------------------------------------------

/- A relation holds at every place of two equally long lists. -/
def pointwise
    {α : Type}
    (rel : α → α → Bool) : List α → List α → Bool
  | [], [] => true
  | a :: as, b :: bs => rel a b && pointwise rel as bs
  | _, _ => false

/-
  Subtyping of two types of which neither is a union and
  which are not related by their mere form.
-/
def Ty.shapeStep
    (le : Ty → Ty → Bool) : Ty → Ty → Bool
  | .bool, .int => true
  | .bool, .float => true
  | .int, .float => true
  | .list a, .list b => a == b || a.isAny || b.isAny
  | .set a, .set b => a == b || a.isAny || b.isAny
  | .dict k v, .dict l w => k == l && v == w
  | .tuple as, .tuple bs => pointwise le as bs
  | .callable s r, .callable t q =>
      s.compatibleBy (meetBy le) t && le r q
  | .generic m as, .generic n bs =>
      m == n && pointwise (TypeArg.consistentBy le) as bs
  | .typeVar m, .typeVar n => m == n
  | _, _ => false

/-
  One unfolding of subtyping over a relation on the types
  inside: `Any` on either side, `Never` below and `object`
  above everything, then a union on the right, a union on
  the left, and last the shapes of the two types.
-/
def Ty.subtypeStep
    (le : Ty → Ty → Bool)
    (a b : Ty) : Bool :=
  match a, b with
  | .any, _ => true
  | _, .any => true
  | .never, _ => true
  | a, b =>
      if a == b then true
      else
        match a, b with
        | _, .object => true
        | a, .union members => members.any (le a ·)
        | .union members, b => members.all (le · b)
        | a, b => Ty.shapeStep le a b

/- Subtyping with a bound on the number of unfoldings. -/
def Ty.subtypeWithin : Nat → Ty → Ty → Bool
  | 0 => fun _ _ => false
  | depth + 1 => Ty.subtypeStep (Ty.subtypeWithin depth)

/- The first type may stand where the second is expected. -/
def Ty.isSubtype (a b : Ty) : Bool :=
  Ty.subtypeWithin (a.size + b.size) a b

/- The narrowest type acceptable for both, where one exists. -/
def Ty.meet (a b : Ty) : Option Ty :=
  meetBy Ty.isSubtype a b

/- Two class arguments are interchangeable. -/
def TypeArg.isConsistent (a b : TypeArg) : Bool :=
  TypeArg.consistentBy Ty.isSubtype a b

namespace Signature

/-
  The most general signature all of whose calls are calls of
  both; `none` when no call is.
-/
def commonSupertype
    (s t : Signature) : Option Signature :=
  s.commonBy Ty.meet t

/-
  A callable with this signature may stand where `expected`
  is required.
-/
def isCompatibleWith
    (s expected : Signature) : Bool :=
  s.compatibleBy Ty.meet expected

end Signature

end SigCheck
