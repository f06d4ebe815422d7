import SigCheck.TypeExpr.UseSite

/-
  The parts of an annotation and the places where they stand.

  A walk over an annotation reports what is wrong with a part
  where the part stands, and goes on with the parts inside.
  It never enters the head of a subscript, the owner of a
  member, or arguments that the form around them has no place
  for; whatever stands in one of these stands aside.

  Key definitions include:
    * `PartPlace`, `PartPlace.under`, `PartPlace.asideOr`
    * `TypeExpr.partsAt`, `TypeExpr.Part`, `TypeExpr.Trail`
    * `UseSite.check`, `UseSite.own`, `UseSite.along`

  Correctness is proven by:
    * `UseSite.check_eq_own_append`
    * `UseSite.own_subset_of_part`
    * `UseSite.exists_trail_of_mem_check`
    * `UseSite.exists_part_of_mem_check`
-/

namespace SigCheck

------------------------------------------------------------
-- Places
------------------------------------------------------------

/-
  Where a part of an annotation stands.

  Arguments that a walk does not judge are told apart by what
  the head of their subscript means: a generic form, with the
  unchecked slot, nothing known, or something known that has
  no type parameters.
-/
inductive PartPlace where
  | within (slot : Slot)
  | paramList
  | classSpec (target : String) (param : String)
  | unknownArg
  | knownArg
  | projected
  | head
  | owner
  | surplus
  deriving DecidableEq, Repr

namespace PartPlace

/- The walk does not look at what stands there. -/
def isAside : PartPlace → Bool
  | projected => true
  | head => true
  | owner => true
  | surplus => true
  | _ => false

/- How the walk looks at a part as a type, where it does. -/
def slot? : PartPlace → Option Slot
  | within slot => some slot
  | unknownArg => some .unchecked
  | knownArg => some .unchecked
  | _ => none

@[simp]
theorem slot?_within (slot : Slot) :
    (within slot).slot? = some slot :=
  rfl

/- What stands in a part that stands aside stands aside too. -/
def asideOr (p q : PartPlace) : PartPlace :=
  if p.isAside then p else q

/-
  The place of a part inside a type. In the place of a
  parameter list or of an argument for one nothing but such
  a list is expected.
-/
def under (p q : PartPlace) : PartPlace :=
  match p.slot? with
  | some _ => q
  | none => p.asideOr .surplus

/- The place of an item of a list display. -/
def ofItem : PartPlace → PartPlace
  | paramList => .within .callableParam
  | p => p.under (.within (.container "a list expression"))

/- The place of one alternative of a union. -/
def ofAlternative (p : PartPlace) : PartPlace :=
  p.under (.within (.container "a union"))

/- The place of an item of a tuple display. -/
def ofTupleItem (p : PartPlace) : PartPlace :=
  p.under (.within (.container "a tuple expression"))

/- The whole annotation of a parameter. -/
def parameter : PartPlace :=
  .within (.topLevel .parameter)

section Types

variable {p : PartPlace} {slot : Slot}
variable (hSlot : p.slot? = some slot)

include hSlot

/- The parts of a type keep the places that they have. -/
theorem under_of_slot (q : PartPlace) : p.under q = q := by
  simp [under, hSlot]

theorem asideOr_of_slot (q : PartPlace) :
    p.asideOr q = q := by
  cases p <;> first | rfl | cases hSlot

theorem ofItem_of_slot :
    p.ofItem = .within (.container "a list expression") := by
  cases p <;> first | rfl | cases hSlot

end Types

section Aside

variable {p : PartPlace} (hAside : p.isAside = true)

include hAside

/- All of what stands aside has one place. -/
theorem asideOr_of_isAside (q : PartPlace) :
    p.asideOr q = p := by
  simp [asideOr, hAside]

theorem under_of_isAside (q : PartPlace) : p.under q = p := by
  cases p <;> first | rfl | cases hAside

theorem ofItem_of_isAside : p.ofItem = p := by
  cases p <;> first | rfl | cases hAside

end Aside

end PartPlace

------------------------------------------------------------
-- Parts
------------------------------------------------------------

/- The place of an argument for a type parameter of a class. -/
def TypeParam.place
    (target : String)
    (p : TypeParam) : PartPlace :=
  match p.kind with
  | .paramSpec => .classSpec target p.name
  | .typeVar => .within (.typeVarArg target p.name)

/- Arguments that all stand at one place. -/
def PartPlace.forAll
    (p : PartPlace)
    (args : List TypeExpr) : List (PartPlace × TypeExpr) :=
  args.map fun a => (p, a)

/- The arguments of a subscript with their places. -/
def Meaning.argPlaces
    (head : TypeExpr)
    (args : List TypeExpr) :
    Meaning → List (PartPlace × TypeExpr)
  | .special .callable =>
      match args with
      | [params, ret] =>
          [(.paramList, params), (.within .callableReturn, ret)]
      | args => PartPlace.surplus.forAll args
  | .special form =>
      (PartPlace.within (UseSite.formSlot form head)).forAll args
  | .cls info =>
      if info.isGeneric
          && args.length == info.typeParams.length then
        (info.typeParams.map (TypeParam.place info.name)).zip
          args
      else PartPlace.surplus.forAll args
  | .unknown => PartPlace.unknownArg.forAll args
  | _ => PartPlace.knownArg.forAll args

namespace TypeExpr

/- The projection that an annotation is, if it is one. -/
def projection?
    (names : NameEnv)
    (t : TypeExpr) : Option Projection :=
  t.path?.bind names.projection?

/- The parameter specification that an annotation is. -/
def spec?
    (names : NameEnv)
    (t : TypeExpr) : Option String :=
  (names.meaningOf t.path?).paramSpec?

/- The place of the owner of a member. -/
def ownerPlace
    (names : NameEnv)
    (p : PartPlace)
    (t : TypeExpr) : PartPlace :=
  if p = .parameter ∧ (t.projection? names).isSome then
    .projected
  else p.asideOr .owner

/- The parts right inside an annotation, with their places. -/
def partsAt
    (names : NameEnv)
    (p : PartPlace) : TypeExpr → List (PartPlace × TypeExpr)
  | .quoted body _ => [(p, body)]
  | .member owner attr r =>
      [(ownerPlace names p (.member owner attr r), owner)]
  | .subscript head args _ =>
      (p.asideOr .head, head)
        :: ((names.meaningOf head.path?).argPlaces head args).map
          fun part => (p.under part.1, part.2)
  | .either left right _ =>
      [(p.ofAlternative, left), (p.ofAlternative, right)]
  | .list items _ => p.ofItem.forAll items
  | .tuple items _ => p.ofTupleItem.forAll items
  | _ => []

/-
  One annotation stands at a place inside another one, which
  itself stands at some place.
-/
inductive Part (names : NameEnv) :
    PartPlace → TypeExpr → PartPlace → TypeExpr → Prop
  | here (p : PartPlace) (t : TypeExpr) : Part names p t p t
  | step
      {p q r : PartPlace} {t u v : TypeExpr} :
      (q, u) ∈ t.partsAt names p →
      Part names q u r v →
      Part names p t r v

/- The literal that is opened on the way into an annotation. -/
def opened : TypeExpr → List ByteRange
  | .quoted _ r => [r]
  | _ => []

/-
  A part of an annotation with the literals that are opened
  on the way from the annotation to the part.
-/
inductive Trail (names : NameEnv) :
    PartPlace → TypeExpr → List ByteRange →
      PartPlace → TypeExpr → Prop
  | here (p : PartPlace) (t : TypeExpr) :
      Trail names p t [] p t
  | step
      {p q r : PartPlace} {t u v : TypeExpr}
      {trail : List ByteRange} :
      (q, u) ∈ t.partsAt names p →
      Trail names q u trail r v →
      Trail names p t (t.opened ++ trail) r v

/- The end of a trail is a part. -/
theorem Trail.part
    {names : NameEnv} {p q : PartPlace} {t u : TypeExpr}
    {trail : List ByteRange}
    (h : Trail names p t trail q u) : Part names p t q u := by
  induction h with
  | here p t => exact .here p t
  | step hPart _ ih => exact .step hPart ih

end TypeExpr

------------------------------------------------------------
-- Children
------------------------------------------------------------

namespace TypeExpr

/- The annotations right inside an annotation. -/
def children : TypeExpr → List TypeExpr
  | .member owner _ _ => [owner]
  | .subscript head args _ => head :: args
  | .either left right _ => [left, right]
  | .list items _ => items
  | .tuple items _ => items
  | .quoted body _ => [body]
  | _ => []

/- Arguments with places are arguments. -/
theorem mem_of_mem_argPlaces
    {head : TypeExpr} {args : List TypeExpr}
    {m : Meaning} {part : PartPlace × TypeExpr}
    (h : part ∈ m.argPlaces head args) :
    part.2 ∈ args := by
  unfold Meaning.argPlaces PartPlace.forAll at h
  split at h
  · split at h
    · simp only [List.mem_cons, List.not_mem_nil, or_false] at h
      rcases h with rfl | rfl <;> simp
    · grind
  · grind
  · split at h
    · exact (List.of_mem_zip h).2
    · grind
  · grind
  · grind

/- Parts with places are right inside an annotation. -/
theorem mem_children_of_mem_partsAt
    {names : NameEnv} {p : PartPlace} {t : TypeExpr}
    {part : PartPlace × TypeExpr}
    (h : part ∈ t.partsAt names p) :
    part.2 ∈ t.children := by
  cases t with
  | subscript head args range =>
      simp only [partsAt, List.mem_cons, List.mem_map] at h
      rcases h with rfl | ⟨inner, hInner, rfl⟩
      · exact List.mem_cons_self ..
      · have hArg := mem_of_mem_argPlaces hInner
        exact List.mem_cons_of_mem _ hArg
  | list items range =>
      simp only [partsAt, PartPlace.forAll, List.mem_map] at h
      rcases h with ⟨item, hItem, rfl⟩
      exact hItem
  | tuple items range =>
      simp only [partsAt, PartPlace.forAll, List.mem_map] at h
      rcases h with ⟨item, hItem, rfl⟩
      exact hItem
  | either left right range =>
      simp only [partsAt, List.mem_cons, List.not_mem_nil,
        or_false] at h
      rcases h with rfl | rfl <;> simp [children]
  | quoted body range =>
      simp only [partsAt, List.mem_singleton] at h
      simp [children, h]
  | member owner attr range =>
      simp only [partsAt, List.mem_singleton] at h
      simp [children, h]
  | _ => simp [partsAt] at h

/- What is right inside an annotation is smaller. -/
theorem sizeOf_lt_of_mem_children
    {t u : TypeExpr}
    (h : u ∈ t.children) : sizeOf u < sizeOf t := by
  cases t with
  | subscript head args range =>
      simp only [children, List.mem_cons] at h
      simp only [subscript.sizeOf_spec]
      rcases h with rfl | hArg
      · omega
      · have := List.sizeOf_lt_of_mem hArg
        omega
  | list items range =>
      have hItem : u ∈ items := h
      have := List.sizeOf_lt_of_mem hItem
      simp only [list.sizeOf_spec]
      omega
  | tuple items range =>
      have hItem : u ∈ items := h
      have := List.sizeOf_lt_of_mem hItem
      simp only [tuple.sizeOf_spec]
      omega
  | either left right range =>
      simp only [children, List.mem_cons, List.not_mem_nil,
        or_false] at h
      simp only [either.sizeOf_spec]
      rcases h with rfl | rfl <;> omega
  | quoted body range =>
      simp only [children, List.mem_singleton] at h
      simp only [h, quoted.sizeOf_spec]
      omega
  | member owner attr range =>
      simp only [children, List.mem_singleton] at h
      simp only [h, member.sizeOf_spec]
      omega
  | _ => cases h

/- A part is smaller than what it is a part of. -/
theorem sizeOf_lt_of_mem_partsAt
    {names : NameEnv} {p : PartPlace} {t : TypeExpr}
    {part : PartPlace × TypeExpr}
    (h : part ∈ t.partsAt names p) :
    sizeOf part.2 < sizeOf t :=
  sizeOf_lt_of_mem_children (mem_children_of_mem_partsAt h)

end TypeExpr

------------------------------------------------------------
-- One Step of the Walk
------------------------------------------------------------

namespace UseSite

/- What the walk reports about a part and all parts in it. -/
def check
    (site : UseSite)
    (p : PartPlace)
    (t : TypeExpr) : List Diagnostic :=
  match p with
  | .paramList => site.walkParams t
  | .classSpec target param => site.specArg target param t
  | p =>
      match p.slot? with
      | some slot => site.walk slot t
      | none => []

/- The walk as it goes on inside a part. -/
def inside (site : UseSite) : TypeExpr → UseSite
  | .quoted _ range => site.enter range
  | _ => site

/- What is wrong with the arguments of a subscript as such. -/
def ownArgs
    (site : UseSite)
    (args : List TypeExpr)
    (range : ByteRange) : Meaning → List Diagnostic
  | .special .callable =>
      match args with
      | [_, _] => []
      | _ => site.badCallable range
  | .cls info =>
      if !info.isGeneric then site.notGeneric info range
      else if args.length != info.typeParams.length then
        site.badCount info args.length range
      else []
  | _ => []

/- What is wrong with a part that is looked at as a type. -/
def ownType
    (site : UseSite)
    (slot : Slot) : TypeExpr → List Diagnostic
  | .ident id range => site.place slot (.ident id range)
  | .member owner attr range =>
      site.place slot (.member owner attr range)
  | .unreadable fault range => site.unreadable fault range
  | .subscript head args range =>
      site.ownArgs args range (site.names.meaningOf head.path?)
  | _ => []

/- What is wrong with a part that should be a list. -/
def ownParams (site : UseSite) : TypeExpr → List Diagnostic
  | .quoted _ _ => []
  | .unreadable fault range => site.unreadable fault range
  | .list _ _ => []
  | .ellipsis _ => []
  | params => site.specParams params

/- What is wrong with a part that should stand for a list. -/
def ownSpec
    (site : UseSite)
    (target param : String) : TypeExpr → List Diagnostic
  | .ellipsis _ => []
  | .quoted _ _ => []
  | .list _ range => site.listAsSpec target param range
  | arg => site.specPath target param arg

/- What the walk reports about a part, the parts in it apart. -/
def own
    (site : UseSite)
    (p : PartPlace)
    (t : TypeExpr) : List Diagnostic :=
  match p with
  | .paramList => site.ownParams t
  | .classSpec target param => site.ownSpec target param t
  | p =>
      match p.slot? with
      | some slot => site.ownType slot t
      | none => []

variable (site : UseSite)

/- A parameter list is checked as such. -/
@[simp]
theorem check_paramList (t : TypeExpr) :
    site.check .paramList t = site.walkParams t :=
  rfl

/- At a place with a message of its own stands a type. -/
@[simp]
theorem check_within (slot : Slot) (t : TypeExpr) :
    site.check (.within slot) t = site.walk slot t :=
  rfl

/- The walk never enters what stands aside. -/
theorem check_of_isAside
    {p : PartPlace}
    (hAside : p.isAside = true)
    (t : TypeExpr) :
    site.check p t = [] := by
  cases p <;> first | rfl | cases hAside

/- At a place with a slot the walk looks at a type. -/
theorem check_of_slot
    {p : PartPlace} {slot : Slot}
    (hSlot : p.slot? = some slot)
    (t : TypeExpr) :
    site.check p t = site.walk slot t := by
  cases p <;> cases hSlot <;> rfl

/- At a place with a slot a part is judged as a type. -/
theorem own_of_slot
    {p : PartPlace} {slot : Slot}
    (hSlot : p.slot? = some slot)
    (t : TypeExpr) :
    site.own p t = site.ownType slot t := by
  cases p <;> cases hSlot <;> rfl

/- Parts that stand aside add nothing. -/
theorem flatMap_check_of_isAside
    {parts : List (PartPlace × TypeExpr)}
    (hAside : ∀ part ∈ parts, part.1.isAside = true) :
    parts.flatMap (fun part => site.check part.1 part.2) =
      [] := by
  rw [List.flatMap_eq_nil_iff]
  intro part hPart
  exact site.check_of_isAside (hAside part hPart) part.2

/- Annotations at one place are walked one by one. -/
theorem walkAll_eq_flatMap
    (slot : Slot)
    (ts : List TypeExpr) :
    site.walkAll slot ts = ts.flatMap (site.walk slot) := by
  induction ts with
  | nil => rfl
  | cons t ts ih => simp [walkAll, ih]

/- Annotations at one place are checked one by one. -/
theorem flatMap_check_forAll
    {p : PartPlace} {slot : Slot}
    (hSlot : p.slot? = some slot)
    (ts : List TypeExpr) :
    (p.forAll ts).flatMap
        (fun part => site.check part.1 part.2) =
      site.walkAll slot ts := by
  rw [walkAll_eq_flatMap, PartPlace.forAll, List.flatMap_map]
  congr 1
  funext t
  exact site.check_of_slot hSlot t

/- Surplus annotations are not walked. -/
theorem flatMap_check_surplus (ts : List TypeExpr) :
    (PartPlace.surplus.forAll ts).flatMap
        (fun part => site.check part.1 part.2) = [] := by
  apply flatMap_check_of_isAside
  intro part hPart
  simp only [PartPlace.forAll, List.mem_map] at hPart
  rcases hPart with ⟨t, -, rfl⟩
  rfl

/- The arguments of a class are walked place by place. -/
theorem walkArgs_eq_flatMap
    (target : String)
    (ps : List TypeParam)
    (ts : List TypeExpr) :
    site.walkArgs target ps ts =
      ((ps.map (TypeParam.place target)).zip ts).flatMap
        fun part => site.check part.1 part.2 := by
  induction ps generalizing ts with
  | nil => simp [walkArgs]
  | cons p ps ih =>
      cases ts with
      | nil => simp [walkArgs]
      | cons t ts =>
          simp only [walkArgs, List.map_cons,
            List.zip_cons_cons, List.flatMap_cons, ih]
          rcases p with ⟨name, _ | _⟩ <;> rfl

/- The walk over a subscript, by what its head means. -/
theorem walk_subscript
    (slot : Slot)
    (head : TypeExpr)
    (args : List TypeExpr)
    (range : ByteRange) :
    site.walk slot (.subscript head args range) =
      site.ownArgs args range
          (site.names.meaningOf head.path?)
        ++ ((site.names.meaningOf head.path?).argPlaces head
            args).flatMap
          fun part => site.check part.1 part.2 := by
  unfold walk
  split
  · rename_i hHead
    rw [hHead]
    rcases args with _ | ⟨params, _ | ⟨ret, _ | ⟨_, _⟩⟩⟩ <;>
      simp [ownArgs, Meaning.argPlaces,
        flatMap_check_surplus]
  · rename_i form hCallable hHead
    rw [hHead]
    have hOwn :
        site.ownArgs args range (.special form) = [] := by
      cases form <;> first | rfl | exact (hCallable rfl).elim
    have hPlaces :
        Meaning.argPlaces head args (.special form) =
          (PartPlace.within (formSlot form head)).forAll args := by
      cases form <;> first | rfl | exact (hCallable rfl).elim
    rw [hOwn, hPlaces,
      flatMap_check_forAll site (PartPlace.slot?_within _),
      List.nil_append]
  · rename_i info hHead
    rw [hHead]
    by_cases hGeneric : info.isGeneric = true
    · by_cases hCount :
          args.length = info.typeParams.length
      · simp [ownArgs, Meaning.argPlaces, hGeneric, hCount,
          walkArgs_eq_flatMap]
      · simp [ownArgs, Meaning.argPlaces, hGeneric, hCount,
          flatMap_check_surplus]
    · simp [ownArgs, Meaning.argPlaces, hGeneric,
        flatMap_check_surplus]
  · rename_i hCallable hForm hClass
    have hSlot :
        ∃ p : PartPlace, p.slot? = some .unchecked ∧
          (site.names.meaningOf head.path?).argPlaces head
            args = p.forAll args := by
      cases hHead : site.names.meaningOf head.path? with
      | special form => exact absurd hHead (hForm form)
      | cls info => exact absurd hHead (hClass info)
      | unknown => exact ⟨.unknownArg, rfl, rfl⟩
      | paramSpec name => exact ⟨.knownArg, rfl, rfl⟩
      | typeVar name => exact ⟨.knownArg, rfl, rfl⟩
      | value ty => exact ⟨.knownArg, rfl, rfl⟩
    have hOwn :
        site.ownArgs args range
          (site.names.meaningOf head.path?) = [] := by
      cases hHead : site.names.meaningOf head.path? with
      | special form => exact absurd hHead (hForm form)
      | cls info => exact absurd hHead (hClass info)
      | _ => rfl
    rcases hSlot with ⟨p, hSlot, hPlaces⟩
    rw [hOwn, hPlaces, flatMap_check_forAll site hSlot,
      List.nil_append]

/- In a type the walk goes on with the parts as they stand. -/
theorem walk_eq_ownType_append
    (slot : Slot)
    {p : PartPlace}
    (hSlot : p.slot? = some slot)
    (t : TypeExpr) :
    site.walk slot t =
      site.ownType slot t
        ++ (t.partsAt site.names p).flatMap
          fun part =>
            (site.inside t).check part.1 part.2 := by
  have hUnder := PartPlace.under_of_slot hSlot
  have hAside := PartPlace.asideOr_of_slot hSlot
  have hItem := PartPlace.ofItem_of_slot hSlot
  cases t with
  | subscript head args range =>
      have hHead : site.check .head head = [] :=
        site.check_of_isAside rfl head
      simp [walk_subscript, ownType, TypeExpr.partsAt, inside,
        hUnder, hAside, hHead]
  | member owner attr range =>
      have hOwner :
          (TypeExpr.ownerPlace site.names p
            (.member owner attr range)).isAside = true := by
        unfold TypeExpr.ownerPlace
        split
        · rfl
        · rw [hAside]
          rfl
      simp [walk, ownType, TypeExpr.partsAt, inside,
        check_of_isAside, hOwner]
  | quoted body range =>
      simp [walk, ownType, TypeExpr.partsAt, inside,
        check_of_slot _ hSlot]
  | either left right range =>
      simp [walk, ownType, TypeExpr.partsAt, inside,
        PartPlace.ofAlternative, hUnder]
  | list items range =>
      simp [walk, ownType, TypeExpr.partsAt, inside, hItem,
        site.flatMap_check_forAll (PartPlace.slot?_within _)]
  | tuple items range =>
      simp [walk, ownType, TypeExpr.partsAt, inside,
        PartPlace.ofTupleItem, hUnder,
        site.flatMap_check_forAll (PartPlace.slot?_within _)]
  | _ => simp [walk, ownType, TypeExpr.partsAt]

/- Parts that stand where nothing is expected are not entered. -/
theorem isAside_of_mem_partsAt
    {names : NameEnv} {p : PartPlace} {t : TypeExpr}
    {part : PartPlace × TypeExpr}
    (hSlot : p.slot? = none)
    (hQuoted : ∀ body range, t ≠ .quoted body range)
    (hList :
      ∀ items range, p = .paramList → t ≠ .list items range)
    (h : part ∈ t.partsAt names p) :
    part.1.isAside = true := by
  have hOr {q : PartPlace} (hq : q.isAside = true) :
      (p.asideOr q).isAside = true := by
    unfold PartPlace.asideOr
    split <;> assumption
  have hUnder (q : PartPlace) : (p.under q).isAside = true := by
    unfold PartPlace.under
    rw [hSlot]
    exact hOr rfl
  cases t with
  | subscript head args range =>
      simp only [TypeExpr.partsAt, List.mem_cons,
        List.mem_map] at h
      rcases h with rfl | ⟨inner, -, rfl⟩
      · exact hOr rfl
      · exact hUnder _
  | member owner attr range =>
      simp only [TypeExpr.partsAt, List.mem_singleton] at h
      subst h
      simp only [TypeExpr.ownerPlace]
      split
      · rfl
      · exact hOr rfl
  | either left right range =>
      simp only [TypeExpr.partsAt, List.mem_cons,
        List.not_mem_nil, or_false] at h
      rcases h with rfl | rfl <;> exact hUnder _
  | tuple items range =>
      simp only [TypeExpr.partsAt, PartPlace.forAll,
        List.mem_map] at h
      rcases h with ⟨item, -, rfl⟩
      exact hUnder _
  | list items range =>
      simp only [TypeExpr.partsAt, PartPlace.forAll,
        List.mem_map] at h
      rcases h with ⟨item, -, rfl⟩
      have hItem :
          p.ofItem =
            p.under
              (.within (.container "a list expression")) := by
        cases p <;>
          first | rfl | exact absurd rfl (hList _ _ rfl)
      rw [hItem]
      exact hUnder _
  | quoted body range => exact absurd rfl (hQuoted _ _)
  | _ => simp [TypeExpr.partsAt] at h

/-
  The walk reports what is wrong with a part itself and then,
  from left to right, what is wrong with the parts in it.
-/
theorem check_eq_own_append
    (p : PartPlace)
    (t : TypeExpr) :
    site.check p t =
      site.own p t
        ++ (t.partsAt site.names p).flatMap
          fun part =>
            (site.inside t).check part.1 part.2 := by
  cases hSlot : p.slot? with
  | some slot =>
      rw [check_of_slot site hSlot, own_of_slot site hSlot]
      exact site.walk_eq_ownType_append slot hSlot t
  | none =>
      by_cases hQuoted : ∃ body range, t = .quoted body range
      · rcases hQuoted with ⟨body, range, rfl⟩
        cases p <;>
          simp [check, own, ownParams, ownSpec, walkParams,
            specArg, inside, TypeExpr.partsAt, PartPlace.slot?]
            at hSlot ⊢
      · by_cases hList :
            p = .paramList ∧ ∃ items range, t = .list items range
        · rcases hList with ⟨rfl, items, range, rfl⟩
          simp [own, ownParams, walkParams, inside,
            TypeExpr.partsAt, PartPlace.ofItem,
            site.flatMap_check_forAll (PartPlace.slot?_within _)]
        · rw [(site.inside t).flatMap_check_of_isAside,
            List.append_nil]
          · cases p with
            | paramList =>
                cases t <;>
                  grind [walkParams, own, ownParams, check]
            | classSpec target param =>
                cases t <;> grind [specArg, own, ownSpec, check]
            | _ => simp [check, own, PartPlace.slot?] at hSlot ⊢
          · intro part hPart
            apply isAside_of_mem_partsAt hSlot _ _ hPart
            · intro body range h
              exact hQuoted ⟨body, range, h⟩
            · intro items range hp h
              exact hList ⟨hp, items, range, h⟩

------------------------------------------------------------
-- The Whole Walk
------------------------------------------------------------

@[simp]
theorem inside_names (t : TypeExpr) :
    (site.inside t).names = site.names := by
  cases t <;> rfl

/- The walk over an annotation goes over every part in it. -/
theorem check_subset_of_mem_partsAt
    {p : PartPlace} {t : TypeExpr} {part : PartPlace × TypeExpr}
    (h : part ∈ t.partsAt site.names p) :
    (site.inside t).check part.1 part.2 ⊆ site.check p t := by
  intro d hd
  rw [check_eq_own_append]
  apply List.mem_append_right
  exact List.mem_flatMap.mpr ⟨part, h, hd⟩

/- What is wrong with a part is reported with the whole. -/
theorem own_subset_of_part
    {p q : PartPlace} {t u : TypeExpr}
    (h : TypeExpr.Part site.names p t q u) :
    ∃ site' : UseSite, site'.names = site.names ∧
      site'.own q u ⊆ site.check p t := by
  generalize hNames : site.names = names at h
  induction h generalizing site with
  | here p t =>
      refine ⟨site, hNames, ?_⟩
      rw [check_eq_own_append]
      exact List.subset_append_left _ _
  | @step p q r t u v hPart _ ih =>
      subst hNames
      rcases ih (site.inside t) (site.inside_names t) with
        ⟨site', hSame, hOwn⟩
      refine ⟨site', hSame, ?_⟩
      apply List.Subset.trans hOwn
      exact site.check_subset_of_mem_partsAt hPart

/- The walk after the literals of a trail were opened. -/
def along (site : UseSite) (trail : List ByteRange) : UseSite :=
  trail.foldl enter site

/- The walk into a part opens the literal that the part is. -/
theorem along_inside
    (t : TypeExpr)
    (trail : List ByteRange) :
    (site.inside t).along trail =
      site.along (t.opened ++ trail) := by
  cases t <;> rfl

@[simp]
theorem along_names (trail : List ByteRange) :
    (site.along trail).names = site.names := by
  induction trail generalizing site with
  | nil => rfl
  | cons r trail ih => exact ih (site.enter r)

/-
  What is reported is wrong with one of the parts, and the
  walk has opened the literals on the way to the part.
-/
theorem exists_trail_of_mem_check
    {start : UseSite}
    {p : PartPlace} {t : TypeExpr} {d : Diagnostic}
    (h : d ∈ start.check p t) :
    ∃ (trail : List ByteRange) (q : PartPlace) (u : TypeExpr),
      TypeExpr.Trail start.names p t trail q u ∧
        d ∈ (start.along trail).own q u := by
  rw [check_eq_own_append, List.mem_append] at h
  rcases h with hOwn | hInner
  · exact ⟨[], p, t, .here p t, hOwn⟩
  · rcases List.mem_flatMap.mp hInner with ⟨part, hPart, hd⟩
    have hSmaller := TypeExpr.sizeOf_lt_of_mem_partsAt hPart
    rcases exists_trail_of_mem_check hd with
      ⟨trail, q, u, hTrail, hOwn⟩
    rw [inside_names] at hTrail
    rw [along_inside] at hOwn
    exact ⟨t.opened ++ trail, q, u, .step hPart hTrail, hOwn⟩
termination_by sizeOf t

/- What is reported is wrong with one of the parts. -/
theorem exists_part_of_mem_check
    {start : UseSite}
    {p : PartPlace} {t : TypeExpr} {d : Diagnostic}
    (h : d ∈ start.check p t) :
    ∃ (q : PartPlace) (u : TypeExpr) (site : UseSite),
      TypeExpr.Part start.names p t q u ∧
        site.names = start.names ∧ d ∈ site.own q u := by
  rcases exists_trail_of_mem_check h with
    ⟨trail, q, u, hTrail, hOwn⟩
  exact ⟨q, u, start.along trail, hTrail.part,
    start.along_names trail, hOwn⟩

end UseSite

end SigCheck
