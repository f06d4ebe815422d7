import SigCheck.Proofs.AnnotationParts

/-
  Where parameter specifications stand in annotations without
  a fault.

  A walk that reports nothing has seen every part but those
  in the heads of subscripts and in the owners of members,
  and it lets everything pass in the arguments of a head that
  means a variable or a value. Everywhere else a parameter
  specification stands as a whole parameter list or as an
  argument that may be one.

  Key definitions include:
    * `PartPlace.AdmitsSpec`, `PartPlace.OverlooksSpec`

  Correctness is proven by:
    * `PartPlace.admits_or_overlooks_of_own_eq_nil`
    * `TypeExpr.exists_part_of_invalidUseSite`
    * `TypeExpr.useSites_admitted_iff`
-/

namespace SigCheck

------------------------------------------------------------
-- Places for Parameter Specifications
------------------------------------------------------------

namespace PartPlace

/-
  A parameter specification may stand here: as the whole
  parameter list of a callable, as an argument of a class for
  one, as an argument of a generic form or of a subscript of
  which nothing is known, and as the owner of the projection
  that annotates a parameter.
-/
inductive AdmitsSpec : PartPlace → Prop
  | paramList : AdmitsSpec .paramList
  | classSpec (target param : String) :
      AdmitsSpec (.classSpec target param)
  | genericArg : AdmitsSpec (.within .unchecked)
  | unknownArg : AdmitsSpec .unknownArg
  | projected : AdmitsSpec .projected

/- The walk does not judge what stands here. -/
inductive OverlooksSpec : PartPlace → Prop
  | head : OverlooksSpec .head
  | owner : OverlooksSpec .owner
  | knownArg : OverlooksSpec .knownArg

/- No place that is overlooked admits anything. -/
theorem AdmitsSpec.not_overlooksSpec
    {p : PartPlace}
    (h : p.AdmitsSpec) :
    ¬ p.OverlooksSpec := by
  intro hOverlooks
  cases h <;> cases hOverlooks

end PartPlace

------------------------------------------------------------
-- One Part
------------------------------------------------------------

/- A name that is a parameter specification projects none. -/
theorem NameEnv.projection?_of_paramSpec
    {names : NameEnv} {path : NamePath} {var : String}
    (h : (names.meaning path).paramSpec? = some var) :
    names.projection? path = none := by
  cases path with
  | name id => rfl
  | member owner attr =>
      exfalso
      revert h
      simp only [NameEnv.meaning]
      unfold Meaning.ofForm Meaning.paramSpec?
      grind

namespace TypeExpr

variable {names : NameEnv}

/- A parameter specification is a path. -/
theorem exists_path_of_spec
    {t : TypeExpr} {var : String}
    (h : t.spec? names = some var) :
    ∃ path, t.path? = some path ∧
      (names.meaning path).paramSpec? = some var := by
  unfold spec? at h
  cases hPath : t.path? with
  | none =>
      rw [hPath] at h
      cases h
  | some path =>
      rw [hPath] at h
      exact ⟨path, rfl, h⟩

/- Only names and members are paths. -/
theorem eq_ident_or_member_of_path
    {t : TypeExpr} {path : NamePath}
    (h : t.path? = some path) :
    (∃ id range, t = .ident id range) ∨
      ∃ owner attr range, t = .member owner attr range := by
  cases t with
  | ident id range => exact Or.inl ⟨id, range, rfl⟩
  | member owner attr range =>
      exact Or.inr ⟨owner, attr, range, rfl⟩
  | _ => cases h

end TypeExpr

namespace UseSite

variable {site : UseSite}

/- A parameter specification is judged by its slot alone. -/
theorem ownType_of_spec
    {t : TypeExpr} {var : String}
    (hSpec : t.spec? site.names = some var)
    (slot : Slot) :
    site.ownType slot t =
      site.misplacedSpec slot var t.range := by
  rcases TypeExpr.exists_path_of_spec hSpec with
    ⟨path, hPath, hMeaning⟩
  have hPlace :
      site.place slot t =
        site.misplacedSpec slot var t.range := by
    simp [place, UseSite.path, hPath, hMeaning,
      NameEnv.projection?_of_paramSpec hMeaning]
  rcases TypeExpr.eq_ident_or_member_of_path hPath with
    ⟨id, range, rfl⟩ | ⟨owner, attr, range, rfl⟩ <;>
    exact hPlace

/- A slot without a message lets everything pass. -/
theorem misplacedSpec_eq_nil_iff
    (slot : Slot)
    (var : String)
    (range : ByteRange) :
    site.misplacedSpec slot var range = [] ↔
      slot = .unchecked := by
  unfold misplacedSpec
  rcases slot with (_ | _ | _ | _) | _ | _ | _ | _ | _ <;>
    simp [Slot.context?, report]

end UseSite

/-
  Where a parameter specification itself is not reported, it
  may stand or the walk does not judge it.
-/
theorem PartPlace.admits_or_overlooks_of_own_eq_nil
    {site : UseSite} {p : PartPlace}
    {t : TypeExpr} {var : String}
    (hSpec : t.spec? site.names = some var)
    (hOwn : site.own p t = []) :
    p.AdmitsSpec ∨ p.OverlooksSpec ∨ p = .surplus := by
  cases p with
  | within slot =>
      rw [UseSite.own_of_slot site rfl,
        UseSite.ownType_of_spec hSpec,
        UseSite.misplacedSpec_eq_nil_iff] at hOwn
      subst hOwn
      exact Or.inl .genericArg
  | paramList => exact Or.inl .paramList
  | classSpec target param =>
      exact Or.inl (.classSpec target param)
  | unknownArg => exact Or.inl .unknownArg
  | knownArg => exact Or.inr (Or.inl .knownArg)
  | projected => exact Or.inl .projected
  | head => exact Or.inr (Or.inl .head)
  | owner => exact Or.inr (Or.inl .owner)
  | surplus => exact Or.inr (Or.inr rfl)

------------------------------------------------------------
-- Surplus Parts
------------------------------------------------------------

namespace UseSite

variable {site : UseSite}

/- What is no path is no parameter specification. -/
theorem specPath_ne_nil_of_path
    {t : TypeExpr}
    (hPath : t.path? = none)
    (target param : String) :
    site.specPath target param t ≠ [] := by
  simp [specPath, hPath, NameEnv.meaningOf,
    Meaning.paramSpec?, badArguments, report]

/- What is no path is no parameter list of a variable. -/
theorem specParams_ne_nil_of_path
    {t : TypeExpr}
    (hPath : t.path? = none) :
    site.specParams t ≠ [] := by
  simp [specParams, hPath, NameEnv.meaningOf,
    Meaning.paramSpec?, badParams, badArguments, report]

/- A subscript with surplus arguments is reported. -/
theorem ownArgs_ne_nil_of_surplus
    {head u : TypeExpr} {args : List TypeExpr} {m : Meaning}
    (h : (PartPlace.surplus, u) ∈ m.argPlaces head args)
    (range : ByteRange) :
    site.ownArgs args range m ≠ [] := by
  unfold Meaning.argPlaces PartPlace.forAll at h
  unfold ownArgs
  cases m with
  | special form =>
      cases form <;> try simp [formSlot] at h
      rcases args with _ | ⟨params, _ | ⟨ret, _ | ⟨_, _⟩⟩⟩ <;>
        simp [badCallable, badArguments, report] at h ⊢
  | cls info =>
      by_cases hGeneric : info.isGeneric = true
      · by_cases hCount :
            args.length = info.typeParams.length
        · exfalso
          simp only [hGeneric, hCount, beq_self_eq_true,
            Bool.and_self, if_true] at h
          have hPlace := (List.of_mem_zip h).1
          simp only [List.mem_map] at hPlace
          rcases hPlace with ⟨⟨name, _ | _⟩, -, hPlace⟩ <;>
            cases hPlace
        · simp [hGeneric, hCount, badCount, badArguments,
            report]
      · simp [hGeneric, notGeneric, badArguments, report]
  | _ => simp at h

/- What stands aside has surplus parts only if it is surplus. -/
theorem eq_surplus_of_isAside
    {p : PartPlace} {t u : TypeExpr}
    (hAside : p.isAside = true)
    (h : (PartPlace.surplus, u) ∈ t.partsAt site.names p) :
    p = .surplus := by
  have hOr := PartPlace.asideOr_of_isAside hAside
  have hUnder := PartPlace.under_of_isAside hAside
  have hItem := PartPlace.ofItem_of_isAside hAside
  cases t <;>
    simp only [TypeExpr.partsAt, PartPlace.forAll,
      PartPlace.ofAlternative, PartPlace.ofTupleItem,
      TypeExpr.ownerPlace, hOr, hUnder, hItem] at h <;>
    grind

/- A type that has surplus parts is reported. -/
theorem ownType_ne_nil_of_surplus
    {p : PartPlace} {slot : Slot} {t u : TypeExpr}
    (hSlot : p.slot? = some slot)
    (h : (PartPlace.surplus, u) ∈ t.partsAt site.names p) :
    site.ownType slot t ≠ [] := by
  have hUnder := PartPlace.under_of_slot hSlot
  have hOr := PartPlace.asideOr_of_slot hSlot
  have hItem := PartPlace.ofItem_of_slot hSlot
  cases t with
  | subscript head args range =>
      simp only [TypeExpr.partsAt, hUnder, hOr] at h
      have hArg :
          (PartPlace.surplus, u) ∈
            (site.names.meaningOf head.path?).argPlaces head
              args := by
        simpa using h
      exact ownArgs_ne_nil_of_surplus hArg range
  | quoted body range =>
      exfalso
      simp only [TypeExpr.partsAt, List.mem_singleton] at h
      have hPlace := congrArg Prod.fst h
      dsimp only at hPlace
      rw [← hPlace] at hSlot
      cases hSlot
  | _ =>
      exfalso
      simp only [TypeExpr.partsAt, PartPlace.forAll,
        PartPlace.ofAlternative, PartPlace.ofTupleItem,
        TypeExpr.ownerPlace, hUnder, hOr, hItem] at h
      grind

/- What has surplus parts in a parameter list is no path. -/
theorem ownParams_ne_nil_of_surplus
    {t u : TypeExpr}
    (h :
      (PartPlace.surplus, u) ∈
        t.partsAt site.names .paramList) :
    site.ownParams t ≠ [] := by
  cases t with
  | subscript head args range =>
      exact specParams_ne_nil_of_path (t := .subscript ..) rfl
  | either left right range =>
      exact specParams_ne_nil_of_path (t := .either ..) rfl
  | tuple items range =>
      exact specParams_ne_nil_of_path (t := .tuple ..) rfl
  | _ =>
      exfalso
      simp [TypeExpr.partsAt, PartPlace.forAll,
        PartPlace.ofItem, TypeExpr.ownerPlace,
        PartPlace.asideOr, PartPlace.isAside,
        PartPlace.parameter] at h

/- What has surplus parts is no argument that is a list. -/
theorem ownSpec_ne_nil_of_surplus
    {target param : String} {t u : TypeExpr}
    (h :
      (PartPlace.surplus, u) ∈
        t.partsAt site.names (.classSpec target param)) :
    site.ownSpec target param t ≠ [] := by
  cases t with
  | subscript head args range =>
      exact specPath_ne_nil_of_path (t := .subscript ..) rfl _ _
  | either left right range =>
      exact specPath_ne_nil_of_path (t := .either ..) rfl _ _
  | tuple items range =>
      exact specPath_ne_nil_of_path (t := .tuple ..) rfl _ _
  | list items range =>
      simp [ownSpec, listAsSpec, badArguments, report]
  | _ =>
      exfalso
      simp [TypeExpr.partsAt, TypeExpr.ownerPlace,
        PartPlace.asideOr, PartPlace.isAside,
        PartPlace.parameter] at h

/-
  A part that has surplus parts is reported, unless it is
  surplus itself.
-/
theorem own_ne_nil_of_surplus
    {p : PartPlace} {t u : TypeExpr}
    (hPlace : p ≠ .surplus)
    (h : (PartPlace.surplus, u) ∈ t.partsAt site.names p) :
    site.own p t ≠ [] := by
  cases hSlot : p.slot? with
  | some slot =>
      rw [own_of_slot site hSlot]
      exact ownType_ne_nil_of_surplus hSlot h
  | none =>
      by_cases hAside : p.isAside = true
      · exact absurd (eq_surplus_of_isAside hAside h) hPlace
      · cases p with
        | paramList => exact ownParams_ne_nil_of_surplus h
        | classSpec target param =>
            exact ownSpec_ne_nil_of_surplus h
        | _ =>
            first
              | exact absurd rfl hAside
              | cases hSlot

/-
  Surplus parts of an annotation are never without a report,
  since what they are surplus in is reported.
-/
theorem check_ne_nil_of_surplus
    {p q : PartPlace} {t u : TypeExpr}
    (hPlace : p ≠ .surplus)
    (h : TypeExpr.Part site.names p t q u)
    (hSurplus : q = .surplus) :
    site.check p t ≠ [] := by
  generalize hNames : site.names = names at h
  induction h generalizing site with
  | here p t => exact absurd hSurplus hPlace
  | @step p q r t u v hPart hRest ih =>
      subst hNames
      by_cases hNext : q = .surplus
      · subst hNext
        have hOwn := own_ne_nil_of_surplus hPlace hPart
        rw [check_eq_own_append]
        exact List.append_ne_nil_of_left_ne_nil hOwn _
      · have hInner : (site.inside t).check q u ≠ [] :=
          ih hNext hSurplus (site.inside_names t)
        intro hNil
        have hSubset :=
          site.check_subset_of_mem_partsAt hPart
        rw [hNil, List.subset_nil] at hSubset
        exact hInner hSubset

end UseSite

------------------------------------------------------------
-- Whole Annotations
------------------------------------------------------------

namespace UseSite

variable {site : UseSite}

/- A path is reported as a specification only if it is one. -/
theorem spec_of_mem_place
    {slot : Slot} {t : TypeExpr}
    {d : Diagnostic} {var context : String}
    (hCause : d.cause = .invalidUseSite var context)
    (h : d ∈ site.place slot t) :
    t.spec? site.names = some var ∧
      slot.context? = some context := by
  unfold place UseSite.path misplacedProjection
    misplacedSpec report at h
  unfold TypeExpr.spec? NameEnv.meaningOf
  cases hPath : t.path? with
  | none => simp [hPath] at h
  | some path =>
      simp only [hPath] at h ⊢
      split at h
      · split at h <;> simp at h
        subst h
        cases hCause
      · split at h
        · rename_i hMeaning
          split at h <;> simp at h
          rename_i hContext
          subst h
          cases hCause
          exact ⟨hMeaning, hContext⟩
        · simp at h

/- Other faults are not the misplaced specification. -/
theorem not_mem_report
    {d : Diagnostic} {var context : String} {cause : Cause}
    (hCause : d.cause = .invalidUseSite var context)
    (hOther : cause ≠ .invalidUseSite var context)
    (range : ByteRange) :
    d ∉ site.report cause range := by
  intro hMem
  unfold report at hMem
  rw [List.mem_singleton] at hMem
  subst hMem
  exact hOther hCause

/- No specification is misplaced as a parameter list. -/
theorem not_mem_ownParams
    {t : TypeExpr} {d : Diagnostic} {var context : String}
    (hCause : d.cause = .invalidUseSite var context) :
    d ∉ site.ownParams t := by
  have hNotParams : d ∉ site.specParams t := by
    intro h
    unfold specParams badParams badArguments at h
    split at h
    · simp at h
    · rename_i hNoSpec
      split at h
      · have hSpec := (spec_of_mem_place hCause h).1
        unfold TypeExpr.spec? at hSpec
        simp [hSpec] at hNoSpec
      · exact not_mem_report hCause (by simp) _ h
  intro h
  unfold ownParams at h
  split at h
  · simp at h
  · exact not_mem_report hCause (by simp) _ h
  · simp at h
  · simp at h
  · exact hNotParams h

/- No specification is misplaced in place of a list. -/
theorem not_mem_ownSpec
    {target param : String} {t : TypeExpr}
    {d : Diagnostic} {var context : String}
    (hCause : d.cause = .invalidUseSite var context) :
    d ∉ site.ownSpec target param t := by
  intro h
  unfold ownSpec listAsSpec specPath badArguments at h
  split at h
  · simp at h
  · simp at h
  · exact not_mem_report hCause (by simp) _ h
  · split at h
    · simp at h
    · exact not_mem_report hCause (by simp) _ h

/- No specification is misplaced by a list of arguments. -/
theorem not_mem_ownArgs
    {args : List TypeExpr} {range : ByteRange} {m : Meaning}
    {d : Diagnostic} {var context : String}
    (hCause : d.cause = .invalidUseSite var context) :
    d ∉ site.ownArgs args range m := by
  intro h
  unfold ownArgs badCallable notGeneric badCount
    badArguments at h
  split at h
  · split at h
    · simp at h
    · exact not_mem_report hCause (by simp) _ h
  · split at h
    · exact not_mem_report hCause (by simp) _ h
    · split at h
      · exact not_mem_report hCause (by simp) _ h
      · simp at h
  · simp at h

/-
  A parameter specification is reported only where one
  stands, at a place with a message for it.
-/
theorem spec_of_mem_own
    {p : PartPlace} {t : TypeExpr}
    {d : Diagnostic} {var context : String}
    (hCause : d.cause = .invalidUseSite var context)
    (h : d ∈ site.own p t) :
    t.spec? site.names = some var ∧
      ∃ slot, p.slot? = some slot ∧
        slot.context? = some context := by
  cases hSlot : p.slot? with
  | some slot =>
      rw [own_of_slot site hSlot] at h
      unfold ownType at h
      split at h
      · exact (spec_of_mem_place hCause h).imp_right
          fun hContext => ⟨slot, rfl, hContext⟩
      · exact (spec_of_mem_place hCause h).imp_right
          fun hContext => ⟨slot, rfl, hContext⟩
      · exact absurd h (not_mem_report hCause (by simp) _)
      · exact absurd h (not_mem_ownArgs hCause)
      · simp at h
  | none =>
      exfalso
      cases p with
      | paramList => exact not_mem_ownParams hCause h
      | classSpec target param =>
          exact not_mem_ownSpec hCause h
      | _ => simp [own, PartPlace.slot?] at h hSlot

end UseSite

namespace TypeExpr

variable {names : NameEnv} {index : LineIndex}
  {position : Position}

/-
  If an annotation is checked without an error, a parameter
  specification inside it stands where one may stand exactly
  if it is not overlooked: it is no part of the head of a
  subscript or of the owner of a member, and no argument of
  a head that means a variable or a value.
-/
theorem useSites_admitted_iff
    {t : TypeExpr}
    (hSilent : t.useSiteErrors names index position = [])
    {p : PartPlace} {part : TypeExpr} {var : String}
    (hPart :
      Part names (.within (.topLevel position)) t p part)
    (hSpec : part.spec? names = some var) :
    p.AdmitsSpec ↔ ¬ p.OverlooksSpec := by
  constructor
  · intro hAdmits
    exact hAdmits.not_overlooksSpec
  · intro hSeen
    let site : UseSite := ⟨names, index, none⟩
    have hCheck :
        site.check (.within (.topLevel position)) t = [] :=
      hSilent
    have hPlace : p ≠ .surplus := by
      intro hSurplus
      have hStart :
          PartPlace.within (.topLevel position) ≠ .surplus := by
        simp
      have hReported :
          site.check (.within (.topLevel position)) t ≠ [] :=
        UseSite.check_ne_nil_of_surplus hStart hPart hSurplus
      exact hReported hCheck
    rcases UseSite.own_subset_of_part site hPart with
      ⟨site', hNames, hSubset⟩
    rw [hCheck, List.subset_nil] at hSubset
    have hHere : part.spec? site'.names = some var := by
      rw [hNames]
      exact hSpec
    rcases PartPlace.admits_or_overlooks_of_own_eq_nil hHere
        hSubset with hAdmits | hOverlooks | hSurplus
    · exact hAdmits
    · exact absurd hOverlooks hSeen
    · exact absurd hSurplus hPlace

/- One parameter specification and the form `Callable`. -/
def specAndCallable : NameEnv
  | "P" => .paramSpec "P"
  | "Callable" => .special .callable
  | _ => .unknown

/-
  The parameter list in `Callable[P, int]` may be a parameter
  specification, and the annotation is without an error.
-/
theorem useSites_admitted_iff_callable :
    PartPlace.paramList.AdmitsSpec ↔
      ¬ PartPlace.paramList.OverlooksSpec :=
  @useSites_admitted_iff specAndCallable (.ofText "")
    .parameter
    (.subscript (.ident "Callable" ⟨0, 8⟩)
      [.ident "P" ⟨9, 10⟩, .ident "int" ⟨12, 15⟩] ⟨0, 16⟩)
    (by decide)
    .paramList (.ident "P" ⟨9, 10⟩) "P"
    (.step (List.mem_cons_of_mem _ (List.mem_cons_self ..))
      (.here _ _))
    (by decide)

/-
  The parameter specification `P` in `P[int]` is the head of
  a subscript, where none may stand, but the annotation is
  without an error.
-/
theorem useSites_overlook_head :
    let t : TypeExpr :=
      .subscript (.ident "P" ⟨0, 1⟩) [.ident "int" ⟨2, 5⟩]
        ⟨0, 6⟩
    t.useSiteErrors specAndCallable (.ofText "")
        .parameter = [] ∧
      Part specAndCallable (.within (.topLevel .parameter)) t
        .head (.ident "P" ⟨0, 1⟩) ∧
      (TypeExpr.ident "P" ⟨0, 1⟩).spec? specAndCallable =
        some "P" ∧
      ¬ PartPlace.head.AdmitsSpec := by
  refine ⟨by decide, ?_, by decide, ?_⟩
  · exact .step (List.mem_cons_self ..) (.here _ _)
  · intro h
    cases h

/-
  What is reported as misplaced is a parameter specification
  that may not stand where it stands.
-/
theorem exists_part_of_invalidUseSite
    {t : TypeExpr} {d : Diagnostic} {var context : String}
    (hMem : d ∈ t.useSiteErrors names index position)
    (hCause : d.cause = .invalidUseSite var context) :
    ∃ (p : PartPlace) (part : TypeExpr),
      Part names (.within (.topLevel position)) t p part ∧
        part.spec? names = some var ∧
        ¬ p.AdmitsSpec ∧ ¬ p.OverlooksSpec := by
  have hCheck :
      d ∈ UseSite.check ⟨names, index, none⟩
        (.within (.topLevel position)) t :=
    hMem
  rcases UseSite.exists_part_of_mem_check hCheck with
    ⟨p, part, site, hPart, hNames, hOwn⟩
  rcases UseSite.spec_of_mem_own hCause hOwn with
    ⟨hSpec, slot, hSlot, hContext⟩
  rw [hNames] at hSpec
  refine ⟨p, part, hPart, hSpec, ?_, ?_⟩
  · intro hAdmits
    cases hAdmits <;> cases hSlot <;> cases hContext
  · intro hOverlooks
    cases hOverlooks <;> cases hSlot
    cases hContext

end TypeExpr

end SigCheck
