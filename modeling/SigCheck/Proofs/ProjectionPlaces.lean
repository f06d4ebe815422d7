import Mathlib.Tactic.ByContra
import SigCheck.Proofs.Growth
import SigCheck.Proofs.SpecPlaces

/-
  Where projections stand in the header of a definition whose
  check reports no misuse of one.

  Two checks share the work. The walk over an annotation lets
  a projection pass that is the whole annotation of a
  parameter, and the check of the parameters looks at whole
  annotations behind at most one pair of quotes, a receiver
  left out. A projection is hidden if neither looks at it.

  Key definitions include:
    * `PartPlace.OverlooksProjection`
    * `ParamDef.Carries`, `ParamDef.Projects`
    * `ParamDef.Hides`, `ParamDefs.Hides`
    * `ParamDefs.Forwards`

  Correctness is proven by:
    * `PartPlace.overlooks_of_own_silent`
    * `ProjectionCheck.forwards_of_silent`
    * `Stmt.carries_none_or_forwards`
-/

namespace SigCheck

------------------------------------------------------------
-- Faults of Projections
------------------------------------------------------------

/- The diagnostic is about the misuse of a projection. -/
def Diagnostic.isProjectionFault (d : Diagnostic) : Bool :=
  d.cause.code == "paramspec-projection"

/- One cause alone has the code of projections. -/
theorem Diagnostic.isProjectionFault_iff (d : Diagnostic) :
    d.isProjectionFault = true ↔
      ∃ reason, d.cause = .invalidProjection reason := by
  unfold isProjectionFault
  cases d.cause <;> simp [Cause.code]

/- No diagnostic is about the misuse of a projection. -/
def ProjectionSilent (ds : List Diagnostic) : Prop :=
  ∀ d ∈ ds, d.isProjectionFault = false

/- Part of what is silent is silent. -/
theorem ProjectionSilent.subset
    {ds es : List Diagnostic}
    (h : ProjectionSilent es)
    (hSubset : ds ⊆ es) :
    ProjectionSilent ds :=
  fun d hd => h d (hSubset hd)

/- One after the other is silent if both are. -/
@[simp]
theorem projectionSilent_append
    (ds es : List Diagnostic) :
    ProjectionSilent (ds ++ es) ↔
      ProjectionSilent ds ∧ ProjectionSilent es := by
  simp [ProjectionSilent, or_imp, forall_and]

/- A fault of a projection is not silent. -/
theorem ProjectionSilent.not_mem
    {ds : List Diagnostic} {d : Diagnostic}
    (h : ProjectionSilent ds)
    {reason : String}
    (hCause : d.cause = .invalidProjection reason) :
    d ∉ ds := by
  intro hd
  have hFault :=
    d.isProjectionFault_iff.mpr ⟨reason, hCause⟩
  rw [h d hd] at hFault
  cases hFault

------------------------------------------------------------
-- Projections in an Annotation
------------------------------------------------------------

/- No walk that stands there reports a projection. -/
inductive PartPlace.OverlooksProjection : PartPlace → Prop
  | head : OverlooksProjection .head
  | owner : OverlooksProjection .owner
  | classSpec (target param : String) :
      OverlooksProjection (.classSpec target param)
  | surplus : OverlooksProjection .surplus

namespace TypeExpr

variable {names : NameEnv}

/- A projection is a member of a parameter specification. -/
theorem eq_member_of_projection
    {t : TypeExpr} {q : Projection}
    (h : t.projection? names = some q) :
    ∃ owner attr range,
      t = .member owner attr range ∧
        owner.spec? names = some q.var := by
  unfold projection? at h
  cases t with
  | member owner attr range =>
      refine ⟨owner, attr, range, rfl, ?_⟩
      unfold spec? NameEnv.meaningOf
      cases hPath : owner.path? with
      | none => simp [path?, hPath] at h
      | some path =>
          simp only [path?, hPath, Option.map_some,
            Option.bind_some, NameEnv.projection?,
            Option.bind_eq_bind, Option.bind_eq_some_iff] at h
          rcases h with ⟨kind, -, var, hVar, hq⟩
          cases hq
          exact hVar
  | _ => cases h

/- A parameter specification is a plain name. -/
theorem eq_ident_of_spec
    {t : TypeExpr} {var : String}
    (h : t.spec? names = some var) :
    ∃ id range, t = .ident id range := by
  rcases exists_path_of_spec h with ⟨path, hPath, hMeaning⟩
  rcases eq_ident_or_member_of_path hPath with
    ⟨id, range, rfl⟩ | ⟨owner, attr, range, rfl⟩
  · exact ⟨id, range, rfl⟩
  · exfalso
    simp only [path?, Option.map_eq_some_iff] at hPath
    rcases hPath with ⟨inner, -, rfl⟩
    revert hMeaning
    simp only [NameEnv.meaning]
    unfold Meaning.ofForm Meaning.paramSpec?
    grind

/- A projection is no parameter specification. -/
theorem spec?_of_projection
    {t : TypeExpr} {q : Projection}
    (h : t.projection? names = some q) :
    t.spec? names = none := by
  cases hSpec : t.spec? names with
  | none => rfl
  | some var =>
      rcases eq_ident_of_spec hSpec with ⟨id, range, rfl⟩
      cases h

/- No argument of a subscript projects. -/
theorem ne_projected_of_mem_argPlaces
    {head : TypeExpr} {args : List TypeExpr}
    {m : Meaning} {part : PartPlace × TypeExpr}
    (h : part ∈ m.argPlaces head args) :
    part.1 ≠ .projected := by
  unfold Meaning.argPlaces PartPlace.forAll at h
  split at h
  · split at h
    · simp only [List.mem_cons, List.not_mem_nil, or_false] at h
      rcases h with rfl | rfl <;> simp
    · grind
  · grind
  · split at h
    · have hPlace := (List.of_mem_zip h).1
      simp only [List.mem_map] at hPlace
      rcases hPlace with ⟨⟨name, _ | _⟩, -, hPlace⟩ <;>
        simp [← hPlace, TypeParam.place]
    · grind
  · grind
  · grind

/- Right inside a part, a specification alone projects. -/
theorem spec_of_mem_projected
    {p : PartPlace} {t u : TypeExpr}
    (h : (PartPlace.projected, u) ∈ t.partsAt names p)
    (hStart : p = .projected → (t.spec? names).isSome) :
    (u.spec? names).isSome := by
  by_cases hPlace : p = .projected
  · rcases Option.isSome_iff_exists.mp (hStart hPlace) with
      ⟨var, hVar⟩
    rcases eq_ident_of_spec hVar with ⟨id, range, rfl⟩
    simp [partsAt] at h
  · have hOr {q : PartPlace} (hq : q ≠ .projected) :
        .projected ≠ p.asideOr q := by
      unfold PartPlace.asideOr
      split
      · exact Ne.symm hPlace
      · exact hq.symm
    have hUnder {q : PartPlace} (hq : q ≠ .projected) :
        .projected ≠ p.under q := by
      unfold PartPlace.under
      split
      · exact hq.symm
      · exact hOr (by simp)
    have hItem : .projected ≠ p.ofItem := by
      unfold PartPlace.ofItem
      split
      · simp
      · exact hUnder (by simp)
    cases t with
    | member owner attr range =>
        simp only [partsAt, ownerPlace,
          List.mem_singleton] at h
        split at h
        · rename_i hProjects
          rcases Option.isSome_iff_exists.mp hProjects.2 with
            ⟨q, hq⟩
          rcases eq_member_of_projection hq with
            ⟨owner', attr', range', hMember, hSpec⟩
          cases hMember
          rw [(Prod.mk.inj h).2, hSpec]
          rfl
        · exact absurd (congrArg Prod.fst h) (hOr (by simp))
    | subscript head args range =>
        exfalso
        simp only [partsAt, List.mem_cons, List.mem_map] at h
        rcases h with h | ⟨inner, hInner, h⟩
        · exact hOr (by simp) (congrArg Prod.fst h)
        · exact hUnder (ne_projected_of_mem_argPlaces hInner)
            (congrArg Prod.fst h).symm
    | quoted body range =>
        exfalso
        simp only [partsAt, List.mem_singleton] at h
        exact hPlace (congrArg Prod.fst h).symm
    | either left right range =>
        exfalso
        simp only [partsAt, List.mem_cons, List.not_mem_nil,
          or_false, PartPlace.ofAlternative] at h
        rcases h with h | h <;>
          exact hUnder (by simp) (congrArg Prod.fst h)
    | tuple items range =>
        exfalso
        simp only [partsAt, PartPlace.forAll, List.mem_map,
          PartPlace.ofTupleItem] at h
        rcases h with ⟨item, -, h⟩
        exact hUnder (by simp) (congrArg Prod.fst h).symm
    | list items range =>
        exfalso
        simp only [partsAt, PartPlace.forAll,
          List.mem_map] at h
        rcases h with ⟨item, -, h⟩
        exact hItem (congrArg Prod.fst h).symm
    | _ => simp [partsAt] at h

/- Nothing but a specification stands where one projects. -/
theorem projection?_of_projected
    {p q : PartPlace} {t u : TypeExpr}
    (hPart : Part names p t q u)
    (hStart : p = .projected → (t.spec? names).isSome)
    (hEnd : q = .projected) :
    u.projection? names = none := by
  induction hPart with
  | here p t =>
      rcases Option.isSome_iff_exists.mp (hStart hEnd) with
        ⟨var, hVar⟩
      rcases eq_ident_of_spec hVar with ⟨id, range, rfl⟩
      rfl
  | @step p q r t u v hStep _ ih =>
      apply ih _ hEnd
      intro hNext
      subst hNext
      exact spec_of_mem_projected hStep hStart

end TypeExpr

namespace UseSite

variable {site : UseSite}

/- A projection is judged by its slot alone. -/
theorem place_of_projection
    {t : TypeExpr} {q : Projection}
    (h : t.projection? site.names = some q)
    (slot : Slot) :
    site.place slot t =
      site.misplacedProjection slot q t.range := by
  unfold TypeExpr.projection? at h
  cases hPath : t.path? with
  | none => simp [hPath] at h
  | some path =>
      simp only [hPath, Option.bind_some] at h
      simp [place, hPath, UseSite.path, h]

/- Only the annotation of a parameter takes a projection. -/
theorem misplacedProjection_silent_iff
    (slot : Slot)
    (q : Projection)
    (range : ByteRange) :
    ProjectionSilent (site.misplacedProjection slot q range) ↔
      slot = .topLevel .parameter := by
  unfold misplacedProjection
  cases hFault : slot.projectionFault? q.label with
  | none =>
      have hSlot : slot = .topLevel .parameter := by
        unfold Slot.projectionFault? at hFault
        split at hFault <;> first | rfl | cases hFault
      simp [ProjectionSilent, hSlot]
  | some reason =>
      have hSlot : slot ≠ .topLevel .parameter := by
        rintro rfl
        cases hFault
      simp [ProjectionSilent, report, hSlot,
        Diagnostic.isProjectionFault, Cause.code]

end UseSite

/-
  A projection that is not reported where it stands annotates
  a parameter, or no walk reports it there.
-/
theorem PartPlace.overlooks_of_own_silent
    {site : UseSite} {p : PartPlace}
    {t : TypeExpr} {q : Projection}
    (hProjection : t.projection? site.names = some q)
    (hOwn : ProjectionSilent (site.own p t)) :
    p = .parameter ∨ p.OverlooksProjection ∨
      p = .projected := by
  rcases TypeExpr.eq_member_of_projection hProjection with
    ⟨owner, attr, range, rfl, -⟩
  have hSlot {slot : Slot} (hp : p.slot? = some slot) :
      slot = .topLevel .parameter := by
    rw [UseSite.own_of_slot site hp] at hOwn
    simp only [UseSite.ownType,
      UseSite.place_of_projection hProjection] at hOwn
    exact (UseSite.misplacedProjection_silent_iff _ _ _).mp hOwn
  cases p with
  | within slot =>
      rw [hSlot rfl]
      exact Or.inl rfl
  | paramList =>
      exfalso
      have hSpec := TypeExpr.spec?_of_projection hProjection
      unfold TypeExpr.spec? at hSpec
      have hParams :
          site.own .paramList (.member owner attr range) =
            site.place .callableParam
              (.member owner attr range) := by
        unfold TypeExpr.projection? at hProjection
        simp [UseSite.own, UseSite.ownParams,
          UseSite.specParams, hSpec, hProjection]
      rw [hParams, UseSite.place_of_projection hProjection,
        UseSite.misplacedProjection_silent_iff] at hOwn
      cases hOwn
  | classSpec target param =>
      exact Or.inr (Or.inl (.classSpec target param))
  | unknownArg => cases hSlot rfl
  | knownArg => cases hSlot rfl
  | projected => exact Or.inr (Or.inr rfl)
  | head => exact Or.inr (Or.inl .head)
  | owner => exact Or.inr (Or.inl .owner)
  | surplus => exact Or.inr (Or.inl .surplus)

/-
  In an annotation without a report a projection is the whole
  annotation, or no walk reports it.
-/
theorem TypeExpr.parameter_or_overlooks_of_silent
    {names : NameEnv} {index : LineIndex}
    {t part : TypeExpr} {p : PartPlace} {q : Projection}
    (hSilent :
      ProjectionSilent (t.useSiteErrors names index .parameter))
    (hPart : Part names .parameter t p part)
    (hProjection : part.projection? names = some q) :
    p = .parameter ∨ p.OverlooksProjection := by
  rcases UseSite.own_subset_of_part ⟨names, index, none⟩ hPart
    with ⟨site, hNames, hSubset⟩
  have hHere : part.projection? site.names = some q := by
    rw [hNames]
    exact hProjection
  rcases PartPlace.overlooks_of_own_silent hHere
      (hSilent.subset hSubset) with hWhole | hOver | hOwner
  · exact Or.inl hWhole
  · exact Or.inr hOver
  · have hNone :=
      projection?_of_projected hPart (by intro h; cases h)
        hOwner
    rw [hNone] at hProjection
    cases hProjection

------------------------------------------------------------
-- Projections in a Header
------------------------------------------------------------

namespace ParamDef

/- The annotation is a projection or contains one. -/
def Carries (names : NameEnv) (p : ParamDef) : Prop :=
  ∃ (e : Expr) (place : PartPlace) (part : TypeExpr),
    p.typeExpr = some e ∧
      TypeExpr.Part names .parameter e.typeExpr place part ∧
      (part.projection? names).isSome

/- The annotation as a whole, quoted or not, is a projection. -/
def Projects
    (names : NameEnv)
    (p : ParamDef)
    (q : Projection) : Prop :=
  ∃ (e : Expr) (part : TypeExpr),
    p.typeExpr = some e ∧
      TypeExpr.Part names .parameter e.typeExpr .parameter
        part ∧
      part.projection? names = some q

/-
  Neither check looks at a projection in the annotation: no
  walk reports it where it stands, or it is the whole
  annotation behind more than one pair of quotes.
-/
def Hides (names : NameEnv) (p : ParamDef) : Prop :=
  ∃ (e : Expr) (place : PartPlace) (part : TypeExpr),
    p.typeExpr = some e ∧
      TypeExpr.Part names .parameter e.typeExpr place part ∧
      (part.projection? names).isSome ∧
      (place.OverlooksProjection ∨
        place = .parameter ∧ part ≠ e.typeExpr.unquoted)

end ParamDef

namespace ParamDefs

/-
  A projection in the header is looked at by neither check,
  one that annotates the receiver included.
-/
def Hides
    (names : NameEnv)
    (receiver : Bool)
    (ps : ParamDefs) : Prop :=
  (∃ p ∈ ps.all, p.Hides names) ∨
    receiver = true ∧
      ∃ p q, ps.positional.head? = some p ∧
        p.Projects names q

/-
  The star parameters are `*args: P.args` and
  `**kwargs: P.kwargs`, and nothing around them is another
  projection, a keyword-only parameter or a parameter in
  front that can be reached by its name.
-/
structure Forwards
    (names : NameEnv)
    (dunder receiver : Bool)
    (ps : ParamDefs)
    (var : String) : Prop where
  star :
    ∃ p, ps.star = some p ∧ p.Projects names ⟨var, .args⟩
  doubleStar :
    ∃ p, ps.doubleStar = some p ∧
      p.Projects names ⟨var, .kwargs⟩
  others :
    ∀ p ∈ ps.positional ++ ps.keywordOnly, ¬ p.Carries names
  keywordOnly : ps.keywordOnly = []
  positional :
    ∀ p ∈ ps.lead.drop (if receiver then 1 else 0),
      p.slashed = true ∨
        dunder = true ∧ isDunderName p.param.name = true

/- The parameters before a star are the positional ones. -/
@[simp]
theorem map_param_lead (ps : ParamDefs) :
    ps.lead.map (·.param) = ps.positional := by
  simp [lead, positional, Function.comp_def]

end ParamDefs

namespace ProjectionCheck

variable {c : ProjectionCheck}

/- The check finds whole annotations behind single quotes. -/
theorem projection?_eq (c : ProjectionCheck) (p : ParamDef) :
    c.projection? p =
      p.typeExpr.bind fun e =>
        e.typeExpr.unquoted.projection? c.names := by
  unfold projection? path? TypeExpr.projection?
  cases p.typeExpr <;> rfl

/- What the check finds annotates the parameter. -/
theorem projects_of_projection
    {p : ParamDef} {q : Projection}
    (h : c.projection? p = some q) :
    p.Projects c.names q := by
  rw [projection?_eq, Option.bind_eq_some_iff] at h
  rcases h with ⟨e, hType, hProjection⟩
  refine ⟨e, e.typeExpr.unquoted, hType, ?_, hProjection⟩
  cases hQuoted : e.typeExpr with
  | quoted body range =>
      exact .step (List.mem_singleton.mpr rfl) (.here _ _)
  | _ => exact .here _ _

/- What is carried openly is found by the check. -/
theorem projection_of_carries
    {p : ParamDef}
    (hShown : ¬ p.Hides c.names)
    (hWalk :
      ∀ e, p.typeExpr = some e →
        ProjectionSilent
          (e.typeExpr.useSiteErrors c.names c.index .parameter))
    (hCarries : p.Carries c.names) :
    ∃ q, c.projection? p = some q := by
  rcases hCarries with ⟨e, place, part, hType, hPart, hSome⟩
  rcases Option.isSome_iff_exists.mp hSome with ⟨q, hq⟩
  have hPlace :=
    TypeExpr.parameter_or_overlooks_of_silent
      (hWalk e hType) hPart hq
  have hNot :
      ¬ (place.OverlooksProjection ∨
        place = .parameter ∧ part ≠ e.typeExpr.unquoted) :=
    fun h => hShown ⟨e, place, part, hType, hPart, hSome, h⟩
  have hWhole : part = e.typeExpr.unquoted := by
    by_contra hDiffers
    rcases hPlace with hPlace | hPlace
    · exact hNot (Or.inr ⟨hPlace, hDiffers⟩)
    · exact hNot (Or.inl hPlace)
  refine ⟨q, ?_⟩
  rw [projection?_eq, hType, Option.bind_some, ← hWhole]
  exact hq

/- Without a report no ordinary parameter projects. -/
theorem projection?_of_ordinary
    (hSilent : ProjectionSilent c.ordinaryErrors)
    {p : ParamDef}
    (hp :
      p ∈ c.lead.map (·.param) ++ c.params.keywordOnly) :
    c.projection? p = none := by
  cases hProjection : c.projection? p with
  | none => rfl
  | some q =>
      exfalso
      have hMem : c.fault (misplaced q) p ∈ c.ordinaryErrors := by
        unfold ordinaryErrors
        rw [List.mem_filterMap]
        exact ⟨p, hp, by rw [hProjection]; rfl⟩
      exact hSilent.not_mem rfl hMem

/- A lone component is always reported. -/
theorem not_silent_loneErrors
    (hSome : c.star? ≠ none ∨ c.doubleStar? ≠ none) :
    ¬ ProjectionSilent c.loneErrors := by
  have hLone
      (own other : ProjectionKind)
      (stars : String)
      (p : Projected) :
      ∃ reason,
        (c.loneError own stars other p).cause =
          .invalidProjection reason := by
    unfold loneError
    dsimp only
    split <;> exact ⟨_, rfl⟩
  intro hSilent
  unfold loneErrors at hSilent
  rcases hSome with hSome | hSome
  · rcases Option.ne_none_iff_exists'.mp hSome with ⟨p, hp⟩
    rcases hLone .args .kwargs "**" p with ⟨reason, hCause⟩
    apply hSilent.not_mem hCause
    simp [hp]
  · rcases Option.ne_none_iff_exists'.mp hSome with ⟨p, hp⟩
    rcases hLone .kwargs .args "*" p with ⟨reason, hCause⟩
    apply hSilent.not_mem hCause
    simp [hp]

/- Without a report the star parameters fit together. -/
theorem star_cases_of_silent
    (hSilent : ProjectionSilent c.starErrors) :
    c.star? = none ∧ c.doubleStar? = none ∨
      ∃ p r var,
        c.star? = some ⟨p, ⟨var, .args⟩⟩ ∧
          c.doubleStar? = some ⟨r, ⟨var, .kwargs⟩⟩ := by
  unfold starErrors at hSilent
  split at hSilent
  · rename_i p v r w hStar hDoubleStar
    split at hSilent
    · rename_i hSame
      subst hSame
      exact Or.inr ⟨p, r, v, hStar, hDoubleStar⟩
    · exfalso
      exact hSilent.not_mem rfl (List.mem_singleton.mpr rfl)
  · exfalso
    exact hSilent.not_mem rfl (List.mem_singleton.mpr rfl)
  · left
    by_contra hNot
    apply not_silent_loneErrors _ hSilent
    by_contra hNone
    rw [not_or, not_not, not_not] at hNone
    exact hNot hNone

/- Without a report a pair stands behind bare parameters. -/
theorem bare_of_silent
    {pair : ProjectionPair}
    (hSilent : ProjectionSilent (c.pairErrors pair)) :
    c.params.keywordOnly = [] ∧
      ∀ p ∈ c.lead, c.isNamed p = false := by
  unfold pairErrors at hSilent
  rw [projectionSilent_append] at hSilent
  rcases hSilent with ⟨hBetween, hLead⟩
  constructor
  · rw [List.eq_nil_iff_forall_not_mem]
    intro p hp
    exact hBetween.not_mem (d := c.betweenError pair.var p) rfl
      (List.mem_map_of_mem hp)
  · intro p hp
    by_contra hNamed
    apply hLead.not_mem (d := c.leadError pair.var p.param) rfl
    apply List.mem_map_of_mem (f := fun p : LeadParam =>
      c.leadError pair.var p.param)
    rw [List.mem_filter]
    exact ⟨hp, by simpa using hNamed⟩

/- The check of a star parameter finds what it projects. -/
theorem projected?_eq_some_iff
    {o : Option ParamDef} {r : Projected} :
    c.projected? o = some r ↔
      o = some r.param ∧
        c.projection? r.param = some r.projection := by
  unfold projected?
  rw [Option.bind_eq_some_iff]
  constructor
  · rintro ⟨p, rfl, hMap⟩
    rw [Option.map_eq_some_iff] at hMap
    rcases hMap with ⟨q, hq, rfl⟩
    exact ⟨rfl, hq⟩
  · rintro ⟨rfl, hq⟩
    exact ⟨r.param, rfl, by rw [hq]; rfl⟩

/- Without a projection a star parameter projects nothing. -/
theorem projection?_of_projected?_eq_none
    {o : Option ParamDef} {p : ParamDef}
    (h : c.projected? o = none)
    (hp : o = some p) :
    c.projection? p = none := by
  cases hProjection : c.projection? p with
  | none => rfl
  | some q =>
      have hSome :=
        (projected?_eq_some_iff (c := c) (r := ⟨p, q⟩)).mpr
          ⟨hp, hProjection⟩
      rw [h] at hSome
      cases hSome

/- No diagnostic of either check is about a projection. -/
structure Silent (c : ProjectionCheck) : Prop where
  annotations :
    ∀ p ∈ c.params.all, ∀ e, p.typeExpr = some e →
      ProjectionSilent
        (e.typeExpr.useSiteErrors c.names c.index .parameter)
  parameters : ProjectionSilent c.errors

namespace Silent

variable (hSilent : c.Silent)
  (hShown : ¬ c.params.Hides c.names c.receiver)

include hSilent hShown

/- In a silent header a parameter shows what it carries. -/
theorem projection_of_carries
    {p : ParamDef}
    (hp : p ∈ c.params.all)
    (hCarries : p.Carries c.names) :
    ∃ q, c.projection? p = some q := by
  apply ProjectionCheck.projection_of_carries
  · intro hHides
    exact hShown (Or.inl ⟨p, hp, hHides⟩)
  · exact hSilent.annotations p hp
  · exact hCarries

/-
  In a silent header no parameter but the star parameters
  carries a projection. A receiver carries none, as the one
  that it would show is hidden.
-/
theorem not_carries_of_ordinary
    {p : ParamDef}
    (hp :
      p ∈ c.params.positional ++ c.params.keywordOnly) :
    ¬ p.Carries c.names := by
  intro hCarries
  have hAll : p ∈ c.params.all := by
    simp only [ParamDefs.all, List.mem_append] at hp ⊢
    rcases hp with hp | hp <;> simp [hp]
  rcases hSilent.projection_of_carries hShown hAll hCarries
    with ⟨q, hq⟩
  have hOrdinary : ProjectionSilent c.ordinaryErrors := by
    have h := hSilent.parameters
    unfold errors at h
    simp only [projectionSilent_append] at h
    exact h.1.1.1
  have hNotLead :
      p ∉ c.lead.map (·.param) ++ c.params.keywordOnly := by
    intro hMem
    rw [projection?_of_ordinary hOrdinary hMem] at hq
    cases hq
  simp only [List.mem_append, not_or] at hNotLead hp
  have hPositional : p ∈ c.params.positional :=
    hp.resolve_right hNotLead.2
  have hLead :
      c.lead.map (·.param) =
        c.params.positional.drop
          (if c.receiver then 1 else 0) := by
    rw [lead, List.map_drop, ParamDefs.map_param_lead]
  rw [hLead] at hNotLead
  cases hReceiver : c.receiver with
  | false =>
      rw [hReceiver] at hNotLead
      exact hNotLead.1 hPositional
  | true =>
      rw [hReceiver] at hNotLead
      cases hFirst : c.params.positional with
      | nil =>
          rw [hFirst] at hPositional
          cases hPositional
      | cons first rest =>
          rw [hFirst] at hPositional hNotLead
          rcases List.mem_cons.mp hPositional with rfl | hRest
          · apply hShown
            refine Or.inr ⟨hReceiver, p, q, ?_,
              projects_of_projection hq⟩
            rw [hFirst]
            rfl
          · exact hNotLead.1 hRest

end Silent

/-
  In a header without a report in which no projection is
  hidden, either no parameter carries a projection or the
  star parameters forward one parameter specification.
-/
theorem forwards_of_silent
    (hSilent : c.Silent)
    (hShown : ¬ c.params.Hides c.names c.receiver) :
    (∀ p ∈ c.params.all, ¬ p.Carries c.names) ∨
      ∃ var,
        c.params.Forwards c.names c.dunder c.receiver var := by
  have hErrors := hSilent.parameters
  unfold errors at hErrors
  simp only [projectionSilent_append] at hErrors
  rcases hErrors with ⟨⟨-, hStars⟩, hPair⟩
  have hOthers (p : ParamDef)
      (hp : p ∈ c.params.positional ++ c.params.keywordOnly) :
      ¬ p.Carries c.names :=
    hSilent.not_carries_of_ordinary hShown hp
  rcases star_cases_of_silent hStars with
    ⟨hStar, hDoubleStar⟩ | ⟨p, r, var, hStar, hDoubleStar⟩
  · left
    intro p hp hCarries
    rcases hSilent.projection_of_carries hShown hp hCarries
      with ⟨q, hq⟩
    have hNone : c.projection? p = none := by
      by_cases hOrdinary :
          p ∈ c.params.positional ++ c.params.keywordOnly
      · exact absurd hCarries (hOthers p hOrdinary)
      · simp only [ParamDefs.all, List.mem_append,
          Option.mem_toList] at hp hOrdinary
        rcases hp with ((hp | hp) | hp) | hp
        · exact absurd (Or.inl hp) hOrdinary
        · exact projection?_of_projected?_eq_none hStar hp
        · exact absurd (Or.inr hp) hOrdinary
        · exact
            projection?_of_projected?_eq_none hDoubleStar hp
    rw [hNone] at hq
    cases hq
  · right
    have hFound :
        c.pair? = some ⟨var, c.lead.length⟩ := by
      simp [pair?, hStar, hDoubleStar]
    rw [hFound] at hPair
    have hQuiet :
        ProjectionSilent
          (c.pairErrors ⟨var, c.lead.length⟩) := by
      simpa using hPair
    have hBare := bare_of_silent hQuiet
    rw [star?, projected?_eq_some_iff] at hStar
    rw [doubleStar?, projected?_eq_some_iff] at hDoubleStar
    refine ⟨var, ?_⟩
    constructor
    · exact ⟨p, hStar.1, projects_of_projection hStar.2⟩
    · exact ⟨r, hDoubleStar.1,
        projects_of_projection hDoubleStar.2⟩
    · exact hOthers
    · exact hBare.1
    · intro p hp
      have hNamed := hBare.2 p hp
      unfold isNamed at hNamed
      cases hSlash : p.slashed <;>
        cases hDunder : c.dunder <;>
          simp_all

end ProjectionCheck

------------------------------------------------------------
-- Projections in a Definition
------------------------------------------------------------

/- Naming the file does not change what is wrong. -/
@[simp]
theorem Diagnostic.isProjectionFault_inFile
    (d : Diagnostic)
    (file : String) :
    (d.inFile file).isProjectionFault =
      d.isProjectionFault :=
  rfl

namespace CheckState

/- What a step reports, in order. -/
def reported
    (s : CheckState)
    (env : CheckEnv)
    (step : Check Unit) : List Diagnostic :=
  (s.after env step).found.toList.drop s.found.size

/- The first parameter of a definition is a receiver. -/
def takesReceiver
    (s : CheckState)
    (head : FunctionHead) : Bool :=
  s.inClassBody
    && !(head.decorators.any fun d =>
      (s.names.meaningOf d.path?).isForm .staticMethod)
    && head.params.hasPositional

end CheckState

namespace Check

variable (env : CheckEnv) (s : CheckState)

/- The check of the projections of a header, in a state. -/
def projectionsOf
    (env : CheckEnv)
    (s : CheckState)
    (head : FunctionHead) : ProjectionCheck where
  names := s.names
  index := env.index
  known := s.visibleSpecs
  dunder := env.config.dunderPositional
  params := head.params
  receiver := s.takesReceiver head

/- The annotations of a header are checked in one go. -/
theorem exec_validateHead (head : FunctionHead) :
    (validateHead head).exec env s =
      ((), s.takeAll
        ((s.names.headErrors env.index head).map
          (·.inFile env.file))) := by
  simp [validateHead, names, exec_reportAll]

/- The projections of a header are checked in one go. -/
theorem exec_facts (head : FunctionHead) :
    ((facts head (s.takesReceiver head)).exec env s).2 =
      s.takeAll
        ((projectionsOf env s head).errors.map
          (·.inFile env.file)) := by
  simp [facts, projectionCheck, names, exec_reportAll,
    projectionsOf]

/-
  A definition first reports what is wrong with its
  annotations and then what is wrong with its projections.
-/
theorem before_function
    {body : Check Unit}
    (hBody : Made false true body)
    (head : FunctionHead) :
    CheckState.Before
      ((s.takeAll
          ((s.names.headErrors env.index head).map
            (·.inFile env.file))).takeAll
        ((projectionsOf env s head).errors.map
          (·.inFile env.file)))
      (s.after env (function head body)) := by
  let t : CheckState :=
    s.takeAll
      ((s.names.headErrors env.index head).map
        (·.inFile env.file))
  let reported : CheckState :=
    t.takeAll
      ((projectionsOf env s head).errors.map
        (·.inFile env.file))
  have hFacts :
      ((facts head (s.takesReceiver head)).exec env t).2 =
        reported :=
    exec_facts env t head
  have hRest :=
    (made_functionRest hBody head
      ((facts head (s.takesReceiver head)).exec env t).1
      (s.takesReceiver head)).before env
      ((facts head (s.takesReceiver head)).exec env t).2
      (congrArg CheckState.inClassBody hFacts)
  change CheckState.Before reported
    ((function head body).exec env s).2
  unfold function
  rw [exec_bind_of_eq (exec_isStatic env s _),
    exec_bind_of_eq (exec_get env s),
    exec_bind_of_eq (exec_validateHead env s head),
    exec_bind, ← hFacts]
  exact hRest

/- What a header is reported for is reported. -/
theorem header_subset_reported
    {body : Check Unit}
    (hBody : Made false true body)
    (head : FunctionHead) :
    (s.names.headErrors env.index head
        ++ (projectionsOf env s head).errors).map
          (·.inFile env.file) ⊆
      s.reported env (function head body) := by
  rcases (before_function env s hBody head).found with
    ⟨more, hMore⟩
  unfold CheckState.reported
  rw [← hMore]
  simp [CheckState.found_takeAll]

end Check

/-
  If checking a definition reports no misuse of a projection
  and none is hidden in its header, then no parameter carries
  a projection or the star parameters forward one parameter
  specification. A projection is hidden as the annotation of
  a receiver, behind more than one pair of quotes, and where
  no walk reports it: in the head of a subscript, in the
  owner of a member, as an argument of a class for a
  parameter specification, and in surplus arguments.
-/
theorem Stmt.carries_none_or_forwards
    {env : CheckEnv} {s : CheckState}
    {head : FunctionHead} {body : List Stmt}
    (hSilent :
      ProjectionSilent
        (s.reported env (Stmt.check (.function head body))))
    (hShown :
      ¬ head.params.Hides s.names (s.takesReceiver head)) :
    (∀ p ∈ head.params.all, ¬ p.Carries s.names) ∨
      ∃ var,
        head.params.Forwards s.names
          env.config.dunderPositional (s.takesReceiver head)
          var := by
  have hHeader :
      ProjectionSilent
        (s.names.headErrors env.index head
          ++ (Check.projectionsOf env s head).errors) := by
    intro d hd
    rw [← d.isProjectionFault_inFile env.file]
    apply hSilent
    apply Check.header_subset_reported env s
      (Stmt.checkAll_made body) head
    exact List.mem_map_of_mem hd
  rw [projectionSilent_append] at hHeader
  have hBoth : (Check.projectionsOf env s head).Silent := by
    constructor
    · intro p hp e hType
      apply hHeader.1.subset
      intro d hd
      unfold NameEnv.headErrors
      apply List.mem_append_left
      rw [List.mem_flatMap]
      refine ⟨e, ?_, hd⟩
      rw [List.mem_filterMap]
      exact ⟨p, hp, hType⟩
    · exact hHeader.2
  exact ProjectionCheck.forwards_of_silent hBoth hShown

/- A parameter that is annotated by a member of `P`. -/
def ParamDef.component (name attr : String) : ParamDef where
  name := name
  typeExpr := some (.member (.name "P" ⟨0, 1⟩) attr ⟨0, 6⟩)
  range := ⟨0, 6⟩

/- Nothing is hidden in a member of `P`. -/
theorem ParamDef.component_shown
    (names : NameEnv)
    (name attr : String) :
    ¬ (component name attr).Hides names := by
  rintro ⟨e, place, part, hType, hPart, hSome, hHidden⟩
  cases hType
  cases hPart with
  | here =>
      rcases hHidden with hOver | ⟨-, hDiffers⟩
      · cases hOver
      · exact hDiffers rfl
  | step hStep hRest =>
      have hOwner := congrArg Prod.snd
        (List.mem_singleton.mp hStep)
      dsimp only at hOwner
      subst hOwner
      cases hRest with
      | here => cases hSome
      | step hNone => cases hNone

/- A definition without decorators and results. -/
def FunctionHead.plain
    (name : String)
    (params : ParamDefs) : FunctionHead :=
  ⟨name, params, [], none, false⟩

/- A module that declares the parameter specification `P`. -/
def CheckState.withSpec : CheckState where
  globals :=
    (∅ : SymbolTable).insert "P" (.paramSpec { name := "P" })

/-
  The definition `def f(*args: P.args, **kwargs: P.kwargs)`
  is checked without a report, and forwards `P`.
-/
theorem Stmt.carries_none_or_forwards_pair :
    let ps : ParamDefs :=
      { star := some (.component "args" "args")
        doubleStar := some (.component "kwargs" "kwargs") }
    let names := CheckState.withSpec.names
    (∀ p ∈ ps.all, ¬ p.Carries names) ∨
      ∃ var, ps.Forwards names true false var := by
  intro ps names
  refine
    @Stmt.carries_none_or_forwards { index := .ofText "" }
      CheckState.withSpec (.plain "f" ps) [] ?_ ?_
  · unfold ProjectionSilent
    decide +kernel
  · rintro (⟨p, hp, hHides⟩ | ⟨hReceiver, -⟩)
    · simp only [ParamDefs.all, ParamDefs.positional,
        FunctionHead.plain, ps, List.append_nil,
        List.nil_append, Option.toList_some,
        List.singleton_append, List.mem_cons,
        List.not_mem_nil, or_false] at hp
      rcases hp with rfl | rfl <;>
        exact ParamDef.component_shown _ _ _ hHides
    · cases hReceiver

/-
  The receiver in `class A: def m(self: P.args)` carries a
  projection, and no star parameter forwards `P`, but the
  definition is checked without a report.
-/
theorem Stmt.silent_on_receiver :
    let s : CheckState :=
      { CheckState.withSpec with scopes := [{ kind := .cls }] }
    let ps : ParamDefs :=
      { regular := [.component "self" "args"] }
    ProjectionSilent
        (s.reported { index := .ofText "" }
          (Stmt.check (.function (.plain "m" ps) []))) ∧
      ¬ ((∀ p ∈ ps.all, ¬ p.Carries s.names) ∨
        ∃ var, ps.Forwards s.names true true var) := by
  intro s ps
  constructor
  · unfold ProjectionSilent
    decide +kernel
  · rintro (hNone | ⟨var, hForwards⟩)
    · apply hNone (.component "self" "args")
        (List.mem_singleton.mpr rfl)
      refine ⟨_, .parameter, _, rfl, .here _ _, ?_⟩
      rfl
    · rcases hForwards.star with ⟨p, hp, -⟩
      cases hp

end SigCheck
