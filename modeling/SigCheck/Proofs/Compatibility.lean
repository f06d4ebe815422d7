import SigCheck.Proofs.JoinSoundness

/-
  What compatibility of parameter lists promises.

  A list is compatible with an expected one when joining the
  two gives the expected one back. The expected list then
  covers the other, as every join covers its sides, so its
  calls are calls of the other.

  Key definitions include:
    * `Parameter.Alike`

  Correctness is proven by:
    * `Covers.of_alike`
    * `Signature.bind_of_isCompatibleWith`
-/

------------------------------------------------------------
-- Equivalent Lists
------------------------------------------------------------

namespace SigCheck

open ParamList

/- Callers cannot tell the two parameters apart. -/
structure Parameter.Alike (p q : Parameter) : Prop where
  kind : p.kind = q.kind
  optional : p.hasDefault = q.hasDefault
  ty : p.ty = q.ty
  name : p.kind = .positionalOnly ∨ p.name = q.name

namespace Parameter.Alike

variable {p q : Parameter}

theorem refl (p : Parameter) : p.Alike p :=
  ⟨rfl, rfl, rfl, Or.inr rfl⟩

theorem symm (h : p.Alike q) : q.Alike p :=
  ⟨h.kind.symm, h.optional.symm, h.ty.symm,
    h.name.imp h.kind.symm.trans Eq.symm⟩

/- A named parameter has the name of one that is like it. -/
theorem name_eq
    (h : p.Alike q)
    (hKind : p.kind ≠ .positionalOnly) :
    p.name = q.name :=
  h.name.resolve_left hKind

/- So has one that keywords reach. -/
theorem name_eq_of_isKeyword
    (h : p.Alike q)
    (hKey : p.kind.isKeyword = true) : p.name = q.name := by
  apply h.name_eq
  intro hOnly
  rw [hOnly] at hKey
  cases hKey

theorem isRequired_eq (h : p.Alike q) :
    p.isRequired = q.isRequired := by
  rw [isRequired, h.kind, h.optional]
  rfl

/- What fits a parameter fits one that is like it. -/
theorem weakens (h : p.Alike q) : Weakens p q := by
  refine
    ⟨h.ty, fun hp => h.optional ▸ hp, ?_,
      fun hq => h.kind.trans hq⟩
  intro hKind
  exact
    ⟨h.kind.symm.trans hKind,
      (h.name_eq (by rw [hKind]; nofun)).symm⟩

end Parameter.Alike

namespace ParamList

variable {ps qs : List Parameter}

theorem equivalent_iff
    {p q : Parameter} :
    p.equivalent q = true ↔ p.Alike q := by
  simp only [Parameter.equivalent, Bool.and_eq_true,
    Bool.or_eq_true, beq_iff_eq]
  constructor
  · rintro ⟨⟨⟨hKind, hOptional⟩, hTy⟩, hName⟩
    exact ⟨hKind, hOptional, hTy, hName⟩
  · rintro ⟨hKind, hOptional, hTy, hName⟩
    exact ⟨⟨⟨hKind, hOptional⟩, hTy⟩, hName⟩

/- Equivalent lists are alike place by place. -/
theorem equivalentAll_iff :
    Parameter.equivalentAll ps qs = true ↔
      List.Forall₂ Parameter.Alike ps qs := by
  induction ps generalizing qs with
  | nil =>
      cases qs <;> simp [Parameter.equivalentAll]
  | cons p ps ih =>
      cases qs with
      | nil => simp [Parameter.equivalentAll]
      | cons q qs =>
          simp [Parameter.equivalentAll, equivalent_iff, ih]

/- Lists related kind by kind have related first ones. -/
theorem exists_firstOfKind_of_forall₂
    {rel : Parameter → Parameter → Prop}
    (h : List.Forall₂ rel ps qs)
    (hKind : ∀ p q, rel p q → p.kind = q.kind)
    {kind : ParamKind} {p : Parameter}
    (hp : firstOfKind kind ps = some p) :
    ∃ q, firstOfKind kind qs = some q ∧ rel p q := by
  induction h with
  | nil => cases hp
  | @cons x y ps qs hxy _ ih =>
      rw [firstOfKind, List.find?_cons] at hp ⊢
      rw [← hKind x y hxy]
      split at hp
      · cases hp
        exact ⟨y, rfl, hxy⟩
      · exact ih hp

section Alike

variable (h : List.Forall₂ Parameter.Alike ps qs)

include h

/- Likeness goes both ways. -/
theorem alike_symm :
    List.Forall₂ Parameter.Alike qs ps :=
  h.flip.imp fun _ _ hpq => hpq.symm

/- Alike lists have alike positional sections. -/
theorem positionalSection_alike :
    List.Forall₂ Parameter.Alike (positionalSection ps)
      (positionalSection qs) := by
  apply List.rel_filter _ h
  intro p q hpq
  simp only [hpq.kind]

/- The first of a kind is like the first of the other list. -/
theorem firstOfKind_alike
    {kind : ParamKind} {q : Parameter}
    (hq : firstOfKind kind qs = some q) :
    ∃ p, firstOfKind kind ps = some p ∧ p.Alike q :=
  exists_firstOfKind_of_forall₂ h.flip
    (fun _ _ hpq => hpq.kind.symm) hq

/- A list has every kind that a list like it has. -/
theorem isSome_firstOfKind_alike
    {kind : ParamKind}
    (hSome : (firstOfKind kind qs).isSome = true) :
    (firstOfKind kind ps).isSome = true := by
  rcases Option.isSome_iff_exists.mp hSome with ⟨q, hq⟩
  rcases firstOfKind_alike h hq with ⟨p, hp, -⟩
  rw [hp]
  rfl

/- Keywords reach the same names of alike lists. -/
theorem hasKeyword_of_alike
    {name : String}
    (hName : HasKeyword qs name) : HasKeyword ps name := by
  rcases hName with ⟨q, hq, hKey, hqName⟩
  rcases exists_left_of_forall₂ h hq with ⟨p, hp, hpq⟩
  have hpKey : p.kind.isKeyword = true := by
    rw [hpq.kind]
    exact hKey
  exact
    ⟨p, hp, hpKey,
      (hpq.name_eq_of_isKeyword hpKey).trans hqName⟩

end Alike

end ParamList

/- A list like one that covers a side covers it as well. -/
theorem Covers.of_alike
    {expected join ps : List Parameter}
    (hAlike :
      List.Forall₂ Parameter.Alike expected join)
    (h : Covers join ps) : Covers expected ps := by
  have hBack := alike_symm hAlike
  have hSection := positionalSection_alike hAlike
  rcases h.lead with ⟨rest, hLead⟩
  refine ⟨⟨rest, ?_⟩, ?_, ?_, ?_, ?_, ?_⟩
  case refine_1 =>
    exact
      (hLead.weaken
        (hSection.imp fun _ _ hpq => hpq.weakens)).mono
        (isSome_firstOfKind_alike hBack)
  case refine_2 =>
    rw [hSection.length_eq]
    exact h.fillable
  case refine_3 =>
    intro s hs
    rcases firstOfKind_alike hBack hs with ⟨t, ht, hts⟩
    rcases h.star t ht with ⟨q, hq, hTy⟩
    exact ⟨q, hq, hts.ty ▸ hTy⟩
  case refine_4 =>
    intro p hp hKind
    rw [hSection.length_eq]
    rcases exists_right_of_forall₂ hAlike hp with
      ⟨q, hq, hpq⟩
    rcases h.keywords q hq (hpq.kind.symm.trans hKind) with
      ⟨name, hName, hFits⟩
    rcases hFits.ty with ⟨ty, hAccepts, hTy⟩
    refine
      ⟨name, (hpq.name_eq (by rw [hKind]; nofun)).trans hName,
        ⟨ty, hAccepts, hpq.ty ▸ hTy⟩, ?_⟩
    rw [hpq.isRequired_eq]
    exact hFits.required
  case refine_5 =>
    intro name hRequires
    rw [hSection.length_eq] at hRequires
    rcases h.required name hRequires with
      ⟨q, hq, hKind, hName⟩
    rcases exists_left_of_forall₂ hAlike hq with
      ⟨p, hp, hpq⟩
    have hpKind := hpq.kind.trans hKind
    exact
      ⟨p, hp, hpKind,
        (hpq.name_eq (by rw [hpKind]; nofun)).trans hName⟩
  case refine_6 =>
    intro s hs
    rcases firstOfKind_alike hBack hs with ⟨t, ht, hts⟩
    rcases h.others t ht with ⟨q, hq, hTy⟩
    exact ⟨q, hq, hts.ty ▸ hTy⟩

end SigCheck

------------------------------------------------------------
-- Substitution
------------------------------------------------------------

namespace SigCheck

open ParamList

namespace Signature

/- A compatible list gives the expected one back. -/
theorem isCompatibleWith_params_iff
    {ps expected : List Parameter} :
    (params ps).isCompatibleWith (params expected) = true ↔
      ∃ join,
        commonParamsBy Ty.meet expected ps = some join ∧
          List.Forall₂ Parameter.Alike join expected := by
  simp only [isCompatibleWith, compatibleBy, commonBy]
  cases hJoin : commonParamsBy Ty.meet expected ps with
  | none => simp
  | some join =>
      simp [equivalent, equivalentAll_iff]

/- An expected list covers what is compatible with it. -/
theorem covers_of_isCompatibleWith
    {ps expected : List Parameter}
    (hps : WellFormed ps)
    (hExpected : WellFormed expected)
    (h :
      (params ps).isCompatibleWith (params expected) =
        true) :
    Covers expected ps := by
  rcases isCompatibleWith_params_iff.mp h with
    ⟨join, hJoin, hAlike⟩
  rcases commonParamsBy_eq_some_iff.mp hJoin with
    ⟨parts, hParts, rfl⟩
  exact
    (hParts.covers hExpected hps).2.of_alike
      (alike_symm hAlike)

/-
  A keyword that a list does not collect reaches one of its
  parameters by name.
-/
theorem hasKeyword_of_record
    {ps : List Parameter} {name : String} {p : Parameter}
    (hReceiver : receiver? ps (.keyword name) = some p)
    (hKind : p.kind ≠ .varKeyword) : HasKeyword ps name := by
  by_contra hNot
  rw [receiver?, keywordParam?_eq_none_iff.mpr hNot,
    Option.none_or] at hReceiver
  exact hKind (by simpa using List.find?_some hReceiver)

/-
  Where a list is expected, a compatible one may stand: it
  binds the same calls, and each argument lands where it is
  at least as welcome. A keyword that the expected list
  collects is no such argument.
-/
theorem bind_of_isCompatibleWith
    {ps expected : List Parameter}
    (hps : WellFormed ps)
    (hExpected : WellFormed expected)
    (h :
      (params ps).isCompatibleWith (params expected) =
        true)
    {args : CallArgs}
    (hPlain : args.IsPlain)
    {bound : List BoundArg}
    (hBound : (params expected).bind args = .ok bound)
    (hNamed :
      ∀ b ∈ bound, ∀ name, b.source = .keyword name →
        b.param.kind ≠ .varKeyword) :
    ∃ received, (params ps).bind args = .ok received ∧
      List.Forall₂
        (fun b r =>
          r.source = b.source ∧ r.arg = b.arg ∧
            b.param.ty.isSubtype r.param.ty = true)
        bound received := by
  have hCovers := covers_of_isCompatibleWith hps hExpected h
  have hAccepts :=
    (exists_bound_iff_accepts hExpected hPlain).mp
      ⟨bound, hBound⟩
  have hReceiver : ∀ b ∈ bound, _ := fun b =>
    receiver?_of_mem_bound hExpected hPlain hBound
  -- A keyword that is not collected has its own parameter.
  have hNames :
      ∀ keyword ∈ args.keywords,
        HasKeyword ps keyword.1 →
          HasKeyword expected keyword.1 := by
    intro keyword hKeyword _
    rcases exists_record_of_keyword hExpected hPlain hBound
      hKeyword with ⟨b, hb, hSource⟩
    have hParam := hReceiver b hb
    rw [hSource] at hParam
    exact
      hasKeyword_of_record hParam
        (hNamed b hb keyword.1 hSource)
  have hOther :=
    hCovers.accepts hps hAccepts hExpected hNames
  rcases (exists_bound_iff_accepts hps hPlain).mpr hOther
    with ⟨received, hReceived⟩
  refine ⟨received, hReceived, ?_⟩
  have hSame :
      bound.map (fun b => (b.source, b.arg)) =
        received.map fun r => (r.source, r.arg) := by
    rw [listed_of_bound hExpected hPlain hBound,
      listed_of_bound hps hPlain hReceived]
  refine forall₂_of_map_eq hSame ?_
  intro b hb r hr hPair
  rcases Prod.mk.inj hPair with ⟨hSource, hArg⟩
  refine ⟨hSource.symm, hArg.symm, ?_⟩
  have hParam := hReceiver b hb
  rcases hCovers.exists_receiver hExpected hps hParam with
    ⟨q, hq, hTy⟩
  have hRight :=
    receiver?_of_mem_bound hps hPlain hReceived hr
  rw [← hSource] at hRight
  cases hq.symm.trans hRight
  rcases hTy with ⟨name, hName, hKind⟩ | hTy
  · exact absurd hKind (hNamed b hb name hName)
  · exact hTy.isSubtype

/- A wider first parameter, and a keyword that has a place. -/
theorem bind_of_isCompatibleWith_wider :
    let ps : List Parameter :=
      [⟨some "x", .positionalOrKeyword, .float, false⟩,
        ⟨some "y", .positionalOrKeyword, .str, true⟩]
    let expected : List Parameter :=
      [⟨some "x", .positionalOrKeyword, .int, false⟩,
        ⟨some "y", .keywordOnly, .str, false⟩]
    let args : CallArgs :=
      { positional := [.bool], keywords := [("y", .str)] }
    let bound : List BoundArg :=
      [⟨⟨some "x", .positionalOrKeyword, .int, false⟩, "x",
          .bool, .positional 0⟩,
        ⟨⟨some "y", .keywordOnly, .str, false⟩, "y", .str,
          .keyword "y"⟩]
    (params expected).bind args = .ok bound ∧
      ∃ received, (params ps).bind args = .ok received ∧
        List.Forall₂
          (fun b r =>
            r.source = b.source ∧ r.arg = b.arg ∧
              b.param.ty.isSubtype r.param.ty = true)
          bound received := by
  intro ps expected args bound
  have hps : WellFormed ps := by decide
  have hExpected : WellFormed expected := by decide
  have hCompatible :
      (params ps).isCompatibleWith (params expected) =
        true := rfl
  have hPlain : args.IsPlain := ⟨rfl, rfl⟩
  have hBound :
      (params expected).bind args = .ok bound := rfl
  refine
    ⟨hBound,
      bind_of_isCompatibleWith hps hExpected hCompatible
        hPlain hBound ?_⟩
  intro b hb _ _
  simp only [bound, List.mem_cons, List.not_mem_nil,
    or_false] at hb
  rcases hb with rfl | rfl <;> nofun

end Signature

end SigCheck
