import SigCheck.Proofs.VarRenaming
import SigCheck.Ty.Union

/-
  Subtyping and joins do not depend on what variables are
  called. A join of parameter lists touches types by their
  meets only, so it goes along with every change of types
  that goes along with the meets; renaming is such a change.

  Key definitions include:
    * `LeadMerge.mapTy`, `KeywordSide.mapTy`

  Correctness is proven by:
    * `commonParamsBy_mapTy`
    * `Ty.isSubtype_renameVars`
    * `Signature.commonSupertype_renameVars`
    * `Ty.unionOf_renameVars`
-/

namespace SigCheck

------------------------------------------------------------
-- Optional Results
------------------------------------------------------------

/- Results that are changed alike behind a first one. -/
theorem bind_map_eq_map_bind
    {α α' β : Type} {x : Option α} {g : α → α'}
    {next : α → Option β} {next' : α' → Option β} {h : β → β}
    (hNext : ∀ a, next' (g a) = (next a).map h) :
    (x.map g).bind next' = (x.bind next).map h := by
  cases x with
  | none => rfl
  | some a => exact hNext a

/- Results that are changed alike in a list. -/
theorem mapM_eq_map_mapM
    {α β : Type} {step step' : α → Option β} {h : β → β}
    (hStep : ∀ a, step' a = (step a).map h)
    (as : List α) :
    as.mapM step' = (as.mapM step).map (List.map h) := by
  induction as with
  | nil => rfl
  | cons a as ih =>
      rw [List.mapM_cons, List.mapM_cons, hStep, ih]
      cases step a with
      | none => rfl
      | some b => cases as.mapM step <;> rfl

------------------------------------------------------------
-- Positional Sections
------------------------------------------------------------

section Natural

variable {f : Ty → Ty} {meet : Ty → Ty → Option Ty}

@[simp] theorem positionalSection_mapTy
    (ps : List Parameter) :
    positionalSection (ps.map (.mapTy f)) =
      (positionalSection ps).map (.mapTy f) :=
  List.filter_map

@[simp] theorem firstOfKind_mapTy
    (kind : ParamKind)
    (ps : List Parameter) :
    firstOfKind kind (ps.map (.mapTy f)) =
      (firstOfKind kind ps).map (.mapTy f) :=
  List.find?_map ..

@[simp] theorem named?_mapTy
    (name : String)
    (ps : List Parameter) :
    named? name (ps.map (.mapTy f)) =
      (named? name ps).map (.mapTy f) :=
  List.find?_map ..

/- Sealing looks at the kinds of parameters only. -/
theorem sealLead_mapTy (ps : List Parameter) :
    sealLead (ps.map (.mapTy f)) =
      (sealLead ps).map (.mapTy f) := by
  induction ps with
  | nil => rfl
  | cons p ps ih =>
      have hAny :
          (ps.map (Parameter.mapTy f)).any
              (·.kind == .positionalOnly) =
            ps.any (·.kind == .positionalOnly) :=
        List.any_map
      simp only [List.map_cons, sealLead, hAny, ih]
      split <;> rfl

/- Requiring looks at the defaults of parameters only. -/
theorem requireLead_mapTy (ps : List Parameter) :
    requireLead (ps.map (.mapTy f)) =
      (requireLead ps).map (.mapTy f) := by
  induction ps with
  | nil => rfl
  | cons p ps ih =>
      have hAll :
          (ps.map (Parameter.mapTy f)).all (·.hasDefault) =
            ps.all (·.hasDefault) :=
        List.all_map
      simp only [List.map_cons, requireLead, hAll, ih]
      rfl

/- What may be named beside the slots that are left. -/
theorem keywordCandidates_mapTy (ps rest : List Parameter) :
    keywordCandidates (ps.map (.mapTy f))
        (rest.map (.mapTy f)) =
      (keywordCandidates ps rest).map
        (List.map (.mapTy f)) := by
  have hAny :
      ((rest.map (Parameter.mapTy f)).any fun p =>
          p.kind != .positionalOrKeyword && p.isRequired) =
        rest.any fun p =>
          p.kind != .positionalOrKeyword && p.isRequired :=
    List.any_map
  unfold keywordCandidates
  rw [hAny]
  split
  · rfl
  · rw [Option.map_some, List.map_append, List.filter_map,
      List.filter_map]
    rfl

/- Consumed names are those of slots. -/
theorem isConsumed_mapTy
    (slots : List Parameter)
    (merged : Nat)
    (name : String) :
    isConsumed (slots.map (.mapTy f)) merged name =
      isConsumed slots merged name := by
  unfold isConsumed
  rw [← List.map_take, List.any_map]
  rfl

/- Change the types in a merge. -/
def LeadMerge.mapTy (f : Ty → Ty) (m : LeadMerge) : LeadMerge where
  merged := m.merged.map (.mapTy f)
  leftRest := m.leftRest.map (.mapTy f)
  rightRest := m.rightRest.map (.mapTy f)

/- Change the types on one side of the keyword section. -/
def KeywordSide.mapTy
    (f : Ty → Ty)
    (side : KeywordSide) : KeywordSide where
  candidates := side.candidates.map (.mapTy f)
  slots := side.slots.map (.mapTy f)
  others := side.others.map (.mapTy f)

/- What a side requires does not depend on types. -/
theorem requires_mapTy
    (side : KeywordSide)
    (name : String) :
    (side.mapTy f).requires name = side.requires name := by
  unfold KeywordSide.requires KeywordSide.mapTy
  rw [named?_mapTy, Option.any_map]
  rfl

/- What a side takes under a name is changed with it. -/
theorem accepts?_mapTy
    (side : KeywordSide)
    (merged : Nat)
    (name : String) :
    (side.mapTy f).accepts? merged name =
      (side.accepts? merged name).map f := by
  unfold KeywordSide.accepts? KeywordSide.mapTy
  dsimp only
  rw [isConsumed_mapTy, named?_mapTy, ← Option.map_or,
    Option.map_map]
  split
  · rfl
  · rw [Option.map_map]
    rfl

/- The names of the keyword section stay the same. -/
theorem keywordNames_mapTy (left right : KeywordSide) :
    keywordNames (left.mapTy f) (right.mapTy f) =
      keywordNames left right := by
  unfold keywordNames KeywordSide.mapTy
  rw [← List.map_append, List.filterMap_map]
  rfl

------------------------------------------------------------
-- Joins
------------------------------------------------------------

variable (hMeet : ∀ a b, meet (f a) (f b) = (meet a b).map f)

include hMeet

/- Merged slots are changed with the two that they are of. -/
theorem mergeBy_mapTy (p q : Parameter) :
    (p.mapTy f).mergeBy meet (q.mapTy f) =
      (p.mergeBy meet q).map (.mapTy f) := by
  have hTypes :
      meet (p.mapTy f).ty (q.mapTy f).ty =
        (meet p.ty q.ty).map f :=
    hMeet p.ty q.ty
  unfold Parameter.mergeBy
  rw [hTypes]
  cases meet p.ty q.ty with
  | none => rfl
  | some ty =>
      simp only [Option.map_some, apply_ite (Parameter.mapTy f)]
      rfl

/- An absorbed slot is changed with its types. -/
theorem absorbBy_mapTy (p star : Parameter) :
    (p.mapTy f).absorbBy meet (star.mapTy f) =
      (p.absorbBy meet star).map (.mapTy f) := by
  have hTypes :
      meet (p.mapTy f).ty (star.mapTy f).ty =
        (meet p.ty star.ty).map f :=
    hMeet p.ty star.ty
  unfold Parameter.absorbBy
  rw [hTypes]
  cases meet p.ty star.ty <;> rfl

/- Absorbed slots are changed with their types. -/
theorem LeadMerge.absorb_mapTy
    (star : Option Parameter)
    (ps : List Parameter) :
    absorb meet (star.map (.mapTy f)) (ps.map (.mapTy f)) =
      (absorb meet star ps).map
        (Prod.map (List.map (.mapTy f))
          (List.map (.mapTy f))) := by
  cases star with
  | none => rfl
  | some star =>
      have hAll :
          (ps.map (Parameter.mapTy f)).mapM
              (Parameter.absorbBy meet · (star.mapTy f)) =
            (ps.mapM (Parameter.absorbBy meet · star)).map
              (List.map (.mapTy f)) := by
        rw [List.mapM_map]
        exact mapM_eq_map_mapM
          (fun p => absorbBy_mapTy hMeet p star) ps
      simp only [Option.map_some, absorb, Option.bind_eq_bind,
        hAll]
      exact bind_map_eq_map_bind fun _ => rfl

/- A merge is changed with the lists that are merged. -/
theorem LeadMerge.ofLists_mapTy
    (leftStar rightStar : Option Parameter)
    (ps qs : List Parameter) :
    ofLists meet (leftStar.map (.mapTy f))
        (rightStar.map (.mapTy f)) (ps.map (.mapTy f))
        (qs.map (.mapTy f)) =
      (ofLists meet leftStar rightStar ps qs).map
        (LeadMerge.mapTy f) := by
  induction ps generalizing qs with
  | nil =>
      simp only [List.map_nil, ofLists,
        absorb_mapTy hMeet leftStar qs, Option.map_map]
      rfl
  | cons p ps ih =>
      cases qs with
      | nil =>
          have hAbsorb :=
            absorb_mapTy hMeet rightStar (p :: ps)
          simp only [List.map_cons] at hAbsorb
          simp only [List.map_cons, List.map_nil, ofLists,
            hAbsorb, Option.map_map]
          rfl
      | cons q qs =>
          simp only [List.map_cons, ofLists,
            Option.bind_eq_bind, mergeBy_mapTy hMeet, ih]
          apply bind_map_eq_map_bind
          intro slot
          exact bind_map_eq_map_bind fun _ => rfl

/- A keyword-only parameter is changed with its types. -/
theorem keywordSlotBy_mapTy
    (merged : Nat)
    (left right : KeywordSide)
    (name : String) :
    keywordSlotBy meet merged (left.mapTy f) (right.mapTy f)
        name =
      (keywordSlotBy meet merged left right name).map
        (Option.map (.mapTy f)) := by
  unfold keywordSlotBy
  simp only [requires_mapTy, accepts?_mapTy]
  cases left.accepts? merged name with
  | none =>
      simp only [Option.map_none]
      split <;> rfl
  | some a =>
      cases right.accepts? merged name with
      | none =>
          simp only [Option.map_none, Option.map_some]
          split <;> rfl
      | some b =>
          simp only [Option.map_some, hMeet]
          cases meet a b <;> rfl

/- A variadic parameter is changed with its types. -/
theorem variadicBy_mapTy (p q : Option Parameter) :
    variadicBy meet (p.map (.mapTy f)) (q.map (.mapTy f)) =
      (variadicBy meet p q).map (List.map (.mapTy f)) := by
  cases p with
  | none => rfl
  | some p =>
      cases q with
      | none => rfl
      | some q =>
          have hTypes :
              meet (p.mapTy f).ty (q.mapTy f).ty =
                (meet p.ty q.ty).map f :=
            hMeet p.ty q.ty
          simp only [Option.map_some, variadicBy, hTypes]
          cases meet p.ty q.ty <;> rfl

/- A join of lists is changed with the types in them. -/
theorem commonParamsBy_mapTy (ps qs : List Parameter) :
    commonParamsBy meet (ps.map (.mapTy f))
        (qs.map (.mapTy f)) =
      (commonParamsBy meet ps qs).map
        (List.map (.mapTy f)) := by
  unfold commonParamsBy
  simp only [positionalSection_mapTy, firstOfKind_mapTy,
    Option.bind_eq_bind, variadicBy_mapTy hMeet,
    LeadMerge.ofLists_mapTy hMeet]
  refine bind_map_eq_map_bind fun lead => ?_
  refine bind_map_eq_map_bind fun star => ?_
  simp only [LeadMerge.mapTy, keywordCandidates_mapTy,
    List.length_map]
  refine bind_map_eq_map_bind fun leftNamed => ?_
  refine bind_map_eq_map_bind fun rightNamed => ?_
  -- Both sides of the keyword section are changed as well.
  let leftSide : KeywordSide :=
    ⟨leftNamed, positionalSection ps,
      firstOfKind .varKeyword ps⟩
  let rightSide : KeywordSide :=
    ⟨rightNamed, positionalSection qs,
      firstOfKind .varKeyword qs⟩
  have hNamed :=
    mapM_eq_map_mapM
      (keywordSlotBy_mapTy hMeet lead.merged.length leftSide
        rightSide)
      (keywordNames leftSide rightSide)
  rw [← keywordNames_mapTy (f := f)] at hNamed
  refine (congrArg (Option.bind · _) hNamed).trans ?_
  rw [keywordNames_mapTy]
  refine bind_map_eq_map_bind fun named => ?_
  refine bind_map_eq_map_bind fun others => ?_
  simp only [pure, Option.map_some, List.map_append,
    normalizeLead, sealLead_mapTy, requireLead_mapTy,
    List.filterMap_map, List.map_filterMap]
  rfl

/- A merge of leading parameters is changed with them. -/
theorem mergeLeadBy_mapTy (ps qs : List Parameter) :
    mergeLeadBy meet (ps.map (.mapTy f)) (qs.map (.mapTy f)) =
      (mergeLeadBy meet ps qs).map (List.map (.mapTy f)) := by
  induction ps generalizing qs with
  | nil => cases qs <;> rfl
  | cons p ps ih =>
      cases qs with
      | nil => rfl
      | cons q qs =>
          simp only [List.map_cons, mergeLeadBy,
            Option.bind_eq_bind, mergeBy_mapTy hMeet, ih]
          apply bind_map_eq_map_bind
          intro slot
          exact bind_map_eq_map_bind fun _ => rfl

end Natural

------------------------------------------------------------
-- Signatures
------------------------------------------------------------

section Signatures

variable (ρ : VarRenaming)

/- Renaming parameters does not make them alike or unlike. -/
theorem Parameter.equivalent_renameVars (p q : Parameter) :
    (p.mapTy (Ty.renameVars ρ)).equivalent
        (q.mapTy (Ty.renameVars ρ)) =
      p.equivalent q := by
  simp only [Parameter.equivalent, Parameter.mapTy,
    Ty.beq_renameVars]

/- So it is for lists of parameters. -/
theorem Parameter.equivalentAll_renameVars
    (ps qs : List Parameter) :
    Parameter.equivalentAll
        (ps.map (.mapTy (Ty.renameVars ρ)))
        (qs.map (.mapTy (Ty.renameVars ρ))) =
      Parameter.equivalentAll ps qs := by
  induction ps generalizing qs with
  | nil => cases qs <;> rfl
  | cons p ps ih =>
      cases qs with
      | nil => rfl
      | cons q qs =>
          simp only [List.map_cons, Parameter.equivalentAll,
            Parameter.equivalent_renameVars, ih]

namespace Signature

/- So it is for signatures. -/
theorem equivalent_renameVars (s t : Signature) :
    (s.renameVars ρ).equivalent (t.renameVars ρ) =
      s.equivalent t := by
  cases s <;> cases t <;>
    simp [renameVars, equivalent,
      Parameter.equivalentAll_renameVars]

variable {ρ} {meet : Ty → Ty → Option Ty}
variable
  (hMeet : ∀ a b,
    meet (a.renameVars ρ) (b.renameVars ρ) =
      (meet a b).map (Ty.renameVars ρ))

include hMeet

/- A common supertype is renamed with the signatures. -/
theorem commonBy_renameVars (s t : Signature) :
    (s.renameVars ρ).commonBy meet (t.renameVars ρ) =
      (s.commonBy meet t).map (renameVars ρ) := by
  cases s with
  | gradual => rfl
  | params ps =>
      cases t with
      | gradual => rfl
      | spec lead var => rfl
      | params qs =>
          have hJoin := commonParamsBy_mapTy hMeet ps qs
          simp only [renameVars, Parameter.renameVarsAll_eq,
            commonBy, hJoin]
          cases commonParamsBy meet ps qs with
          | none => rfl
          | some common => simp [renameVars]
  | spec lead var =>
      cases t with
      | gradual => rfl
      | params qs => rfl
      | spec lead' var' =>
          have hJoin := mergeLeadBy_mapTy hMeet lead lead'
          simp only [renameVars, Parameter.renameVarsAll_eq,
            commonBy, hJoin, VarRenaming.beq_specs]
          split
          · cases mergeLeadBy meet lead lead' with
            | none => rfl
            | some common => simp [renameVars]
          · rfl

omit hMeet in
/- Lists are compatible if the join is the expected one. -/
theorem compatibleBy_eq_any
    {s t : Signature}
    (hs : s ≠ .gradual)
    (ht : t ≠ .gradual) :
    s.compatibleBy meet t =
      (t.commonBy meet s).any (·.equivalent t) := by
  cases s with
  | gradual => exact absurd rfl hs
  | _ =>
      cases t with
      | gradual => exact absurd rfl ht
      | _ =>
          unfold compatibleBy
          dsimp only
          split
          all_goals
            rename_i hJoin
            rw [hJoin]
            rfl

/- Compatible signatures stay so when both are renamed. -/
theorem compatibleBy_renameVars (s t : Signature) :
    (s.renameVars ρ).compatibleBy meet (t.renameVars ρ) =
      s.compatibleBy meet t := by
  have hCommon := commonBy_renameVars hMeet t s
  have hEquivalent (u : Signature) :
      (u.renameVars ρ).equivalent (t.renameVars ρ) =
        u.equivalent t :=
    equivalent_renameVars ρ u t
  have hRenamed (u : Signature) (hu : u ≠ .gradual) :
      u.renameVars ρ ≠ .gradual := by
    cases u with
    | gradual => exact absurd rfl hu
    | _ => exact nofun
  by_cases hs : s = .gradual
  · rw [hs]
    rfl
  by_cases ht : t = .gradual
  · rw [ht]
    cases s <;> rfl
  rw [compatibleBy_eq_any hs ht,
    compatibleBy_eq_any (hRenamed s hs) (hRenamed t ht),
    hCommon, Option.any_map]
  simp only [hEquivalent]

end Signature

end Signatures

------------------------------------------------------------
-- Subtyping
------------------------------------------------------------

/- A relation on the places is one on the changed lists. -/
theorem pointwise_map
    {α : Type} {rel : α → α → Bool} {g : α → α}
    (h : ∀ a b, rel (g a) (g b) = rel a b)
    (as bs : List α) :
    pointwise rel (as.map g) (bs.map g) =
      pointwise rel as bs := by
  induction as generalizing bs with
  | nil => cases bs <;> rfl
  | cons a as ih =>
      cases bs with
      | nil => rfl
      | cons b bs =>
          simp only [List.map_cons, pointwise, h, ih]

namespace Ty

variable {ρ : VarRenaming} {le : Ty → Ty → Bool}

@[simp] theorem isAny_renameVars (t : Ty) :
    (t.renameVars ρ).isAny = t.isAny := by
  cases t <;> rfl

section Step

variable
  (hLe : ∀ a b,
    le (a.renameVars ρ) (b.renameVars ρ) = le a b)

include hLe

/- Meets are renamed with the types that meet. -/
theorem meetBy_renameVars (a b : Ty) :
    meetBy le (a.renameVars ρ) (b.renameVars ρ) =
      (meetBy le a b).map (renameVars ρ) := by
  simp only [meetBy, isAny_renameVars, hLe]
  split
  · rfl
  · split
    · rfl
    · split
      · rfl
      · split <;> rfl

/- Class arguments stay consistent when both are renamed. -/
theorem consistentBy_renameVars (a b : TypeArg) :
    TypeArg.consistentBy le (a.renameVars ρ)
        (b.renameVars ρ) =
      TypeArg.consistentBy le a b := by
  cases a with
  | type t =>
      cases b with
      | type u =>
          simp only [TypeArg.renameVars,
            TypeArg.consistentBy, hLe]
      | params sig => rfl
  | params s =>
      cases b with
      | type u => cases s <;> rfl
      | params t =>
          have hSame := Signature.equivalent_renameVars ρ s t
          cases s with
          | gradual => rfl
          | params ps =>
              cases t with
              | gradual => rfl
              | _ => exact hSame
          | spec lead var =>
              cases t with
              | gradual => rfl
              | _ => exact hSame

/- Types of like shapes stay so when both are renamed. -/
theorem shapeStep_renameVars (a b : Ty) :
    shapeStep le (a.renameVars ρ) (b.renameVars ρ) =
      shapeStep le a b := by
  cases a with
  | list t =>
      cases b with
      | list u =>
          simp only [renameVars, shapeStep, beq_renameVars,
            isAny_renameVars]
      | _ => rfl
  | set t =>
      cases b with
      | set u =>
          simp only [renameVars, shapeStep, beq_renameVars,
            isAny_renameVars]
      | _ => rfl
  | dict k v =>
      cases b with
      | dict l w =>
          simp only [renameVars, shapeStep, beq_renameVars]
      | _ => rfl
  | tuple ts =>
      cases b with
      | tuple us =>
          simp only [renameVars, shapeStep, renameVarsAll_eq,
            pointwise_map hLe]
      | _ => rfl
  | callable sig ret =>
      cases b with
      | callable sig' ret' =>
          have hSig :=
            Signature.compatibleBy_renameVars
              (meetBy_renameVars hLe) sig sig'
          simp only [renameVars, shapeStep, hSig, hLe]
      | _ => rfl
  | generic name args =>
      cases b with
      | generic name' args' =>
          simp only [renameVars, shapeStep,
            TypeArg.renameVarsAll_eq,
            pointwise_map (consistentBy_renameVars hLe)]
      | _ => rfl
  | typeVar name =>
      cases b with
      | typeVar name' =>
          simp only [renameVars, shapeStep,
            VarRenaming.beq_types]
      | _ => rfl
  | _ => cases b <;> rfl

/- One unfolding of subtyping is the same on renamed types. -/
theorem subtypeStep_renameVars (a b : Ty) :
    subtypeStep le (a.renameVars ρ) (b.renameVars ρ) =
      subtypeStep le a b := by
  have hEqual := beq_renameVars ρ a b
  have hShape := shapeStep_renameVars hLe a b
  have hAny (ts : List Ty) :
      (renameVarsAll ρ ts).any (le (a.renameVars ρ)) =
        ts.any (le a) := by
    simp only [renameVarsAll_eq, List.any_map,
      Function.comp_def, hLe]
  have hAll (ts : List Ty) :
      (renameVarsAll ρ ts).all (le · (b.renameVars ρ)) =
        ts.all (le · b) := by
    simp only [renameVarsAll_eq, List.all_map,
      Function.comp_def, hLe]
  have hOr {c d : Bool} (h : c = d) :
      (if (a.renameVars ρ == b.renameVars ρ) = true then true
        else c) =
        if (a == b) = true then true else d := by
    rw [hEqual, h]
  cases a with
  | any => rfl
  | never => cases b <;> rfl
  | union ts =>
      cases b with
      | any => rfl
      | object => exact hOr (Eq.refl true)
      | union us => exact hOr (hAny us)
      | _ => exact hOr (hAll ts)
  | _ =>
      cases b with
      | any => rfl
      | object => exact hOr (Eq.refl true)
      | union us => exact hOr (hAny us)
      | _ => exact hOr hShape

end Step

/- Subtyping is the same on renamed types, at any depth. -/
theorem subtypeWithin_renameVars
    (depth : Nat)
    (a b : Ty) :
    subtypeWithin depth (a.renameVars ρ) (b.renameVars ρ) =
      subtypeWithin depth a b := by
  induction depth generalizing a b with
  | zero => rfl
  | succ depth ih => exact subtypeStep_renameVars ih a b

/- Renaming both types keeps the first below the second. -/
@[simp] theorem isSubtype_renameVars (a b : Ty) :
    (a.renameVars ρ).isSubtype (b.renameVars ρ) =
      a.isSubtype b := by
  unfold isSubtype
  rw [size_renameVars, size_renameVars,
    subtypeWithin_renameVars]

/- The narrower of two types is renamed with them. -/
theorem meet_renameVars (a b : Ty) :
    (a.renameVars ρ).meet (b.renameVars ρ) =
      (a.meet b).map (renameVars ρ) :=
  meetBy_renameVars isSubtype_renameVars a b

end Ty

/- A common supertype is renamed with the signatures. -/
theorem Signature.commonSupertype_renameVars
    (ρ : VarRenaming)
    (s t : Signature) :
    (s.renameVars ρ).commonSupertype (t.renameVars ρ) =
      (s.commonSupertype t).map (renameVars ρ) :=
  commonBy_renameVars Ty.meet_renameVars s t

------------------------------------------------------------
-- Unions
------------------------------------------------------------

namespace Ty

variable (ρ : VarRenaming)

/- The members of a type are renamed with it. -/
theorem flatten_renameVars (t : Ty) :
    (t.renameVars ρ).flatten =
      t.flatten.map (renameVars ρ) := by
  cases t with
  | union ts => exact renameVarsAll_eq ρ ts
  | _ => rfl

/- Members are renamed with the type that is added to them. -/
theorem addMember_renameVars (members : List Ty) (t : Ty) :
    addMember (members.map (renameVars ρ)) (t.renameVars ρ) =
      (addMember members t).map (renameVars ρ) := by
  have hCovered :
      (members.map (renameVars ρ)).any
          ((t.renameVars ρ).isSubtype ·) =
        members.any (t.isSubtype ·) := by
    simp only [List.any_map, Function.comp_def,
      isSubtype_renameVars]
  unfold addMember
  rw [hCovered]
  split
  · rfl
  · simp only [List.filter_map, Function.comp_def,
      isSubtype_renameVars, List.map_append, List.map_cons,
      List.map_nil]

/- The type that members make is renamed with them. -/
theorem ofMembers_renameVars (members : List Ty) :
    ofMembers (members.map (renameVars ρ)) =
      (ofMembers members).renameVars ρ := by
  match members with
  | [] => rfl
  | [t] => rfl
  | t :: u :: ts =>
      simp only [List.map_cons, ofMembers, renameVars,
        renameVarsAll_eq]

/- A union is renamed with its types. -/
theorem unionOf_renameVars (ts : List Ty) :
    unionOf (ts.map (renameVars ρ)) =
      (unionOf ts).renameVars ρ := by
  have hFlat :
      (ts.map (renameVars ρ)).flatMap flatten =
        (ts.flatMap flatten).map (renameVars ρ) := by
    simp only [List.flatMap_map, List.map_flatMap,
      flatten_renameVars]
  have hAny (us : List Ty) :
      (us.map (renameVars ρ)).any isAny = us.any isAny := by
    simp only [List.any_map, Function.comp_def,
      isAny_renameVars]
  have hFold (us members : List Ty) :
      (us.map (renameVars ρ)).foldl addMember
          (members.map (renameVars ρ)) =
        (us.foldl addMember members).map (renameVars ρ) := by
    induction us generalizing members with
    | nil => rfl
    | cons u us ih =>
        rw [List.map_cons, List.foldl_cons,
          addMember_renameVars, ih, List.foldl_cons]
  unfold unionOf
  dsimp only
  rw [hFlat, hAny]
  split
  · rfl
  · rw [← ofMembers_renameVars, ← hFold, List.map_nil]

end Ty

end SigCheck
