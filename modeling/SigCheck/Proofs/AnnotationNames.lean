import SigCheck.Check.Class
import SigCheck.Proofs.ProgramNames
import SigCheck.Proofs.Restoration

/-
  Names in annotations. The types of annotations have names
  of the program only, since neither the text that is read
  nor what its names mean brings in any other.

  Key definitions include:
    * `TypeExpr.Named`
    * `Meaning.Named`, `NameEnv.Named`
    * `FunctionFacts.Uses`
    * `Cause.Plain`

  Correctness is proven by:
    * `Expr.Named.typeExpr`
    * `TypeExpr.uses_resolve`
    * `isName_of_classTypeParams`
    * `ParamDefs.uses_signature`
    * `UseSite.plain_walk`
-/

namespace SigCheck

------------------------------------------------------------
-- Reading
------------------------------------------------------------

mutual

/- Every name in the annotation is the name of something. -/
def TypeExpr.Named : TypeExpr → Prop
  | .ident id _ => IsName id
  | .member owner _ _ => owner.Named
  | .subscript head args _ =>
      head.Named ∧ TypeExpr.NamedAll args
  | .either left right _ => left.Named ∧ right.Named
  | .list items _ => TypeExpr.NamedAll items
  | .tuple items _ => TypeExpr.NamedAll items
  | .quoted body _ => body.Named
  | .noneType _ => True
  | .ellipsis _ => True
  | .unreadable _ _ => True
  | .other _ => True

/- Every name in the annotations is valid. -/
def TypeExpr.NamedAll : List TypeExpr → Prop
  | [] => True
  | t :: ts => t.Named ∧ TypeExpr.NamedAll ts

end

@[simp]
theorem TypeExpr.namedAll_iff {ts : List TypeExpr} :
    TypeExpr.NamedAll ts ↔ ∀ t ∈ ts, t.Named := by
  induction ts with
  | nil => simp [TypeExpr.NamedAll]
  | cons t ts ih => simp [TypeExpr.NamedAll, ih]

section Reading

variable {quote : String → ByteRange → TypeExpr}

mutual

/- An expression with valid names is such an annotation. -/
theorem Expr.Named.typeExprWith
    (hQuote : ∀ text range, (quote text range).Named)
    (e : Expr) (h : e.Named) :
    (e.typeExprWith quote).Named := by
  cases e with
  | literal value range =>
      cases value <;> first | exact hQuote _ _ | trivial
  | name id range => exact h
  | member value attr range =>
      exact Expr.Named.typeExprWith hQuote value h.1
  | subscript value index range =>
      have hValue := Expr.Named.typeExprWith hQuote value h.1
      cases index with
      | tuple items range =>
          exact ⟨hValue,
            Expr.NamedAll.typeExprsWith hQuote items h.2⟩
      | _ =>
          exact ⟨hValue,
            Expr.Named.typeExprWith hQuote _ h.2, trivial⟩
  | list items range =>
      exact Expr.NamedAll.typeExprsWith hQuote items h
  | tuple items range =>
      exact Expr.NamedAll.typeExprsWith hQuote items h
  | binary left op right range =>
      cases op with
      | bitOr =>
          exact ⟨Expr.Named.typeExprWith hQuote left h.1,
            Expr.Named.typeExprWith hQuote right h.2⟩
      | _ => trivial
  | _ => trivial

/- Expressions with valid names are such annotations. -/
theorem Expr.NamedAll.typeExprsWith
    (hQuote : ∀ text range, (quote text range).Named)
    (es : List Expr) (h : Expr.NamedAll es) :
    TypeExpr.NamedAll (Expr.typeExprsWith quote es) := by
  cases es with
  | nil => trivial
  | cons e es =>
      exact ⟨Expr.Named.typeExprWith hQuote e h.1,
        Expr.NamedAll.typeExprsWith hQuote es h.2⟩

end

end Reading

/- A text in quotes has valid names if it can be read. -/
theorem TypeExpr.named_ofText
    (depth : Nat)
    (text : String)
    (range : ByteRange) :
    (ofText parseExpression depth text range).Named := by
  induction depth generalizing text range with
  | zero => trivial
  | succ depth ih =>
      unfold ofText
      split
      · rename_i e hParse
        exact Expr.Named.typeExprWith ih e
          (named_of_parseExpression hParse)
      · trivial

/- An annotation has the names of its expression. -/
theorem Expr.Named.typeExpr
    {e : Expr} (h : e.Named) : e.typeExpr.Named :=
  Expr.Named.typeExprWith
    (fun _ _ => TypeExpr.named_ofText _ _ _) e h

------------------------------------------------------------
-- Meanings
------------------------------------------------------------

/- The variables and classes that are meant have names. -/
def Meaning.Named : Meaning → Prop
  | .paramSpec name => IsName name
  | .typeVar name => IsName name
  | .cls info =>
      IsName info.name ∧ ∀ p ∈ info.typeParams, IsName p.name
  | .special _ => True
  | .value _ => True
  | .unknown => True

/- Whatever a name means has names of the program. -/
def NameEnv.Named (names : NameEnv) : Prop :=
  ∀ id, (names id).Named

/- A special form has no name of the program. -/
theorem Meaning.named_ofForm (form : Option SpecialForm) :
    (Meaning.ofForm form).Named := by
  cases form <;> trivial

section Resolve

variable {names : NameEnv}

/- Whatever a path means has names of the program. -/
theorem NameEnv.Named.meaning
    (hNames : names.Named)
    (p : NamePath) : (names.meaning p).Named := by
  cases p with
  | name id => exact hNames id
  | member owner attr =>
      unfold NameEnv.meaning
      split
      · exact Meaning.named_ofForm _
      · exact Meaning.named_ofForm _
      · trivial

/- What may be no path means names of the program. -/
theorem NameEnv.Named.meaningOf
    (hNames : names.Named)
    (path : Option NamePath) :
    (names.meaningOf path).Named := by
  cases path with
  | none => trivial
  | some p => exact hNames.meaning p

/- The variable of a projection is a name of the program. -/
theorem NameEnv.Named.isName_projection
    (hNames : names.Named)
    {p : NamePath} {q : Projection}
    (h : names.projection? p = some q) : IsName q.var := by
  cases p with
  | name id => cases h
  | member owner attr =>
      simp only [NameEnv.projection?, Option.bind_eq_bind,
        Option.bind_eq_some_iff] at h
      rcases h with ⟨kind, -, var, hVar, hq⟩
      cases hq
      have hMeaning := hNames.meaning owner
      cases hOwner : names.meaning owner with
      | paramSpec name =>
          rw [hOwner] at hVar hMeaning
          cases hVar
          exact hMeaning
      | _ =>
          rw [hOwner] at hVar
          cases hVar

/- What is missing has no names. -/
theorem TypeParam.uses_defaultArg (p : TypeParam) :
    p.defaultArg.Uses IsName := by
  unfold TypeParam.defaultArg
  split <;> trivial

/- A class without arguments has its own name only. -/
theorem ClassInfo.uses_bareType
    {c : ClassInfo}
    (h : IsName c.name) : c.bareType.Uses IsName := by
  unfold ClassInfo.bareType
  split
  · refine ⟨h, TypeArg.usesAll_iff.mpr ?_⟩
    intro a ha
    rcases List.mem_map.mp ha with ⟨p, -, rfl⟩
    exact p.uses_defaultArg
  · exact h

/- A path that means something has names of the program. -/
theorem Meaning.Named.uses_bareType
    {m : Meaning}
    (h : m.Named) : m.bareType.Uses IsName := by
  cases m with
  | typeVar name => exact h
  | cls info => exact ClassInfo.uses_bareType h.1
  | special form => cases form <;> trivial
  | _ => trivial

/- A name that means nothing stands for a class. -/
theorem NamePath.uses_unknownType
    {p : NamePath}
    (h : ∀ id, p = .name id → IsName id) :
    p.unknownType.Uses IsName := by
  cases p with
  | member owner attr => trivial
  | name id =>
      unfold NamePath.unknownType
      dsimp only
      cases hBuiltin : builtinType? id with
      | none => exact h id rfl
      | some t =>
          unfold builtinType? at hBuiltin
          split at hBuiltin <;> cases hBuiltin <;> trivial

/- The type of a path has names of the program. -/
theorem NamePath.uses_type
    (hNames : names.Named)
    {p : NamePath}
    (h : ∀ id, p = .name id → IsName id) :
    (p.type names).Uses IsName := by
  unfold NamePath.type
  split
  · rename_i hProjection
    exact hNames.isName_projection hProjection
  · rename_i hProjection
    exact hNames.isName_projection hProjection
  · split
    · exact NamePath.uses_unknownType h
    · exact (hNames.meaning p).uses_bareType

/- The parameter list of a path has names of the program. -/
theorem NameEnv.Named.uses_paramsOf
    (hNames : names.Named)
    (path : Option NamePath) :
    (names.paramsOf path).Uses IsName := by
  cases path with
  | none => trivial
  | some p =>
      have hMeaning := hNames.meaning p
      unfold NameEnv.paramsOf NamePath.params
      dsimp only
      split
      · rename_i var hVar
        rw [hVar] at hMeaning
        exact ⟨trivial, hMeaning⟩
      · trivial

------------------------------------------------------------
-- Types of Annotations
------------------------------------------------------------

/- What an argument stands for has names of the program. -/
structure ResolvedArg.Uses
    (known : String → Prop)
    (a : ResolvedArg) : Prop where
  type : a.type.Uses known
  params : a.params.Uses known

/- The first type of arguments has their names. -/
theorem uses_firstType
    {args : List ResolvedArg}
    (h : ∀ a ∈ args, a.Uses IsName) :
    (firstType args).Uses IsName := by
  cases args with
  | nil => trivial
  | cons a args => exact (h a (List.mem_cons_self ..)).type

/- The types of arguments have their names. -/
theorem uses_argTypes
    {args : List ResolvedArg}
    (h : ∀ a ∈ args, a.Uses IsName) :
    ∀ t ∈ args.map (·.type), t.Uses IsName := by
  intro t ht
  rcases List.mem_map.mp ht with ⟨a, ha, rfl⟩
  exact (h a ha).type

/- The arguments of a class have their names. -/
theorem TypeParam.uses_argsOf
    (ps : List TypeParam)
    {args : List ResolvedArg}
    (h : ∀ a ∈ args, a.Uses IsName) :
    TypeArg.UsesAll IsName (argsOf ps args) := by
  induction ps generalizing args with
  | nil => trivial
  | cons p ps ih =>
      cases args with
      | nil => exact ⟨p.uses_defaultArg, ih h⟩
      | cons a args =>
          rw [List.forall_mem_cons] at h
          refine ⟨?_, ih h.2⟩
          unfold TypeParam.argOf
          split
          · exact h.1.type
          · exact h.1.params

/- A form with arguments has their names. -/
theorem SpecialForm.uses_subscriptType
    (form : SpecialForm)
    {args : List ResolvedArg}
    (h : ∀ a ∈ args, a.Uses IsName) :
    (form.subscriptType args).Uses IsName := by
  unfold SpecialForm.subscriptType
  split
  case h_1 params ret =>
    exact ⟨(h params (by simp)).params,
      (h ret (by simp)).type⟩
  case h_3 => exact uses_firstType h
  case h_4 => exact uses_firstType h
  case h_5 k v =>
    exact ⟨(h k (by simp)).type, (h v (by simp)).type⟩
  case h_7 item rest =>
    split
    · exact (h item (by simp)).type
    · exact ⟨(h item (by simp)).type,
        (h rest (by simp)).type, trivial⟩
  case h_8 => exact Ty.usesAll_iff.mpr (uses_argTypes h)
  case h_9 =>
    exact Ty.uses_unionOf_pair (uses_firstType h) trivial
  case h_10 => exact Ty.uses_unionOf (uses_argTypes h)
  all_goals trivial

/- What has a meaning and arguments has their names. -/
theorem Meaning.Named.uses_subscriptType
    {m : Meaning}
    (hMeaning : m.Named)
    {args : List ResolvedArg}
    (h : ∀ a ∈ args, a.Uses IsName) :
    (m.subscriptType args).Uses IsName := by
  cases m with
  | special form => exact form.uses_subscriptType h
  | cls info =>
      unfold Meaning.subscriptType
      dsimp only
      split
      · exact ⟨hMeaning.1, TypeParam.uses_argsOf _ h⟩
      · exact hMeaning.1
  | _ => trivial

mutual

/- The type of an annotation has names of the program. -/
theorem TypeExpr.uses_resolve
    (hNames : names.Named)
    (t : TypeExpr) (h : t.Named) :
    (t.resolve names).Uses IsName := by
  cases t with
  | ident id range =>
      refine NamePath.uses_type (p := .name id) hNames ?_
      rintro _ ⟨⟩
      exact h
  | member owner attr range =>
      unfold TypeExpr.resolve TypeExpr.path?
      cases owner.path? with
      | none => trivial
      | some p => exact NamePath.uses_type hNames nofun
  | subscript head args range =>
      exact (hNames.meaningOf head.path?).uses_subscriptType
        (TypeExpr.uses_resolveArgs hNames args h.2)
  | either left right range =>
      exact Ty.uses_unionOf_pair
        (TypeExpr.uses_resolve hNames left h.1)
        (TypeExpr.uses_resolve hNames right h.2)
  | quoted body range =>
      exact TypeExpr.uses_resolve hNames body h
  | _ => trivial

/- The parameter list of an annotation has such names. -/
theorem TypeExpr.uses_resolveParams
    (hNames : names.Named)
    (t : TypeExpr) (h : t.Named) :
    (t.resolveParams names).Uses IsName := by
  cases t with
  | ident id range => exact hNames.uses_paramsOf _
  | member owner attr range => exact hNames.uses_paramsOf _
  | list items range =>
      have hItems := TypeExpr.uses_resolveArgs hNames items h
      apply Parameter.usesAll_iff.mpr
      intro p hp
      rcases List.mem_map.mp hp with ⟨a, ha, rfl⟩
      exact ⟨nofun, (hItems a ha).type⟩
  | quoted body range =>
      exact TypeExpr.uses_resolveParams hNames body h
  | _ => trivial

/- Arguments have names of the program. -/
theorem TypeExpr.uses_resolveArgs
    (hNames : names.Named)
    (ts : List TypeExpr) (h : TypeExpr.NamedAll ts) :
    ∀ a ∈ resolveArgs names ts, a.Uses IsName := by
  cases ts with
  | nil => nofun
  | cons t ts =>
      unfold TypeExpr.resolveArgs
      rw [List.forall_mem_cons]
      exact ⟨⟨TypeExpr.uses_resolve hNames t h.1,
          TypeExpr.uses_resolveParams hNames t h.1⟩,
        TypeExpr.uses_resolveArgs hNames ts h.2⟩

end

------------------------------------------------------------
-- Type Parameters
------------------------------------------------------------

/- An annotation that is a variable has a name. -/
theorem isName_of_typeParam?
    (hNames : names.Named)
    {t : TypeExpr} {p : TypeParam}
    (h : t.typeParam? names = some p) : IsName p.name := by
  have hMeaning := hNames.meaningOf t.path?
  unfold TypeExpr.typeParam? at h
  split at h
  · rename_i hVar
    cases h
    rw [hVar] at hMeaning
    exact hMeaning
  · rename_i hVar
    cases h
    rw [hVar] at hMeaning
    exact hMeaning
  · cases h

/- Declared type parameters have names. -/
theorem isName_of_declaredParams
    (hNames : names.Named)
    {params : List TypeParam}
    (hParams : ∀ p ∈ params, IsName p.name)
    (ts : List TypeExpr) :
    ∀ p ∈ declaredParams names params ts,
      IsName p.name := by
  induction ts generalizing params with
  | nil => exact hParams
  | cons t ts ih =>
      unfold declaredParams
      split
      · rename_i p hp
        split
        · exact ih hParams
        · apply ih
          intro q hq
          rcases List.mem_append.mp hq with hq | hq
          · exact hParams q hq
          · rw [List.mem_singleton.mp hq]
            exact isName_of_typeParam? hNames hp
      · exact ih hParams

/- The variables that an argument mentions have names. -/
theorem isName_of_mentionedParams
    (hNames : names.Named)
    {t : TypeExpr} (h : t.Named) :
    ∀ p ∈ t.mentionedParams names, IsName p.name := by
  have hMeaning := hNames.meaningOf t.path?
  unfold TypeExpr.mentionedParams
  split
  · rename_i name hSpec
    cases hVar : names.meaningOf t.path? with
    | paramSpec var =>
        rw [hVar] at hSpec hMeaning
        cases hSpec
        intro p hp
        rw [List.mem_singleton.mp hp]
        exact hMeaning
    | _ =>
        rw [hVar] at hSpec
        cases hSpec
  · have hType := TypeExpr.uses_resolve hNames t h
    intro p hp
    rcases List.mem_append.mp hp with hp | hp
    · rcases List.mem_map.mp hp with ⟨v, hv, rfl⟩
      exact hType.typeVars hv
    · rcases List.mem_map.mp hp with ⟨v, hv, rfl⟩
      exact hType.specVars hv

/- The type parameters of a class have names. -/
theorem isName_of_classTypeParams
    (hNames : names.Named)
    {bases : List TypeExpr}
    (h : ∀ t ∈ bases, t.Named) :
    ∀ p ∈ classTypeParams names bases, IsName p.name := by
  intro p hp
  unfold classTypeParams at hp
  dsimp only at hp
  split at hp
  · rename_i params hDeclared
    rcases List.exists_of_findSome?_eq_some hDeclared with
      ⟨part, -, hPart⟩
    unfold BaseParams.declared? at hPart
    split at hPart
    · cases hPart
      exact isName_of_declaredParams hNames
        (List.forall_mem_nil _) _ p hp
    · cases hPart
  · rw [List.mem_eraseDups, List.mem_flatMap] at hp
    rcases hp with ⟨part, hPart, hp⟩
    rcases List.mem_map.mp hPart with ⟨t, ht, rfl⟩
    have hBase := h t ht
    unfold TypeExpr.baseParams at hp
    split at hp
    · split at hp
      · cases hp
      · rcases List.mem_flatMap.mp hp with ⟨arg, hArg, hp⟩
        exact isName_of_mentionedParams hNames
          (TypeExpr.namedAll_iff.mp hBase.2 arg hArg) p hp
    · cases hp

------------------------------------------------------------
-- Headers of Functions
------------------------------------------------------------

/- The type of a parameter has names of the program. -/
theorem ParamDef.Named.uses_type
    (hNames : names.Named)
    {p : ParamDef}
    (h : p.Named) : (p.type names).Uses IsName := by
  unfold ParamDef.type
  split
  · rename_i e he
    exact TypeExpr.uses_resolve hNames _
      (h.typeExpr e he).typeExpr
  · trivial

/- A parameter as callers see it has such names. -/
theorem ParamDef.Named.uses_parameter
    (hNames : names.Named)
    {p : ParamDef}
    (h : p.Named)
    (kind : ParamKind) :
    (p.parameter names kind).Uses IsName := by
  refine ⟨?_, h.uses_type hNames⟩
  rintro n hn
  cases hn
  exact h.name

/- Each parameter before a star is one of the definition. -/
theorem ParamDefs.mem_all_of_lead
    {ps : ParamDefs} {p : LeadParam}
    (h : p ∈ ps.lead) : p.param ∈ ps.all := by
  simp only [ParamDefs.lead, List.mem_append,
    List.mem_map] at h
  simp only [ParamDefs.all, ParamDefs.positional,
    List.mem_append]
  rcases h with ⟨q, hq, rfl⟩ | ⟨q, hq, rfl⟩
  · exact Or.inl (Or.inl (Or.inl (Or.inl hq)))
  · exact Or.inl (Or.inl (Or.inl (Or.inr hq)))

/- The parameter list of a definition has such names. -/
theorem ParamDefs.Named.uses_signature
    (hNames : names.Named)
    {ps : ParamDefs}
    (h : ps.Named)
    (dunder : Bool)
    {pair : Option ProjectionPair}
    (hPair : ∀ q ∈ pair, IsName q.var) :
    (ps.signature names dunder pair).Uses IsName := by
  have hLead :
      ∀ p ∈ ps.lead.map (LeadParam.parameter names dunder),
        p.Uses IsName := by
    intro p hp
    rcases List.mem_map.mp hp with ⟨q, hq, rfl⟩
    exact (h q.param
      (ParamDefs.mem_all_of_lead hq)).uses_parameter hNames _
  have hOthers {qs : List ParamDef}
      (hqs : ∀ q ∈ qs, q ∈ ps.all)
      (kind : ParamKind) :
      ∀ p ∈ qs.map (ParamDef.parameter names kind),
        p.Uses IsName := by
    intro p hp
    rcases List.mem_map.mp hp with ⟨q, hq, rfl⟩
    exact (h q (hqs q hq)).uses_parameter hNames kind
  unfold ParamDefs.signature
  dsimp only
  split
  · rename_i pair
    refine ⟨Parameter.usesAll_iff.mpr ?_, hPair pair rfl⟩
    intro p hp
    rcases List.mem_map.mp hp with ⟨q, hq, rfl⟩
    exact ⟨nofun, (hLead q hq).ty⟩
  · apply Parameter.usesAll_iff.mpr
    simp only [List.forall_mem_append]
    refine ⟨⟨⟨hLead, ?_⟩, ?_⟩, ?_⟩
    all_goals
      apply hOthers
      intro q hq
      simp only [ParamDefs.all, List.mem_append]
    · exact Or.inl (Or.inl (Or.inr hq))
    · exact Or.inl (Or.inr hq)
    · exact Or.inr hq

/- The variable of a pair of projections has a name. -/
theorem ProjectionCheck.isName_of_pair?
    {c : ProjectionCheck}
    (hNames : c.names.Named) :
    ∀ q ∈ c.pair?, IsName q.var := by
  intro q hq
  rw [Option.mem_def] at hq
  unfold ProjectionCheck.pair? at hq
  split at hq
  · rename_i q v r w hStar hDoubleStar
    split at hq
    · cases hq
      unfold ProjectionCheck.star?
        ProjectionCheck.projected? at hStar
      simp only [Option.bind_eq_some_iff,
        Option.map_eq_some_iff] at hStar
      rcases hStar with ⟨p, -, r, hr, hProjected⟩
      cases hProjected
      unfold ProjectionCheck.projection? at hr
      rcases Option.bind_eq_some_iff.mp hr with
        ⟨path, -, hPath⟩
      exact hNames.isName_projection hPath
    · cases hq
  · cases hq

/- What a header says has names of the program. -/
structure FunctionFacts.Named (f : FunctionFacts) : Prop where
  params : f.params.Named
  pair : ∀ q ∈ f.pair, IsName q.var
  signature : f.signature.Uses IsName
  declared : ∀ t ∈ f.declared, t.Uses IsName

namespace FunctionFacts.Named

variable {f : FunctionFacts}

/- The type of a function has names of the program. -/
theorem type (h : f.Named) : f.type.Uses IsName := by
  refine ⟨h.signature, ?_⟩
  unfold FunctionFacts.callResult
  split
  · trivial
  · cases hDeclared : f.declared with
    | none => trivial
    | some t => exact h.declared t hDeclared

/- The variables that a header binds have names. -/
theorem isName_bound
    (h : f.Named)
    (outer : RigidVars) :
    (∀ v ∈ (f.bound outer).types, IsName v)
      ∧ ∀ v ∈ (f.bound outer).specs, IsName v := by
  constructor
  all_goals
    intro v hv
    have hMem := (List.mem_filter.mp hv).1
  · rw [FunctionFacts.typeVars, List.mem_eraseDups,
      List.mem_append] at hMem
    rcases hMem with hMem | hMem
    · exact h.type.typeVars hMem
    · cases hDeclared : f.declared with
      | none => simp [hDeclared] at hMem
      | some t =>
          rw [hDeclared] at hMem
          exact (h.declared t hDeclared).typeVars hMem
  · rw [FunctionFacts.specVars, List.mem_eraseDups,
      List.mem_append] at hMem
    rcases hMem with hMem | hMem
    · exact h.type.specVars hMem
    · cases hDeclared : f.declared with
      | none => simp [hDeclared] at hMem
      | some t =>
          rw [hDeclared] at hMem
          exact (h.declared t hDeclared).specVars hMem

/- What a star parameter collects has names. -/
theorem uses_collected
    (h : f.Named)
    (kind : ParamKind) :
    (f.collected kind).Uses IsName := by
  unfold FunctionFacts.collected
  split
  · rename_i ps hps
    have hSignature := h.signature
    rw [hps] at hSignature
    cases hFind : ps.find? (·.kind == kind) with
    | none => trivial
    | some p =>
        exact (Parameter.usesAll_iff.mp hSignature p
          (List.mem_of_find?_eq_some hFind)).ty
  · trivial

/- The star parameter in the body has names. -/
theorem uses_starType
    (h : f.Named) : f.starType.Uses IsName := by
  unfold FunctionFacts.starType
  split
  · rename_i pair hPair
    exact h.pair pair hPair
  · exact h.uses_collected .varPositional

/- The double star parameter in the body has names. -/
theorem uses_doubleStarType
    (h : f.Named) : f.doubleStarType.Uses IsName := by
  unfold FunctionFacts.doubleStarType
  split
  · rename_i pair hPair
    exact h.pair pair hPair
  · exact ⟨trivial, h.uses_collected .varKeyword⟩

end FunctionFacts.Named

end Resolve

------------------------------------------------------------
-- Texts of Annotations
------------------------------------------------------------

/- The text of a type of the program has no sign. -/
theorem Ty.Uses.isSignless_text
    {t : Ty}
    (h : t.Uses IsName) : IsSignless t.text := by
  have hFresh : CheckState.HasFresh {} := nofun
  have hRetold :=
    Ty.retold_text hFresh t
      (Ty.Uses.mono (fun _ hName => Or.inl hName) t h)
  have hText : CheckState.restoreNames {} t.text = t.text := by
    unfold CheckState.restoreNames
    split <;> rfl
  rw [hRetold.restoreNames_eq hFresh] at hText
  rw [← hText]
  exact hRetold.isSignless hFresh

/-
  The cause is no answer and not about a call or a result.
  The types in its text are those of annotations.
-/
def Cause.Plain : Cause → Prop
  | .invalidTypeArguments _ reason => IsSignless reason
  | .invalidDeclaration _ => True
  | .invalidUseSite _ _ => True
  | .invalidProjection _ => True
  | .syntaxError _ => True
  | .io _ => True
  | .revealedType _ => False
  | .unsatisfiableBinding _ _ _ => False
  | .callSiteMismatch _ _ => False
  | .invalidArgType _ _ _ => False
  | .invalidReturnType _ _ => False

namespace UseSite

variable {site : UseSite}

/- A report has its cause. -/
theorem plain_report
    {cause : Cause}
    (h : cause.Plain)
    (range : ByteRange) :
    ∀ d ∈ site.report cause range, d.cause.Plain := by
  intro d hd
  rw [List.mem_singleton.mp hd]
  exact h

/- A misplaced variable is reported without types. -/
theorem plain_place
    (slot : Slot)
    (t : TypeExpr) :
    ∀ d ∈ site.place slot t, d.cause.Plain := by
  unfold place
  split
  · unfold path
    split
    · unfold misplacedProjection
      split
      · apply plain_report
        trivial
      · exact List.forall_mem_nil _
    · split
      · unfold misplacedSpec
        split
        · apply plain_report
          trivial
        · exact List.forall_mem_nil _
      · exact List.forall_mem_nil _
  · exact List.forall_mem_nil _

/- A wrong number of arguments is reported by numbers. -/
theorem plain_badCount
    (info : ClassInfo)
    (found : Nat)
    (range : ByteRange) :
    ∀ d ∈ site.badCount info found range, d.cause.Plain := by
  have hEnding :
      IsSignless
        (if info.typeParams.length == 1 then "" else "s") := by
    split <;> decide
  have hWord (text : String) (h : IsSignless text) :
      IsSignless (toString text) := h
  apply plain_report
  simp only [Cause.Plain, isSignless_append,
    isSignless_toString, hWord _ hEnding]
  decide

variable (hNames : site.names.Named)

include hNames

/- A parameter list is reported with its type. -/
theorem plain_specParams
    {params : TypeExpr}
    (h : params.Named) :
    ∀ d ∈ site.specParams params, d.cause.Plain := by
  unfold specParams
  split
  · exact List.forall_mem_nil _
  · split
    · exact plain_place _ _
    · apply plain_report
      have hText :=
        (TypeExpr.uses_resolve hNames _ h).isSignless_text
      simp only [Cause.Plain, isSignless_append]
      exact ⟨⟨⟨isSignless_ofList (by decide),
        isSignless_ofList (by decide)⟩, hText⟩,
        isSignless_ofList (by decide)⟩

/- An argument that is a path is reported with its type. -/
theorem plain_specPath
    (target : String)
    {param : String}
    (hParam : IsSignless param)
    {arg : TypeExpr}
    (h : arg.Named) :
    ∀ d ∈ site.specPath target param arg, d.cause.Plain := by
  unfold specPath
  split
  · exact List.forall_mem_nil _
  · apply plain_report
    have hText :=
      (TypeExpr.uses_resolve hNames _ h).isSignless_text
    simp only [Cause.Plain, isSignless_append]
    exact ⟨⟨⟨⟨isSignless_ofList (by decide), hParam⟩,
      isSignless_ofList (by decide)⟩, hText⟩,
      isSignless_ofList (by decide)⟩

end UseSite

namespace UseSite

/- An argument of a class is reported with its type. -/
theorem plain_specArg
    (target : String)
    {param : String}
    (hParam : IsSignless param)
    (arg : TypeExpr) (h : arg.Named)
    (site : UseSite) (hNames : site.names.Named) :
    ∀ d ∈ site.specArg target param arg, d.cause.Plain := by
  cases arg with
  | ellipsis range => exact List.forall_mem_nil _
  | quoted body range =>
      exact plain_specArg target hParam body h
        (site.enter range) hNames
  | list items range =>
      apply plain_report
      simp only [Cause.Plain, isSignless_append]
      exact ⟨⟨⟨isSignless_ofList (by decide),
        isSignless_ofList (by decide)⟩, hParam⟩,
        isSignless_ofList (by decide)⟩
  | _ => exact plain_specPath hNames target hParam h

mutual

/- What is wrong in an annotation is reported plainly. -/
theorem plain_walk
    (t : TypeExpr) (h : t.Named)
    (site : UseSite) (hNames : site.names.Named)
    (slot : Slot) :
    ∀ d ∈ site.walk slot t, d.cause.Plain := by
  cases t with
  | ident id range => exact plain_place _ _
  | member owner attr range => exact plain_place _ _
  | quoted body range =>
      exact plain_walk body h (site.enter range) hNames slot
  | unreadable fault range =>
      apply plain_report
      trivial
  | subscript head args range =>
      have hMeaning := hNames.meaningOf head.path?
      unfold walk
      split
      · split
        · rename_i params ret
          rw [List.forall_mem_append]
          exact ⟨plain_walkParams params h.2.1 site hNames,
            plain_walk ret h.2.2.1 site hNames _⟩
        · apply plain_report
          simp only [Cause.Plain, isSignless_append]
          exact ⟨isSignless_ofList (by decide),
            isSignless_ofList (by decide)⟩
      · exact plain_walkAll args h.2 site hNames _
      · rename_i info hInfo
        rw [hInfo] at hMeaning
        split
        · apply plain_report
          simp only [Cause.Plain, isSignless_append,
            hMeaning.1.plain]
          decide
        · split
          · exact plain_badCount _ _ _
          · exact plain_walkArgs args h.2 site hNames _
              hMeaning.2
      · exact plain_walkAll args h.2 site hNames _
  | either left right range =>
      unfold walk
      rw [List.forall_mem_append]
      exact ⟨plain_walk left h.1 site hNames _,
        plain_walk right h.2 site hNames _⟩
  | list items range =>
      exact plain_walkAll items h site hNames _
  | tuple items range =>
      exact plain_walkAll items h site hNames _
  | _ => exact List.forall_mem_nil _

/- What is wrong in annotations is reported plainly. -/
theorem plain_walkAll
    (ts : List TypeExpr) (h : TypeExpr.NamedAll ts)
    (site : UseSite) (hNames : site.names.Named)
    (slot : Slot) :
    ∀ d ∈ site.walkAll slot ts, d.cause.Plain := by
  cases ts with
  | nil => exact List.forall_mem_nil _
  | cons t ts =>
      unfold walkAll
      rw [List.forall_mem_append]
      exact ⟨plain_walk t h.1 site hNames slot,
        plain_walkAll ts h.2 site hNames slot⟩

/- What is wrong in class arguments is reported plainly. -/
theorem plain_walkArgs
    (ts : List TypeExpr) (h : TypeExpr.NamedAll ts)
    (site : UseSite) (hNames : site.names.Named)
    (target : String)
    {ps : List TypeParam}
    (hps : ∀ p ∈ ps, IsName p.name) :
    ∀ d ∈ site.walkArgs target ps ts, d.cause.Plain := by
  cases ts with
  | nil => cases ps <;> exact List.forall_mem_nil _
  | cons t ts =>
      cases ps with
      | nil => exact List.forall_mem_nil _
      | cons p ps =>
          rw [List.forall_mem_cons] at hps
          unfold walkArgs
          rw [List.forall_mem_append]
          refine ⟨?_, plain_walkArgs ts h.2 site hNames target
            hps.2⟩
          split
          · exact plain_specArg target hps.1.plain t h.1 site
              hNames
          · exact plain_walk t h.1 site hNames _

/- What is wrong in parameter lists is reported plainly. -/
theorem plain_walkParams
    (t : TypeExpr) (h : t.Named)
    (site : UseSite) (hNames : site.names.Named) :
    ∀ d ∈ site.walkParams t, d.cause.Plain := by
  cases t with
  | quoted body range =>
      exact plain_walkParams body h (site.enter range) hNames
  | unreadable fault range =>
      apply plain_report
      trivial
  | list items range =>
      exact plain_walkAll items h site hNames _
  | ellipsis range => exact List.forall_mem_nil _
  | _ => exact plain_specParams hNames h

end

end UseSite

section Reports

variable {names : NameEnv}
variable (hNames : names.Named)

include hNames

/- What is wrong with use sites is reported plainly. -/
theorem TypeExpr.Named.plain_useSiteErrors
    {t : TypeExpr}
    (h : t.Named)
    (index : LineIndex)
    (position : Position) :
    ∀ d ∈ t.useSiteErrors names index position,
      d.cause.Plain :=
  UseSite.plain_walk t h _ hNames _

/- What is wrong with a header is reported plainly. -/
theorem FunctionHead.Named.plain_headErrors
    {head : FunctionHead}
    (h : head.Named)
    (index : LineIndex) :
    ∀ d ∈ names.headErrors index head, d.cause.Plain := by
  unfold NameEnv.headErrors
  dsimp only
  simp only [List.forall_mem_append, List.mem_flatMap]
  constructor
  · rintro d ⟨e, he, hd⟩
    rcases List.mem_filterMap.mp he with ⟨p, hp, hType⟩
    exact ((h.params p hp).typeExpr e
      hType).typeExpr.plain_useSiteErrors hNames _ _ d hd
  · rintro d ⟨e, he, hd⟩
    exact (h.returns e
      (Option.mem_toList.mp he)).typeExpr.plain_useSiteErrors
        hNames _ _ d hd

/- Faulty type parameters are reported plainly. -/
theorem plain_declaredParamErrors
    (index : LineIndex)
    (target : String)
    (params : List TypeParam)
    (ts : List TypeExpr) :
    ∀ d ∈ declaredParamErrors names index target params ts,
      d.cause.Plain := by
  induction ts generalizing params with
  | nil => exact List.forall_mem_nil _
  | cons t ts ih =>
      unfold declaredParamErrors
      dsimp only
      split
      · rename_i p hp
        have hName := isName_of_typeParam? hNames hp
        split
        · rw [List.forall_mem_cons]
          refine ⟨?_, ih params⟩
          simp only [Cause.Plain, isSignless_append,
            hName.plain]
          decide
        · exact ih _
      · rw [List.forall_mem_cons]
        refine ⟨?_, ih params⟩
        simp only [Cause.Plain, isSignless_append]
        exact ⟨isSignless_ofList (by decide),
          isSignless_ofList (by decide)⟩

/- What is wrong with a base is reported plainly. -/
theorem plain_baseErrors
    {base : TypeExpr}
    (h : base.Named)
    (index : LineIndex) :
    ∀ d ∈ baseErrors names index base, d.cause.Plain := by
  unfold baseErrors
  rw [List.forall_mem_append]
  refine ⟨h.plain_useSiteErrors hNames _ _, ?_⟩
  unfold BaseParams.errors
  split
  · exact plain_declaredParamErrors hNames _ _ _ _
  · exact List.forall_mem_nil _

end Reports

end SigCheck
