import SigCheck.Call.Inference
import SigCheck.Proofs.SameShape

/-
  Two strategies for several candidates of one variable.

  The exact strategy takes equivalent candidates only, and
  keeps the first of them. Joining equivalent candidates
  gives one that is equivalent to both, so the supertype
  strategy takes the same candidates and solves the variable
  alike.

  Key definitions include:
    * `Signature.Matches`
    * `JoinStrategy.extend`
    * `SpecSolving.Agree`

  Correctness is proven by:
    * `Signature.isCompatibleWith_of_equivalent`
    * `JoinStrategy.exists_supertype_of_exact`
    * `SpecSolving.Agree.add`
    * `Candidates.reconcile_supertype_of_exact`
-/

------------------------------------------------------------
-- Equivalent Signatures
------------------------------------------------------------

namespace SigCheck

open ParamList

theorem Parameter.Alike.trans
    {p q r : Parameter}
    (h : p.Alike q)
    (h' : q.Alike r) : p.Alike r := by
  refine
    ⟨h.kind.trans h'.kind, h.optional.trans h'.optional,
      h.ty.trans h'.ty, ?_⟩
  rcases h.name with hOnly | hName
  · exact Or.inl hOnly
  · rw [h.kind, hName]
    exact h'.name

namespace ParamList

variable {ps qs rs : List Parameter}

theorem alike_refl (ps : List Parameter) :
    List.Forall₂ Parameter.Alike ps ps :=
  List.forall₂_same.mpr fun p _ => .refl p

theorem alike_trans
    (h : List.Forall₂ Parameter.Alike ps qs)
    (h' : List.Forall₂ Parameter.Alike qs rs) :
    List.Forall₂ Parameter.Alike ps rs := by
  induction h generalizing rs with
  | nil => exact h'
  | cons hpq _ ih =>
      cases h' with
      | cons hqr hRest => exact .cons (hpq.trans hqr) (ih hRest)

end ParamList

/- Callers cannot tell the two signatures apart. -/
inductive Signature.Alike : Signature → Signature → Prop
  | gradual : Alike .gradual .gradual
  | params
      {ps qs : List Parameter} :
      List.Forall₂ Parameter.Alike ps qs →
        Alike (.params ps) (.params qs)
  | spec
      {lead lead' : List Parameter} (var : String) :
      List.Forall₂ Parameter.Alike lead lead' →
        Alike (.spec lead var) (.spec lead' var)

namespace Signature

variable {s t u : Signature}

theorem equivalent_iff_alike :
    s.equivalent t = true ↔ s.Alike t := by
  constructor
  · intro h
    cases s <;> cases t <;>
      simp only [equivalent, equivalentAll_iff,
        Bool.and_eq_true, Bool.false_eq_true] at h
    case params.params => exact .params h
    case spec.spec =>
      rcases h with ⟨hVar, h⟩
      rw [eq_of_beq hVar]
      exact .spec _ h
    case gradual.gradual => exact .gradual
  · intro h
    cases h with
    | gradual => rfl
    | params h => exact equivalentAll_iff.mpr h
    | spec var h =>
        simp [equivalent, equivalentAll_iff.mpr h]

namespace Alike

theorem refl (s : Signature) : s.Alike s := by
  cases s with
  | params ps => exact .params (alike_refl ps)
  | spec lead var => exact .spec var (alike_refl lead)
  | gradual => exact .gradual

theorem symm (h : s.Alike t) : t.Alike s := by
  cases h with
  | gradual => exact .gradual
  | params h => exact .params (alike_symm h)
  | spec var h => exact .spec var (alike_symm h)

theorem trans
    (h : s.Alike t)
    (h' : t.Alike u) : s.Alike u := by
  cases h with
  | gradual => exact h'
  | params h =>
      cases h' with
      | params h' => exact .params (alike_trans h h')
  | spec var h =>
      cases h' with
      | spec var h' => exact .spec var (alike_trans h h')

end Alike

end Signature

end SigCheck

------------------------------------------------------------
-- Joining Equivalent Signatures
------------------------------------------------------------

namespace SigCheck

open ParamList

namespace ParamList

variable {ps qs : List Parameter}

/- Joining alike lists gives one that is like them. -/
theorem isCompatibleWith_of_alike
    (hDeclared : Declarable ps)
    (h : List.Forall₂ Parameter.Alike ps qs) :
    (Signature.params qs).isCompatibleWith (.params ps) =
      true := by
  have hqs := (hDeclared.of_alike h).toWellFormed
  have hSelf : Covers qs qs :=
    covers_of_suits
      (List.forall₂_same.mpr fun q _ =>
        ⟨rfl, Ty.narrows_refl q.ty⟩) hqs
  refine
    hDeclared.isCompatibleWith_of_covers (hSelf.of_alike h) ?_
  intro name hPast
  exact
    hasKeyword_of_alike h
      ((hasKeyword_iff _).mpr (Or.inr hPast))

/- Merging alike leading slots gives slots like them. -/
theorem exists_mergeLead_of_alike
    (hOnly : ∀ p ∈ ps, p.kind = .positionalOnly)
    (h : List.Forall₂ Parameter.Alike ps qs) :
    ∃ join, mergeLeadBy Ty.meet ps qs = some join ∧
      List.Forall₂ Parameter.Alike join ps := by
  refine (Signature.mergeLead_alike_iff hOnly).mpr ?_
  exact h.imp fun _ q hpq => hpq.weakens.slotFits (.refl q)

end ParamList

namespace Signature

variable {s t : Signature}

theorem Declared.of_alike
    (hDeclared : s.Declared)
    (h : s.Alike t) : t.Declared := by
  cases h with
  | gradual => trivial
  | params h => exact Declarable.of_alike hDeclared h
  | spec var h =>
      intro q hq
      rcases exists_left_of_forall₂ h hq with ⟨p, hp, hpq⟩
      rw [← hpq.kind]
      exact hDeclared p hp

/- Alike signatures have a join, which is like them. -/
theorem exists_commonSupertype_of_alike
    (hDeclared : s.Declared)
    (h : s.Alike t) :
    ∃ u, s.commonSupertype t = some u ∧ u.Alike s := by
  cases h with
  | gradual => exact ⟨.gradual, rfl, .gradual⟩
  | params h =>
      rcases isCompatibleWith_params_iff.mp
        (isCompatibleWith_of_alike hDeclared h) with
        ⟨join, hJoin, hAlike⟩
      refine ⟨.params join, ?_, .params hAlike⟩
      simp only [commonSupertype, commonBy, hJoin,
        Option.map_some]
  | spec var h =>
      rcases exists_mergeLead_of_alike hDeclared h with
        ⟨join, hJoin, hAlike⟩
      refine ⟨.spec join var, ?_, .spec var hAlike⟩
      simp only [commonSupertype, commonBy, beq_self_eq_true,
        if_true, hJoin, Option.map_some]

/- A signature may stand where one like it is expected. -/
theorem isCompatibleWith_of_alike
    (hDeclared : s.Declared)
    (h : s.Alike t) : t.isCompatibleWith s = true := by
  rcases exists_commonSupertype_of_alike hDeclared h with
    ⟨u, hJoin, hAlike⟩
  have hEquivalent := equivalent_iff_alike.mpr hAlike
  unfold commonSupertype at hJoin
  cases h with
  | gradual => rfl
  | params h =>
      simp only [isCompatibleWith, compatibleBy, hJoin]
      exact hEquivalent
  | spec var h =>
      simp only [isCompatibleWith, compatibleBy, hJoin]
      exact hEquivalent

end Signature

end SigCheck

------------------------------------------------------------
-- One Candidate
------------------------------------------------------------

namespace SigCheck

/- Gradual candidates say nothing; others are the solution. -/
def Signature.Matches (candidate solution : Signature) : Prop :=
  candidate = .gradual ∨ candidate.Alike solution

namespace Signature.Matches

variable {s t u : Signature}

theorem trans
    (h : s.Matches t)
    (h' : t.Matches u) : s.Matches u := by
  rcases h with rfl | hAlike
  · exact Or.inl rfl
  · rcases h' with rfl | hAlike'
    · cases hAlike
      exact Or.inl rfl
    · exact Or.inr (hAlike.trans hAlike')

/- What matches a solution may stand where it is expected. -/
theorem isCompatibleWith
    (h : s.Matches t)
    (hDeclared : t.Declared) :
    s.isCompatibleWith t = true := by
  rcases h with rfl | hAlike
  · rfl
  · exact isCompatibleWith_of_alike hDeclared hAlike.symm

end Signature.Matches

namespace JoinStrategy

variable {s t u sig next : Signature}

/- The first candidate is taken, a later one is joined. -/
def extend
    (strategy : JoinStrategy) :
    Option Signature → Signature → Option Signature
  | none, sig => some sig
  | some current, sig => strategy.apply current sig

/- The exact strategy keeps one of two candidates. -/
theorem exact_apply_cases
    (h : exact.apply s t = some u) :
    s = .gradual ∧ u = t ∨
      t = .gradual ∧ u = s ∨
        s.Alike t ∧ u = s := by
  unfold apply at h
  simp only at h
  split at h
  · exact Or.inl ⟨rfl, (Option.some.inj h).symm⟩
  · exact Or.inr (Or.inl ⟨rfl, (Option.some.inj h).symm⟩)
  · split at h
    · rename_i hSame
      exact
        Or.inr (Or.inr
          ⟨Signature.equivalent_iff_alike.mp hSame,
            (Option.some.inj h).symm⟩)
    · cases h

theorem supertype_apply_gradual (s : Signature) :
    supertype.apply s .gradual = some s := by
  cases s <;> rfl

/-
  What the exact strategy makes of a candidate, the other
  one makes of it up to names that do not count.
-/
theorem exists_supertype_of_exact
    {known joined : Option Signature}
    (hKnown : Option.Rel Signature.Alike known joined)
    (hDeclared : ∀ s ∈ known, s.Declared)
    (hSig : sig.Declared)
    (hExact : exact.extend known sig = some next) :
    next.Declared ∧ sig.Matches next ∧
      (∀ s ∈ known, s.Matches next) ∧
        ∃ next', supertype.extend joined sig = some next' ∧
          next.Alike next' := by
  cases hKnown with
  | none =>
      cases Option.some.inj hExact
      exact
        ⟨hSig, Or.inr (.refl sig), by simp, sig, rfl,
          .refl sig⟩
  | @some s s' hAlike =>
      have hs : s.Declared := hDeclared s rfl
      have hs' := hs.of_alike hAlike
      simp only [Option.mem_def, Option.some.injEq,
        forall_eq']
      rcases exact_apply_cases hExact with
        ⟨rfl, rfl⟩ | ⟨rfl, rfl⟩ | ⟨hSame, rfl⟩
      · cases hAlike
        exact
          ⟨hSig, Or.inr (.refl next), Or.inl rfl, next, rfl,
            .refl next⟩
      · exact
          ⟨hs, Or.inl rfl, Or.inr (.refl next), s',
            supertype_apply_gradual s', hAlike⟩
      · rcases Signature.exists_commonSupertype_of_alike hs'
          (hAlike.symm.trans hSame) with ⟨u, hJoin, hu⟩
        exact
          ⟨hs, Or.inr hSame.symm, Or.inr (.refl next), u,
            hJoin, hAlike.trans hu.symm⟩

end JoinStrategy

end SigCheck

------------------------------------------------------------
-- Runs of Candidates
------------------------------------------------------------

namespace SigCheck

namespace SpecSolving

variable {strategy : JoinStrategy}
variable {solved exact joined : Table Signature}
variable {var : String} {sig next : Signature}
variable {source : ArgSource}

/- A candidate without a clash is entered in the solution. -/
theorem add_of_extend
    (h : strategy.extend (solved.find? var) sig = some next) :
    add strategy { solved } (var, sig, source) =
      { solved := solved.insert var next } := by
  unfold add
  cases hFound : solved.find? var with
  | none =>
      rw [hFound] at h
      cases Option.some.inj h
      simp [hFound]
  | some current =>
      rw [hFound] at h
      have hJoin : strategy.apply current sig = some next := h
      simp [hFound, hJoin]

/- Without an issue there was no clash. -/
theorem exists_extend_of_issues
    (h :
      (add strategy { solved } (var, sig, source)).issues =
        []) :
    ∃ next,
      strategy.extend (solved.find? var) sig = some next := by
  cases hNext : strategy.extend (solved.find? var) sig with
  | some next => exact ⟨next, rfl⟩
  | none =>
      cases hFound : solved.find? var with
      | none =>
          rw [hFound] at hNext
          cases hNext
      | some current =>
          rw [hFound] at hNext
          have hClash : strategy.apply current sig = none :=
            hNext
          simp [add, hFound, hClash] at h

/- Issues stay. -/
theorem issues_prefix_add
    (state : SpecSolving)
    (c : String × Signature × ArgSource) :
    state.issues <+: (add strategy state c).issues := by
  unfold add
  dsimp only
  split
  · exact List.prefix_rfl
  · split
    · exact List.prefix_rfl
    · split
      · exact List.prefix_rfl
      · exact List.prefix_append ..

theorem issues_prefix_foldl
    (strategy : JoinStrategy)
    (cs : List (String × Signature × ArgSource))
    (state : SpecSolving) :
    state.issues <+:
      (cs.foldl (add strategy) state).issues := by
  induction cs generalizing state with
  | nil => exact List.prefix_rfl
  | cons c cs ih =>
      exact (issues_prefix_add state c).trans (ih _)

/-
  Two solutions of the same candidates: the first one is
  made of the candidates themselves, and the second is like
  it.
-/
structure Agree
    (candidates : List (String × Signature × ArgSource))
    (exact joined : Table Signature) : Prop where
  alike :
    ∀ var,
      Option.Rel Signature.Alike (exact.find? var)
        (joined.find? var)
  declared : ∀ var, ∀ s ∈ exact.find? var, s.Declared
  solved :
    ∀ c ∈ candidates,
      ∃ s ∈ exact.find? c.1, c.2.1.Matches s

namespace Agree

theorem empty : Agree [] ∅ ∅ where
  alike _ := .none
  declared := by simp
  solved := by simp

variable {cs : List (String × Signature × ArgSource)}

/- One more candidate keeps the solutions alike. -/
theorem insert
    (source : ArgSource)
    (h : Agree cs exact joined)
    (hSig : sig.Declared)
    (hExact :
      JoinStrategy.exact.extend (exact.find? var) sig =
        some next) :
    ∃ next',
      JoinStrategy.supertype.extend (joined.find? var) sig =
          some next' ∧
        Agree (cs ++ [(var, sig, source)])
          (exact.insert var next)
          (joined.insert var next') := by
  rcases JoinStrategy.exists_supertype_of_exact (h.alike var)
    (h.declared var) hSig hExact with
    ⟨hNext, hMatches, hKnown, next', hJoin, hAlike⟩
  refine ⟨next', hJoin, ?_, ?_, ?_⟩
  · intro key
    by_cases hKey : var = key
    · simp [hKey, hAlike]
    · simp [hKey, h.alike key]
  · intro key s hs
    by_cases hKey : var = key
    · simp only [Table.find?_insert, hKey, if_true,
        Option.mem_def, Option.some.injEq] at hs
      exact hs ▸ hNext
    · simp only [Table.find?_insert, hKey, if_false] at hs
      exact h.declared key s hs
  · intro c hc
    rcases List.mem_append.mp hc with hOld | hNew
    · rcases h.solved c hOld with ⟨s, hs, hOldMatches⟩
      by_cases hKey : var = c.1
      · subst hKey
        exact
          ⟨next, by simp, hOldMatches.trans (hKnown s hs)⟩
      · exact ⟨s, by simpa [hKey] using hs, hOldMatches⟩
    · cases List.mem_singleton.mp hNew
      exact ⟨next, by simp, hMatches⟩

/-
  As long as the exact strategy finds no clash, neither does
  the other, and the solutions stay alike.
-/
theorem foldl
    {rest : List (String × Signature × ArgSource)}
    (h : Agree cs exact joined)
    (hRest : ∀ c ∈ rest, c.2.1.Declared)
    (hIssues :
      (rest.foldl (add .exact) { solved := exact }).issues =
        []) :
    ∃ exact' joined',
      rest.foldl (add .exact) { solved := exact } =
          { solved := exact' } ∧
        rest.foldl (add .supertype) { solved := joined } =
            { solved := joined' } ∧
          Agree (cs ++ rest) exact' joined' := by
  induction rest generalizing cs exact joined with
  | nil => exact ⟨exact, joined, rfl, rfl, by simpa using h⟩
  | cons c rest ih =>
      rcases c with ⟨var, sig, source⟩
      rcases List.forall_mem_cons.mp hRest with ⟨hSig, hRest⟩
      rw [List.foldl_cons] at hIssues
      have hKept :=
        issues_prefix_foldl .exact rest
          (add .exact { solved := exact } (var, sig, source))
      rw [hIssues] at hKept
      have hFirst := List.prefix_nil.mp hKept
      rcases exists_extend_of_issues hFirst with
        ⟨next, hExact⟩
      rcases h.insert source hSig hExact with
        ⟨next', hJoin, hAgree⟩
      rw [add_of_extend hExact] at hIssues
      rw [List.foldl_cons, List.foldl_cons,
        add_of_extend hExact, add_of_extend hJoin]
      have hDone := ih hAgree hRest hIssues
      rwa [List.append_assoc] at hDone

end Agree

end SpecSolving

end SigCheck

------------------------------------------------------------
-- The Exact Strategy Refines the Other
------------------------------------------------------------

namespace SigCheck

namespace Candidates

/-
  Candidates that the exact strategy reconciles, the
  supertype strategy reconciles as well. The solutions are
  equivalent, and every candidate may stand where either of
  them is expected.
-/
theorem reconcile_supertype_of_exact
    {candidates : Candidates}
    (hDeclared : ∀ c ∈ candidates.specs, c.2.1.Declared)
    (hExact : (candidates.reconcile .exact).2 = []) :
    let exact := (candidates.reconcile .exact).1
    let joined := (candidates.reconcile .supertype).1
    (candidates.reconcile .supertype).2 = [] ∧
      exact.types = joined.types ∧
      (∀ var,
        Option.Rel (fun s t => s.equivalent t = true)
          (exact.specs.find? var) (joined.specs.find? var)) ∧
      ∀ c ∈ candidates.specs,
        ∃ s t, exact.specs.find? c.1 = some s ∧
          joined.specs.find? c.1 = some t ∧
            c.2.1.isCompatibleWith s = true ∧
              c.2.1.isCompatibleWith t = true := by
  intro exact joined
  rcases SpecSolving.Agree.empty.foldl hDeclared hExact with
    ⟨exact', joined', hRun, hRun', hAgree⟩
  have hSpecs : exact.specs = exact' :=
    congrArg SpecSolving.solved hRun
  have hSpecs' : joined.specs = joined' :=
    congrArg SpecSolving.solved hRun'
  refine
    ⟨congrArg SpecSolving.issues hRun', rfl, ?_, ?_⟩
  · intro var
    rw [hSpecs, hSpecs']
    have hSame := hAgree.alike var
    generalize exact'.find? var = s at hSame
    generalize joined'.find? var = t at hSame
    cases hSame with
    | none => exact .none
    | some hAlike =>
        exact .some (Signature.equivalent_iff_alike.mpr hAlike)
  · intro c hc
    rw [hSpecs, hSpecs']
    rcases hAgree.solved c hc with ⟨s, hs, hMatches⟩
    have hKnown := hAgree.declared c.1 s hs
    have hSame := hAgree.alike c.1
    rw [Option.mem_def] at hs
    rw [hs] at hSame
    generalize hFound : joined'.find? c.1 = known at hSame
    cases hSame with
    | @some _ t hAlike =>
        exact
          ⟨s, t, hs, rfl, hMatches.isCompatibleWith hKnown,
            (hMatches.trans (Or.inr hAlike)).isCompatibleWith
              (hKnown.of_alike hAlike)⟩

/-
  Three candidates for one variable, of which one says
  nothing and two differ in the name of a positional-only
  slot: the exact strategy keeps the first of them, and the
  other one takes the name from its slot.
-/
theorem reconcile_supertype_of_exact_renamed :
    let list : Option String → List Parameter := fun name =>
      [⟨name, .positionalOnly, .int, false⟩,
        ⟨some "y", .positionalOrKeyword, .str, true⟩,
        ⟨some "rest", .varPositional, .any, false⟩,
        ⟨some "flag", .keywordOnly, .bool, false⟩]
    let kept : Signature := .params (list (some "a"))
    let unnamed : Signature := .params (list none)
    let candidates : Candidates :=
      ⟨[], [("P", .params (list (some "a")), .positional 0),
        ("P", .gradual, .positional 1),
        ("P", .params (list (some "b")), .positional 2)]⟩
    (∀ c ∈ candidates.specs, c.2.1.Declared) ∧
      (candidates.reconcile .exact).2 = [] ∧
      (candidates.reconcile .supertype).2 = [] ∧
      (candidates.reconcile .exact).1.specs.find? "P" =
        some kept ∧
      (candidates.reconcile .supertype).1.specs.find? "P" =
        some unnamed ∧
      kept.equivalent unnamed = true ∧
      ∀ c ∈ candidates.specs,
        c.2.1.isCompatibleWith kept = true ∧
          c.2.1.isCompatibleWith unnamed = true := by
  intro list kept unnamed candidates
  have hVar : ∀ c ∈ candidates.specs, c.1 = "P" := by
    simp [candidates]
  have hDeclared : ∀ c ∈ candidates.specs, c.2.1.Declared := by
    have hFirst : ParamList.Declarable (list (some "a")) := by
      decide
    have hLast : ParamList.Declarable (list (some "b")) := by
      decide
    intro c hc
    simp only [candidates, List.mem_cons, List.not_mem_nil,
      or_false] at hc
    rcases hc with rfl | rfl | rfl
    exacts [hFirst, trivial, hLast]
  have hExact : (candidates.reconcile .exact).2 = [] := by
    decide
  have hKept :
      (candidates.reconcile .exact).1.specs.find? "P" =
        some kept := rfl
  have hUnnamed :
      (candidates.reconcile .supertype).1.specs.find? "P" =
        some unnamed := rfl
  rcases reconcile_supertype_of_exact hDeclared hExact with
    ⟨hIssues, -, hSame, hEach⟩
  refine
    ⟨hDeclared, hExact, hIssues, hKept, hUnnamed, ?_, ?_⟩
  · have hAlike := hSame "P"
    rw [hKept, hUnnamed] at hAlike
    cases hAlike with
    | some h => exact h
  · intro c hc
    rcases hEach c hc with ⟨s, t, hs, ht, hFits, hFits'⟩
    rw [hVar c hc, hKept] at hs
    rw [hVar c hc, hUnnamed] at ht
    cases hs
    cases ht
    exact ⟨hFits, hFits'⟩

end Candidates

end SigCheck
