import SigCheck.Proofs.BehindLead
import SigCheck.Proofs.Consistency
import SigCheck.Proofs.VariableRuns

/-
  Arguments checked against the list that they solved.

  What an argument leaves behind the leading parameters
  solves a parameter specification, and the argument is then
  checked against the leading parameters with the solution
  behind them. It passes unless a leading type is `Any` and
  its own is not: stripping tests by subtyping, while the
  check compares the joined types with the expected ones.

  Candidates without a join leave the gradual list. Behind
  leading parameters that is a list with variadic parameters
  of its own, and these absorb whatever else an argument
  takes, so most arguments fail the check again.

  Key definitions include:
    * `Signature.anything`, `Signature.TakesAnything`

  Correctness is proven by:
    * `Signature.substitute_spec`
    * `Signature.isCompatibleWith_anything_iff`
    * `Signature.isCompatibleWith_stripped_iff`
    * `Signature.isCompatibleWith_fallback_iff`
-/

------------------------------------------------------------
-- Leading Types
------------------------------------------------------------

namespace SigCheck

open ParamList

/- Of two types in subtyping only `Any` may fail to narrow. -/
theorem slotsTake_narrows_iff
    {slots lead : List Parameter} {star : Option Parameter} :
    SlotsTake Ty.Narrows slots star lead ↔
      SlotsTake (fun t u => t = .any → u = .any) slots star
          lead ∧
        SlotsTake (fun t u => t.isSubtype u = true) slots star
          lead := by
  constructor
  · intro h
    exact
      ⟨h.imp fun _ _ _ hBoth => (Ty.narrows_iff.mp hBoth).1,
        h.imp fun _ _ _ hBoth => (Ty.narrows_iff.mp hBoth).2⟩
  · rintro ⟨hAny, hLe⟩ index p hp
    rcases hAny index p hp with ⟨q, hq, hAny⟩
    rcases hLe index p hp with ⟨q', hq', hLe⟩
    cases hq.symm.trans hq'
    exact ⟨q, hq, Ty.narrows_iff.mpr ⟨hAny, hLe⟩⟩

namespace Signature

theorem takesLead_narrows_iff
    {sig : Signature} {lead : List Parameter} :
    sig.TakesLead Ty.Narrows lead ↔
      sig.TakesLead (fun t u => t = .any → u = .any) lead ∧
        sig.TakesLead (fun t u => t.isSubtype u = true)
          lead := by
  cases sig with
  | gradual => exact (and_self_iff).symm
  | params ps => exact slotsTake_narrows_iff
  | spec own var => exact slotsTake_narrows_iff

/- Only the gradual list leaves the gradual list. -/
theorem eq_gradual_of_stripLead
    {lead : List Parameter} {sig : Signature}
    (hStrip : stripLead lead sig = some .gradual) :
    sig = .gradual := by
  cases sig with
  | gradual => rfl
  | params ps =>
      rcases Option.map_eq_some_iff.mp hStrip with ⟨_, _, h⟩
      cases h
  | spec own var =>
      rcases stripLead_spec_eq_some_iff.mp hStrip with
        ⟨_, _, h⟩
      cases h

end Signature

end SigCheck

------------------------------------------------------------
-- Solved Variables
------------------------------------------------------------

namespace SigCheck

open ParamList

section Solved

variable {subst : Substitution} {var : String}
variable {lead : List Parameter} {sig rest solved : Signature}

/- A solved variable gives way to its solution. -/
theorem Signature.substitute_spec
    (hSolved : subst.specs.find? var = some solved) :
    (Signature.spec lead var).substitute subst =
      solved.behindLead
        (Parameter.replaceVarsAll subst lead) := by
  rw [substitute_eq_replaceVars hSolved]
  simp only [replaceVars, hSolved]

theorem Parameter.length_replaceVarsAll
    (subst : Substitution)
    (ps : List Parameter) :
    (Parameter.replaceVarsAll subst ps).length =
      ps.length := by
  simpa using
    congrArg List.length
      (Parameter.map_blank_replaceVarsAll subst ps)

/- Solving variables leaves positions without names. -/
theorem ParamList.ArePlainPositions.replaceVarsAll
    (hLead : ArePlainPositions lead)
    (subst : Substitution) :
    ArePlainPositions (Parameter.replaceVarsAll subst lead) :=
  Trait.formed_stable.leadOf
    (Parameter.map_blank_replaceVarsAll subst lead).symm hLead

/- Checking a callable is checking its two parts. -/
theorem Ty.callable_isSubtype_substitute_iff
    (hSig : sig.Declared)
    (hSolved : subst.specs.find? var = some solved)
    (expected : Signature)
    (ret result : Ty) :
    (Ty.callable sig ret).isSubtype
          ((Ty.callable expected result).substitute subst) =
        true ↔
      sig.isCompatibleWith (expected.substitute subst) =
          true ∧
        ret.isSubtype (result.substitute subst) = true := by
  rw [Ty.substitute_eq_replaceVars hSolved,
    Ty.substitute_eq_replaceVars hSolved,
    Signature.substitute_eq_replaceVars hSolved,
    Ty.replaceVars]
  exact Ty.callable_isSubtype_iff_isCompatibleWith hSig

end Solved

/-
  An argument passes the check against what it has solved
  exactly if it takes the leading parameters at wider types.
  It does that already, since it could be stripped, unless a
  leading type is `Any` where its own is not, or solving the
  variables changes a leading type.
-/
theorem Signature.isCompatibleWith_stripped_iff
    {lead : List Parameter} {var : String}
    {sig rest : Signature} {subst : Substitution}
    (hLead : ArePlainPositions lead)
    (hSig : sig.Declared)
    (hStrip : stripLead lead sig = some rest)
    (hSolved : subst.specs.find? var = some rest) :
    let solvedLead := Parameter.replaceVarsAll subst lead
    let expected := (Signature.spec lead var).substitute subst
    (sig.isCompatibleWith expected = true ↔
        sig.TakesLead Ty.Narrows solvedLead) ∧
      (solvedLead = lead →
        (sig.isCompatibleWith expected = true ↔
          sig.TakesLead (fun t u => t = .any → u = .any)
            lead)) ∧
      ∀ ret result,
        (Ty.callable sig ret).isSubtype
              ((Ty.callable (.spec lead var) result).substitute
                subst) =
            true ↔
          sig.TakesLead Ty.Narrows solvedLead ∧
            ret.isSubtype (result.substitute subst) = true := by
  intro solvedLead expected
  have hExpected : expected = rest.behindLead solvedLead :=
    Signature.substitute_spec hSolved
  have hCompatible :
      sig.isCompatibleWith expected = true ↔
        sig.TakesLead Ty.Narrows solvedLead := by
    rw [hExpected]
    by_cases hRest : rest = .gradual
    · subst hRest
      rw [Signature.eq_gradual_of_stripLead hStrip]
      exact iff_of_true rfl trivial
    · have hDeclared := hSig.stripLead hStrip
      rw [Signature.isCompatibleWith_behind_iff
        (hLead.replaceVarsAll subst)
        (Parameter.length_replaceVarsAll subst lead) hSig
        hStrip hDeclared hRest fun _ hName _ => hName]
      exact
        and_iff_left
          (Signature.isCompatibleWith_self hDeclared)
  refine ⟨hCompatible, fun hSame => ?_, fun ret result => ?_⟩
  · rw [hCompatible, hSame, Signature.takesLead_narrows_iff]
    exact
      and_iff_left (Signature.takesLead_of_stripLead hSig hStrip)
  · rw [Ty.callable_isSubtype_substitute_iff hSig hSolved,
      hCompatible]

/-
  Two leading parameters, of which a star parameter takes
  the second one and stays behind.
-/
theorem Signature.isCompatibleWith_stripped_iff_star :
    let lead : List Parameter :=
      [.anonymous .int, .anonymous .str]
    let sig := Signature.params
      [.named "x" .positionalOrKeyword .float,
        .named "more" .varPositional .object]
    let rest := Signature.params
      [.named "more" .varPositional .object]
    let subst := Substitution.setSpec {} "P" rest
    stripLead lead sig = some rest ∧
      (Signature.spec lead "P").substitute subst =
        .params (lead ++ rest.parameters) ∧
      sig.isCompatibleWith
          ((Signature.spec lead "P").substitute subst) =
        true := by
  intro lead sig rest subst
  have hLead : ArePlainPositions lead := by decide
  have hSig : sig.Declared :=
    show Declarable sig.parameters by decide
  have hStrip : stripLead lead sig = some rest := by decide
  have hSolved : subst.specs.find? "P" = some rest := rfl
  have hRoundTrip :=
    (Signature.isCompatibleWith_stripped_iff hLead hSig hStrip
      hSolved).2.1 rfl
  have hDefinite : ∀ p ∈ lead, p.ty ≠ .any := by decide
  have hTakes := Signature.takesLead_of_stripLead hSig hStrip
  refine ⟨hStrip, rfl, hRoundTrip.mpr (hTakes.imp ?_)⟩
  exact fun p hp _ _ hAny => absurd hAny (hDefinite p hp)

/-
  A leading `Any` is stripped by a parameter of type `int`,
  which the check then finds where `Any` is expected. So the
  only argument of a call that it has solved is reported.
-/
theorem Signature.stripped_not_compatible :
    let lead : List Parameter := [.anonymous .any]
    let sig := Signature.params
      [.named "x" .positionalOrKeyword .int]
    let rest := Signature.params []
    let callee := Ty.callable
      (.params
        [.named "f" .positionalOrKeyword
          (.callable (.spec lead "P") .noneType)])
      .noneType
    let outcome := callee.inferCall {} {} "g"
      { positional := [.callable sig .noneType] }
    ArePlainPositions lead ∧ sig.Declared ∧
      stripLead lead sig = some rest ∧
      sig.isCompatibleWith
          ((Signature.spec lead "P").substitute
            (Substitution.setSpec {} "P" rest)) =
        false ∧
      outcome.solved.specs.find? "P" = some rest ∧
      outcome.issues =
        [⟨.wrongType "f"
            (.callable (.params lead) .noneType)
            (.callable sig .noneType),
          .arg (.positional 0)⟩] := by
  intro lead sig rest callee outcome
  have hSig : sig.Declared :=
    show Declarable sig.parameters by decide
  exact
    ⟨by decide, hSig, by decide, by decide +kernel,
      by decide +kernel, by decide +kernel⟩

end SigCheck

------------------------------------------------------------
-- The Gradual List behind Leading Parameters
------------------------------------------------------------

namespace SigCheck

open ParamList

namespace Signature

/- The list that takes all arguments. -/
def anything : Signature :=
  .params
    [.named "args" .varPositional .any,
      .named "kwargs" .varKeyword .any]

theorem not_hasKeyword_anything {name : String} :
    ¬ HasKeyword anything.parameters name := by
  have hNone :
      ∀ p ∈ anything.parameters, p.kind.isKeyword = false := by
    decide
  rintro ⟨p, hp, hKey, -⟩
  rw [hNone p hp] at hKey
  cases hKey

/-
  The signature is gradual, or it has nothing but variadic
  parameters of type `Any`, and both of them.
-/
def TakesAnything : Signature → Prop
  | .gradual => True
  | .params [star, others] =>
      star.kind = .varPositional ∧ star.ty = .any ∧
        others.kind = .varKeyword ∧ others.ty = .any
  | _ => False

/- Behind leading parameters the gradual list is that list. -/
theorem behindLead_gradual
    {lead : List Parameter}
    (hLead : lead ≠ []) :
    gradual.behindLead lead = anything.behindLead lead := by
  cases lead with
  | nil => exact absurd rfl hLead
  | cons p lead => rfl

/- A list that such a list covers has no other parameters. -/
theorem takesAnything_of_covers
    {ps : List Parameter}
    (hps : WellFormed ps)
    (hCovers : Covers anything.parameters ps)
    (hNot : ¬ ReadmitsPast anything.parameters ps) :
    (params ps).TakesAnything := by
  rcases hCovers.star _ rfl with ⟨star, hStar, hStarTy⟩
  rcases hCovers.others _ rfl with
    ⟨others, hOthers, hOthersTy⟩
  have hNoSlots : positionalSection ps = [] := by
    rcases hCovers.lead with ⟨left, hFits⟩
    have hLe := hFits.length_le rfl
    exact List.eq_nil_of_length_eq_zero (Nat.le_zero.mp hLe)
  -- The join would take its name as a lost one.
  have hNoNames : ps.filter (·.kind == .keywordOnly) = [] := by
    refine List.filter_eq_nil_iff.mpr fun p hp hOnly => ?_
    have hOnly := eq_of_beq hOnly
    rcases hps.exists_name hp (by rw [hOnly]; rfl) with
      ⟨name, hName⟩
    have hPast : HasKeywordPast 0 ps name :=
      ⟨p, mem_keywordsPast_iff.mpr (Or.inr ⟨hp, hOnly⟩), hName⟩
    exact hNot ⟨rfl, name, hPast, not_hasKeyword_anything⟩
  have hList := hps.sections_eq
  rw [hNoSlots, hNoNames, hStar, hOthers] at hList
  have hStarKind := List.find?_some hStar
  have hOthersKind := List.find?_some hOthers
  rw [hList]
  exact
    ⟨eq_of_beq hStarKind, (Ty.narrows_iff.mp hStarTy).1 rfl,
      eq_of_beq hOthersKind,
      (Ty.narrows_iff.mp hOthersTy).1 rfl⟩

/- Only what takes all arguments may stand for that list. -/
theorem isCompatibleWith_anything_iff
    {sig : Signature}
    (hSig : sig.Declared) :
    sig.isCompatibleWith anything = true ↔
      sig.TakesAnything := by
  have hAnything : Declarable anything.parameters := by
    decide
  cases sig with
  | gradual => exact iff_of_true rfl trivial
  | spec own var => exact iff_of_false nofun nofun
  | params ps =>
      constructor
      · intro h
        have hps := hSig.toWellFormed
        rcases
          (hAnything.isCompatibleWith_iff_covers hps).mp h with
          ⟨hCovers, hNot⟩
        exact takesAnything_of_covers hps hCovers hNot
      · intro h
        rcases ps with _ | ⟨star, _ | ⟨others, _ | _⟩⟩
        case cons.cons.nil =>
          rcases star with ⟨name, kind, ty, optional⟩
          rcases others with ⟨name', kind', ty', optional'⟩
          rcases h with ⟨hStar, hTy, hOthers, hTy'⟩
          dsimp only at hStar hTy hOthers hTy'
          subst hStar hTy hOthers hTy'
          rfl
        all_goals exact h.elim

end Signature

/- A variable that is reported is solved by the gradual list. -/
theorem Candidates.find?_specs_of_reported
    {strategy : JoinStrategy} {found : Candidates}
    {var : String}
    (hReported :
      reportsOf var (found.reconcile strategy).2 ≠ [])
    (rigid : RigidVars)
    (callee : Ty) :
    ((found.reconcile strategy).1.withDefaults rigid
        callee).specs.find? var =
      some .gradual := by
  rcases found.reconcile_shows strategy var with
    ⟨hSolution, hReports⟩
  rw [hReports] at hReported
  rw [Substitution.find?_specs_withDefaults, hSolution,
    VarStatus.solution?_of_reports hReported, Option.some_or]

/-
  An argument passes the check against the gradual list that
  a variable falls back to exactly if there are no leading
  parameters in front of it, or it takes these at wider types
  and has nothing behind them but variadic parameters of
  type `Any`. Each variable that is reported falls back so.
-/
theorem Signature.isCompatibleWith_fallback_iff
    {lead : List Parameter} {var : String}
    {sig rest : Signature}
    (hLead : ArePlainPositions lead)
    (hSig : sig.Declared)
    (hStrip : stripLead lead sig = some rest) :
    (∀ subst : Substitution,
        subst.specs.find? var = some .gradual →
        let solvedLead := Parameter.replaceVarsAll subst lead
        let expected :=
          (Signature.spec lead var).substitute subst
        let quiet :=
          lead = [] ∨
            (rest.TakesAnything ∧
              sig.TakesLead Ty.Narrows solvedLead)
        (sig.isCompatibleWith expected = true ↔ quiet) ∧
          ∀ ret result,
            (Ty.callable sig ret).isSubtype
                  ((Ty.callable (.spec lead var)
                    result).substitute subst) =
                true ↔
              quiet ∧
                ret.isSubtype (result.substitute subst) =
                  true) ∧
      ∀ strategy (found : Candidates) rigid callee,
        reportsOf var (found.reconcile strategy).2 ≠ [] →
          ((found.reconcile strategy).1.withDefaults rigid
              callee).specs.find? var =
            some .gradual := by
  refine
    ⟨fun subst hSolved => ?_,
      fun _ _ rigid callee hReported =>
        Candidates.find?_specs_of_reported hReported rigid
          callee⟩
  intro solvedLead expected quiet
  have hLength : solvedLead.length = lead.length :=
    Parameter.length_replaceVarsAll subst lead
  have hCompatible :
      sig.isCompatibleWith expected = true ↔ quiet := by
    have hExpected : expected = gradual.behindLead solvedLead :=
      substitute_spec hSolved
    rw [hExpected]
    by_cases hNone : lead = []
    · have hSolvedNone : solvedLead = [] := by
        rw [hNone] at hLength
        exact List.eq_nil_of_length_eq_zero hLength
      rw [hSolvedNone, behindLead_nil]
      refine iff_of_true ?_ (Or.inl hNone)
      cases sig <;> rfl
    · have hSome : solvedLead ≠ [] := by
        intro hSolvedNone
        rw [hSolvedNone] at hLength
        exact hNone (List.eq_nil_of_length_eq_zero hLength.symm)
      have hAnything : anything.Declared :=
        show Declarable anything.parameters by decide
      rw [behindLead_gradual hSome,
        isCompatibleWith_behind_iff
          (hLead.replaceVarsAll subst) hLength hSig hStrip
          hAnything nofun
          fun _ hName => absurd hName not_hasKeyword_anything,
        isCompatibleWith_anything_iff (hSig.stripLead hStrip),
        and_comm]
      exact (or_iff_right hNone).symm
  refine ⟨hCompatible, fun ret result => ?_⟩
  rw [Ty.callable_isSubtype_substitute_iff hSig hSolved,
    hCompatible]

/-
  Two arguments clash and leave the gradual list. The second
  one had all that a list may have behind the leading
  parameter, so it is not reported again.
-/
theorem Signature.isCompatibleWith_fallback_iff_open :
    let lead : List Parameter := [.anonymous .int]
    let wide := Signature.params
      [.named "x" .positionalOrKeyword .int,
        .named "more" .varPositional .any,
        .named "others" .varKeyword .any]
    let rest := Signature.params
      [.named "more" .varPositional .any,
        .named "others" .varKeyword .any]
    let found : Candidates :=
      ⟨[], [("P", .params [.anonymous .int], .positional 0),
        ("P", .spec [] "Q", .positional 1)]⟩
    let callee := Ty.callable (.spec lead "P") .noneType
    let full :=
      (found.reconcile .supertype).1.withDefaults {} callee
    stripLead lead wide = some rest ∧
      full.specs.find? "P" = some .gradual ∧
      wide.isCompatibleWith
          ((Signature.spec lead "P").substitute full) =
        true := by
  intro lead wide rest found callee full
  have hLead : ArePlainPositions lead := by decide
  have hSig : wide.Declared :=
    show Declarable wide.parameters by decide
  have hStrip : stripLead lead wide = some rest := by decide
  rcases Signature.isCompatibleWith_fallback_iff
    hLead hSig hStrip with ⟨hQuiet, hFallback⟩
  have hReported :
      reportsOf "P" (found.reconcile .supertype).2 ≠ [] := by
    decide +kernel
  have hSolved :=
    hFallback .supertype found {} callee hReported
  refine ⟨hStrip, hSolved, (hQuiet full hSolved).1.mpr ?_⟩
  exact
    Or.inr
      ⟨⟨rfl, rfl, rfl, rfl⟩,
        slotsTake_cons.mpr
          ⟨Ty.narrows_refl .int, slotsTake_nil⟩⟩

/-
  Two arguments clash in what they take second. The call
  reports the clash, and then each of them once more.
-/
theorem Signature.fallback_not_quiet :
    let lead : List Parameter := [.anonymous .int]
    let sig (ty : Ty) := Signature.params
      [.named "x" .positionalOrKeyword .int,
        .named "y" .positionalOrKeyword ty]
    let rest (ty : Ty) := Signature.params
      [.named "y" .positionalOrKeyword ty]
    let param (name : String) : Parameter :=
      .named name .positionalOrKeyword
        (.callable (.spec lead "P") .noneType)
    let callee := Ty.callable
      (.params [param "f", param "g"]) .noneType
    let outcome := callee.inferCall {} {} "h"
      { positional :=
          [.callable (sig .int) .noneType,
            .callable (sig .str) .noneType] }
    let expected := Ty.callable
      (.params (lead ++ Signature.anything.parameters))
      .noneType
    ArePlainPositions lead ∧ (sig .int).Declared ∧
      stripLead lead (sig .int) = some (rest .int) ∧
      (sig .int).isCompatibleWith
          ((Signature.spec lead "P").substitute
            (Substitution.setSpec {} "P" .gradual)) =
        false ∧
      outcome.solved.specs.find? "P" = some .gradual ∧
      outcome.issues =
        [⟨.unsatisfiable "P" (rest .int) (rest .str),
            .arg (.positional 1)⟩,
          ⟨.wrongType "f" expected
              (.callable (sig .int) .noneType),
            .arg (.positional 0)⟩,
          ⟨.wrongType "g" expected
              (.callable (sig .str) .noneType),
            .arg (.positional 1)⟩] := by
  intro lead sig rest param callee outcome expected
  have hSig : (sig .int).Declared :=
    show Declarable (sig .int).parameters by decide
  exact
    ⟨by decide, hSig, by decide, by decide +kernel,
      by decide +kernel, by decide +kernel⟩

end SigCheck
