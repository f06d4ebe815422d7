import SigCheck.Proofs.ExactJoin
import SigCheck.Proofs.Solution

/-
  Reconciliation as one variable sees it.

  Candidates of several variables come interleaved, and one
  loop threads a table of solutions and a list of failures
  through them. Seen from one variable, the loop is a small
  machine that its own candidates alone drive: the variable
  has no candidate yet, or it is solved, or it has clashed
  and stays so.

  Key definitions include:
    * `CallIssue.clashVar?`, `reportsOf`
    * `Candidates.ofSpec`, `Candidates.ofType`
    * `VarStatus`, `VarStatus.add`, `VarStatus.run`
    * `SpecSolving.Shows`
    * `Signature.AtOdds`

  Correctness is proven by:
    * `SpecSolving.Shows.add`
    * `Candidates.reconcile_shows`
    * `VarStatus.explains_run`
    * `Candidates.reconcile_each_variable`
-/

------------------------------------------------------------
-- One Variable
------------------------------------------------------------

namespace SigCheck

/- The variable whose candidates an issue reports. -/
def CallIssue.clashVar? (issue : CallIssue) : Option String :=
  match issue.fault with
  | .unsatisfiable var _ _ => some var
  | _ => none

/- The issues that report candidates of the variable. -/
def reportsOf
    (var : String)
    (issues : List CallIssue) : List CallIssue :=
  issues.filter (·.clashVar? == some var)

namespace Candidates

/- The candidates of one parameter specification, in order. -/
def ofSpec
    (found : Candidates)
    (var : String) : List (Signature × ArgSource) :=
  (found.specs.filter (·.1 == var)).map (·.2)

/- The candidates of one type variable, in order. -/
def ofType
    (found : Candidates)
    (name : String) : List Ty :=
  (found.types.filter (·.1 == name)).map (·.2)

end Candidates

/- What has become of a parameter specification so far. -/
inductive VarStatus where
  | unseen
  | solved (sig : Signature)
  | clashed (issue : CallIssue)

namespace VarStatus

/- The solution at this point. -/
def solution? : VarStatus → Option Signature
  | unseen => none
  | solved sig => some sig
  | clashed _ => some .gradual

/- What is reported up to this point. -/
def reports : VarStatus → List CallIssue
  | clashed issue => [issue]
  | _ => []

/- The variable takes no more candidates. -/
def isClashed : VarStatus → Bool
  | clashed _ => true
  | _ => false

/- Take in one more candidate of the variable. -/
def add
    (strategy : JoinStrategy)
    (var : String)
    (status : VarStatus)
    (candidate : Signature × ArgSource) : VarStatus :=
  match status with
  | unseen => solved candidate.1
  | solved current =>
      match strategy.apply current candidate.1 with
      | some joined => solved joined
      | none =>
          clashed
            ⟨.unsatisfiable var current candidate.1,
              .arg candidate.2⟩
  | clashed issue => clashed issue

/- Take in the candidates of the variable one by one. -/
def run
    (strategy : JoinStrategy)
    (var : String)
    (candidates : List (Signature × ArgSource)) :
    VarStatus :=
  candidates.foldl (add strategy var) unseen

/- A variable is reported once at most. -/
theorem length_reports_le (status : VarStatus) :
    status.reports.length ≤ 1 := by
  cases status <;> simp [reports]

/- A variable that is reported becomes gradual. -/
theorem solution?_of_reports
    {status : VarStatus}
    (h : status.reports ≠ []) :
    status.solution? = some .gradual := by
  cases status with
  | clashed issue => rfl
  | _ => exact absurd rfl h

end VarStatus

end SigCheck

------------------------------------------------------------
-- One Variable among Others
------------------------------------------------------------

namespace SigCheck

namespace SpecSolving

/- What the state of the loop has for one variable. -/
structure Shows
    (var : String)
    (state : SpecSolving)
    (status : VarStatus) : Prop where
  solution : state.solved.find? var = status.solution?
  failed : state.failed.contains var = status.isClashed
  reports : reportsOf var state.issues = status.reports

variable {strategy : JoinStrategy} {var : String}
variable {state : SpecSolving} {status : VarStatus}

theorem shows_start : Shows var {} .unseen :=
  ⟨rfl, rfl, rfl⟩

/- One more clash is reported for its own variable only. -/
theorem reportsOf_append_clash
    (issues : List CallIssue)
    (own : String)
    (first second : Signature)
    (site : IssueSite) :
    reportsOf var
        (issues ++ [⟨.unsatisfiable own first second, site⟩]) =
      reportsOf var issues ++
        if own = var then
          [⟨.unsatisfiable own first second, site⟩]
        else [] := by
  by_cases hOwn : own = var <;>
    simp [reportsOf, CallIssue.clashVar?, hOwn]

/- A candidate of another variable changes nothing here. -/
theorem Shows.add_other
    (h : Shows var state status)
    {other : String}
    (hOther : other ≠ var)
    (candidate : Signature × ArgSource) :
    Shows var (add strategy state (other, candidate))
      status := by
  have hInsert (sig : Signature) :
      (state.solved.insert other sig).find? var =
        status.solution? := by
    rw [Table.find?_insert, if_neg hOther]
    exact h.solution
  unfold add
  dsimp only
  split
  · exact h
  · split
    · exact ⟨hInsert _, h.failed, h.reports⟩
    · split
      · exact ⟨hInsert _, h.failed, h.reports⟩
      · refine ⟨hInsert _, ?_, ?_⟩
        · have hNot : (var == other) = false := by
            simpa using hOther.symm
          rw [List.contains_cons, hNot, Bool.false_or]
          exact h.failed
        · rw [reportsOf_append_clash, if_neg hOther,
            List.append_nil]
          exact h.reports

/- A candidate of the variable moves it on. -/
theorem Shows.add_own
    (h : Shows var state status)
    (candidate : Signature × ArgSource) :
    Shows var (add strategy state (var, candidate))
      (status.add strategy var candidate) := by
  have hInsert (sig : Signature) :
      (state.solved.insert var sig).find? var = some sig := by
    simp
  unfold add
  dsimp only
  cases status with
  | unseen =>
      rw [h.failed, h.solution]
      exact ⟨hInsert _, h.failed, h.reports⟩
  | clashed issue =>
      rw [h.failed]
      exact h
  | solved current =>
      rw [h.failed, h.solution]
      simp only [VarStatus.isClashed, VarStatus.solution?,
        VarStatus.add, Bool.false_eq_true, if_false]
      cases strategy.apply current candidate.1 with
      | some joined => exact ⟨hInsert _, h.failed, h.reports⟩
      | none =>
          refine ⟨hInsert _, ?_, ?_⟩
          · rw [List.contains_cons, beq_self_eq_true]
            rfl
          · rw [reportsOf_append_clash, if_pos rfl, h.reports]
            rfl

/- So one variable's own candidates are all that counts. -/
theorem Shows.foldl
    (h : Shows var state status)
    (candidates : List (String × Signature × ArgSource)) :
    Shows var (candidates.foldl (add strategy) state)
      (((candidates.filter (·.1 == var)).map (·.2)).foldl
        (VarStatus.add strategy var) status) := by
  induction candidates generalizing state status with
  | nil => exact h
  | cons c candidates ih =>
      rcases c with ⟨own, candidate⟩
      by_cases hOwn : own = var
      · subst hOwn
        simpa using ih (h.add_own candidate)
      · simpa [hOwn] using ih (h.add_other hOwn candidate)

end SpecSolving

namespace Candidates

/- The loop gives a variable what its own candidates give. -/
theorem reconcile_shows
    (strategy : JoinStrategy)
    (found : Candidates)
    (var : String) :
    let outcome := found.reconcile strategy
    let status := VarStatus.run strategy var (found.ofSpec var)
    outcome.1.specs.find? var = status.solution? ∧
      reportsOf var outcome.2 = status.reports := by
  have hRun :
      SpecSolving.Shows var
        (found.specs.foldl (SpecSolving.add strategy) {})
        (VarStatus.run strategy var (found.ofSpec var)) :=
    SpecSolving.shows_start.foldl found.specs
  exact ⟨hRun.solution, hRun.reports⟩

/- A type variable is solved from its own candidates, too. -/
theorem find?_types_reconcile
    (strategy : JoinStrategy)
    (found : Candidates)
    (name : String) :
    (found.reconcile strategy).1.types.find? name =
      (found.ofType name).foldl addOwn none :=
  find?_foldl_addType_filter name found.types ∅

end Candidates

end SigCheck

------------------------------------------------------------
-- Exact Candidates
------------------------------------------------------------

namespace SigCheck

/- Two candidates that the exact strategy cannot join. -/
def Signature.AtOdds (s t : Signature) : Prop :=
  s ≠ .gradual ∧ t ≠ .gradual ∧ s.equivalent t = false

instance (s t : Signature) : Decidable (s.AtOdds t) := by
  unfold Signature.AtOdds
  infer_instance

theorem JoinStrategy.exact_apply_eq_none_iff
    {s t : Signature} :
    exact.apply s t = none ↔ s.AtOdds t := by
  unfold apply Signature.AtOdds
  cases s <;> cases t <;> simp

/- Candidates that match one solution are not at odds. -/
theorem Signature.Matches.not_atOdds
    {s t u : Signature}
    (hs : s.Matches u)
    (ht : t.Matches u) : ¬ s.AtOdds t := by
  rintro ⟨hsNot, htNot, hApart⟩
  have hAlike :=
    (hs.resolve_left hsNot).trans (ht.resolve_left htNot).symm
  rw [Signature.equivalent_iff_alike.mpr hAlike] at hApart
  cases hApart

namespace VarStatus

/-
  What the exact strategy has found out about the candidates
  it has seen: they match one of them, or two are at odds.
-/
def Explains (seen : List Signature) : VarStatus → Prop
  | unseen => seen = []
  | solved sig => sig ∈ seen ∧ ∀ s ∈ seen, s.Matches sig
  | clashed _ => ∃ s ∈ seen, ∃ t ∈ seen, s.AtOdds t

/- One more candidate is explained as well. -/
theorem Explains.add
    {seen : List Signature} {status : VarStatus}
    (h : status.Explains seen)
    (var : String)
    (candidate : Signature × ArgSource) :
    (status.add .exact var candidate).Explains
      (seen ++ [candidate.1]) := by
  have hNew : candidate.1 ∈ seen ++ [candidate.1] := by simp
  cases status with
  | unseen =>
      have hNone : seen = [] := h
      subst hNone
      refine ⟨hNew, ?_⟩
      rw [List.nil_append, List.forall_mem_singleton]
      exact Or.inr (.refl _)
  | clashed issue =>
      rcases h with ⟨s, hs, t, ht, hOdds⟩
      exact
        ⟨s, List.mem_append_left _ hs, t,
          List.mem_append_left _ ht, hOdds⟩
  | solved current =>
      rcases h with ⟨hCurrent, hAll⟩
      have hOld := List.mem_append_left [candidate.1] hCurrent
      unfold VarStatus.add
      dsimp only
      cases hJoin :
          JoinStrategy.exact.apply current candidate.1 with
      | none =>
          exact
            ⟨current, hOld, candidate.1, hNew,
              JoinStrategy.exact_apply_eq_none_iff.mp hJoin⟩
      | some joined =>
          -- The join is one of the two, and both match it.
          have hKept :
              joined ∈ seen ++ [candidate.1] ∧
                current.Matches joined ∧
                  candidate.1.Matches joined := by
            rcases JoinStrategy.exact_apply_cases hJoin with
              ⟨hGradual, rfl⟩ | ⟨hGradual, rfl⟩ | ⟨hSame, rfl⟩
            · exact ⟨hNew, Or.inl hGradual, Or.inr (.refl _)⟩
            · exact ⟨hOld, Or.inr (.refl _), Or.inl hGradual⟩
            · exact
                ⟨hOld, Or.inr (.refl _), Or.inr hSame.symm⟩
          refine ⟨hKept.1, ?_⟩
          rw [List.forall_mem_append]
          exact
            ⟨fun s hs => (hAll s hs).trans hKept.2.1,
              by simpa using hKept.2.2⟩

/- A clash is reported exactly where candidates are at odds. -/
theorem Explains.reports_iff
    {seen : List Signature} {status : VarStatus}
    (h : status.Explains seen) :
    status.reports ≠ [] ↔
      ∃ s ∈ seen, ∃ t ∈ seen, s.AtOdds t := by
  cases status with
  | unseen =>
      have hNone : seen = [] := h
      simp [hNone, reports]
  | solved sig =>
      refine iff_of_false (fun hNot => hNot rfl) ?_
      rintro ⟨s, hs, t, ht, hOdds⟩
      exact (h.2 s hs).not_atOdds (h.2 t ht) hOdds
  | clashed issue => exact iff_of_true nofun h

/- Without a clash the solution is equivalent to them all. -/
theorem Explains.exists_solution
    {seen : List Signature} {status : VarStatus}
    (h : status.Explains seen)
    (hQuiet : status.reports = [])
    {s : Signature}
    (hs : s ∈ seen)
    (hNot : s ≠ .gradual) :
    ∃ sig, status.solution? = some sig ∧
      s.equivalent sig = true := by
  cases status with
  | unseen =>
      have hNone : seen = [] := h
      rw [hNone] at hs
      cases hs
  | solved sig =>
      have hAlike := (h.2 s hs).resolve_left hNot
      exact
        ⟨sig, rfl, Signature.equivalent_iff_alike.mpr hAlike⟩
  | clashed issue => cases hQuiet

/- The exact strategy explains all candidates of a variable. -/
theorem explains_run
    (var : String)
    (candidates : List (Signature × ArgSource)) :
    (run .exact var candidates).Explains
      (candidates.map (·.1)) := by
  have hFold (rest : List (Signature × ArgSource))
      (seen : List Signature) (status : VarStatus)
      (h : status.Explains seen) :
      (rest.foldl (add .exact var) status).Explains
        (seen ++ rest.map (·.1)) := by
    induction rest generalizing seen status with
    | nil => simpa using h
    | cons c rest ih =>
        have hRest := ih _ _ (h.add var c)
        simpa using hRest
  exact hFold candidates [] unseen rfl

end VarStatus

end SigCheck

------------------------------------------------------------
-- Each Variable on Its Own
------------------------------------------------------------

namespace SigCheck

namespace Candidates

/-
  Each parameter specification is reported once at most, and
  becomes gradual if it is. What a variable is solved to and
  what is reported of it depend on its own candidates only.
  The exact strategy reports a variable exactly if two of
  its candidates are at odds, in whatever order they come,
  and solves it else by one that is equivalent to each that
  is not gradual.
-/
theorem reconcile_each_variable
    (strategy : JoinStrategy)
    (found : Candidates)
    (var : String) :
    let outcome := found.reconcile strategy
    let exact := found.reconcile .exact
    let own := (found.ofSpec var).map (·.1)
    ((reportsOf var outcome.2).length ≤ 1 ∧
      (reportsOf var outcome.2 ≠ [] →
        outcome.1.specs.find? var = some .gradual)) ∧
      (∀ other : Candidates,
        let outcome' := other.reconcile strategy
        (other.ofSpec var = found.ofSpec var →
          outcome'.1.specs.find? var =
              outcome.1.specs.find? var ∧
            reportsOf var outcome'.2 =
              reportsOf var outcome.2) ∧
          (other.ofType var = found.ofType var →
            outcome'.1.types.find? var =
              outcome.1.types.find? var)) ∧
      (reportsOf var exact.2 ≠ [] ↔
        ∃ s ∈ own, ∃ t ∈ own, s.AtOdds t) ∧
      (reportsOf var exact.2 = [] →
        ∀ s ∈ own, s ≠ .gradual →
          ∃ sig, exact.1.specs.find? var = some sig ∧
            s.equivalent sig = true) := by
  intro outcome exact own
  rcases reconcile_shows strategy found var with
    ⟨hSolution, hReports⟩
  rcases reconcile_shows .exact found var with
    ⟨hExact, hExactReports⟩
  have hExplains :=
    VarStatus.explains_run var (found.ofSpec var)
  refine ⟨⟨?_, ?_⟩, ?_, ?_, ?_⟩
  · rw [hReports]
    exact VarStatus.length_reports_le _
  · intro hReported
    rw [hReports] at hReported
    rw [hSolution]
    exact VarStatus.solution?_of_reports hReported
  · intro other outcome'
    rcases reconcile_shows strategy other var with
      ⟨hSolution', hReports'⟩
    refine ⟨fun hSpec => ?_, fun hType => ?_⟩
    · rw [hSolution, hReports, hSolution', hReports', hSpec]
      exact ⟨rfl, rfl⟩
    · rw [find?_types_reconcile, find?_types_reconcile, hType]
  · rw [hExactReports]
    exact hExplains.reports_iff
  · intro hQuiet s hs hNot
    rw [hExactReports] at hQuiet
    rw [hExact]
    exact hExplains.exists_solution hQuiet hs hNot

end Candidates

end SigCheck
