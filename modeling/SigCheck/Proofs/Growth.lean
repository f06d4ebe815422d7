import SigCheck.Proofs.CheckFrame

/-
  What checking finds stays found: no step takes back a
  diagnostic or a fresh name.

  Key definitions include:
    * `CheckState.Before`

  Correctness is proven by:
    * `Check.Made.before`
-/

namespace SigCheck

------------------------------------------------------------
-- Growing States
------------------------------------------------------------

/- The second state has all that was found in the first one. -/
structure CheckState.Before (s t : CheckState) : Prop where
  found : s.found.toList <+: t.found.toList
  fresh : s.fresh <+: t.fresh

namespace CheckState.Before

variable {s t u : CheckState}

/- Every state has what was found in it. -/
theorem refl (s : CheckState) : CheckState.Before s s :=
  ⟨List.prefix_rfl, List.prefix_rfl⟩

/- What is found stays found over several steps. -/
theorem trans (hst : s.Before t) (htu : t.Before u) :
    s.Before u :=
  ⟨hst.found.trans htu.found, hst.fresh.trans htu.fresh⟩

/- Symbols, scopes and classes do not count. -/
theorem of_eq
    (hFound : t.found = s.found)
    (hFresh : t.fresh = s.fresh) :
    s.Before t := by
  constructor
  · simp [hFound]
  · simp [hFresh]

end CheckState.Before

------------------------------------------------------------
-- Growing Steps
------------------------------------------------------------

namespace CheckState

/- Reports come behind what was found before. -/
theorem before_takeAll
    (s : CheckState)
    (ds : List Diagnostic) :
    s.Before (s.takeAll ds) := by
  constructor
  · simp [takeAll]
  · exact List.prefix_rfl

/- Fresh names come behind those that were given before. -/
theorem before_freshNames
    (s : CheckState)
    (vars : List String) :
    s.Before (s.freshNames vars).2 := by
  induction vars generalizing s with
  | nil => exact .refl s
  | cons var vars ih =>
      simp only [freshNames, freshName]
      apply Before.trans _ (ih _)
      exact ⟨List.prefix_rfl, List.prefix_append _ _⟩

/- A type as it is used here may take fresh names. -/
theorem before_instantiate
    (s : CheckState)
    (ty : Ty)
    (definedIn : List Scope) :
    s.Before (s.instantiate ty definedIn).2 :=
  (before_freshNames _ _).trans (before_freshNames _ _)

end CheckState

/- No step takes back what was found before. -/
theorem Check.Made.before
    {inClass binds : Bool} {α : Type} {step : Check α}
    (hMade : Made inClass binds step)
    (env : CheckEnv)
    (s : CheckState)
    (hIn : s.inClassBody = inClass) :
    s.Before (step.exec env s).2 := by
  rcases hMade.exists_reports env s hIn with ⟨ds, hReports⟩
  constructor
  · rw [hReports.exec_eq]
    simp [CheckState.takeAll, CheckState.withFound]
  · exact (hMade.frames env s hIn).fresh

end SigCheck
