import Mathlib.Data.List.Induction
import SigCheck.Proofs.ErrorCap

/-
  What a log holds after any steps. It forgets all that came
  before it was last cleared. Of what came since then it
  keeps all notes and the first errors, in the order in which
  they came, and counts the other errors.

  Key definitions include:
    * `LogStep`, `ErrorLog.run`
    * `addedSinceClear`
    * `ErrorLog.Records`

  Correctness is proven by:
    * `ErrorLog.step_addAll`
    * `ErrorLog.run_eq_addAll`
    * `ErrorLog.records_addAll`
    * `ErrorLog.run_records`
-/

namespace SigCheck

------------------------------------------------------------
-- Steps
------------------------------------------------------------

/- What can be done with a log. -/
inductive LogStep where
  | add (d : Diagnostic)
  | addAll (ds : List Diagnostic)
  | clear
  deriving DecidableEq, Repr

namespace LogStep

/- What a step brings. -/
def added : LogStep → List Diagnostic
  | add d => [d]
  | addAll ds => ds
  | clear => []

/- The step makes a log forget. -/
def isClear : LogStep → Bool
  | clear => true
  | _ => false

end LogStep

/- What steps bring behind the last one that makes forget. -/
def addedSinceClear (steps : List LogStep) : List Diagnostic :=
  (steps.reverse.takeWhile fun s => !s.isClear).reverse.flatMap
    LogStep.added

section SinceClear

variable (steps : List LogStep)

theorem addedSinceClear_append_clear :
    addedSinceClear (steps ++ [.clear]) = [] := by
  simp [addedSinceClear, LogStep.isClear]

theorem addedSinceClear_append
    {s : LogStep}
    (hStay : s.isClear = false) :
    addedSinceClear (steps ++ [s]) =
      addedSinceClear steps ++ s.added := by
  simp [addedSinceClear, hStay]

end SinceClear

namespace ErrorLog

/- The log after a step. -/
def step (log : ErrorLog) : LogStep → ErrorLog
  | .add d => log.add d
  | .addAll ds => log.addAll ds
  | .clear => log.clear

/- The log after steps in order. -/
def run (log : ErrorLog) (steps : List LogStep) : ErrorLog :=
  steps.foldl step log

------------------------------------------------------------
-- Records
------------------------------------------------------------

/-
  A log of a bound holds what it should of diagnostics that
  came in order.
-/
structure Records
    (log : ErrorLog)
    (cap : Nat)
    (ds : List Diagnostic) : Prop where
  kept_eq : log.kept = firstErrors cap ds
  in_order : List.Sublist log.kept ds
  notes_eq : log.notes = ds.filter fun d => !d.isError
  errors_eq :
    log.kept.filter Diagnostic.isError =
      (ds.filter Diagnostic.isError).take cap
  dropped_eq :
    log.dropped =
      ((ds.filter Diagnostic.isError).drop cap).length
  errorCount_le : log.errorCount ≤ cap
  total_eq : log.total = ds.countP Diagnostic.isError
  full_of_dropped : 0 < log.dropped → log.errorCount = cap

variable (cap : Nat) (ds : List Diagnostic)

/- A log that starts empty holds what it should. -/
theorem records_addAll :
    (({ limit := cap } : ErrorLog).addAll ds).Records cap
      ds := by
  have hKept := kept_addAll_start cap ds
  have hTotal := total_addAll_start cap ds
  have hErrors := filter_error_firstErrors ds cap
  have hCount :
      (({ limit := cap } : ErrorLog).addAll ds).errorCount =
        min cap (ds.countP Diagnostic.isError) := by
    rw [errorCount, hKept, countP_firstErrors]
  rw [total, hCount] at hTotal
  constructor
  · exact hKept
  · rw [hKept]
    exact firstErrors_sublist ds cap
  · exact notes_addAll_start cap ds
  · rw [hKept, hErrors]
  · rw [List.length_drop, ← List.countP_eq_length_filter]
    omega
  · rw [hCount]
    exact Nat.min_le_left ..
  · rw [total, hCount, hTotal]
  · intro hDropped
    omega

------------------------------------------------------------
-- Runs
------------------------------------------------------------

/- Diagnostics are taken in one after the other. -/
theorem addAll_append
    (log : ErrorLog)
    (ds es : List Diagnostic) :
    log.addAll (ds ++ es) = (log.addAll ds).addAll es :=
  List.foldl_append

/- Taking in diagnostics does not change the bound. -/
theorem limit_addAll
    (log : ErrorLog)
    (ds : List Diagnostic) :
    (log.addAll ds).limit = log.limit := by
  rw [addAll_eq]

/-
  After a step that does not clear it, a log has taken in
  what the step brings behind what it had taken in before.
-/
theorem step_addAll
    {s : LogStep}
    (hStay : s.isClear = false) :
    (({ limit := cap } : ErrorLog).addAll ds).step s =
      ({ limit := cap } : ErrorLog).addAll (ds ++ s.added) := by
  rw [addAll_append]
  cases s with
  | add d => rfl
  | addAll es => rfl
  | clear => cases hStay

/- A log that is cleared is as it was at the start. -/
theorem clear_addAll :
    (({ limit := cap } : ErrorLog).addAll ds).clear =
      { limit := cap } := by
  rw [clear, limit_addAll]

/- After any steps a log has taken in what came last. -/
theorem run_eq_addAll (steps : List LogStep) :
    ({ limit := cap } : ErrorLog).run steps =
      ({ limit := cap } : ErrorLog).addAll
        (addedSinceClear steps) := by
  induction steps using List.reverseRecOn with
  | nil => rfl
  | append_singleton steps s ih =>
      have hStep :
          ({ limit := cap } : ErrorLog).run (steps ++ [s]) =
            (({ limit := cap } : ErrorLog).run steps).step
              s := by
        simp [run]
      rw [hStep, ih]
      by_cases hStay : s.isClear = false
      · rw [addedSinceClear_append steps hStay,
          step_addAll cap _ hStay]
      · have hClear : s = .clear := by
          cases s with
          | clear => rfl
          | _ => exact absurd rfl hStay
        subst hClear
        rw [addedSinceClear_append_clear]
        exact clear_addAll cap _

/-
  Under any bound and after any steps, a log holds in order
  all notes and the first errors that came since it was last
  cleared, and has counted the others. So it never holds more
  errors than the bound, it knows of all errors, and none is
  left out before the bound is reached.
-/
theorem run_records (steps : List LogStep) :
    (({ limit := cap } : ErrorLog).run steps).Records cap
      (addedSinceClear steps) := by
  rw [run_eq_addAll]
  exact records_addAll cap (addedSinceClear steps)

end ErrorLog

end SigCheck
