import SigCheck.Command.Run
import SigCheck.Proofs.CheckFrame

/-
  The bound on the errors that are kept. It decides what is
  shown and nothing else: names, notes, the number of errors
  and how a run ends are the same under every bound, and a
  smaller bound shows the first of the errors that a larger
  one shows.

  Key definitions include:
    * `firstErrors`
    * `ErrorLog.notes`, `ErrorLog.total`
    * `Settings.withMaxErrors`
    * `Verdict`

  Correctness is proven by:
    * `ErrorLog.addAll_eq`
    * `CheckState.ofSource_withMaxErrors`
    * `verdict_withMaxErrors`
-/

namespace SigCheck

------------------------------------------------------------
-- First Errors
------------------------------------------------------------

/- Diagnostics without the errors beyond the first few. -/
def firstErrors : Nat → List Diagnostic → List Diagnostic
  | _, [] => []
  | count, d :: ds =>
      if d.isError then
        match count with
        | 0 => firstErrors 0 ds
        | rest + 1 => d :: firstErrors rest ds
      else d :: firstErrors count ds

section FirstErrors

variable {d : Diagnostic} (ds : List Diagnostic)

/- A note is no error and stays. -/
theorem firstErrors_cons_note
    (hNote : d.isError = false)
    (count : Nat) :
    firstErrors count (d :: ds) =
      d :: firstErrors count ds := by
  simp [firstErrors, hNote]

/- No error is one of the first zero ones. -/
theorem firstErrors_zero_cons_error
    (hError : d.isError = true) :
    firstErrors 0 (d :: ds) = firstErrors 0 ds := by
  simp [firstErrors, hError]

/- An error is the first one of those that stay. -/
theorem firstErrors_succ_cons_error
    (hError : d.isError = true)
    (rest : Nat) :
    firstErrors (rest + 1) (d :: ds) =
      d :: firstErrors rest ds := by
  simp [firstErrors, hError]

/- All notes are among what stays. -/
theorem filter_note_firstErrors (count : Nat) :
    (firstErrors count ds).filter (fun d => !d.isError) =
      ds.filter fun d => !d.isError := by
  induction ds generalizing count with
  | nil => rfl
  | cons d ds ih =>
      by_cases hError : d.isError = true
      · cases count with
        | zero =>
            rw [firstErrors_zero_cons_error ds hError, ih]
            simp [hError]
        | succ rest =>
            rw [firstErrors_succ_cons_error ds hError]
            simp [hError, ih]
      · rw [Bool.not_eq_true] at hError
        rw [firstErrors_cons_note ds hError]
        simp [hError, ih]

/- The errors among what stays are the first ones. -/
theorem filter_error_firstErrors (count : Nat) :
    (firstErrors count ds).filter Diagnostic.isError =
      (ds.filter Diagnostic.isError).take count := by
  induction ds generalizing count with
  | nil => simp [firstErrors]
  | cons d ds ih =>
      by_cases hError : d.isError = true
      · rw [List.filter_cons_of_pos hError]
        cases count with
        | zero =>
            rw [firstErrors_zero_cons_error ds hError, ih,
              List.take_zero, List.take_zero]
        | succ rest =>
            rw [firstErrors_succ_cons_error ds hError,
              List.filter_cons_of_pos hError, ih,
              List.take_succ_cons]
      · rw [List.filter_cons_of_neg hError]
        rw [Bool.not_eq_true] at hError
        rw [firstErrors_cons_note ds hError,
          List.filter_cons_of_neg (by simp [hError]), ih]

/- As many errors stay as there are, up to the bound. -/
theorem countP_firstErrors (count : Nat) :
    (firstErrors count ds).countP Diagnostic.isError =
      min count (ds.countP Diagnostic.isError) := by
  rw [List.countP_eq_length_filter,
    List.countP_eq_length_filter, filter_error_firstErrors,
    List.length_take]

/- What stays keeps its order. -/
theorem firstErrors_sublist (count : Nat) :
    List.Sublist (firstErrors count ds) ds := by
  induction ds generalizing count with
  | nil => exact .slnil
  | cons d ds ih =>
      by_cases hError : d.isError = true
      · cases count with
        | zero =>
            rw [firstErrors_zero_cons_error ds hError]
            exact (ih 0).cons d
        | succ rest =>
            rw [firstErrors_succ_cons_error ds hError]
            exact (ih rest).cons_cons d
      · rw [Bool.not_eq_true] at hError
        rw [firstErrors_cons_note ds hError]
        exact (ih count).cons_cons d

/- The first errors are also the first of more of them. -/
theorem firstErrors_firstErrors
    {low high : Nat}
    (h : low ≤ high) :
    firstErrors low (firstErrors high ds) =
      firstErrors low ds := by
  induction ds generalizing low high with
  | nil => rfl
  | cons d ds ih =>
      by_cases hError : d.isError = true
      · cases high with
        | zero =>
            have hLow : low = 0 := by omega
            subst hLow
            simp only [firstErrors_zero_cons_error _ hError]
            exact ih h
        | succ rest =>
            rw [firstErrors_succ_cons_error ds hError]
            cases low with
            | zero =>
                simp only [firstErrors_zero_cons_error _ hError]
                exact ih (Nat.zero_le rest)
            | succ rest' =>
                simp only [firstErrors_succ_cons_error _ hError]
                rw [ih (by omega)]
      · rw [Bool.not_eq_true] at hError
        simp only [firstErrors_cons_note _ hError]
        rw [ih h]

end FirstErrors

------------------------------------------------------------
-- Logs
------------------------------------------------------------

namespace ErrorLog

/- The notes that were kept. -/
def notes (log : ErrorLog) : List Diagnostic :=
  log.kept.filter fun d => !d.isError

/- The number of errors, those left out among them. -/
def total (log : ErrorLog) : Nat :=
  log.errorCount + log.dropped

/- The number of notes that were kept. -/
theorem length_notes (log : ErrorLog) :
    log.notes.length = log.kept.countP fun d => !d.isError := by
  rw [notes, List.countP_eq_length_filter]

/- How many more errors the log will keep. -/
def room (log : ErrorLog) : Nat :=
  log.limit - log.errorCount

section Add

variable (log : ErrorLog) {d : Diagnostic}

/- A note is kept. -/
theorem add_note (hNote : d.isError = false) :
    log.add d = { log with kept := log.kept ++ [d] } := by
  simp [add, hNote]

/- A note takes no room. -/
theorem room_add_note (hNote : d.isError = false) :
    (log.add d).room = log.room := by
  simp [log.add_note hNote, room, errorCount, hNote]

/- Whatever it is, it is kept while there is room for it. -/
theorem add_of_room
    {rest : Nat}
    (hRoom : log.room = rest + 1) :
    log.add d = { log with kept := log.kept ++ [d] } := by
  have hLess : log.errorCount < log.limit := by
    unfold room at hRoom
    omega
  simp [add, hLess]

/- An error takes room. -/
theorem room_add_error
    {rest : Nat}
    (hError : d.isError = true)
    (hRoom : log.room = rest + 1) :
    (log.add d).room = rest := by
  rw [log.add_of_room hRoom]
  simp only [room, errorCount] at hRoom ⊢
  simp only [List.countP_append, List.countP_singleton,
    hError, if_true]
  omega

/- An error without room is counted. -/
theorem add_error_of_full
    (hError : d.isError = true)
    (hRoom : log.room = 0) :
    log.add d = { log with dropped := log.dropped + 1 } := by
  have hFull : ¬ log.errorCount < log.limit := by
    unfold room at hRoom
    omega
  simp [add, hError, hFull]

end Add

/-
  What a log does with diagnostics: it keeps the first
  errors that there is room for, and counts the others.
-/
theorem addAll_eq (log : ErrorLog) (ds : List Diagnostic) :
    log.addAll ds =
      { kept := log.kept ++ firstErrors log.room ds
        limit := log.limit
        dropped :=
          log.dropped
            + (ds.countP Diagnostic.isError - log.room) } := by
  induction ds generalizing log with
  | nil => simp [addAll, firstErrors]
  | cons d ds ih =>
      change (log.add d).addAll ds = _
      rw [ih]
      by_cases hError : d.isError = true
      · rw [List.countP_cons_of_pos hError]
        cases hRoom : log.room with
        | zero =>
            have hSame : (log.add d).room = 0 := by
              rw [log.add_error_of_full hError hRoom]
              exact hRoom
            rw [hSame, log.add_error_of_full hError hRoom,
              firstErrors_zero_cons_error ds hError]
            simp only [mk.injEq, true_and]
            omega
        | succ rest =>
            rw [log.room_add_error hError hRoom,
              log.add_of_room hRoom,
              firstErrors_succ_cons_error ds hError]
            simp
      · rw [Bool.not_eq_true] at hError
        rw [log.room_add_note hError, log.add_note hError,
          firstErrors_cons_note ds hError]
        simp [hError]

variable (count : Nat) (ds : List Diagnostic)

/- A log that starts empty keeps the first errors. -/
theorem kept_addAll_start :
    (({ limit := count } : ErrorLog).addAll ds).kept =
      firstErrors count ds := by
  simp [addAll_eq, room, errorCount]

/- A log keeps all notes, whatever its bound. -/
theorem notes_addAll_start :
    (({ limit := count } : ErrorLog).addAll ds).notes =
      ds.filter fun d => !d.isError := by
  rw [notes, kept_addAll_start, filter_note_firstErrors]

/- A log knows of all errors, whatever its bound. -/
theorem total_addAll_start :
    (({ limit := count } : ErrorLog).addAll ds).total =
      ds.countP Diagnostic.isError := by
  rw [total, errorCount, kept_addAll_start,
    countP_firstErrors, addAll_eq]
  simp only [room, errorCount, List.countP_nil,
    Nat.sub_zero, Nat.zero_add]
  omega

end ErrorLog

------------------------------------------------------------
-- Texts
------------------------------------------------------------

/-
  Under another bound a text leads to the same state but for
  the log, and that one takes in the same diagnostics.
-/
theorem CheckState.ofSource_withMaxErrors
    (env : CheckEnv)
    (text : String)
    (count : Nat) :
    ofSource (env.withMaxErrors count) text =
      { ofSource env text with
        log :=
          ({ limit := count } : ErrorLog).addAll
            (ofSource env text).found.toList } := by
  have hMade : Check.Made false true (Check.source text) :=
    Check.made_source text
  rcases hMade.exists_reports env (start env) rfl with
    ⟨ds, hReports⟩
  have hOther :
      ofSource (env.withMaxErrors count) text =
        ((ofSource env text).withFound #[]
          { limit := count }).takeAll ds :=
    congrArg Prod.snd (hReports count #[] { limit := count })
  have hSame :
      ofSource env text =
        ((ofSource env text).withFound #[]
          { limit := env.maxErrors }).takeAll ds :=
    hReports.exec_eq
  have hFound : (ofSource env text).found = ds.toArray := by
    rw [hSame]
    simp [withFound, takeAll]
  rw [hOther, hFound]
  simp [withFound, takeAll, hFound]

/- What the log makes of a text under some bound. -/
theorem CheckState.log_ofSource
    (env : CheckEnv)
    (text : String)
    (count : Nat) :
    (ofSource (env.withMaxErrors count) text).log =
      ({ limit := count } : ErrorLog).addAll
        (ofSource env text).found.toList :=
  congrArg CheckState.log
    (ofSource_withMaxErrors env text count)

------------------------------------------------------------
-- Files
------------------------------------------------------------

/- Settings with another bound on the errors that are kept. -/
def Settings.withMaxErrors
    (s : Settings)
    (count : Nat) : Settings :=
  { s with errors := { s.errors with maxErrors := count } }

namespace FileReport

/- What counts of a report: its errors and its notes. -/
def counts (r : FileReport) : Nat × Nat :=
  (r.errorCount, r.noteCount)

/- The counts for a file are the same under every bound. -/
theorem counts_ofContent
    (s : Settings)
    (low high : Nat)
    (path : String)
    (content : Except FileFault String) :
    (ofContent (s.withMaxErrors low) path content).counts =
      (ofContent (s.withMaxErrors high) path
        content).counts := by
  cases content with
  | error fault => rfl
  | ok source =>
      let env : CheckEnv :=
        { config := s.checkFor path
          index := .ofText source
          file := path }
      have hCounts (count : Nat) :
          (ofContent (s.withMaxErrors count) path
              (.ok source)).counts =
            let log :=
              (CheckState.ofSource
                (env.withMaxErrors count) source).log
            (log.total, log.notes.length) := by
        simp only [ErrorLog.length_notes]
        rfl
      simp only [hCounts, CheckState.log_ofSource,
        ErrorLog.total_addAll_start,
        ErrorLog.notes_addAll_start]

end FileReport

------------------------------------------------------------
-- Runs
------------------------------------------------------------

/- What a run comes to. -/
structure Verdict where
  errorCounts : List Nat
  summary : Summary
  status : Nat

namespace Verdict

/- What reports come to. -/
def ofReports (reports : List FileReport) : Verdict where
  errorCounts := reports.map FileReport.errorCount
  summary := .ofReports reports
  status := exitStatus (.ofReports reports)

/- What counts come to. -/
def ofCounts (counts : List (Nat × Nat)) : Verdict :=
  let summary : Summary :=
    { files := counts.length
      errors := counts.foldl (fun n c => n + c.1) 0
      notes := counts.foldl (fun n c => n + c.2) 0 }
  { errorCounts := counts.map Prod.fst
    summary := summary
    status := exitStatus summary }

/- Of reports only the counts matter. -/
theorem ofReports_eq (reports : List FileReport) :
    ofReports reports =
      ofCounts (reports.map FileReport.counts) := by
  simp [ofReports, ofCounts, Summary.ofReports,
    List.foldl_map, FileReport.counts, Function.comp_def]

end Verdict

section Runs

variable {m : Type → Type} [Monad m] [LawfulMonad m]
variable (host : Host m) (s : Settings) (low high : Nat)

/- Checking a file counts the same under every bound. -/
theorem counts_checkFile (path : String) :
    FileReport.counts <$>
        checkFile host (s.withMaxErrors low) path =
      FileReport.counts <$>
        checkFile host (s.withMaxErrors high) path := by
  simp only [checkFile, map_bind, map_pure]
  apply bind_congr
  intro begun
  apply bind_congr
  intro content
  apply bind_congr
  intro ended
  exact congrArg pure
    (FileReport.counts_ofContent s low high path content)

/- Steps that agree in what counts agree for all files. -/
theorem map_mapM_congr
    {α β γ : Type}
    {f g : α → m β} {h : β → γ}
    (hStep : ∀ a, h <$> f a = h <$> g a)
    (as : List α) :
    List.map h <$> as.mapM f = List.map h <$> as.mapM g := by
  induction as with
  | nil => rfl
  | cons a as ih =>
      have hCons (k : α → m β) :
          List.map h <$> (a :: as).mapM k =
            (h <$> k a) >>= fun c =>
              (List.map h <$> as.mapM k) >>= fun cs =>
                pure (c :: cs) := by
        simp [List.mapM_cons]
      rw [hCons, hCons, hStep, ih]

/- Checking files comes to the same under every bound. -/
theorem verdict_checkFiles (files : List String) :
    Verdict.ofReports <$>
        files.mapM (checkFile host (s.withMaxErrors low)) =
      Verdict.ofReports <$>
        files.mapM (checkFile host (s.withMaxErrors high)) := by
  have hCounts :=
    map_mapM_congr
      (counts_checkFile host s low high) files
  have hVerdict :
      Verdict.ofReports =
        Verdict.ofCounts ∘ List.map FileReport.counts :=
    funext Verdict.ofReports_eq
  rw [hVerdict, comp_map, comp_map, hCounts]

omit [LawfulMonad m] in
/- The same files are selected under every bound. -/
theorem filesOf_withMaxErrors
    (count : Nat)
    (paths : List String) :
    filesOf host (s.withMaxErrors count) paths =
      filesOf host s paths := by
  have hFilesIn :
      filesIn host (s.withMaxErrors count) = filesIn host s :=
    rfl
  induction paths with
  | nil => rfl
  | cons path paths ih => simp only [filesOf, hFilesIn, ih]

/- What is reported about files tells how the run ends. -/
theorem status_checkPaths (count : Nat) (paths : List String) :
    Except.map Outcome.status <$>
        checkPaths host (s.withMaxErrors count) paths =
      collectFiles host s paths >>= fun files? =>
        match files? with
        | .error fault => pure (.error fault)
        | .ok files =>
            (fun reports =>
                .ok (Verdict.ofReports reports).status) <$>
              files.mapM
                (checkFile host (s.withMaxErrors count)) := by
  simp only [checkPaths, collectFiles,
    filesOf_withMaxErrors, map_bind]
  apply bind_congr
  intro files?
  cases files? with
  | error fault => simp [Except.map]
  | ok files =>
      simp only [map_bind, map_pure, Except.map]
      rw [map_eq_pure_bind]
      rfl

/- A run ends the same way under every bound. -/
theorem status_run (o : Options) :
    Except.map Outcome.status <$>
        o.run host (s.withMaxErrors low) =
      Except.map Outcome.status <$>
        o.run host (s.withMaxErrors high) := by
  unfold Options.run
  split
  · rfl
  · rw [status_checkPaths, status_checkPaths]
    apply bind_congr
    intro files?
    cases files? with
    | error fault => rfl
    | ok files =>
        have hVerdict :=
          verdict_checkFiles host s low high files
        let settle : Verdict → Except RunFault Nat :=
          fun v => .ok v.status
        have hStatus :=
          congrArg
            (fun run : m Verdict => settle <$> run)
            hVerdict
        simp only [← comp_map] at hStatus
        exact hStatus

end Runs

------------------------------------------------------------
-- The Same Verdict
------------------------------------------------------------

/-
  Two bounds on the errors that are kept. Checking a text
  leaves the same names, notes and number of errors, and the
  smaller bound keeps the first errors that the larger one
  keeps. For any files the errors of each one, the summary
  and the status are the same, and so is the end of a run.
-/
theorem verdict_withMaxErrors
    (m : Type → Type) [Monad m] [LawfulMonad m]
    {low high : Nat}
    (h : low ≤ high) :
    (∀ (env : CheckEnv) (text : String),
      let few :=
        CheckState.ofSource (env.withMaxErrors low) text
      let many :=
        CheckState.ofSource (env.withMaxErrors high) text
      few.globals = many.globals
        ∧ few.log.notes = many.log.notes
        ∧ few.log.total = many.log.total
        ∧ few.log.kept = firstErrors low many.log.kept) ∧
    (∀ (host : Host m) (s : Settings) (files : List String),
      Verdict.ofReports <$>
          files.mapM (checkFile host (s.withMaxErrors low)) =
        Verdict.ofReports <$>
          files.mapM
            (checkFile host (s.withMaxErrors high))) ∧
    ∀ (host : Host m) (s : Settings) (o : Options),
      Except.map Outcome.status <$>
          o.run host (s.withMaxErrors low) =
        Except.map Outcome.status <$>
          o.run host (s.withMaxErrors high) := by
  refine ⟨?_, ?_, ?_⟩
  · intro env text few many
    have hFew := CheckState.log_ofSource env text low
    have hMany := CheckState.log_ofSource env text high
    refine ⟨?_, ?_, ?_, ?_⟩
    · simp only [few, many,
        CheckState.ofSource_withMaxErrors]
    · simp only [few, many, hFew, hMany,
        ErrorLog.notes_addAll_start]
    · simp only [few, many, hFew, hMany,
        ErrorLog.total_addAll_start]
    · simp only [few, many, hFew, hMany,
        ErrorLog.kept_addAll_start,
        firstErrors_firstErrors _ h]
  · intro host s files
    exact verdict_checkFiles host s low high files
  · intro host s o
    exact status_run host s low high o

/- A function that returns twice what it should not. -/
def returnedTwice : String :=
  "def f() -> int:\n    return ''\n    return ''\n"

/-
  With no room for errors none is kept of the two that are
  found, and both are counted as they are with room for one.
-/
theorem verdict_returnedTwice :
    let env : CheckEnv := { index := .ofText returnedTwice }
    let log := fun count =>
      (CheckState.ofSource (env.withMaxErrors count)
        returnedTwice).log
    0 ≤ 1 ∧ (log 0).kept = [] ∧ (log 0).total = 2
      ∧ (log 1).kept.length = 1 ∧ (log 1).total = 2 := by
  intro env log
  have hOne :
      (log 1).kept.length = 1 ∧ (log 1).total = 2
        ∧ firstErrors 0 (log 1).kept = [] := by
    decide +kernel
  rcases (verdict_withMaxErrors Id (Nat.zero_le 1)).1 env
    returnedTwice with ⟨-, -, hTotal, hKept⟩
  exact ⟨Nat.zero_le 1, hKept.trans hOne.2.2,
    hTotal.trans hOne.2.1, hOne.1, hOne.2.1⟩

end SigCheck
