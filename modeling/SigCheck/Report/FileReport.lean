import SigCheck.Check.Statement
import SigCheck.Files.Host
import SigCheck.Report.Record
import SigCheck.Settings.Basic

/-
  What checking found in each of several files, and what
  that amounts to.

  Key definitions include:
    * `FileReport`, `FileReport.ofContent`
    * `Summary`, `Summary.ofReports`
    * `exitStatus`
-/

namespace SigCheck

------------------------------------------------------------
-- Single Files
------------------------------------------------------------

/- What was found in a file, up to a number of errors. -/
structure FileReport where
  path : String
  diagnostics : List Diagnostic
  dropped : Nat := 0
  milliseconds : Nat := 0
  deriving Repr, Inhabited

namespace FileReport

/- The number of errors found, those left out among them. -/
def errorCount (r : FileReport) : Nat :=
  r.diagnostics.countP Diagnostic.isError + r.dropped

/- The number of notes. -/
def noteCount (r : FileReport) : Nat :=
  r.diagnostics.countP fun d => !d.isError

/- The report on the text of a file. -/
def ofSource
    (s : Settings)
    (path source : String) : FileReport :=
  let env : CheckEnv :=
    { config := s.checkFor path
      index := .ofText source
      file := path
      maxErrors := s.errors.maxErrors }
  let log := (CheckState.ofSource env source).log
  { path := path
    diagnostics := log.kept
    dropped := log.dropped }

/- The report on a file that cannot be read. -/
def ofFault (path : String) (fault : FileFault) : FileReport :=
  let detail := s!"Failed to read {path}: {fault.message}"
  { path := path
    diagnostics :=
      [{ cause := .io detail
         location := .unknown
         file := path }] }

/- The report on what reading a file gave. -/
def ofContent
    (s : Settings)
    (path : String)
    (content : Except FileFault String) : FileReport :=
  match content with
  | .ok source => ofSource s path source
  | .error fault => ofFault path fault

/- The report as a record for other programs. -/
def record (r : FileReport) : JsonValue :=
  .object
    [("path", .text r.path),
      ("errors", .list (r.diagnostics.map Diagnostic.record)),
      ("dropped", .num r.dropped),
      ("duration_ms", .num r.milliseconds)]

end FileReport

------------------------------------------------------------
-- Summaries
------------------------------------------------------------

/- How many files, errors and notes there are. -/
structure Summary where
  files : Nat
  errors : Nat
  notes : Nat
  deriving DecidableEq, Repr, Inhabited

namespace Summary

/- What reports amount to. -/
def ofReports (reports : List FileReport) : Summary where
  files := reports.length
  errors := reports.foldl (fun n r => n + r.errorCount) 0
  notes := reports.foldl (fun n r => n + r.noteCount) 0

/- The summary as a record for other programs. -/
def record (s : Summary) : JsonValue :=
  .object
    [("files", .num s.files),
      ("errors", .num s.errors),
      ("notes", .num s.notes)]

end Summary

/- How the program ends when all files have been checked. -/
def exitStatus (s : Summary) : Nat :=
  if s.errors = 0 then 0 else 1

end SigCheck
