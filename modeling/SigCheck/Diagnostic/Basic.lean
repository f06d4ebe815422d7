import SigCheck.Diagnostic.Cause
import SigCheck.Source.EditDistance
import SigCheck.Source.Location

/-
  Diagnostics, their one-line form, and the log that keeps a
  bounded number of errors.

  Key definitions include:
    * `Diagnostic`
    * `Diagnostic.unknownSpec`
    * `Diagnostic.render`
    * `ErrorLog`, `ErrorLog.add`
-/

namespace SigCheck

------------------------------------------------------------
-- Diagnostics
------------------------------------------------------------

/- A cause with its place, file and hints. -/
structure Diagnostic where
  cause : Cause
  location : Location
  file : String := ""
  suggestions : List String := []
  deriving DecidableEq, Repr

namespace Diagnostic

/- The diagnostic counts as a fault. -/
def isError (d : Diagnostic) : Bool :=
  d.cause.severity == .error

/- The diagnostic as one of a file. -/
def inFile (d : Diagnostic) (file : String) : Diagnostic :=
  { d with file := file }

/- The diagnostic with one more hint. -/
def suggest (d : Diagnostic) (hint : String) : Diagnostic :=
  { d with suggestions := d.suggestions ++ [hint] }

/-
  A projection of a name that is no parameter specification,
  with up to three declared names that are spelt alike.
-/
def unknownSpec
    (name : String)
    (known : List String)
    (location : Location) : Diagnostic where
  cause :=
    .invalidProjection s!"'{name}' is not a declared ParamSpec"
  location := location
  suggestions :=
    ((similarNames name known 2).take 3).map fun s =>
      s!"Did you mean '{s}'?"

/- The file in front of a position. -/
def filePart (d : Diagnostic) : String :=
  if d.file.isEmpty then "" else d.file ++ ":"

/- The diagnostic as text, with its code and hints if wanted. -/
def render
    (d : Diagnostic)
    (showCode showHints : Bool) : String :=
  let line := d.location.line
  let col := d.location.col
  let severity := d.cause.severity.text
  d.filePart
    ++ s!"{line}:{col}: {severity}: " ++ d.cause.message
    ++ (if showCode then "  [" ++ d.cause.code ++ "]"
        else "")
    ++ (if showHints then
          String.join
            (d.suggestions.map fun s => "\n  hint: " ++ s)
        else "")

end Diagnostic

------------------------------------------------------------
-- Error Log
------------------------------------------------------------

/-
  The diagnostics kept so far. Errors beyond the limit are
  only counted; notes are always kept.
-/
structure ErrorLog where
  kept : List Diagnostic := []
  limit : Nat := 100
  dropped : Nat := 0
  deriving DecidableEq, Repr, Inhabited

namespace ErrorLog

/- The number of errors that were kept. -/
def errorCount (log : ErrorLog) : Nat :=
  log.kept.countP Diagnostic.isError

/- At least one error was kept. -/
def hasErrors (log : ErrorLog) : Bool :=
  log.kept.any Diagnostic.isError

/- Take in one diagnostic. -/
def add (log : ErrorLog) (d : Diagnostic) : ErrorLog :=
  if !d.isError || log.errorCount < log.limit then
    { log with kept := log.kept ++ [d] }
  else { log with dropped := log.dropped + 1 }

/- Take in several diagnostics in order. -/
def addAll
    (log : ErrorLog)
    (ds : List Diagnostic) : ErrorLog :=
  ds.foldl add log

/- Forget everything but the limit. -/
def clear (log : ErrorLog) : ErrorLog :=
  { log with kept := [], dropped := 0 }

end ErrorLog

end SigCheck
