import SigCheck.Report.FileReport

/-
  Reports as the user reads them, in one of four forms.

  Key definitions include:
    * `ErrorSettings.paint`
    * `ErrorSettings.fileText`
    * `ErrorSettings.summaryLine`
    * `ErrorSettings.reportText`
-/

namespace SigCheck

------------------------------------------------------------
-- Lines
------------------------------------------------------------

/- The ending of a noun for so many things. -/
def plural (n : Nat) : String :=
  if n = 1 then "" else "s"

/- A diagnostic as a line that other programs can read. -/
def Diagnostic.compactLine (d : Diagnostic) : String :=
  let line := d.location.line
  let col := d.location.col
  s!"{d.file}:{line}:{col}: "
    ++ d.cause.code ++ ": " ++ d.cause.message

/- The colour of a terminal for a severity. -/
def Severity.colorCode : Severity → String
  | error => "31"
  | note => "36"

namespace ErrorSettings

/- A text in a colour, if colours are wanted. -/
def paint (e : ErrorSettings) (code text : String) : String :=
  if e.color then "\x1b[" ++ code ++ "m" ++ text ++ "\x1b[0m"
  else text

/- The lines for a diagnostic. -/
def diagnosticText
    (e : ErrorSettings)
    (d : Diagnostic) : String :=
  let text :=
    if e.format = .compact then d.compactLine
    else d.render e.showErrorCodes e.showSuggestions
  e.paint d.cause.severity.colorCode text ++ "\n"

/- The line about errors that were left out. -/
def droppedText (r : FileReport) : String :=
  if r.dropped = 0 then ""
  else
    let ending := plural r.dropped
    s!"{r.path}: {r.dropped} more error{ending} not shown\n"

/- The lines for a file. -/
def fileText (e : ErrorSettings) (r : FileReport) : String :=
  let heading :=
    if e.format = .verbose then
      s!"checked {r.path} in {r.milliseconds}ms\n"
    else ""
  heading
    ++ String.join (r.diagnostics.map e.diagnosticText)
    ++ droppedText r

/- The line that sums up a report. -/
def summaryLine (e : ErrorSettings) (s : Summary) : String :=
  let files := plural s.files
  if s.errors = 0 then
    e.paint "32"
      s!"✓ Checked {s.files} file{files}, no errors found"
  else
    let errors := plural s.errors
    e.paint "31"
      (s!"Found {s.errors} error{errors} "
        ++ s!"in {s.files} file{files}")

/- The record of a report for other programs. -/
def reportRecord (reports : List FileReport) : JsonValue :=
  .object
    [("files", .list (reports.map FileReport.record)),
      ("summary", (Summary.ofReports reports).record)]

/- A report on several files. -/
def reportText
    (e : ErrorSettings)
    (reports : List FileReport) : String :=
  let files := String.join (reports.map e.fileText)
  match e.format with
  | .json => (reportRecord reports).pretty ++ "\n"
  | .compact => files
  | _ => files ++ e.summaryLine (.ofReports reports) ++ "\n"

end ErrorSettings

end SigCheck
