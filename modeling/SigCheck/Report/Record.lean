import SigCheck.Diagnostic.Basic
import SigCheck.Report.JsonValue

/-
  Diagnostics as records for other programs.

  Key definitions include:
    * `Cause.kind`, `Cause.fields`
    * `Location.record`
    * `Diagnostic.record`
-/

namespace SigCheck

------------------------------------------------------------
-- Causes
------------------------------------------------------------

namespace Cause

/- The word for what a diagnostic is about. -/
def kind : Cause → String
  | invalidDeclaration .. => "invalid_declaration"
  | invalidUseSite .. => "invalid_use_site"
  | invalidProjection .. => "invalid_projection"
  | unsatisfiableBinding .. => "unsatisfiable_binding"
  | callSiteMismatch .. => "call_site_mismatch"
  | invalidArgType .. => "invalid_arg_type"
  | invalidReturnType .. => "invalid_return_type"
  | invalidTypeArguments .. => "invalid_type_arguments"
  | revealedType .. => "revealed_type"
  | syntaxError .. => "syntax_error"
  | io .. => "io"

/- The details of a cause with their names. -/
def fields : Cause → List (String × String)
  | invalidDeclaration reason => [("reason", reason)]
  | invalidUseSite var context =>
      [("var", var), ("context", context)]
  | invalidProjection reason => [("reason", reason)]
  | unsatisfiableBinding var first second =>
      [("var", var), ("first", first), ("second", second)]
  | callSiteMismatch callee reason =>
      [("callee", callee), ("reason", reason)]
  | invalidArgType param expected found =>
      [("param", param), ("expected", expected),
        ("found", found)]
  | invalidReturnType expected found =>
      [("expected", expected), ("found", found)]
  | invalidTypeArguments target reason =>
      [("target", target), ("reason", reason)]
  | revealedType ty => [("ty", ty)]
  | syntaxError detail => [("detail", detail)]
  | io detail => [("detail", detail)]

/- The kind of a cause with its details. -/
def record (c : Cause) : List (String × JsonValue) :=
  ("kind", .text c.kind)
    :: c.fields.map fun (name, value) => (name, .text value)

end Cause

------------------------------------------------------------
-- Diagnostics
------------------------------------------------------------

/- A location as a record. -/
def Location.record (l : Location) : JsonValue :=
  .object
    [("line", .num l.line), ("col", .num l.col),
      ("end_line", .num l.endLine),
      ("end_col", .num l.endCol)]

/- A diagnostic as a record. -/
def Diagnostic.record (d : Diagnostic) : JsonValue :=
  .object
    (d.cause.record
      ++ [("severity", .text d.cause.severity.text),
        ("code", .text d.cause.code),
        ("message", .text d.cause.message),
        ("location", d.location.record),
        ("file", .text d.file),
        ("suggestions",
          .list (d.suggestions.map JsonValue.text))])

end SigCheck
