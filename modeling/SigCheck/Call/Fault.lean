import SigCheck.Call.Binding
import SigCheck.Diagnostic.Cause
import SigCheck.Ty.Text

/-
  What can be wrong with a call, in terms of types, and how
  the user reads it.

  Key definitions include:
    * `CallFault`
    * `CallFault.cause`
    * `IssueSite`, `CallIssue`
-/

namespace SigCheck

/- A fault of a call. -/
inductive CallFault where
  | mismatch (callee : String) (reason : CallMismatch)
  | unsatisfiable
      (var : String)
      (first : Signature)
      (second : Signature)
  | wrongType (param : String) (expected : Ty) (found : Ty)
  deriving DecidableEq

namespace CallFault

/- The cause that is reported for a fault. -/
def cause : CallFault → Cause
  | mismatch callee reason =>
      .callSiteMismatch callee reason.message
  | unsatisfiable var first second =>
      .unsatisfiableBinding var first.text second.text
  | wrongType param expected found =>
      .invalidArgType param expected.text found.text

end CallFault

/- The part of a call that an issue points at. -/
inductive IssueSite where
  | call
  | arg (source : ArgSource)
  deriving DecidableEq, Repr

/- A fault of a call and the part that it concerns. -/
structure CallIssue where
  fault : CallFault
  site : IssueSite
  deriving DecidableEq

namespace CallIssue

/- The arguments do not fit the parameters of the callee. -/
def ofMismatch
    (callee : String)
    (m : CallMismatch) : CallIssue :=
  ⟨.mismatch callee m, .call⟩

end CallIssue

end SigCheck
