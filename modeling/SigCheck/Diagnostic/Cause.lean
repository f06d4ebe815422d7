/-
  The causes of diagnostics with their codes, severities and
  messages.

  Key definitions include:
    * `Severity`
    * `Cause`
    * `Cause.code`, `Cause.severity`, `Cause.message`
-/

namespace SigCheck

/- A fault, or an answer to a question in the source. -/
inductive Severity where
  | error
  | note
  deriving DecidableEq, Repr

/- The word for a severity. -/
def Severity.text : Severity → String
  | error => "error"
  | note => "note"

/- What a diagnostic is about. -/
inductive Cause where
  | invalidDeclaration (reason : String)
  | invalidUseSite (var : String) (context : String)
  | invalidProjection (reason : String)
  | unsatisfiableBinding
      (var : String) (first : String) (second : String)
  | callSiteMismatch (callee : String) (reason : String)
  | invalidArgType
      (param : String) (expected : String) (found : String)
  | invalidReturnType (expected : String) (found : String)
  | invalidTypeArguments
      (target : String) (reason : String)
  | revealedType (ty : String)
  | syntaxError (detail : String)
  | io (detail : String)
  deriving DecidableEq, Repr

namespace Cause

/- The stable short code shown beside the message. -/
def code : Cause → String
  | invalidDeclaration .. => "paramspec-declaration"
  | invalidUseSite .. => "paramspec-use-site"
  | invalidProjection .. => "paramspec-projection"
  | unsatisfiableBinding .. => "paramspec-binding"
  | callSiteMismatch .. => "call-arg"
  | invalidArgType .. => "arg-type"
  | invalidReturnType .. => "return-value"
  | invalidTypeArguments .. => "type-arg"
  | revealedType .. => "reveal"
  | syntaxError .. => "syntax"
  | io .. => "io"

/- Only a revealed type is no fault. -/
def severity : Cause → Severity
  | revealedType .. => .note
  | _ => .error

/- What the user reads. -/
def message : Cause → String
  | invalidDeclaration reason =>
      s!"Invalid ParamSpec declaration: {reason}"
  | invalidUseSite var context =>
      s!"ParamSpec '{var}' is not allowed {context}"
  | invalidProjection reason =>
      s!"Invalid use of ParamSpec components: {reason}"
  | unsatisfiableBinding var first second =>
      s!"Cannot bind ParamSpec '{var}': {first} and {second}"
        ++ " share no common calling convention"
  | callSiteMismatch callee reason =>
      s!"Invalid call to {callee}: {reason}"
  | invalidArgType param expected found =>
      s!"Invalid type for parameter '{param}': "
        ++ s!"expected {expected}, found {found}"
  | invalidReturnType expected found =>
      s!"Invalid return type: expected {expected}, "
        ++ s!"found {found}"
  | invalidTypeArguments target reason =>
      s!"Invalid type arguments for {target}: {reason}"
  | revealedType ty => s!"Revealed type is '{ty}'"
  | syntaxError detail => s!"Syntax error: {detail}"
  | io detail => detail

end Cause

end SigCheck
