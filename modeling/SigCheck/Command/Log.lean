/-
  How much the program tells about its own work, and in
  which form.

  Key definitions include:
    * `LogLevel`, `LogFormat`
    * `LogConfig.ofVerbosity`
-/

namespace SigCheck

/- The least weight of what is told. -/
inductive LogLevel where
  | warn
  | info
  | debug
  | trace
  deriving DecidableEq, Repr, Inhabited

/- The word for a weight. -/
def LogLevel.name : LogLevel → String
  | warn => "WARN"
  | info => "INFO"
  | debug => "DEBUG"
  | trace => "TRACE"

/- The form in which it is told. -/
inductive LogFormat where
  | pretty
  | compact
  | json
  deriving DecidableEq, Repr, Inhabited

namespace LogFormat

/- The form that a word names. -/
def ofName? : String → Option LogFormat
  | "pretty" => some pretty
  | "compact" => some compact
  | "json" => some json
  | _ => none

/- What the user reads about a word that names no form. -/
def unknownMessage (word : String) : String :=
  s!"Unknown log format '{word}' "
    ++ "(expected pretty, compact or json)"

end LogFormat

/- What is told: its weight, its form and further choices. -/
structure LogConfig where
  level : LogLevel := .warn
  format : LogFormat := .compact
  spanEvents : Bool := false
  filter : Option String := none
  deriving DecidableEq, Repr, Inhabited

namespace LogConfig

/- More is told the more often the user asks for it. -/
def ofVerbosity (verbosity : Nat) : LogConfig where
  level :=
    match verbosity with
    | 0 => .warn
    | 1 => .info
    | 2 => .debug
    | _ => .trace
  spanEvents := 3 ≤ verbosity

end LogConfig

end SigCheck
