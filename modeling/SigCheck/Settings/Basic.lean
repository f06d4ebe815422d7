import SigCheck.Check.State
import SigCheck.Glob.Pattern
import SigCheck.Report.JsonValue

/-
  What a user can set: how to check, how to report, which
  files to look at, and what differs for some of them.

  Key definitions include:
    * `ReportFormat`
    * `Settings`
    * `Settings.selects`
    * `Settings.checkFor`
-/

namespace SigCheck

------------------------------------------------------------
-- Formats
------------------------------------------------------------

/- The form of a report. -/
inductive ReportFormat where
  | lines
  | json
  | compact
  | verbose
  deriving DecidableEq, Repr, Inhabited

namespace ReportFormat

/- The word for a form. -/
def name : ReportFormat → String
  | lines => "default"
  | json => "json"
  | compact => "compact"
  | verbose => "verbose"

/- The form that a word names. -/
def ofName? : String → Option ReportFormat
  | "default" => some lines
  | "json" => some json
  | "compact" => some compact
  | "verbose" => some verbose
  | _ => none

end ReportFormat

namespace JoinStrategy

/- The word for a way of joining candidates. -/
def name : JoinStrategy → String
  | supertype => "supertype"
  | exact => "exact"

/- The way of joining candidates that a word names. -/
def ofName? : String → Option JoinStrategy
  | "supertype" => some supertype
  | "exact" => some exact
  | _ => none

end JoinStrategy

------------------------------------------------------------
-- Settings
------------------------------------------------------------

/- How diagnostics are reported. -/
structure ErrorSettings where
  maxErrors : Nat := 100
  showSuggestions : Bool := true
  showErrorCodes : Bool := true
  color : Bool := true
  format : ReportFormat := .lines
  deriving DecidableEq, Repr, Inhabited

/- Which files of a directory are looked at. -/
structure PathSettings where
  included : List String
  excluded : List String
  deriving DecidableEq, Repr

/- The files that are looked at by default. -/
def PathSettings.default : PathSettings where
  included := ["**/*.py"]
  excluded :=
    ["**/__pycache__/**", "**/venv/**", "**/.venv/**"]

instance : Inhabited PathSettings := ⟨.default⟩

/- What differs for the files that a pattern matches. -/
structure Override where
  check : Option CheckConfig := none
  deriving Repr, Inhabited

/- All that a user can set. -/
structure Settings where
  check : CheckConfig := {}
  errors : ErrorSettings := {}
  paths : PathSettings := .default
  overrides : Table Override := ∅
  deriving Inhabited

------------------------------------------------------------
-- Patterns
------------------------------------------------------------

/- A text without the steps to itself in front. -/
def dropSelfSteps : List Char → List Char
  | '.' :: '/' :: cs => dropSelfSteps cs
  | cs => cs

/-
  The form of a path that patterns look at: slashes only and
  no step to the directory itself in front.
-/
def patternView (path : String) : List Char :=
  dropSelfSteps
    (path.toList.map fun c => if c == '\\' then '/' else c)

/- A list of characters occurs inside another one. -/
def occursIn (part : List Char) : List Char → Bool
  | [] => part.isEmpty
  | c :: cs =>
      part.isPrefixOf (c :: cs) || occursIn part cs

/- A pattern, or a part of a path, fits a path. -/
def fitsPath (pattern path : String) : Bool :=
  let view := patternView path
  match Glob.ofText pattern with
  | .ok glob => glob.isMatch (String.ofList view)
  | .error _ => occursIn pattern.toList view

namespace Settings

/- A file found in a directory is looked at. -/
def selects (s : Settings) (path : String) : Bool :=
  let any := fun (patterns : List String) =>
    patterns.any fun pattern => fitsPath pattern path
  !any s.paths.excluded
    && (s.paths.included.isEmpty || any s.paths.included)

/- The patterns of overrides in the order of their texts. -/
def sortedOverrides (s : Settings) :
    List (String × Override) :=
  s.overrides.entries.mergeSort fun a b => a.1 ≤ b.1

/-
  How a file is checked: as the last pattern that fits it
  says, if one of them says anything.
-/
def checkFor (s : Settings) (path : String) : CheckConfig :=
  s.sortedOverrides.foldl
    (fun check (pattern, override) =>
      if fitsPath pattern path then
        override.check.getD check
      else check)
    s.check

end Settings

end SigCheck
