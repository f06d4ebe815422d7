import SigCheck.Settings.Basic
import SigCheck.Toml.Printer
import SigCheck.Toml.Reader

/-
  Settings as they are stored in a text. What a text does
  not set has its default; what it sets with a value of the
  wrong kind makes the whole text unfit.

  Key definitions include:
    * `Settings.ofToml?`, `Settings.ofText?`
    * `Settings.text`
-/

namespace SigCheck

------------------------------------------------------------
-- Values
------------------------------------------------------------

namespace TomlValue

/- A truth value. -/
def asFlag? : TomlValue → Option Bool
  | boolean b => some b
  | _ => none

/- A count. -/
def asCount? : TomlValue → Option Nat
  | integer n => if 0 ≤ n then some n.toNat else none
  | _ => none

/- A text. -/
def asText? : TomlValue → Option String
  | text s => some s
  | _ => none

/- A list of texts. -/
def asTexts? : TomlValue → Option (List String)
  | array items => items.mapM asText?
  | _ => none

/- A table or a list without parts. -/
def hasNoParts : TomlValue → Bool
  | table entries => entries.isEmpty
  | array items => items.isEmpty
  | _ => false

/- A word, alone or as the only key over something empty. -/
def asWord? : TomlValue → Option String
  | text s => some s
  | table [(key, v)] => if v.hasNoParts then some key else none
  | _ => none

/- A part of a record, or what stands for it by default. -/
def partOr
    {α : Type}
    (v : TomlValue)
    (place : Nat)
    (name : String)
    (default : α)
    (read : TomlValue → Option α) : Option α :=
  match v.part? place name with
  | none => some default
  | some part => read part

end TomlValue

------------------------------------------------------------
-- Reading
------------------------------------------------------------

/- The switches of checking that a value sets. -/
def CheckConfig.ofToml? (v : TomlValue) :
    Option CheckConfig := do
  guard v.isRecord
  let flag := fun (place : Nat) (name : String) =>
    v.partOr place name true TomlValue.asFlag?
  return {
    enabled := ← flag 0 "enabled"
    requireMatchingName := ← flag 1 "require_matching_name"
    dunderPositional := ← flag 2 "dunder_positional"
    join := ←
      v.partOr 3 "join_strategy" .supertype fun part =>
        part.asWord?.bind JoinStrategy.ofName?
    checkArgumentTypes := ← flag 4 "check_argument_types"
    checkReturnTypes := ← flag 5 "check_return_types" }

/- The way of reporting that a value sets. -/
def ErrorSettings.ofToml? (v : TomlValue) :
    Option ErrorSettings := do
  guard v.isRecord
  let flag := fun (place : Nat) (name : String) =>
    v.partOr place name true TomlValue.asFlag?
  return {
    maxErrors := ← v.partOr 0 "max_errors" 100 TomlValue.asCount?
    showSuggestions := ← flag 1 "show_suggestions"
    showErrorCodes := ← flag 2 "show_error_codes"
    color := ← flag 3 "color"
    format := ←
      v.partOr 4 "format" .lines fun part =>
        part.asWord?.bind ReportFormat.ofName? }

/-
  The choice of files that a value sets. A side that it
  leaves out is empty.
-/
def PathSettings.ofToml? (v : TomlValue) :
    Option PathSettings := do
  guard v.isRecord
  return {
    included := ← v.partOr 0 "include" [] TomlValue.asTexts?
    excluded := ← v.partOr 1 "exclude" [] TomlValue.asTexts? }

/- What a value sets for some files. -/
def Override.ofToml? (v : TomlValue) : Option Override := do
  guard v.isRecord
  return {
    check := ←
      v.partOr 0 "check" none fun part =>
        (CheckConfig.ofToml? part).map some }

/- What a table sets for the files of each pattern. -/
def overridesOfToml? : TomlValue → Option (Table Override)
  | .table entries => do
      let pairs ← entries.mapM fun (pattern, v) => do
        return (pattern, ← Override.ofToml? v)
      return ⟨pairs⟩
  | _ => none

namespace Settings

/- The settings that a value writes. -/
def ofToml? (v : TomlValue) : Option Settings := do
  return {
    check := ← v.partOr 0 "check" {} CheckConfig.ofToml?
    errors := ← v.partOr 1 "errors" {} ErrorSettings.ofToml?
    paths := ←
      v.partOr 2 "paths" .default PathSettings.ofToml?
    overrides := ←
      v.partOr 3 "overrides" ∅ overridesOfToml? }

/- The settings that a text writes. -/
def ofText? (text : String) : Option Settings := do
  ofToml? (← TomlValue.ofText? text)

end Settings

------------------------------------------------------------
-- Writing
------------------------------------------------------------

/- A line that sets something. -/
def settingLine (name value : String) : String :=
  name ++ " = " ++ value ++ "\n"

/- A line that sets a switch. -/
def flagLine (name : String) (value : Bool) : String :=
  settingLine name (toString value)

/- The header of a table at a path of written keys. -/
def headerLine (path : List String) : String :=
  "[" ++ String.intercalate "." path ++ "]\n"

/- The lines that set the switches of checking. -/
def CheckConfig.lines (c : CheckConfig) : String :=
  flagLine "enabled" c.enabled
    ++ flagLine "require_matching_name" c.requireMatchingName
    ++ flagLine "dunder_positional" c.dunderPositional
    ++ settingLine "join_strategy"
      (TomlText.ofString c.join.name)
    ++ flagLine "check_argument_types" c.checkArgumentTypes
    ++ flagLine "check_return_types" c.checkReturnTypes

/- The lines that set the way of reporting. -/
def ErrorSettings.lines (e : ErrorSettings) : String :=
  settingLine "max_errors" (toString e.maxErrors)
    ++ flagLine "show_suggestions" e.showSuggestions
    ++ flagLine "show_error_codes" e.showErrorCodes
    ++ flagLine "color" e.color
    ++ settingLine "format" (TomlText.ofString e.format.name)

/- The lines that set the choice of files. -/
def PathSettings.lines (p : PathSettings) : String :=
  let list := fun (patterns : List String) =>
    TomlText.ofList (patterns.map TomlText.ofString)
  settingLine "include" (list p.included)
    ++ settingLine "exclude" (list p.excluded)

/- The table that an override is. -/
def Override.table (pattern : String) (o : Override) :
    String :=
  let path := ["overrides", TomlText.ofKey pattern]
  match o.check with
  | none => headerLine path
  | some check => headerLine (path ++ ["check"]) ++ check.lines

namespace Settings

/- The tables that overrides are. -/
def overrideTables (s : Settings) : List String :=
  match s.overrides.entries with
  | [] => [headerLine ["overrides"]]
  | entries =>
      entries.map fun (pattern, o) => o.table pattern

/- The text that stores settings. -/
def text (s : Settings) : String :=
  String.intercalate "\n"
    ([headerLine ["check"] ++ s.check.lines,
      headerLine ["errors"] ++ s.errors.lines,
      headerLine ["paths"] ++ s.paths.lines]
      ++ s.overrideTables)

end Settings

end SigCheck
