import SigCheck.Command.Log
import SigCheck.Decimal.Digits
import SigCheck.Settings.Basic

/-
  What a command line asks for. Arguments are read from left
  to right; the first one at fault decides, and a later
  value of an option replaces an earlier one.

  Key definitions include:
    * `Options`
    * `UsageFault`, `UsageFault.message`
    * `Argument.ofText`
    * `Options.ofArguments`
    * `usageText`
-/

namespace SigCheck

------------------------------------------------------------
-- Options
------------------------------------------------------------

/- What a command line asks for. -/
structure Options where
  paths : List String := []
  settingsPath : Option String := none
  format : Option ReportFormat := none
  noColor : Bool := false
  maxErrors : Option Nat := none
  jobs : Nat := 0
  parallel : Bool := true
  init : Bool := false
  help : Bool := false
  verbosity : Nat := 0
  logFormat : LogFormat := .compact
  deriving DecidableEq, Repr, Inhabited

/- An option that stands alone. -/
inductive Switch where
  | help
  | noColor
  | noParallel
  | init
  deriving DecidableEq, Repr

/- An option that takes the next argument as its value. -/
inductive Setting where
  | settingsPath
  | format
  | logFormat
  | maxErrors
  | jobs
  deriving DecidableEq, Repr

/- The long name of an option with a value. -/
def Setting.flag : Setting → String
  | settingsPath => "--config"
  | format => "--format"
  | logFormat => "--log-format"
  | maxErrors => "--max-errors"
  | jobs => "--jobs"

------------------------------------------------------------
-- Faults
------------------------------------------------------------

/- What can be wrong with a command line. -/
inductive UsageFault where
  | missingValue (setting : Setting)
  | badNumber (setting : Setting)
  | unknownFormat (word : String)
  | unknownLogFormat (word : String)
  | unknownOption (flag : String)
  | noPaths
  deriving DecidableEq, Repr

/- What the user reads. -/
def UsageFault.message : UsageFault → String
  | missingValue setting =>
      setting.flag ++ " requires an argument"
  | badNumber setting => "Invalid value for " ++ setting.flag
  | unknownFormat word =>
      s!"Unknown format '{word}' "
        ++ "(expected default, json, compact or verbose)"
  | unknownLogFormat word => LogFormat.unknownMessage word
  | unknownOption flag => "Unknown option: " ++ flag
  | noPaths => "No paths specified"

------------------------------------------------------------
-- Arguments
------------------------------------------------------------

/-
  What an argument is that no option in front of it takes
  as its value.
-/
inductive Argument where
  | switch (switch : Switch)
  | setting (setting : Setting)
  | louder (letters : Nat)
  | unknown (flag : String)
  | path (path : String)
  deriving DecidableEq, Repr

/- The kind of an argument without a fixed text. -/
def Argument.ofOther (text : String) : Argument :=
  match text.toList with
  | '-' :: 'v' :: rest =>
      if rest.all (· == 'v') then .louder (rest.length + 1)
      else .unknown text
  | '-' :: _ => .unknown text
  | _ => .path text

/- The kind of an argument. -/
def Argument.ofText : String → Argument
  | "-h" => .switch .help
  | "--help" => .switch .help
  | "--no-color" => .switch .noColor
  | "--no-parallel" => .switch .noParallel
  | "--init" => .switch .init
  | "--config" => .setting .settingsPath
  | "--format" => .setting .format
  | "--log-format" => .setting .logFormat
  | "--max-errors" => .setting .maxErrors
  | "--jobs" => .setting .jobs
  | "-j" => .setting .jobs
  | text => .ofOther text

/- One above the greatest number of 64 bits. -/
def countBound : Nat := 18446744073709551616

/-
  The number of 64 bits that a text writes. A plus sign may
  stand in front of its digits.
-/
def count? (text : String) : Option Nat :=
  let digits :=
    match text.toList with
    | '+' :: cs => cs
    | cs => cs
  let n := digitsValue 10 digits
  if !digits.isEmpty && digits.all Char.isDigit && n < countBound
  then some n
  else none

namespace Options

/- Options with a switch set. -/
def set (o : Options) : Switch → Options
  | .help => { o with help := true }
  | .noColor => { o with noColor := true }
  | .noParallel => { o with parallel := false }
  | .init => { o with init := true }

/- Options with a value in place. -/
def setValue
    (o : Options)
    (setting : Setting)
    (value : String) : Except UsageFault Options :=
  match setting with
  | .settingsPath =>
      .ok { o with settingsPath := some value }
  | .format =>
      match ReportFormat.ofName? value with
      | some format => .ok { o with format := some format }
      | none => .error (.unknownFormat value)
  | .logFormat =>
      match LogFormat.ofName? value with
      | some format => .ok { o with logFormat := format }
      | none => .error (.unknownLogFormat value)
  | .maxErrors =>
      match count? value with
      | some n => .ok { o with maxErrors := some n }
      | none => .error (.badNumber setting)
  | .jobs =>
      match count? value with
      | some n => .ok { o with jobs := n }
      | none => .error (.badNumber setting)

/-
  Options that ask for more to be told. The letters of one
  argument count modulo 256, and their sum stops at 255.
-/
def louder (o : Options) (letters : Nat) : Options :=
  { o with
    verbosity := min 255 (o.verbosity + letters % 256) }

/- Take in arguments from left to right. -/
def read : Options → List String → Except UsageFault Options
  | o, [] => .ok o
  | o, text :: rest =>
      match Argument.ofText text with
      | .switch switch => read (o.set switch) rest
      | .louder letters => read (o.louder letters) rest
      | .unknown flag => .error (.unknownOption flag)
      | .path path =>
          read { o with paths := o.paths ++ [path] } rest
      | .setting setting =>
          match rest with
          | [] => .error (.missingValue setting)
          | value :: rest =>
              match o.setValue setting value with
              | .error fault => .error fault
              | .ok o => read o rest

/- There is something to do. -/
def isComplete (o : Options) : Bool :=
  !o.paths.isEmpty || o.init || o.help

/- What a command line asks for. -/
def ofArguments (arguments : List String) :
    Except UsageFault Options :=
  match read {} arguments with
  | .error fault => .error fault
  | .ok o => if o.isComplete then .ok o else .error .noPaths

end Options

------------------------------------------------------------
-- Usage
------------------------------------------------------------

/- The names of a settings file, the preferred one first. -/
def settingsNames : List String :=
  [".paramspec.toml", "paramspec.toml"]

/- The name of a settings file that the program writes. -/
def settingsName : String :=
  ".paramspec.toml"

/- How to use the program under a name. -/
def usageText (program : String) : String :=
  String.intercalate "\n"
    ["paramspec - checks ParamSpec usage in Python signatures",
      "",
      "USAGE:",
      "    " ++ program ++ " [OPTIONS] <paths...>",
      "",
      "OPTIONS:",
      "    -h, --help              Print help information",
      "    --config <file>         "
        ++ "Use this configuration instead of discovering one",
      "    --format <fmt>          "
        ++ "default, json, compact or verbose",
      "    --no-color              Disable colored output",
      "    --max-errors <n>        "
        ++ "Maximum errors reported per file",
      "    --jobs <n>              "
        ++ "Worker threads (0 = one per core)",
      "    --no-parallel           "
        ++ "Check files one at a time",
      "    --init                  "
        ++ "Write a default " ++ settingsName ++ " and exit",
      "    -v, -vv                 "
        ++ "Log progress (info, debug)",
      "    --log-format <fmt>      pretty, compact or json",
      "",
      "EXAMPLES:",
      "    " ++ program ++ " src/",
      "    " ++ program ++ " --format json decorators.py"]

end SigCheck
