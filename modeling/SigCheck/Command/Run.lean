import SigCheck.Command.Options
import SigCheck.Files.Walk
import SigCheck.Report.Rendering
import SigCheck.Settings.Stored

/-
  Carrying out what a command line asks for on a machine.

  Key definitions include:
    * `SettingsFault`, `RunFault`
    * `discoverSettings`, `Options.settings`
    * `collectFiles`
    * `Options.run`
    * `Outcome`, `runProgram`
-/

namespace SigCheck

variable {m : Type → Type} [Monad m]

------------------------------------------------------------
-- Settings Files
------------------------------------------------------------

/- Why there are no settings to go by. -/
inductive SettingsFault where
  | unreadable (path : String) (fault : FileFault)
  | unfit
  deriving DecidableEq, Repr

/- What the user reads. -/
def SettingsFault.message : SettingsFault → String
  | unreadable path fault =>
      s!"Failed to read config {path}: {fault.message}"
  | unfit => "Failed to parse config"

/- The settings in a file. -/
def loadSettings
    (host : Host m)
    (path : String) : m (Except SettingsFault Settings) := do
  match ← host.read path with
  | .error fault => return .error (.unreadable path fault)
  | .ok text =>
      match Settings.ofText? text with
      | some s => return .ok s
      | none => return .error .unfit

/- The first settings in a directory that can be used. -/
def settingsIn
    (host : Host m)
    (directory : String) :
    List String → m (Option Settings)
  | [] => return none
  | name :: names => do
      match ← loadSettings host (Path.join directory name) with
      | .ok s => return some s
      | .error _ => settingsIn host directory names

/-
  The settings of the nearest directory that has some, from
  a directory upwards. Each step makes the path shorter.
-/
def settingsAbove
    (host : Host m) : Nat → String → m (Option Settings)
  | 0, _ => return none
  | fuel + 1, directory => do
      match ← settingsIn host directory settingsNames with
      | some s => return some s
      | none =>
          match Path.parent? directory with
          | some parent => settingsAbove host fuel parent
          | none => return none

/- The settings that hold for a directory. -/
def discoverSettings
    (host : Host m) (directory : String) : m Settings := do
  let fuel := (PathStep.ofText directory).length + 1
  return (← settingsAbove host fuel directory).getD {}

namespace Options

/- The directory of the first path that is asked for. -/
def startDirectory?
    (o : Options) (host : Host m) : m (Option String) := do
  match o.paths with
  | [] => return none
  | path :: _ =>
      let directory ←
        if ← host.hasDirectory path then pure path
        else pure ((Path.parent? path).getD "")
      return if directory.isEmpty then none else some directory

/- The settings before options change them. -/
def storedSettings
    (o : Options)
    (host : Host m) :
    m (Except SettingsFault Settings) := do
  match o.settingsPath with
  | some path => loadSettings host path
  | none =>
      let start ←
        match ← o.startDirectory? host with
        | some directory => pure (some directory)
        | none => host.workingDirectory
      match start with
      | some directory =>
          return .ok (← discoverSettings host directory)
      | none => return .ok {}

/- Settings as options change them. -/
def adjust (o : Options) (s : Settings) : Settings :=
  { s with
    errors :=
      { s.errors with
        format := o.format.getD s.errors.format
        maxErrors := o.maxErrors.getD s.errors.maxErrors
        color := s.errors.color && !o.noColor } }

/- The settings to go by. -/
def settings
    (o : Options)
    (host : Host m) :
    m (Except SettingsFault Settings) := do
  return (← o.storedSettings host).map o.adjust

end Options

------------------------------------------------------------
-- Files
------------------------------------------------------------

/- Why a run ends early. -/
inductive RunFault where
  | pathNotFound (path : String)
  | badPattern (fault : GlobFault)
  | settingsExist (path : String)
  | unwritable (fault : FileFault)
  deriving DecidableEq, Repr

/- What the user reads. -/
def RunFault.message : RunFault → String
  | pathNotFound path => "Path not found: " ++ path
  | badPattern fault =>
      "Glob pattern error: " ++ fault.message
  | settingsExist path => path ++ " already exists"
  | unwritable fault =>
      "Failed to write config: " ++ fault.message

/-
  The files of a directory that settings select. They look
  at the path from the directory, where there is one.
-/
def filesIn
    (host : Host m)
    (s : Settings)
    (directory : String) :
    m (Except RunFault (List String)) := do
  match ← host.glob (directory ++ "/**/*.py") with
  | .error fault => return .error (.badPattern fault)
  | .ok paths =>
      let files ← paths.filterM host.hasFile
      return .ok
        (files.filter fun file =>
          s.selects ((Path.below? directory file).getD file))

/- The files that paths stand for, in the paths' order. -/
def filesOf
    (host : Host m)
    (s : Settings) :
    List String → m (Except RunFault (List String))
  | [] => return .ok []
  | path :: paths => do
      let first ←
        match ← host.kind path with
        | some .file => pure (.ok [path])
        | some .directory => filesIn host s path
        | _ => pure (.error (.pathNotFound path))
      match first with
      | .error fault => return .error fault
      | .ok files =>
          return (← filesOf host s paths).map (files ++ ·)

/- The files to check, in their order and each once. -/
def collectFiles
    (host : Host m)
    (s : Settings)
    (paths : List String) :
    m (Except RunFault (List String)) := do
  return (← filesOf host s paths).map Path.sorted

/- The report on a file, with the time that it took. -/
def checkFile
    (host : Host m)
    (s : Settings)
    (path : String) : m FileReport := do
  let start ← host.now
  let report := FileReport.ofContent s path (← host.read path)
  let stop ← host.now
  return { report with milliseconds := stop - start }

------------------------------------------------------------
-- Runs
------------------------------------------------------------

/- How a run ends: its status and what it prints. -/
structure Outcome where
  status : Nat
  output : String := ""
  errors : String := ""
  deriving DecidableEq, Repr, Inhabited

/- Write the default settings into a directory. -/
def writeSettings
    (host : Host m)
    (directory : String) :
    m (Except RunFault Outcome) := do
  let path := Path.join directory settingsName
  if ← host.has path then return .error (.settingsExist path)
  match ← host.write path ({} : Settings).text with
  | .error fault => return .error (.unwritable fault)
  | .ok () =>
      return .ok { status := 0, output := s!"Wrote {path}\n" }

/- Check files and report on them. -/
def checkPaths
    (host : Host m)
    (s : Settings)
    (paths : List String) :
    m (Except RunFault Outcome) := do
  match ← collectFiles host s paths with
  | .error fault => return .error fault
  | .ok files =>
      let reports ← files.mapM (checkFile host s)
      return .ok
        { status := exitStatus (.ofReports reports)
          output := s.errors.reportText reports }

/- Do what options ask for, going by settings. -/
def Options.run
    (o : Options)
    (host : Host m)
    (s : Settings) : m (Except RunFault Outcome) :=
  if o.init then
    writeSettings host (o.paths.head?.getD ".")
  else checkPaths host s o.paths

/- The end of a run that cannot go on. -/
def Outcome.refusal (message : String) : Outcome where
  status := 2
  errors := message ++ "\n"

/- Run the program under a name with arguments. -/
def runProgram
    (host : Host m)
    (program : String)
    (arguments : List String) : m Outcome := do
  match Options.ofArguments arguments with
  | .error fault =>
      return .refusal
        (fault.message ++ "\n\n" ++ usageText program)
  | .ok o =>
      if o.help then
        return {
          status := 0
          output := usageText program ++ "\n" }
      match ← o.settings host with
      | .error fault => return .refusal fault.message
      | .ok s =>
          match ← o.run host s with
          | .error fault => return .refusal fault.message
          | .ok outcome => return outcome

end SigCheck
