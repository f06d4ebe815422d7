import SigCheck.Command.Run

/-
  The program. It reads and writes files of the machine that
  it runs on, and prints how a run ends.

  Key definitions include:
    * `machine`
    * `main`
-/

namespace SigCheck

/- Why an operation of the machine failed. -/
def faultOf : IO.Error → FileFault
  | .noFileOrDirectory .. => .missing
  | .inappropriateType _ 20 _ => .notDirectory
  | .inappropriateType _ 21 _ => .isDirectory
  | e => .other (toString e)

/- What an operation of the machine gives. -/
def attempt {α : Type} (action : IO α) :
    IO (Except FileFault α) := do
  match ← action.toBaseIO with
  | .ok a => return .ok a
  | .error e => return .error (faultOf e)

/- The machine that the program runs on. -/
def machine : Host IO where
  kind path := do
    if path.isEmpty then return none
    match ← attempt ((← IO.currentDir) / path).metadata with
    | .error _ => return none
    | .ok data =>
        match data.type with
        | .file => return some .file
        | .dir => return some .directory
        | _ => return some .other
  entries path := do
    match ← attempt ((← IO.currentDir) / path).readDir with
    | .error _ => return []
    | .ok entries =>
        return entries.toList.map fun entry => entry.fileName
  read path := do
    if path.isEmpty then return .error .missing
    match ← attempt (IO.FS.readBinFile path) with
    | .error fault => return .error fault
    | .ok bytes =>
        match String.fromUTF8? bytes with
        | some text => return .ok text
        | none => return .error .notUtf8
  write path text := attempt (IO.FS.writeFile path text)
  workingDirectory := do
    match ← attempt IO.currentDir with
    | .ok path => return some path.toString
    | .error _ => return none
  now := IO.monoMsNow

end SigCheck

/- Run the program and end with its status. -/
def main (arguments : List String) : IO UInt32 := do
  let outcome ←
    SigCheck.runProgram SigCheck.machine "paramspec" arguments
  IO.print outcome.output
  IO.eprint outcome.errors
  return outcome.status.toUInt32
