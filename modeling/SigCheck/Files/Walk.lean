import SigCheck.Files.Host
import SigCheck.Files.Path
import SigCheck.Glob.Pattern

/-
  Finding what a pattern names, one component of the pattern
  at a time. A component without wild parts is looked up; any
  other one is held against the names in a directory.

  Key definitions include:
    * `Host.below`, `Host.atEntry`
    * `Host.glob`
-/

namespace SigCheck

namespace Host

variable {m : Type → Type} [Monad m]

/-
  The path of an entry. What is in the directory to start
  from goes by its name alone.
-/
def entryPath (directory entry : String) : String :=
  if directory == "." then entry
  else Path.join directory entry

/- A name stands for a directory near its own. -/
def isSpecial (name : String) : Bool :=
  name == "." || name == ".."

/- Where a name leads from a path, if anything is there. -/
def step
    (host : Host m)
    (path name : String) : m (Option String) := do
  let next := entryPath path name
  let found ←
    if isSpecial name then host.hasDirectory path
    else host.has next
  return if found then some next else none

/- The special names that a component with a point names. -/
def specialNames (g : Glob) : List String :=
  if g.parts.head? == some (.char '.') then
    [".", ".."].filter g.isMatch
  else []

mutual

/- What is below a path and fits components of a pattern. -/
def below
    (host : Host m) :
    Nat → List Glob → String → m (List String)
  | 0, _, _ => return []
  | _ + 1, [], path => return [path]
  | fuel + 1, g :: gs, path =>
      match g.plain? with
      | some name => do
          match ← host.step path name with
          | some next => below host fuel gs next
          | none => return []
      | none => do
          if ← host.hasDirectory path then
            let names ← host.entries path
            let inside ← names.mapM fun name =>
              atEntry host fuel (g :: gs) name
                (entryPath path name)
            let special ← (specialNames g).mapM fun name =>
              below host fuel gs (Path.join path name)
            return inside.flatten ++ special.flatten
          else return []

/-
  An entry of a directory, or what is below it, that fits
  components of a pattern. Components that stand for any
  number of directories lead into each directory and are
  skipped as well.
-/
def atEntry
    (host : Host m) :
    Nat → List Glob → String → String → m (List String)
  | 0, _, _, _ => return []
  | fuel + 1, gs, name, path => do
      let deep := gs.takeWhile (·.isRecursive)
      let rest := gs.drop deep.length
      let found ←
        match deep.getLast? with
        | none => pure []
        | some g => do
            if ← host.hasDirectory path then
              let inside ← below host fuel (g :: rest) path
              pure
                (if rest.isEmpty then path :: inside
                  else inside)
            else pure []
      match rest with
      | [] => return found
      | g :: gs =>
          if g.isMatch name then
            return found ++ (← below host fuel gs path)
          else return found

end

/-
  No path is longer than this many characters, so that no
  directory is nested deeper.
-/
def depthBound : Nat := 4096

/- The components of a pattern, and where to start. -/
def components (pattern : String) : String × List String :=
  match PathStep.piecesOf pattern with
  | "" :: pieces => ("/", pieces)
  | pieces => (".", pieces)

/- What a pattern names. -/
def glob
    (host : Host m)
    (pattern : String) :
    m (Except GlobFault (List String)) := do
  let (start, pieces) := components pattern
  let parts := do
    let _ ← Glob.ofText pattern
    pieces.mapM Glob.ofText
  match parts with
  | .error fault => return .error fault
  | .ok gs =>
      let fuel := 2 * depthBound + gs.length + 1
      return .ok (← host.below fuel gs start)

end Host

end SigCheck
