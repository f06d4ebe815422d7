/-
  What the program needs from the machine that it runs on:
  directories, files, and a clock.

  Key definitions include:
    * `FileFault`, `FileFault.message`
    * `Host`
-/

namespace SigCheck

/- Why a file cannot be read or written. -/
inductive FileFault where
  | missing
  | notDirectory
  | isDirectory
  | nameTooLong
  | nulInName
  | notUtf8
  | other (message : String)
  deriving DecidableEq, Repr

/- What the user reads. -/
def FileFault.message : FileFault → String
  | missing => "No such file or directory (os error 2)"
  | notDirectory => "Not a directory (os error 20)"
  | isDirectory => "Is a directory (os error 21)"
  | nameTooLong => "File name too long (os error 36)"
  | nulInName => "file name contained an unexpected NUL byte"
  | notUtf8 => "stream did not contain valid UTF-8"
  | other message => message

/- What is found at a path. -/
inductive FileKind where
  | file
  | directory
  | other
  deriving DecidableEq, Repr

/-
  A machine: what is at a path, the names in a directory,
  the text of a file, the directory to start from, and the
  time in milliseconds.
-/
structure Host (m : Type → Type) where
  kind : String → m (Option FileKind)
  entries : String → m (List String)
  read : String → m (Except FileFault String)
  write : String → String → m (Except FileFault Unit)
  workingDirectory : m (Option String)
  now : m Nat

namespace Host

variable {m : Type → Type} [Monad m]

/- Something is at a path. -/
def has (host : Host m) (path : String) : m Bool := do
  return (← host.kind path).isSome

/- A file is at a path. -/
def hasFile (host : Host m) (path : String) : m Bool := do
  return (← host.kind path) == some .file

/- A directory is at a path. -/
def hasDirectory
    (host : Host m) (path : String) : m Bool := do
  return (← host.kind path) == some .directory

end Host

end SigCheck
