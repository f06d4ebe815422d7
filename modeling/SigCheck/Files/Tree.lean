import SigCheck.Files.Host
import SigCheck.Files.Path
import SigCheck.Table

/-
  A machine in memory: a tree of directories and files, and
  the directory to start from.

  Key definitions include:
    * `FileTree`
    * `FileSystem`, `FileSystem.locate`
    * `FileSystem.read`, `FileSystem.write`
    * `FileSystem.ofFiles`, `FileSystem.homeFiles`
    * `FileSystem.host`
-/

namespace SigCheck

------------------------------------------------------------
-- Trees
------------------------------------------------------------

/- A file with its bytes, or a directory. -/
inductive FileTree where
  | file (bytes : ByteArray)
  | directory (entries : List (String × FileTree))

instance : Inhabited FileTree := ⟨.directory []⟩

namespace FileTree

/- What is at the end of names that lead through a tree. -/
def lookup? : List String → FileTree → Option FileTree
  | [], tree => some tree
  | _ :: _, file _ => none
  | name :: names, directory entries =>
      match Table.findIn name entries with
      | none => none
      | some tree => lookup? names tree

/-
  The tree with something put at the end of names. Missing
  directories are made; a file does not lead on.
-/
def put : FileTree → List String → FileTree → FileTree
  | _, [], new => new
  | file bytes, _ :: _, _ => file bytes
  | directory entries, name :: names, new =>
      let inner :=
        (Table.findIn name entries).getD (directory [])
      directory
        (Table.insertIn name (put inner names new) entries)

mutual

/- The files of a tree with their paths. -/
def files (place : String) :
    FileTree → List (String × ByteArray)
  | file bytes => [(place, bytes)]
  | directory entries => filesIn place entries

/- The files of entries with their paths. -/
def filesIn (place : String) :
    List (String × FileTree) → List (String × ByteArray)
  | [] => []
  | (name, tree) :: rest =>
      files (Path.join place name) tree ++ filesIn place rest

end

/- The kind of what a tree is. -/
def kind : FileTree → FileKind
  | file _ => .file
  | directory _ => .directory

end FileTree

------------------------------------------------------------
-- File Systems
------------------------------------------------------------

/- A tree, and the names that lead to where one starts. -/
structure FileSystem where
  tree : FileTree := .directory []
  home : List String := []
  deriving Inhabited

namespace FileSystem

/- A name may have so many bytes. -/
def nameLimit : Nat := 255

/- A path has fewer bytes than this. -/
def pathLimit : Nat := 4096

/-
  Follow pieces of a path from a directory. Only a directory
  leads on, and a name in it must exist.
-/
def follow
    (tree : FileTree) :
    List String → List String → Except FileFault (List String)
  | place, [] => .ok place
  | place, piece :: pieces =>
      match tree.lookup? place with
      | some (.directory entries) =>
          if piece.isEmpty || piece == "." then
            follow tree place pieces
          else if piece == ".." then
            follow tree place.dropLast pieces
          else if nameLimit < piece.utf8ByteSize then
            .error .nameTooLong
          else if (Table.findIn piece entries).isSome then
            follow tree (place ++ [piece]) pieces
          else .error .missing
      | _ => .error .notDirectory

/- The names from the root to where a path leads. -/
def locate
    (s : FileSystem)
    (path : String) : Except FileFault (List String) :=
  let start := if path.startsWith "/" then [] else s.home
  if path.toList.contains '\x00' then .error .nulInName
  else if path.isEmpty then .error .missing
  else if pathLimit ≤ path.utf8ByteSize then
    .error .nameTooLong
  else follow s.tree start (PathStep.piecesOf path)

/- What is at a path. -/
def find?
    (s : FileSystem)
    (path : String) : Except FileFault FileTree := do
  match s.tree.lookup? (← s.locate path) with
  | some tree => return tree
  | none => throw .missing

/- The names in a directory. -/
def entries (s : FileSystem) (path : String) : List String :=
  match s.find? path with
  | .ok (.directory entries) => entries.map (·.1)
  | _ => []

/- The text of a file. -/
def read
    (s : FileSystem)
    (path : String) : Except FileFault String := do
  match ← s.find? path with
  | .directory _ => throw .isDirectory
  | .file bytes =>
      match String.fromUTF8? bytes with
      | some text => return text
      | none => throw .notUtf8

/- A file with a text in place of what is at a path. -/
def write
    (s : FileSystem)
    (path text : String) : Except FileFault FileSystem := do
  let put := fun (place : List String) =>
    { s with
      tree := s.tree.put place (.file text.toUTF8) }
  match s.locate path with
  | .ok place =>
      match s.tree.lookup? place with
      | some (.file _) => return put place
      | _ => throw .isDirectory
  | .error .missing => do
      let pieces := PathStep.piecesOf path
      let name := pieces.getLast?.getD ""
      let front := String.intercalate "/" pieces.dropLast
      let owner :=
        if 1 < pieces.length then front ++ "/" else "."
      let place ← s.locate owner
      if name.isEmpty then throw .isDirectory
      return put (place ++ [name])
  | .error fault => throw fault

/- The files below the directory to start from. -/
def homeFiles (s : FileSystem) : List (String × ByteArray) :=
  match s.tree.lookup? s.home with
  | some tree => tree.files ""
  | none => []

/- Put a file, or a directory unless there is something. -/
def layOut
    (s : FileSystem)
    (path : String)
    (content : Option ByteArray) : FileSystem :=
  let place := s.home ++ PathStep.piecesOf path
  match content with
  | some bytes =>
      { s with tree := s.tree.put place (.file bytes) }
  | none =>
      if (s.tree.lookup? place).isSome then s
      else { s with tree := s.tree.put place (.directory []) }

/-
  A file system with files and directories, given by their
  paths from the directory to start from.
-/
def ofFiles
    (home : List String)
    (files : List (String × Option ByteArray)) : FileSystem :=
  let bare : FileTree :=
    FileTree.put (.directory []) home (.directory [])
  files.foldl (fun s (path, content) => s.layOut path content)
    { tree := bare, home := home }

/- The machine that a file system is. Its time stands still. -/
def host : Host (StateM FileSystem) where
  kind path := do
    match (← get).find? path with
    | .ok tree => return some tree.kind
    | .error _ => return none
  entries path := do
    return (← get).entries path
  read path := do
    return (← get).read path
  write path text := do
    match (← get).write path text with
    | .ok s =>
        set s
        return .ok ()
    | .error fault => return .error fault
  workingDirectory := do
    return some ("/" ++ String.intercalate "/" (← get).home)
  now := return 0

end FileSystem

end SigCheck
