/-
  Paths as texts, and the steps that they consist of.
  Repeated slashes, a slash at the end and steps to the
  directory itself do not count, but for such a step in
  front.

  Key definitions include:
    * `PathStep`, `PathStep.ofText`, `PathStep.text`
    * `Path.le`
    * `Path.join`, `Path.parent?`, `Path.below?`
-/

namespace SigCheck

------------------------------------------------------------
-- Steps
------------------------------------------------------------

/- A step of a path. -/
inductive PathStep where
  | root
  | self
  | parent
  | name (text : String)
  deriving DecidableEq, Repr

namespace PathStep

/- The pieces of a text between slashes. -/
def piecesOf (path : String) : List String :=
  let cut := fun (c : Char) (pieces : List (List Char)) =>
    match pieces with
    | [] => [[c]]
    | piece :: rest =>
        if c == '/' then [] :: piece :: rest
        else (c :: piece) :: rest
  (path.toList.foldr cut [[]]).map String.ofList

/- The steps of pieces that do not come first. -/
def ofPieces (pieces : List String) : List PathStep :=
  pieces.filterMap fun piece =>
    if piece.isEmpty || piece == "." then none
    else if piece == ".." then some parent
    else some (name piece)

/- The steps of a path. -/
def ofText (path : String) : List PathStep :=
  match piecesOf path with
  | "" :: [] => []
  | "" :: pieces => root :: ofPieces pieces
  | "." :: pieces => self :: ofPieces pieces
  | pieces => ofPieces pieces

/- A step that is not the root as it is written. -/
def word : PathStep → String
  | root => ""
  | self => "."
  | parent => ".."
  | name text => text

/- The path that steps make up. -/
def text : List PathStep → String
  | [root] => "/"
  | steps => String.intercalate "/" (steps.map word)

/- The place of the kinds of steps in their order. -/
def rank : PathStep → Nat
  | root => 0
  | self => 1
  | parent => 2
  | name _ => 3

/- A step comes before another one. -/
def precedes (a b : PathStep) : Bool :=
  a.rank < b.rank || (a.rank == b.rank && a.word < b.word)

/- Steps come before others or are the same. -/
def le : List PathStep → List PathStep → Bool
  | [], _ => true
  | _ :: _, [] => false
  | a :: as, b :: bs =>
      a.precedes b || (a == b && le as bs)

end PathStep

------------------------------------------------------------
-- Paths
------------------------------------------------------------

namespace Path

/- A path comes before another one or has the same steps. -/
def le (a b : String) : Bool :=
  PathStep.le (PathStep.ofText a) (PathStep.ofText b)

/- The paths have the same steps. -/
def same (a b : String) : Bool :=
  PathStep.ofText a == PathStep.ofText b

/- The path of an entry of a directory. -/
def join (directory entry : String) : String :=
  if directory.isEmpty || directory.endsWith "/" then
    directory ++ entry
  else directory ++ "/" ++ entry

/- The path without its last step. -/
def parent? (path : String) : Option String :=
  let steps := PathStep.ofText path
  match steps.getLast? with
  | none => none
  | some .root => none
  | some _ => some (PathStep.text steps.dropLast)

/- The steps behind other ones. -/
def restOf? :
    List PathStep → List PathStep → Option (List PathStep)
  | [], steps => some steps
  | _ :: _, [] => none
  | a :: as, b :: bs => if a = b then restOf? as bs else none

/- The path that leads from a directory to what is in it. -/
def below? (directory path : String) : Option String :=
  let rest? :=
    restOf? (PathStep.ofText directory) (PathStep.ofText path)
  rest?.map PathStep.text

/-
  Of neighbours with the same steps the first one. The path
  kept last is given.
-/
def dropRepeats (last : Option String) :
    List String → List String
  | [] => []
  | a :: rest =>
      if last.any fun kept => same kept a then
        dropRepeats last rest
      else a :: dropRepeats (some a) rest

/- Paths in their order, each once. -/
def sorted (paths : List String) : List String :=
  dropRepeats none (paths.mergeSort le)

end Path

end SigCheck
