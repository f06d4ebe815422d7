/-
  Names of characters, written in runs of neighbours. A name
  consists of pieces, each of which ends behind a blank or a
  hyphen. In a run a name is a small letter for the number
  of pieces that it shares with the name in front of it, `a`
  for none, and then the pieces that differ.

  Key definitions include:
    * `NameRun`
    * `firstPieces`
    * `NameRun.names`
    * `NameRun.find?`
-/

namespace SigCheck

/-
  The first character of a run, and the names of the run in
  lines that make one text.
-/
structure NameRun where
  first : Nat
  lines : List String

/- A piece of a name ends behind the character. -/
def endsPiece (c : Char) : Bool :=
  c == ' ' || c == '-'

/- The first pieces of a name. -/
def firstPieces : Nat → List Char → List Char
  | _, [] => []
  | 0, _ => []
  | n + 1, c :: cs =>
      if endsPiece c then c :: firstPieces n cs
      else c :: firstPieces (n + 1) cs

/-
  The names of a text as they are written: how many pieces
  are shared, and the pieces that differ.
-/
def writtenNames : List Char → List (Nat × List Char)
  | [] => []
  | c :: cs =>
      if c.isLower then
        (c.toNat - 'a'.toNat, cs.takeWhile (!·.isLower))
          :: writtenNames cs
      else writtenNames cs

/- Names in full behind a name. -/
def fullNames (previous : List Char) :
    List (Nat × List Char) → List (List Char)
  | [] => []
  | (shared, rest) :: more =>
      let name := firstPieces shared previous ++ rest
      name :: fullNames name more

namespace NameRun

/- The names of a run in order. -/
def names (r : NameRun) : List (List Char) :=
  fullNames [] (writtenNames (r.lines.flatMap String.toList))

/- The character of a run that has a name. -/
def find? (name : List Char) (r : NameRun) : Option Char :=
  (r.names.idxOf? name).map fun i => Char.ofNat (r.first + i)

end NameRun

end SigCheck
