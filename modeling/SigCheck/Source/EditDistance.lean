/-
  The edit distance of two texts and the names close to a
  misspelt one.

  Key definitions include:
    * `EditDistance.nextRow`
    * `editDistance`
    * `similarNames`
-/

namespace SigCheck

------------------------------------------------------------
-- Distance
------------------------------------------------------------

namespace EditDistance

/-
  The rest of a row of distances. Each cell is one more than
  the cell above or to the left, or the cell before the one
  above plus the cost of a substitution.
-/
def fillRow
    (x : Char)
    (left diagonal : Nat) :
    List Char → List Nat → List Nat
  | y :: ys, above :: rest =>
      let cost := if x = y then 0 else 1
      let cell :=
        min (min (above + 1) (left + 1)) (diagonal + cost)
      cell :: fillRow x cell above ys rest
  | _, _ => []

/- The row of distances after one more character. -/
def nextRow
    (ys : List Char)
    (row : List Nat)
    (x : Char) : List Nat :=
  match row with
  | [] => []
  | first :: rest =>
      (first + 1) :: fillRow x (first + 1) first ys rest

end EditDistance

/-
  The least number of insertions, deletions and
  substitutions of one character that turn one text into the
  other.
-/
def editDistance (a b : String) : Nat :=
  let ys := b.toList
  let start := List.range (ys.length + 1)
  let last :=
    a.toList.foldl (EditDistance.nextRow ys) start
  last.getLastD 0

------------------------------------------------------------
-- Similar Names
------------------------------------------------------------

/-
  The candidates that differ from the target by at most
  `limit` edits, nearest first; equally near ones keep their
  order.
-/
def similarNames
    (target : String)
    (candidates : List String)
    (limit : Nat) : List String :=
  let rated :=
    candidates.map fun c => (c, editDistance target c)
  let near :=
    rated.filter fun (_, d) => 0 < d && d ≤ limit
  (near.mergeSort fun p q => p.2 ≤ q.2).map (·.1)

end SigCheck
