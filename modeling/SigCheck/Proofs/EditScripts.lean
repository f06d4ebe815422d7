import Mathlib.Data.List.Basic
import Mathlib.Order.Bounds.Basic
import Mathlib.Order.MinMax
import SigCheck.Source.EditDistance

/-
  The distance of two texts is the least number of edits
  that turn one into the other, and suggestions are ordered
  by it.

  Edits change a text anywhere and in any order. An alignment
  goes through both texts once and pays for each difference;
  edits can always be put in that order. The rows of distances
  hold the costs of cheapest alignments. A row is about the
  beginnings of both texts, of which the last characters are
  aligned first, so these beginnings are taken backwards.

  Key definitions include:
    * `Edit`, `Edits`
    * `Aligned`, `Cheapest`
    * `EditDistance.Cells`, `EditDistance.IsRow`

  Correctness is proven by:
    * `Edit.precedes`, `Edits.exists_aligned`
    * `cheapest_cell`
    * `EditDistance.IsRow.foldl`
    * `editDistance_isLeast`
    * `similarNames_eq`
    * `suggestions_follow_distance`
-/

namespace SigCheck

------------------------------------------------------------
-- Edits
------------------------------------------------------------

/- One character is inserted, deleted or substituted. -/
inductive Edit : List Char → List Char → Prop
  | insert (front : List Char) (x : Char) (back : List Char) :
      Edit (front ++ back) (front ++ x :: back)
  | delete (front : List Char) (x : Char) (back : List Char) :
      Edit (front ++ x :: back) (front ++ back)
  | substitute
      (front : List Char) (x y : Char) (back : List Char) :
      Edit (front ++ x :: back) (front ++ y :: back)

/- So many edits in a row turn a text into another. -/
inductive Edits : Nat → List Char → List Char → Prop
  | none (a : List Char) : Edits 0 a a
  | next {n : Nat} {a b c : List Char} :
      Edit a b → Edits n b c → Edits (n + 1) a c

variable {a b c : List Char} {m n : Nat}

namespace Edit

/- An edit can be undone. -/
theorem symm (h : Edit a b) : Edit b a := by
  cases h with
  | insert front x back => exact .delete front x back
  | delete front x back => exact .insert front x back
  | substitute front x y back =>
      exact .substitute front y x back

/- An edit of the rest of a text is one of the text. -/
theorem cons (h : Edit a b) (z : Char) :
    Edit (z :: a) (z :: b) := by
  cases h with
  | insert front x back => exact .insert (z :: front) x back
  | delete front x back => exact .delete (z :: front) x back
  | substitute front x y back =>
      exact .substitute (z :: front) x y back

/- A text can be edited backwards. -/
theorem reverse (h : Edit a b) :
    Edit a.reverse b.reverse := by
  cases h with
  | insert front x back =>
      simpa using Edit.insert back.reverse x front.reverse
  | delete front x back =>
      simpa using Edit.delete back.reverse x front.reverse
  | substitute front x y back =>
      simpa using
        Edit.substitute back.reverse x y front.reverse

end Edit

namespace Edits

theorem trans (h : Edits m a b) (h' : Edits n b c) :
    Edits (m + n) a c := by
  induction h with
  | none a => simpa using h'
  | next hEdit _ ih =>
      rw [Nat.add_right_comm]
      exact .next hEdit (ih h')

theorem symm (h : Edits n a b) : Edits n b a := by
  induction h with
  | none a => exact .none a
  | next hEdit _ ih =>
      exact ih.trans (.next hEdit.symm (.none _))

theorem cons (h : Edits n a b) (z : Char) :
    Edits n (z :: a) (z :: b) := by
  induction h with
  | none a => exact .none (z :: a)
  | next hEdit _ ih => exact .next (hEdit.cons z) ih

theorem reverse (h : Edits n a b) :
    Edits n a.reverse b.reverse := by
  induction h with
  | none a => exact .none a.reverse
  | next hEdit _ ih => exact .next hEdit.reverse ih

/- Edits from left to right are as many as backwards. -/
theorem reverse_iff :
    Edits n a.reverse b.reverse ↔ Edits n a b := by
  constructor
  · intro h
    simpa using h.reverse
  · exact reverse

end Edits

------------------------------------------------------------
-- Alignments
------------------------------------------------------------

/- Two texts side by side, with so many differences. -/
inductive Aligned : Nat → List Char → List Char → Prop
  | nil : Aligned 0 [] []
  | keep {n : Nat} {a b : List Char} (x : Char) :
      Aligned n a b → Aligned n (x :: a) (x :: b)
  | substitute {n : Nat} {a b : List Char} (x y : Char) :
      Aligned n a b → Aligned (n + 1) (x :: a) (y :: b)
  | delete {n : Nat} {a b : List Char} (x : Char) :
      Aligned n a b → Aligned (n + 1) (x :: a) b
  | insert {n : Nat} {a b : List Char} (y : Char) :
      Aligned n a b → Aligned (n + 1) a (y :: b)

namespace Aligned

theorem refl (a : List Char) : Aligned 0 a a := by
  induction a with
  | nil => exact .nil
  | cons x a ih => exact .keep x ih

/- The differences of an alignment are as many edits. -/
theorem edits (h : Aligned n a b) : Edits n a b := by
  induction h with
  | nil => exact .none []
  | keep x _ ih => exact ih.cons x
  | @substitute n a b x y _ ih =>
      exact .next (.substitute [] x y a) (ih.cons y)
  | @delete n a b x _ ih => exact .next (.delete [] x a) ih
  | @insert n a b y _ ih =>
      exact .next (.insert [] y a) (ih.cons y)

/- A text is not much longer than one it is aligned with. -/
theorem length_le (h : Aligned n a b) :
    a.length ≤ b.length + n ∧ b.length ≤ a.length + n := by
  induction h with
  | nil => simp
  | _ => simp only [List.length_cons]; omega

end Aligned

/-
  Whatever the second text can be aligned with, so can the
  first, with one more difference at most.
-/
def Precedes (a b : List Char) : Prop :=
  ∀ ⦃n : Nat⦄ ⦃c : List Char⦄,
    Aligned n b c → ∃ m, m ≤ n + 1 ∧ Aligned m a c

namespace Precedes

/- What is deleted first had a place in the alignment. -/
theorem delete (x : Char) (b : List Char) :
    Precedes (x :: b) b := by
  intro n c h
  exact ⟨n + 1, Nat.le_refl _, h.delete x⟩

/- What is inserted first loses its place in the alignment. -/
theorem insert (x : Char) (b : List Char) :
    Precedes b (x :: b) := by
  intro n c h
  generalize hText : x :: b = text at h
  induction h with
  | nil => cases hText
  | keep y h _ =>
      cases hText
      exact ⟨_, Nat.le_refl _, h.insert x⟩
  | substitute y z h _ =>
      cases hText
      exact ⟨_, Nat.le_succ _, h.insert z⟩
  | delete y h _ =>
      cases hText
      exact ⟨_, by omega, h⟩
  | insert y _ ih =>
      rcases ih hText with ⟨m, hm, h⟩
      exact ⟨m + 1, by omega, h.insert y⟩

/- What is substituted first keeps its place. -/
theorem substitute (x y : Char) (b : List Char) :
    Precedes (x :: b) (y :: b) := by
  intro n c h
  generalize hText : y :: b = text at h
  induction h with
  | nil => cases hText
  | keep z h _ =>
      cases hText
      exact ⟨_, Nat.le_refl _, h.substitute x y⟩
  | substitute z w h _ =>
      cases hText
      exact ⟨_, Nat.le_succ _, h.substitute x w⟩
  | delete z h _ =>
      cases hText
      exact ⟨_, Nat.le_succ _, h.delete x⟩
  | insert z _ ih =>
      rcases ih hText with ⟨m, hm, h⟩
      exact ⟨m + 1, by omega, h.insert z⟩

/- A character in front of both texts changes nothing. -/
theorem cons (hRest : Precedes a b) (z : Char) :
    Precedes (z :: a) (z :: b) := by
  intro n c h
  generalize hText : z :: b = text at h
  induction h with
  | nil => cases hText
  | keep x h _ =>
      cases hText
      rcases hRest h with ⟨m, hm, h⟩
      exact ⟨m, hm, h.keep z⟩
  | substitute x y h _ =>
      cases hText
      rcases hRest h with ⟨m, hm, h⟩
      exact ⟨m + 1, by omega, h.substitute z y⟩
  | delete x h _ =>
      cases hText
      rcases hRest h with ⟨m, hm, h⟩
      exact ⟨m + 1, by omega, h.delete z⟩
  | insert x _ ih =>
      rcases ih hText with ⟨m, hm, h⟩
      exact ⟨m + 1, by omega, h.insert x⟩

theorem append
    (hRest : Precedes a b)
    (front : List Char) :
    Precedes (front ++ a) (front ++ b) := by
  induction front with
  | nil => exact hRest
  | cons z front ih => exact ih.cons z

end Precedes

/- An edit adds one difference to an alignment at most. -/
theorem Edit.precedes (h : Edit a b) : Precedes a b := by
  cases h with
  | insert front x back =>
      exact (Precedes.insert x back).append front
  | delete front x back =>
      exact (Precedes.delete x back).append front
  | substitute front x y back =>
      exact (Precedes.substitute x y back).append front

/- Edits can be put in the order of the text. -/
theorem Edits.exists_aligned (h : Edits n a b) :
    ∃ m, m ≤ n ∧ Aligned m a b := by
  induction h with
  | none a => exact ⟨0, Nat.le_refl 0, .refl a⟩
  | next hEdit _ ih =>
      rcases ih with ⟨k, hk, hRest⟩
      rcases hEdit.precedes hRest with ⟨m, hm, hAll⟩
      exact ⟨m, by omega, hAll⟩

------------------------------------------------------------
-- Cheapest Alignments
------------------------------------------------------------

/- The cost of a cheapest alignment of two texts. -/
def Cheapest (a b : List Char) (cost : Nat) : Prop :=
  IsLeast {n | Aligned n a b} cost

/- The cost of a cheapest alignment counts the edits needed. -/
theorem Cheapest.isLeast_edits
    {cost : Nat}
    (h : Cheapest a b cost) :
    IsLeast {n | Edits n a b} cost := by
  constructor
  · exact h.1.edits
  · intro n hn
    rcases Edits.exists_aligned hn with ⟨m, hm, hAligned⟩
    exact Nat.le_trans (h.2 hAligned) hm

/- Nothing is aligned by insertions alone. -/
theorem cheapest_nil_left (b : List Char) :
    Cheapest [] b b.length := by
  constructor
  · induction b with
    | nil => exact .nil
    | cons y b ih => exact ih.insert y
  · intro n hn
    simpa using hn.length_le.2

/- A text is aligned with nothing by deletions alone. -/
theorem cheapest_nil_right (a : List Char) :
    Cheapest a [] a.length := by
  constructor
  · induction a with
    | nil => exact .nil
    | cons x a ih => exact ih.delete x
  · intro n hn
    simpa using hn.length_le.1

/-
  The first characters of two texts are deleted, inserted or
  put side by side, whichever is cheapest.
-/
theorem cheapest_cell
    {x y : Char} {above left diagonal : Nat}
    (hAbove : Cheapest a (y :: b) above)
    (hLeft : Cheapest (x :: a) b left)
    (hDiagonal : Cheapest a b diagonal) :
    Cheapest (x :: a) (y :: b)
      (min (min (above + 1) (left + 1))
        (diagonal + if x = y then 0 else 1)) := by
  have hSide :
      Aligned (diagonal + if x = y then 0 else 1)
        (x :: a) (y :: b) := by
    by_cases hSame : x = y
    · subst hSame
      simpa using hDiagonal.1.keep x
    · simpa [hSame] using hDiagonal.1.substitute x y
  constructor
  · rcases min_choice (min (above + 1) (left + 1))
        (diagonal + if x = y then 0 else 1) with hMin | hMin
    · rw [hMin]
      rcases min_choice (above + 1) (left + 1) with
        hMin | hMin
      · rw [hMin]
        exact hAbove.1.delete x
      · rw [hMin]
        exact hLeft.1.insert y
    · rw [hMin]
      exact hSide
  · intro n hn
    cases hn with
    | keep _ h =>
        have := hDiagonal.2 h
        simp only [if_true]
        omega
    | substitute _ _ h =>
        have := hDiagonal.2 h
        split <;> omega
    | delete _ h =>
        have := hAbove.2 h
        omega
    | insert _ h =>
        have := hLeft.2 h
        omega

------------------------------------------------------------
-- Rows of Distances
------------------------------------------------------------

namespace EditDistance

/-
  Costs of aligning one text with each of the texts that
  start with another one, which grows by one character at a
  time. Both texts are backwards.
-/
inductive Cells (p : List Char) :
    List Char → List Char → List Nat → Prop
  | nil (q : List Char) : Cells p q [] []
  | cons
      {q ys : List Char} {y : Char} {cell : Nat}
      {cells : List Nat} :
      Cheapest p (y :: q) cell →
      Cells p (y :: q) ys cells →
      Cells p q (y :: ys) (cell :: cells)

/- A whole row, from the empty text on. -/
inductive IsRow (p ys : List Char) : List Nat → Prop
  | intro {cells : List Nat} :
      Cells p [] ys cells → IsRow p ys (p.length :: cells)

variable {p q ys : List Char} {cells row : List Nat}

/- The cells of a row come from the row before. -/
theorem Cells.fillRow
    {x : Char} {left diagonal : Nat}
    (hCells : Cells p q ys cells)
    (hLeft : Cheapest (x :: p) q left)
    (hDiagonal : Cheapest p q diagonal) :
    Cells (x :: p) q ys
      (fillRow x left diagonal ys cells) := by
  induction hCells generalizing left diagonal with
  | nil q => exact .nil q
  | cons hAbove _ ih =>
      have hCell := cheapest_cell hAbove hLeft hDiagonal
      exact .cons hCell (ih hCell hAbove)

/- The last cell is about both texts in full. -/
theorem Cells.cheapest_last
    {cost : Nat}
    (hCells : Cells p q ys cells)
    (hFirst : Cheapest p q cost) :
    Cheapest p (ys.reverse ++ q) (cells.getLastD cost) := by
  induction hCells generalizing cost with
  | nil q => exact hFirst
  | cons hCell _ ih =>
      rw [List.reverse_cons, List.append_assoc,
        List.getLastD_cons]
      exact ih hCell

/- Against nothing each character costs one more. -/
theorem cells_range' (q ys : List Char) :
    Cells [] q ys (List.range' (q.length + 1) ys.length) := by
  induction ys generalizing q with
  | nil => exact .nil q
  | cons y ys ih =>
      exact .cons (cheapest_nil_left (y :: q)) (ih (y :: q))

/- The row to start with. -/
theorem isRow_range (ys : List Char) :
    IsRow [] ys (List.range (ys.length + 1)) := by
  rw [List.range_eq_range', List.range'_succ]
  exact .intro (cells_range' [] ys)

namespace IsRow

/- One more character leads to the next row. -/
theorem nextRow (h : IsRow p ys row) (x : Char) :
    IsRow (x :: p) ys (nextRow ys row x) := by
  cases h with
  | intro hCells =>
      exact .intro
        (hCells.fillRow (cheapest_nil_right (x :: p))
          (cheapest_nil_right p))

/- All characters of a text lead to the last row. -/
theorem foldl (h : IsRow p ys row) (xs : List Char) :
    IsRow (xs.reverse ++ p) ys
      (xs.foldl (EditDistance.nextRow ys) row) := by
  induction xs generalizing p row with
  | nil => exact h
  | cons x xs ih => simpa using ih (h.nextRow x)

/- The last cell of a row is about the other text in full. -/
theorem cheapest_last (h : IsRow p ys row) :
    Cheapest p ys.reverse (row.getLastD 0) := by
  cases h with
  | intro hCells =>
      have hLast :=
        hCells.cheapest_last (cheapest_nil_right p)
      rw [List.append_nil] at hLast
      rwa [List.getLastD_cons]

end IsRow

end EditDistance

------------------------------------------------------------
-- The Distance
------------------------------------------------------------

/- The distance is the least number of edits. -/
theorem editDistance_isLeast (a b : String) :
    IsLeast {n | Edits n a.toList b.toList}
      (editDistance a b) := by
  have hLast :
      EditDistance.IsRow a.toList.reverse b.toList
        (a.toList.foldl (EditDistance.nextRow b.toList)
          (List.range (b.toList.length + 1))) := by
    simpa using
      (EditDistance.isRow_range b.toList).foldl a.toList
  have hBackwards := hLast.cheapest_last.isLeast_edits
  simp only [Edits.reverse_iff] at hBackwards
  exact hBackwards

/- As many edits lead back. -/
theorem editDistance_comm (a b : String) :
    editDistance a b = editDistance b a := by
  apply (editDistance_isLeast a b).unique
  have hSet :
      {n | Edits n a.toList b.toList} =
        {n | Edits n b.toList a.toList} := by
    ext n
    exact ⟨Edits.symm, Edits.symm⟩
  rw [hSet]
  exact editDistance_isLeast b a

/- A detour takes no fewer edits. -/
theorem editDistance_triangle (a b c : String) :
    editDistance a c ≤ editDistance a b + editDistance b c := by
  apply (editDistance_isLeast a c).2
  exact
    (editDistance_isLeast a b).1.trans
      (editDistance_isLeast b c).1

------------------------------------------------------------
-- Suggestions
------------------------------------------------------------

section SortByKey

variable {α : Type} (key : α → Nat) {l : List α} {start : Nat}

/- In the order of a key the least ones stand in front. -/
theorem filter_key_append
    (hSorted : l.Pairwise fun x y => key x ≤ key y)
    (hFrom : ∀ x ∈ l, start ≤ key x) :
    (l.filter fun x => key x = start)
        ++ (l.filter fun x => start < key x) = l := by
  induction l with
  | nil => rfl
  | cons x l ih =>
      rcases List.pairwise_cons.mp hSorted with ⟨hx, hSorted⟩
      by_cases hKey : key x = start
      · have hRest :=
          ih hSorted fun y hy =>
            hFrom y (List.mem_cons_of_mem x hy)
        simpa [hKey] using hRest
      · have hLess : start < key x := by
          have := hFrom x (List.mem_cons_self ..)
          omega
        have hBehind (y : α) (hy : y ∈ l) : start < key y :=
          Nat.lt_of_lt_of_le hLess (hx y hy)
        have hNone :
            (x :: l).filter (fun y => key y = start) = [] := by
          rw [List.filter_eq_nil_iff]
          intro y hy
          rcases List.mem_cons.mp hy with rfl | hy
          · simpa using hKey
          · have := hBehind y hy
            simp only [decide_eq_true_eq]
            omega
        have hAll :
            (x :: l).filter (fun y => start < key y) =
              x :: l := by
          rw [List.filter_eq_self]
          intro y hy
          rcases List.mem_cons.mp hy with rfl | hy
          · simpa using hLess
          · simpa using hBehind y hy
        rw [hNone, hAll, List.nil_append]

/-
  A list in the order of a key is its parts of one key each,
  one behind the other.
-/
theorem flatMap_filter_key
    {count : Nat}
    (hSorted : l.Pairwise fun x y => key x ≤ key y)
    (hFrom : ∀ x ∈ l, start ≤ key x)
    (hBelow : ∀ x ∈ l, key x < start + count) :
    ((List.range' start count).flatMap fun d =>
        l.filter fun x => key x = d) = l := by
  induction count generalizing l start with
  | zero =>
      cases l with
      | nil => rfl
      | cons x l =>
          have := hFrom x (List.mem_cons_self ..)
          have := hBelow x (List.mem_cons_self ..)
          omega
  | succ count ih =>
      let rest := l.filter fun x => start < key x
      have hRest :
          ((List.range' (start + 1) count).flatMap fun d =>
              rest.filter fun x => key x = d) = rest := by
        apply ih (hSorted.filter _)
        · intro x hx
          exact of_decide_eq_true (List.mem_filter.mp hx).2
        · intro x hx
          have := hBelow x (List.mem_filter.mp hx).1
          omega
      have hSame (d : Nat)
          (hd : d ∈ List.range' (start + 1) count) :
          (rest.filter fun x => key x = d) =
            l.filter fun x => key x = d := by
        have hLess := (List.mem_range'_1.mp hd).1
        rw [List.filter_filter]
        apply List.filter_congr
        intro x _
        simp only [← Bool.decide_and, decide_eq_decide]
        omega
      rw [List.range'_succ, List.flatMap_cons,
        ← List.flatMap_congr hSame, hRest]
      exact filter_key_append key hSorted hFrom

/- The order of a key is transitive. -/
theorem key_le_trans (x y z : α) :
    decide (key x ≤ key y) = true →
      decide (key y ≤ key z) = true →
      decide (key x ≤ key z) = true := by
  simp only [decide_eq_true_eq]
  omega

/- The order of a key is total. -/
theorem key_le_total (x y : α) :
    (decide (key x ≤ key y) || decide (key y ≤ key x)) =
      true := by
  simp only [Bool.or_eq_true, decide_eq_true_eq]
  omega

/- Sorting by a key puts into the order of the key. -/
theorem pairwise_mergeSort_key (l : List α) :
    (l.mergeSort fun x y => key x ≤ key y).Pairwise
      fun x y => key x ≤ key y := by
  have hSorted :=
    List.pairwise_mergeSort (key_le_trans key)
      (key_le_total key) l
  simpa using hSorted

/- Sorting by a key does not change the order of equal ones. -/
theorem filter_mergeSort_key (l : List α) (d : Nat) :
    ((l.mergeSort fun x y => key x ≤ key y).filter
        fun x => key x = d) =
      l.filter fun x => key x = d := by
  have hSorted :
      (l.filter fun x => key x = d).Pairwise
        fun x y => decide (key x ≤ key y) = true := by
    rw [List.pairwise_iff_forall_sublist]
    intro x y hPair
    have hx := hPair.subset (List.mem_cons_self ..)
    have hy :=
      hPair.subset
        (List.mem_cons_of_mem x (List.mem_cons_self ..))
    simp only [List.mem_filter, decide_eq_true_eq] at hx hy ⊢
    omega
  have hSublist :=
    (List.sublist_mergeSort (key_le_trans key)
      (key_le_total key) hSorted List.filter_sublist).filter
      fun x => key x = d
  rw [List.filter_filter] at hSublist
  simp only [Bool.and_self] at hSublist
  have hLength :=
    ((List.mergeSort_perm l fun x y => key x ≤ key y).filter
      fun x => key x = d).length_eq
  exact (hSublist.eq_of_length hLength.symm).symm

/-
  A list sorted by a key is its parts of one key each, as
  they were, one behind the other.
-/
theorem mergeSort_key_eq
    {count : Nat}
    (hFrom : ∀ x ∈ l, start ≤ key x)
    (hBelow : ∀ x ∈ l, key x < start + count) :
    (l.mergeSort fun x y => key x ≤ key y) =
      (List.range' start count).flatMap fun d =>
        l.filter fun x => key x = d := by
  have hMem {x : α}
      (hx : x ∈ l.mergeSort fun x y => key x ≤ key y) :
      x ∈ l :=
    (List.mergeSort_perm l _).mem_iff.mp hx
  have hParts :=
    flatMap_filter_key key (pairwise_mergeSort_key key l)
      (fun x hx => hFrom x (hMem hx))
      fun x hx => hBelow x (hMem hx)
  rw [← hParts]
  apply List.flatMap_congr
  intro d _
  exact filter_mergeSort_key key l d

end SortByKey

/- The candidates at a distance that is not too large. -/
theorem filter_rated_eq
    (target : String)
    (candidates : List String)
    {limit d : Nat}
    (hd : d ∈ List.range' 1 limit) :
    let rated :=
      candidates.map fun c => (c, editDistance target c)
    let near := rated.filter fun (_, e) => 0 < e && e ≤ limit
    (near.filter fun p => p.2 = d).map Prod.fst =
      candidates.filter fun c => editDistance target c = d := by
  intro rated near
  have hBounds := List.mem_range'_1.mp hd
  have hSame (p : String × Nat) :
      (decide (p.2 = d) && (0 < p.2 && p.2 ≤ limit)) =
        decide (p.2 = d) := by
    simp only [← Bool.decide_and, decide_eq_decide]
    omega
  simp only [near, rated, List.filter_filter, hSame]
  rw [List.filter_map, List.map_map]
  exact List.map_id _

/-
  Suggested are the candidates at each distance from one up
  to the limit, nearest first, and at one distance in the
  order in which they were given.
-/
theorem similarNames_eq
    (target : String)
    (candidates : List String)
    (limit : Nat) :
    similarNames target candidates limit =
      (List.range' 1 limit).flatMap fun d =>
        candidates.filter
          fun c => editDistance target c = d := by
  have hNear (p : String × Nat)
      (hp : p ∈
        (candidates.map fun c =>
          (c, editDistance target c)).filter
          fun (_, d) => 0 < d && d ≤ limit) :
      1 ≤ p.2 ∧ p.2 < 1 + limit := by
    have hBounds := (List.mem_filter.mp hp).2
    simp only [Bool.and_eq_true, decide_eq_true_eq] at hBounds
    omega
  have hSorted :=
    mergeSort_key_eq Prod.snd (fun p hp => (hNear p hp).1)
      fun p hp => (hNear p hp).2
  rw [similarNames, hSorted, List.map_flatMap]
  apply List.flatMap_congr
  intro d hd
  exact filter_rated_eq target candidates hd

/-
  The distance is the least number of insertions, deletions
  and substitutions of one character that turn one text into
  the other, so it is symmetric and takes no detours. What is
  suggested are the candidates at a distance from one up to
  the limit, in the order of their distance and, at one
  distance, in their own order.
-/
theorem suggestions_follow_distance :
    (∀ a b : String,
      IsLeast {n | Edits n a.toList b.toList}
        (editDistance a b)) ∧
      (∀ a b, editDistance a b = editDistance b a) ∧
      (∀ a b c,
        editDistance a c ≤
          editDistance a b + editDistance b c) ∧
      ∀ target candidates limit,
        similarNames target candidates limit =
          (List.range' 1 limit).flatMap fun d =>
            candidates.filter
              fun c => editDistance target c = d :=
  ⟨editDistance_isLeast, editDistance_comm,
    editDistance_triangle, similarNames_eq⟩

/- The nearer one of two names stands in front. -/
example :
    similarNames "Param" ["Parts", "Param", "Pram", "P"] 2 =
      ["Pram", "Parts"] := by
  cbv

end SigCheck
