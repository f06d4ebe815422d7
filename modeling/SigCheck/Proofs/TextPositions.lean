import Mathlib.Data.List.DropRight
import Mathlib.Data.Prod.Lex
import Mathlib.Data.String.Basic
import Mathlib.Order.Monotone.Defs
import SigCheck.Source.Location

/-
  The position of a byte at which a character starts or the
  text ends is the one at which the text in front of it ends.

  The line starts up to the byte are those behind the line
  feeds in front of it, and the last one of them is where the
  line of the byte starts. With each further character the
  position moves on, so positions have the order of the bytes.

  Key definitions include:
    * `endPosition`
    * `boundaries`

  Correctness is proven by:
    * `searchSorted_append`, `LineIndex.lineOf_append`
    * `LineIndex.getLastD_lineStartsFrom`
    * `LineIndex.position_append`
    * `endPosition_lt_append`
    * `LineIndex.position_exact`
-/

namespace SigCheck

open String (utf8Len)

------------------------------------------------------------
-- Texts by Bytes
------------------------------------------------------------

section Character

variable (n : Nat) (c : Char) (cs : List Char)

/- The bytes of a character have a first one. -/
theorem exists_add_utf8Size_eq :
    ∃ m, n + c.utf8Size = m + 1 ∧ m + 1 - c.utf8Size = n := by
  have hPos := c.utf8Size_pos
  refine ⟨n + c.utf8Size - 1, ?_, ?_⟩ <;> omega

/- Behind the bytes of a character the rest is left. -/
theorem dropBytes?_cons :
    dropBytes? (n + c.utf8Size) (c :: cs) =
      dropBytes? n cs := by
  rcases exists_add_utf8Size_eq n c with ⟨m, hBytes, hRest⟩
  have hFits : c.utf8Size ≤ m + 1 := by omega
  rw [hBytes, dropBytes?, if_pos hFits, hRest]

/- The bytes of a character hold that character. -/
theorem takeBytes?_cons :
    takeBytes? (n + c.utf8Size) (c :: cs) =
      (takeBytes? n cs).map (c :: ·) := by
  rcases exists_add_utf8Size_eq n c with ⟨m, hBytes, hRest⟩
  have hFits : c.utf8Size ≤ m + 1 := by omega
  rw [hBytes, takeBytes?, if_pos hFits, hRest]

end Character

variable (front back : List Char)

/- Behind a beginning of a text stands the rest. -/
theorem dropBytes?_append :
    dropBytes? (utf8Len front) (front ++ back) = some back := by
  induction front with
  | nil => simp [dropBytes?]
  | cons c cs ih =>
      rw [String.utf8Len_cons, List.cons_append,
        dropBytes?_cons, ih]

/- In the bytes of a beginning stands just that beginning. -/
theorem takeBytes?_append :
    takeBytes? (utf8Len front) (front ++ back) =
      some front := by
  induction front with
  | nil => simp [takeBytes?]
  | cons c cs ih =>
      rw [String.utf8Len_cons, List.cons_append,
        takeBytes?_cons, ih]
      rfl

/- Between two beginnings stands what one has in addition. -/
theorem textBetween?_append (mid : List Char) :
    textBetween? (utf8Len front) (utf8Len (front ++ mid))
        (front ++ mid ++ back) =
      some mid := by
  rw [textBetween?, List.append_assoc, dropBytes?_append,
    Option.bind_some, String.utf8Len_append,
    Nat.add_sub_cancel_left, takeBytes?_append]

------------------------------------------------------------
-- Line Starts
------------------------------------------------------------

namespace LineIndex

/- The line starts of a text are those of its parts. -/
theorem lineStartsFrom_append (byte : Nat) :
    lineStartsFrom byte (front ++ back) =
      lineStartsFrom byte front
        ++ lineStartsFrom (byte + utf8Len front) back := by
  induction front generalizing byte with
  | nil => rfl
  | cons c cs ih =>
      have hByte :
          byte + utf8Len (c :: cs) =
            byte + c.utf8Size + utf8Len cs := by
        rw [String.utf8Len_cons]
        omega
      rw [hByte]
      by_cases hFeed : c = '\n'
      · simp [lineStartsFrom, hFeed, ih]
      · simp [lineStartsFrom, hFeed, ih]

/- As many lines start in a text as it has line feeds. -/
theorem length_lineStartsFrom (byte : Nat) :
    (lineStartsFrom byte front).length =
      front.count '\n' := by
  induction front generalizing byte with
  | nil => rfl
  | cons c cs ih =>
      by_cases hFeed : c = '\n'
      · simp [lineStartsFrom, hFeed, ih]
      · simp [lineStartsFrom, hFeed, ih]

/- Lines start behind a character of the text. -/
theorem bounds_of_mem_lineStartsFrom
    {byte start : Nat}
    (h : start ∈ lineStartsFrom byte front) :
    byte < start ∧ start ≤ byte + utf8Len front := by
  induction front generalizing byte with
  | nil => cases h
  | cons c cs ih =>
      have hPos := c.utf8Size_pos
      have hRest
          (hMem :
            start ∈ lineStartsFrom (byte + c.utf8Size) cs) :
          byte < start ∧ start ≤ byte + utf8Len (c :: cs) := by
        have := ih hMem
        rw [String.utf8Len_cons]
        omega
      by_cases hFeed : c = '\n'
      · simp only [lineStartsFrom, hFeed, if_true,
          List.mem_cons] at h
        rw [← hFeed] at h
        rcases h with rfl | hMem
        · rw [String.utf8Len_cons]
          omega
        · exact hRest hMem
      · simp only [lineStartsFrom, hFeed, if_false] at h
        exact hRest h

/- Lines start in order. -/
theorem pairwise_lineStartsFrom (byte : Nat) :
    (lineStartsFrom byte front).Pairwise (· < ·) := by
  induction front generalizing byte with
  | nil => exact .nil
  | cons c cs ih =>
      by_cases hFeed : c = '\n'
      · simp only [lineStartsFrom, hFeed, if_true]
        refine .cons ?_ (ih _)
        intro start hStart
        exact (bounds_of_mem_lineStartsFrom cs hStart).1
      · simp only [lineStartsFrom, hFeed, if_false]
        exact ih _

/- The character is no line feed. -/
def inLine (c : Char) : Bool :=
  c != '\n'

/-
  The last line of a text starts behind the last line feed
  in it, or else where the text starts.
-/
theorem getLastD_lineStartsFrom :
    (lineStartsFrom 0 front).getLastD 0 =
      utf8Len (front.rdropWhile inLine) := by
  induction front using List.reverseRecOn with
  | nil => rfl
  | append_singleton cs c ih =>
      rw [lineStartsFrom_append]
      by_cases hFeed : c = '\n'
      · have hNeg : ¬ inLine c = true := by simp [inLine, hFeed]
        rw [List.rdropWhile_concat_neg _ _ _ hNeg]
        simp [lineStartsFrom, hFeed]
      · have hPos : inLine c = true := by simp [inLine, hFeed]
        rw [List.rdropWhile_concat_pos _ _ _ hPos, ← ih]
        simp [lineStartsFrom, hFeed]

end LineIndex

------------------------------------------------------------
-- Lines
------------------------------------------------------------

section Search

variable {init later : List Nat} {last n : Nat}

/- A search finds the last one of the numbers that are met. -/
theorem searchSorted_append
    (hInit : ∀ m ∈ init, m < last)
    (hLast : last ≤ n)
    (hLater : ∀ m ∈ later, n < m) :
    searchSorted (init ++ last :: later) n =
      if last = n then .ok init.length
      else .error (init.length + 1) := by
  have hInitBelow :
      ∀ m ∈ init, decide (m < n) = true := by
    intro m hm
    have := hInit m hm
    simp only [decide_eq_true_eq]
    omega
  have hLaterNone :
      later.takeWhile (fun m => decide (m < n)) = [] := by
    cases later with
    | nil => rfl
    | cons m later =>
        have := hLater m (List.mem_cons_self ..)
        apply List.takeWhile_cons_of_neg
        simp only [decide_eq_true_eq]
        omega
  unfold searchSorted
  rw [List.takeWhile_append_of_pos hInitBelow]
  by_cases hSame : last = n
  · subst hSame
    rw [List.takeWhile_cons_of_neg (by simp)]
    simp
  · have hLess : last < n := by omega
    rw [List.takeWhile_cons_of_pos (by simpa using hLess),
      hLaterNone, if_neg hSame, if_neg]
    · simp
    · intro hFound
      have hNext : later[0]? = some n := by
        simpa [List.getElem?_append_right] using hFound
      have := hLater n (List.mem_of_getElem? hNext)
      omega

end Search

namespace LineIndex

/- The line starts of a text, cut at a byte. -/
theorem lineStarts_append :
    (⟨front ++ back⟩ : LineIndex).lineStarts =
      (0 :: lineStartsFrom 0 front)
        ++ lineStartsFrom (utf8Len front) back := by
  rw [lineStarts, lineStartsFrom_append, Nat.zero_add,
    List.cons_append]

/-
  Up to the end of a text as many lines start as it has line
  feeds, and then its last one.
-/
theorem exists_lineStarts_eq :
    ∃ init,
      0 :: lineStartsFrom 0 front =
          init ++ [utf8Len (front.rdropWhile inLine)] ∧
        init.length = front.count '\n' ∧
        ∀ m ∈ init, m < utf8Len (front.rdropWhile inLine) := by
  have hPairwise :
      (0 :: lineStartsFrom 0 front).Pairwise (· < ·) := by
    refine .cons ?_ (pairwise_lineStartsFrom front 0)
    intro start hStart
    exact (bounds_of_mem_lineStartsFrom front hStart).1
  rcases List.eq_nil_or_concat' (0 :: lineStartsFrom 0 front)
    with hNil | ⟨init, last, hSplit⟩
  · cases hNil
  · have hLast :
        last = utf8Len (front.rdropWhile inLine) := by
      have hEnd := congrArg (List.getLastD · 0) hSplit
      simp only [List.getLastD_cons, List.getLastD_concat]
        at hEnd
      rw [← hEnd, getLastD_lineStartsFrom]
    have hLength := congrArg List.length hSplit
    simp only [List.length_cons, List.length_append,
      List.length_nil, length_lineStartsFrom] at hLength
    rw [hSplit, List.pairwise_append] at hPairwise
    refine ⟨init, ?_, by omega, ?_⟩
    · rw [hSplit, hLast]
    · intro m hm
      rw [← hLast]
      exact hPairwise.2.2 m hm last (List.mem_singleton_self _)

/- The line of a byte and the byte at which it starts. -/
theorem lineOf_append :
    (⟨front ++ back⟩ : LineIndex).lineOf (utf8Len front) =
        front.count '\n' ∧
      (⟨front ++ back⟩ : LineIndex).lineStarts.getD
          (front.count '\n') 0 =
        utf8Len (front.rdropWhile inLine) := by
  rcases exists_lineStarts_eq front with
    ⟨init, hSplit, hLength, hInit⟩
  have hStarts := lineStarts_append front back
  rw [hSplit, List.append_assoc, List.singleton_append]
    at hStarts
  have hLast :
      utf8Len (front.rdropWhile inLine) ≤ utf8Len front := by
    conv_rhs =>
      rw [← @List.rdropWhile_append_rtakeWhile _ inLine front]
    rw [String.utf8Len_append]
    omega
  have hLater :
      ∀ m ∈ lineStartsFrom (utf8Len front) back,
        utf8Len front < m :=
    fun m hm => (bounds_of_mem_lineStartsFrom back hm).1
  constructor
  · rw [lineOf, hStarts,
      searchSorted_append hInit hLast hLater]
    split
    · rename_i hSearch
      split at hSearch
      · cases hSearch
        exact hLength
      · cases hSearch
    · rename_i hSearch
      split at hSearch
      · cases hSearch
      · cases hSearch
        exact hLength
  · rw [hStarts, ← hLength]
    simp

end LineIndex

------------------------------------------------------------
-- Positions
------------------------------------------------------------

/-
  The line and column at which a text ends: one more than it
  has line feeds, and the characters behind the last of them.
-/
def endPosition (cs : List Char) : Nat × Nat :=
  (cs.count '\n' + 1, (cs.rtakeWhile fun c => c != '\n').length)

/- The position of a byte is where the text before it ends. -/
theorem LineIndex.position_append :
    (⟨front ++ back⟩ : LineIndex).position (utf8Len front) =
      endPosition front := by
  rcases lineOf_append front back with ⟨hLine, hStart⟩
  have hSplit :
      front.rdropWhile inLine ++ front.rtakeWhile inLine =
        front :=
    List.rdropWhile_append_rtakeWhile
  have hText :
      textBetween? (utf8Len (front.rdropWhile inLine))
          (utf8Len front) (front ++ back) =
        some (front.rtakeWhile inLine) := by
    have hParts :=
      textBetween?_append (front.rdropWhile inLine) back
        (front.rtakeWhile inLine)
    rwa [hSplit] at hParts
  simp only [position, hLine, hStart, hText]
  rfl

/- One more character moves the end on. -/
theorem endPosition_lt_concat (c : Char) :
    toLex (endPosition front) <
      toLex (endPosition (front ++ [c])) := by
  rw [Prod.Lex.toLex_lt_toLex]
  by_cases hFeed : c = '\n'
  · left
    simp [endPosition, hFeed]
  · right
    simp [endPosition, hFeed]

/- More characters move the end on. -/
theorem endPosition_lt_append
    {mid : List Char}
    (hMid : mid ≠ []) :
    toLex (endPosition front) <
      toLex (endPosition (front ++ mid)) := by
  induction mid using List.reverseRecOn with
  | nil => exact absurd rfl hMid
  | append_singleton cs c ih =>
      rw [← List.append_assoc]
      have hStep := endPosition_lt_concat (front ++ cs) c
      by_cases hCs : cs = []
      · subst hCs
        simpa using hStep
      · exact lt_trans (ih hCs) hStep

------------------------------------------------------------
-- The Order of Positions
------------------------------------------------------------

/-
  The bytes of a text at which a character starts, and the
  one at which the text ends.
-/
def boundaries (text : String) : Set Nat :=
  {n | (⟨n⟩ : String.Pos.Raw).IsValid text}

/- A boundary cuts a text into two. -/
theorem exists_append_of_mem_boundaries
    {text : String} {n : Nat}
    (h : n ∈ boundaries text) :
    ∃ front back : List Char,
      text.toList = front ++ back ∧ n = utf8Len front := by
  rcases String.Pos.Raw.isValid_iff_exists_append.mp h with
    ⟨front, back, hText, hByte⟩
  refine ⟨front.toList, back.toList, ?_, ?_⟩
  · rw [hText, String.toList_append]
  · rw [String.utf8Len_toList]
    exact congrArg String.Pos.Raw.byteIdx hByte

/- Positions go up with the bytes. -/
theorem LineIndex.strictMonoOn_position (text : String) :
    StrictMonoOn
      (fun n => toLex ((ofText text).position n))
      (boundaries text) := by
  intro m hm n hn hLess
  rcases exists_append_of_mem_boundaries hm with
    ⟨front, back, hText, rfl⟩
  rcases exists_append_of_mem_boundaries hn with
    ⟨front', back', hText', rfl⟩
  have hFirst :
      (ofText text).position (utf8Len front) =
        endPosition front := by
    rw [ofText, hText]
    exact position_append front back
  have hSecond :
      (ofText text).position (utf8Len front') =
        endPosition front' := by
    rw [ofText, hText']
    exact position_append front' back'
  change
    toLex ((ofText text).position (utf8Len front)) <
      toLex ((ofText text).position (utf8Len front'))
  rw [hFirst, hSecond]
  -- Of two beginnings of one text the shorter begins the other.
  rcases List.append_eq_append_iff.mp (hText.symm.trans hText')
    with ⟨mid, rfl, -⟩ | ⟨mid, rfl, -⟩
  · apply endPosition_lt_append front
    rintro rfl
    simp at hLess
  · rw [String.utf8Len_append] at hLess
    omega

/-
  The position of a boundary of a text is one more than the
  number of line feeds in front of it, and the number of
  characters behind the last of them. Different boundaries
  have different positions, and positions, compared by line
  and then by column, have the order of the boundaries.
-/
theorem LineIndex.position_exact (text : String) :
    (∀ front back : String,
      front ++ back = text →
        (ofText text).position front.utf8ByteSize =
          endPosition front.toList) ∧
      Set.InjOn (ofText text).position (boundaries text) ∧
      ∀ m ∈ boundaries text, ∀ n ∈ boundaries text,
        toLex ((ofText text).position m) <
            toLex ((ofText text).position n) ↔
          m < n := by
  have hMono := strictMonoOn_position text
  refine ⟨?_, ?_, ?_⟩
  · rintro front back rfl
    rw [ofText, String.toList_append, ← String.utf8Len_toList]
    exact position_append front.toList back.toList
  · intro m hm n hn hSame
    exact hMono.injOn hm hn (congrArg toLex hSame)
  · intro m hm n hn
    exact hMono.lt_iff_lt hm hn

/-
  Behind a line feed and a character of three bytes the line
  is the second and the column the first, and the end of the
  text comes later.
-/
theorem LineIndex.position_exact_euro :
    let text := "é\n€ = 2"
    (ofText text).position "é\n€".utf8ByteSize = (2, 1) ∧
      "é\n€".utf8ByteSize ∈ boundaries text ∧
      text.utf8ByteSize ∈ boundaries text ∧
      toLex ((ofText text).position "é\n€".utf8ByteSize) <
        toLex ((ofText text).position text.utf8ByteSize) := by
  intro text
  have hExact := position_exact text
  have hPlace :
      (ofText text).position "é\n€".utf8ByteSize =
        endPosition "é\n€".toList :=
    hExact.1 "é\n€" " = 2" rfl
  have hInside : "é\n€".utf8ByteSize ∈ boundaries text :=
    String.Pos.Raw.isValid_iff_exists_append.mpr
      ⟨"é\n€", " = 2", rfl, rfl⟩
  have hEnd : text.utf8ByteSize ∈ boundaries text :=
    String.Pos.Raw.isValid_iff_exists_append.mpr
      ⟨text, "", by simp, rfl⟩
  refine ⟨?_, hInside, hEnd, ?_⟩
  · rw [hPlace]
    decide
  · rw [hExact.2.2 _ hInside _ hEnd]
    decide

end SigCheck
