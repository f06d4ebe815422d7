/-
  Places in a source text. Offsets count bytes of the
  encoded text; positions have a line counted from one and a
  column counted in characters from zero.

  Key definitions include:
    * `ByteRange`
    * `Location`
    * `LineIndex.lineStarts`, `LineIndex.lineOf`
    * `LineIndex.position`
    * `LineIndex.location`
    * `LineIndex.relocate`
-/

namespace SigCheck

/- A stretch of the source, in bytes. -/
structure ByteRange where
  start : Nat
  stop : Nat
  deriving DecidableEq, Repr, Inhabited

/- A stretch of the source, in lines and columns. -/
structure Location where
  line : Nat
  col : Nat
  endLine : Nat
  endCol : Nat
  deriving DecidableEq, Repr, Inhabited

namespace Location

/- The place of a diagnostic that belongs to no text. -/
def unknown : Location :=
  ⟨0, 0, 0, 0⟩

/- The stretch between two positions. -/
def between (start stop : Nat × Nat) : Location :=
  ⟨start.1, start.2, stop.1, stop.2⟩

end Location

------------------------------------------------------------
-- Line Index
------------------------------------------------------------

/- A source text in which offsets are looked up. -/
structure LineIndex where
  chars : List Char
  deriving Inhabited

/-
  The text behind a number of bytes, if a character starts
  or the text ends there.
-/
def dropBytes? : Nat → List Char → Option (List Char)
  | 0, cs => some cs
  | _ + 1, [] => none
  | n + 1, c :: cs =>
      if c.utf8Size ≤ n + 1 then
        dropBytes? (n + 1 - c.utf8Size) cs
      else none

/-
  The text in a number of bytes, if a character starts or
  the text ends behind them.
-/
def takeBytes? : Nat → List Char → Option (List Char)
  | 0, _ => some []
  | _ + 1, [] => none
  | n + 1, c :: cs =>
      if c.utf8Size ≤ n + 1 then
        (takeBytes? (n + 1 - c.utf8Size) cs).map (c :: ·)
      else none

/-
  The text between two bytes, if a character starts or the
  text ends at each of them.
-/
def textBetween?
    (start stop : Nat)
    (cs : List Char) : Option (List Char) :=
  (dropBytes? start cs).bind (takeBytes? (stop - start))

/-
  The place of a number in an increasing list, or else the
  place at which it would have to be put in.
-/
def searchSorted (ns : List Nat) (n : Nat) : Except Nat Nat :=
  let below := (ns.takeWhile (· < n)).length
  if ns[below]? = some n then .ok below else .error below

namespace LineIndex

/- The index of a text. -/
def ofText (text : String) : LineIndex :=
  ⟨text.toList⟩

/- The bytes behind the line feeds of a text at some byte. -/
def lineStartsFrom : Nat → List Char → List Nat
  | _, [] => []
  | byte, c :: cs =>
      let next := byte + c.utf8Size
      if c = '\n' then next :: lineStartsFrom next cs
      else lineStartsFrom next cs

/- The bytes at which lines start. -/
def lineStarts (index : LineIndex) : List Nat :=
  0 :: lineStartsFrom 0 index.chars

/- The line, counted from zero, that a byte belongs to. -/
def lineOf (index : LineIndex) (offset : Nat) : Nat :=
  match searchSorted index.lineStarts offset with
  | .ok line => line
  | .error line => line - 1

/-
  The line and column of a byte offset. An offset inside a
  character or behind the text counts as that many columns
  behind the start of its line.
-/
def position
    (index : LineIndex)
    (offset : Nat) : Nat × Nat :=
  let line := index.lineOf offset
  let start := index.lineStarts.getD line 0
  let col :=
    match textBetween? start offset index.chars with
    | some text => text.length
    | none => offset - start
  (line + 1, col)

/- The lines and columns of a stretch. -/
def location
    (index : LineIndex)
    (range : ByteRange) : Location :=
  .between (index.position range.start)
    (index.position range.stop)

/-
  The length of what opens a string literal: the letters in
  front of it, then one quote or three.
-/
def openingLength (literal : List Char) : Nat :=
  let letters := literal.takeWhile Char.isAlpha
  match literal.dropWhile Char.isAlpha with
  | a :: b :: c :: _ =>
      if (a = '"' ∨ a = '\'') ∧ b = a ∧ c = a then
        letters.length + 3
      else letters.length + 1
  | _ => letters.length + 1

/-
  The location of a stretch inside a string literal, given
  relative to the body of the literal.
-/
def relocate
    (index : LineIndex)
    (inner outer : ByteRange) : Location :=
  let opening :=
    match dropBytes? outer.start index.chars with
    | some literal => openingLength literal
    | none => 1
  let base := outer.start + opening
  .between (index.position (base + inner.start))
    (index.position (base + inner.stop))

end LineIndex

end SigCheck
