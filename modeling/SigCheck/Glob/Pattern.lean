/-
  Patterns for paths. A star stands for any characters, two
  stars as a whole component for any components, a question
  mark for one character and square brackets for one of a
  class.

  Key definitions include:
    * `CharClass`, `GlobPart`
    * `GlobFault`, `GlobFault.message`
    * `Glob.ofText`
    * `Glob.isMatch`
-/

namespace SigCheck

------------------------------------------------------------
-- Patterns
------------------------------------------------------------

/- A member of a class: one character or a range. -/
inductive CharClass where
  | single (c : Char)
  | range (low : Char) (high : Char)
  deriving DecidableEq, Repr

namespace CharClass

/- The character belongs to the member. -/
def holds (c : Char) : CharClass → Bool
  | single d => c == d
  | range low high => low ≤ c && c ≤ high

/- The members of a class as they are written. -/
def ofChars : List Char → List CharClass
  | a :: '-' :: b :: rest => range a b :: ofChars rest
  | a :: rest => single a :: ofChars rest
  | [] => []

end CharClass

/- A part of a pattern. -/
inductive GlobPart where
  | char (c : Char)
  | anyChar
  | anyText
  | anyComponents
  | within (members : List CharClass)
  | except (members : List CharClass)
  deriving DecidableEq, Repr

/- A pattern by its parts. -/
structure Glob where
  parts : List GlobPart
  deriving DecidableEq, Repr, Inhabited

------------------------------------------------------------
-- Faults
------------------------------------------------------------

/- Why a text is no pattern. -/
inductive GlobCause where
  | tooManyStars
  | partOfComponent
  | openClass
  deriving DecidableEq, Repr

/- What is wrong with a pattern at a character of it. -/
structure GlobFault where
  position : Nat
  cause : GlobCause
  deriving DecidableEq, Repr

/- The words for a cause. -/
def GlobCause.message : GlobCause → String
  | tooManyStars =>
      "wildcards are either regular `*` or recursive `**`"
  | partOfComponent =>
      "recursive wildcards must form a single path component"
  | openClass => "invalid range pattern"

/- What the user reads. -/
def GlobFault.message (f : GlobFault) : String :=
  s!"Pattern syntax error near position {f.position}: "
    ++ f.cause.message

------------------------------------------------------------
-- Reading
------------------------------------------------------------

namespace Glob

/-
  A class behind its opening bracket, with the number of
  characters that it takes. Its first member may be a
  closing bracket.
-/
def readClass
    (cs : List Char) : Option (GlobPart × Nat) :=
  let close := fun (members : List Char) =>
    let inner := members.tail.takeWhile (· != ']')
    if inner.length + 1 < members.length then
      some (members.take 1 ++ inner)
    else none
  match cs with
  | '!' :: members =>
      (close members).map fun inner =>
        (.except (CharClass.ofChars inner), inner.length + 2)
  | members =>
      (close members).map fun inner =>
        (.within (CharClass.ofChars inner), inner.length + 1)

/-
  Two stars have to be a whole component. The second result
  tells whether a slash behind them belongs to them.
-/
def readComponents
    (start : Nat)
    (previous : Option Char)
    (rest : List Char) :
    Except GlobFault (GlobPart × Bool) :=
  if previous == none || previous == some '/' then
    match rest with
    | [] => .ok (.anyComponents, false)
    | '/' :: _ => .ok (.anyComponents, true)
    | _ => .error ⟨start + 2, .partOfComponent⟩
  else .error ⟨start - 1, .partOfComponent⟩

/- The length of the run of stars in front. -/
def starRun (cs : List Char) : Nat :=
  (cs.takeWhile (· == '*')).length

/- Read parts from a position, behind a character. -/
def readParts :
    Nat → Nat → Option Char → List Char →
      Except GlobFault (List GlobPart)
  | 0, _, _, _ => .ok []
  | _ + 1, _, _, [] => .ok []
  | fuel + 1, position, previous, c :: cs => do
      match c with
      | '?' => do
          let rest ← readParts fuel (position + 1) (some c) cs
          return .anyChar :: rest
      | '*' =>
          match starRun cs with
          | 0 => do
              let rest ←
                readParts fuel (position + 1) (some c) cs
              return .anyText :: rest
          | 1 => do
              let behind := cs.drop 1
              let (part, slash) ←
                readComponents position previous behind
              let taken := if slash then 1 else 0
              let rest ←
                readParts fuel (position + 2 + taken)
                  (some (if slash then '/' else '*'))
                  (behind.drop taken)
              return part :: rest
          | _ => .error ⟨position + 2, .tooManyStars⟩
      | '[' =>
          match readClass cs with
          | none => .error ⟨position, .openClass⟩
          | some (part, length) => do
              let rest ←
                readParts fuel (position + 1 + length)
                  (some ']') (cs.drop length)
              return part :: rest
      | c => do
          let rest ← readParts fuel (position + 1) (some c) cs
          return .char c :: rest

/- The pattern that a text is. -/
def ofText (text : String) : Except GlobFault Glob :=
  let cs := text.toList
  (readParts (cs.length + 1) 0 none cs).map fun parts =>
    ⟨parts⟩

------------------------------------------------------------
-- Matching
------------------------------------------------------------

/- A part that stands for one character takes this one. -/
def takes (c : Char) : GlobPart → Bool
  | .char d => c == d
  | .anyChar => true
  | .within members => members.any (·.holds c)
  | .except members => !members.any (·.holds c)
  | .anyText => false
  | .anyComponents => false

/- Some rest of a text, the text among them, passes a test. -/
def someRest (test : List Char → Bool) : List Char → Bool
  | [] => test []
  | c :: cs => test (c :: cs) || someRest test cs

/-
  A rest behind a slash or at the end of a text passes a
  test.
-/
def someComponent
    (test : List Char → Bool) : List Char → Bool
  | [] => test []
  | c :: cs =>
      (c == '/' && test cs) || someComponent test cs

/- Parts match the whole of a text. -/
def partsMatch : List GlobPart → List Char → Bool
  | [], cs => cs.isEmpty
  | .anyText :: parts, cs => someRest (partsMatch parts) cs
  | .anyComponents :: parts, cs =>
      partsMatch parts cs
        || someComponent (partsMatch parts) cs
  | part :: parts, cs =>
      match cs with
      | [] => false
      | c :: cs => takes c part && partsMatch parts cs

/- The pattern matches the whole of a text. -/
def isMatch (g : Glob) (text : String) : Bool :=
  partsMatch g.parts text.toList

/- The text that a pattern is, if it has no wild parts. -/
def plain? (g : Glob) : Option String :=
  (g.parts.mapM fun (part : GlobPart) =>
    match part with
    | .char c => some c
    | _ => none).map String.ofList

/- The pattern has a part for any components. -/
def isRecursive (g : Glob) : Bool :=
  g.parts.any fun part => part == .anyComponents

end Glob

end SigCheck
