import SigCheck.Decimal.Digits
import SigCheck.Decimal.Shortest
import SigCheck.Toml.Value

/-
  Words of configuration texts: truth values, numbers, and
  moments in time. A word means one value or none.

  Key definitions include:
    * `numeralDigits`
    * `TomlWord.integer?`, `TomlWord.isFloat`
    * `TomlWord.isMoment`
    * `TomlValue.ofWord?`
-/

namespace SigCheck

------------------------------------------------------------
-- Digits
------------------------------------------------------------

/-
  The digits of a numeral. Single underscores may stand
  between digits.
-/
def numeralDigits
    (isDigit : Char → Bool) :
    List Char → Option (List Char)
  | [] => none
  | [c] => if isDigit c then some [c] else none
  | c :: '_' :: cs =>
      if isDigit c then
        (numeralDigits isDigit cs).map (c :: ·)
      else none
  | c :: cs =>
      if isDigit c then
        (numeralDigits isDigit cs).map (c :: ·)
      else none

namespace TomlWord

/- The digits of a whole number: no zero leads others. -/
def wholeDigits (cs : List Char) : Option (List Char) :=
  match numeralDigits Char.isDigit cs with
  | some ('0' :: _ :: _) => none
  | digits => digits

------------------------------------------------------------
-- Integers
------------------------------------------------------------

/- One above the greatest integer of 64 bits with a sign. -/
def integerBound : Int := 9223372036854775808

/- The number is one of 64 bits with a sign. -/
def fits (n : Int) : Bool :=
  -integerBound ≤ n && n < integerBound

/- The number that digits of a base write. -/
def inBase (base : Nat) (cs : List Char) : Option Int :=
  (numeralDigits (isDigitOf base) cs).map fun digits =>
    (digitsValue base digits : Int)

/- The number that decimal digits write. -/
def inTens (cs : List Char) : Option Int :=
  (wholeDigits cs).map fun digits =>
    (digitsValue 10 digits : Int)

/- The integer that a word writes, of whatever size. -/
def anyInteger? : List Char → Option Int
  | '0' :: 'x' :: cs => inBase 16 cs
  | '0' :: 'o' :: cs => inBase 8 cs
  | '0' :: 'b' :: cs => inBase 2 cs
  | '+' :: cs => inTens cs
  | '-' :: cs => (inTens cs).map (- ·)
  | cs => inTens cs

/- The integer that a word writes. -/
def integer? (word : List Char) : Option Int :=
  (anyInteger? word).filter fits

------------------------------------------------------------
-- Floats
------------------------------------------------------------

/- The digits and underscores in front, and the rest. -/
def spanDigits (cs : List Char) : List Char × List Char :=
  cs.span fun c => c.isDigit || c == '_'

/- The sign in front, and the rest. -/
def spanSign : List Char → Bool × List Char
  | '+' :: cs => (false, cs)
  | '-' :: cs => (true, cs)
  | cs => (false, cs)

/- The exponent that a word ends with. -/
def exponent? : List Char → Option Int
  | [] => none
  | e :: cs => do
      guard (e == 'e' || e == 'E')
      let (negative, cs) := spanSign cs
      let digits ← numeralDigits Char.isDigit cs
      let size : Int := digitsValue 10 digits
      return if negative then -size else size

/-
  The numeral that a word without its sign writes. It has a
  fraction, an exponent or both.
-/
def decimal? (cs : List Char) : Option Decimal := do
  let (whole, rest) := spanDigits cs
  let whole ← wholeDigits whole
  match rest with
  | '.' :: cs => do
      let (fraction, rest) := spanDigits cs
      let fraction ← numeralDigits Char.isDigit fraction
      let exponent ←
        if rest.isEmpty then some 0 else exponent? rest
      return ⟨digitsValue 10 (whole ++ fraction),
        exponent - fraction.length⟩
  | rest => do
      return ⟨digitsValue 10 whole, ← exponent? rest⟩

/-
  The word writes a number with a fraction or an exponent.
  Only a negative one may be too large.
-/
def isFloat (word : List Char) : Bool :=
  let (negative, cs) := spanSign word
  cs == ['i', 'n', 'f'] || cs == ['n', 'a', 'n']
    || (decimal? cs).any fun d => negative || !d.isInfinite

------------------------------------------------------------
-- Moments
------------------------------------------------------------

/- A number of so many digits within bounds, and the rest. -/
def bounded
    (count low high : Nat)
    (cs : List Char) : Option (Nat × List Char) := do
  let digits := cs.take count
  guard (digits.length == count && digits.all Char.isDigit)
  let n := digitsValue 10 digits
  guard (low ≤ n && n ≤ high)
  return (n, cs.drop count)

/- What follows a sign. -/
def after (sign : Char) : List Char → Option (List Char)
  | c :: cs => if c == sign then some cs else none
  | [] => none

/- The year has a day more than others. -/
def isLeap (year : Nat) : Bool :=
  year % 4 == 0 && (year % 100 != 0 || year % 400 == 0)

/- The number of days in a month. -/
def daysIn (year month : Nat) : Nat :=
  if month = 2 then (if isLeap year then 29 else 28)
  else if month = 4 || month = 6 || month = 9 || month = 11
  then 30
  else 31

/- What follows a date. -/
def afterDate (cs : List Char) : Option (List Char) := do
  let (year, cs) ← bounded 4 0 9999 cs
  let (month, cs) ← bounded 2 1 12 (← after '-' cs)
  let (_, cs) ←
    bounded 2 1 (daysIn year month) (← after '-' cs)
  return cs

/- What follows an hour and a minute. -/
def afterMinute (cs : List Char) : Option (List Char) := do
  let (_, cs) ← bounded 2 0 23 cs
  let (_, cs) ← bounded 2 0 59 (← after ':' cs)
  return cs

/- What follows a time of day, a leap second among them. -/
def afterTime (cs : List Char) : Option (List Char) := do
  let cs ← afterMinute cs
  let (_, cs) ← bounded 2 0 60 (← after ':' cs)
  match cs with
  | '.' :: more =>
      let rest := more.dropWhile Char.isDigit
      return if rest.length < more.length then rest else cs
  | cs => return cs

/- The word writes a distance from world time, or nothing. -/
def isOffset : List Char → Bool
  | [] => true
  | ['Z'] => true
  | ['z'] => true
  | '+' :: cs => afterMinute cs == some []
  | '-' :: cs => afterMinute cs == some []
  | _ => false

/- The word writes a date, a time of day or both. -/
def isMoment (word : List Char) : Bool :=
  match afterDate word with
  | none => afterTime word == some []
  | some [] => true
  | some (c :: cs) =>
      (c == 'T' || c == 't' || c == ' ')
        && (afterTime cs).any isOffset

end TomlWord

------------------------------------------------------------
-- Words
------------------------------------------------------------

/- The value that a word writes. -/
def TomlValue.ofWord? (word : List Char) :
    Option TomlValue :=
  if word == ['t', 'r', 'u', 'e'] then some (.boolean true)
  else if word == ['f', 'a', 'l', 's', 'e'] then
    some (.boolean false)
  else
    match TomlWord.integer? word with
    | some n => some (.integer n)
    | none =>
        if TomlWord.isFloat word then
          some (.float (String.ofList word))
        else if TomlWord.isMoment word then
          some (.moment (String.ofList word))
        else none

end SigCheck
