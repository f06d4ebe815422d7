import SigCheck.Decimal.Digits

/-
  Texts, keys and lists as configuration texts write them.
  A text is written without escapes if that can be done.

  Key definitions include:
    * `TomlText.ofString`
    * `TomlText.ofKey`
    * `TomlText.ofList`
-/

namespace SigCheck

namespace TomlText

------------------------------------------------------------
-- Characters
------------------------------------------------------------

/- The character needs an escape wherever it stands. -/
def isControl (c : Char) : Bool :=
  (c.toNat < 32 && c != '\t' && c != '\n') || c.toNat = 127

/- The length of the longest run of a character. -/
def longestRun (quote : Char) (cs : List Char) : Nat :=
  let step := fun (run : Nat × Nat) (c : Char) =>
    let current := if c == quote then run.1 + 1 else 0
    (current, max run.2 current)
  (cs.foldl step (0, 0)).2

/- The escape of a control character by its number. -/
def numbered (c : Char) : List Char :=
  let digit := fun (n : Nat) => (hexDigit n).toUpper
  ['\\', 'u', '0', '0', digit (c.toNat / 16),
    digit (c.toNat % 16)]

/- A character other than a quote between double quotes. -/
def escaped (lineEnds : Bool) (c : Char) : List Char :=
  match c with
  | '\x08' => ['\\', 'b']
  | '\t' => ['\\', 't']
  | '\n' => if lineEnds then ['\n'] else ['\\', 'n']
  | '\x0c' => ['\\', 'f']
  | '\r' => ['\\', 'r']
  | '\\' => ['\\', '\\']
  | c => if isControl c then numbered c else [c]

/-
  Characters between double quotes. A quote is escaped when
  more than the given number would follow one another.
-/
def escapedBody
    (lineEnds : Bool)
    (allowed : Nat) :
    Nat → List Char → List Char
  | _, [] => []
  | run, '"' :: cs =>
      if run < allowed then
        '"' :: escapedBody lineEnds allowed (run + 1) cs
      else
        '\\' :: '"' :: escapedBody lineEnds allowed 0 cs
  | _, c :: cs =>
      escaped lineEnds c ++ escapedBody lineEnds allowed 0 cs

------------------------------------------------------------
-- Texts
------------------------------------------------------------

/- Between double quotes on one line. -/
def basic (cs : List Char) : List Char :=
  '"' :: escapedBody false 0 0 cs ++ ['"']

/- Between single quotes on one line. -/
def plain (cs : List Char) : List Char :=
  '\'' :: cs ++ ['\'']

/- A line end behind opening quotes does not count. -/
def opening (quote : Char) (cs : List Char) : List Char :=
  [quote, quote, quote]
    ++ (if cs.contains '\n' then ['\n'] else [])

/- Between double quotes over several lines. -/
def longBasic (cs : List Char) : List Char :=
  opening '"' cs ++ escapedBody true 2 0 cs
    ++ ['"', '"', '"']

/- Between single quotes over several lines. -/
def longPlain (cs : List Char) : List Char :=
  opening '\'' cs ++ cs ++ ['\'', '\'', '\'']

/- The first of the four ways that needs no escape. -/
def ofChars (cs : List Char) : List Char :=
  let controls := cs.any isControl
  let slashes := cs.contains '\\'
  let lineEnds := cs.contains '\n'
  let doubles := longestRun '"' cs
  let singles := longestRun '\'' cs
  if !controls && !slashes && doubles = 0 && !lineEnds then
    basic cs
  else if !controls && singles = 0 && !lineEnds then plain cs
  else if !controls && !slashes && doubles ≤ 2 then
    longBasic cs
  else if !controls && singles ≤ 2 then longPlain cs
  else if lineEnds then longBasic cs
  else basic cs

/- A text in quotes. -/
def ofString (text : String) : String :=
  String.ofList (ofChars text.toList)

------------------------------------------------------------
-- Keys
------------------------------------------------------------

/- The character can stand in a key without quotes. -/
def isBare (c : Char) : Bool :=
  c.isAlphanum || c == '_' || c == '-'

/- A part of a key, in quotes if it needs them. -/
def ofKey (key : String) : String :=
  let cs := key.toList
  let controls := cs.any isControl || cs.contains '\n'
  if !cs.isEmpty && cs.all isBare then key
  else if !controls && (cs.contains '"' || cs.contains '\\')
      && !cs.contains '\'' then
    String.ofList (plain cs)
  else String.ofList (basic cs)

------------------------------------------------------------
-- Lists
------------------------------------------------------------

/- A list, with a line for each item if it has several. -/
def ofList : List String → String
  | [] => "[]"
  | [item] => "[" ++ item ++ "]"
  | items =>
      "[\n"
        ++ String.join
          (items.map fun item => "    " ++ item ++ ",\n")
        ++ "]"

end TomlText

end SigCheck
