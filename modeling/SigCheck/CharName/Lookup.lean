import SigCheck.CharName.Ancient
import SigCheck.CharName.Asian
import SigCheck.CharName.Extended
import SigCheck.CharName.Hieroglyphic
import SigCheck.CharName.Ideographic
import SigCheck.CharName.Indic
import SigCheck.CharName.MiddleEastern
import SigCheck.CharName.Notation
import SigCheck.CharName.Pictorial
import SigCheck.CharName.Presentation
import SigCheck.CharName.Shapes
import SigCheck.CharName.SouthAsian
import SigCheck.CharName.Symbols
import SigCheck.CharName.Western
import SigCheck.Decimal.Digits
import SigCheck.Grammar.Letters

/-
  The character that has a name. The names are those of the
  fifteenth edition of the character standard without its
  other names; capitals and small letters do not differ.

  Key definitions include:
    * `CharName.table`
    * `CharName.coded?`
    * `CharName.syllable?`
    * `CharName.find?`
-/

namespace SigCheck

namespace CharName

------------------------------------------------------------
-- Names in Tables
------------------------------------------------------------

/- All runs of names. -/
def table : List NameRun :=
  [western, middleEastern, southAsian, asian, extended,
    symbols, shapes, ideographic, presentation, ancient,
    indic, hieroglyphic, notational, pictorial].flatten

------------------------------------------------------------
-- Names with Numerals
------------------------------------------------------------

/-
  Names that end with the numeral of the character. A
  `padded` numeral may have zeros in front up to five digits.
-/
structure CodedNames where
  stem : String
  padded : Bool
  ranges : List CodeRange

/- The kinds of names that end with a numeral. -/
def codedNames : List CodedNames :=
  [⟨"CJK UNIFIED IDEOGRAPH-", true,
      [(0x3400, 0x4DBF), (0x4E00, 0x9FFF), (0x20000, 0x2A6DF),
        (0x2A700, 0x2B739), (0x2B740, 0x2B81D),
        (0x2B820, 0x2CEA1), (0x2CEB0, 0x2EBE0),
        (0x30000, 0x3134A), (0x31350, 0x323AF)]⟩,
    ⟨"CJK COMPATIBILITY IDEOGRAPH-", false,
      [(0xF900, 0xFA6D), (0xFA70, 0xFAD9),
        (0x2F800, 0x2FA1D)]⟩,
    ⟨"KHITAN SMALL SCRIPT CHARACTER-", false,
      [(0x18B00, 0x18CD5)]⟩,
    ⟨"NUSHU CHARACTER-", false, [(0x1B170, 0x1B2FB)]⟩]

/- The number of digits of the numeral of a character. -/
def numeralLength (c : Char) : Nat :=
  if c.toNat < 0x10000 then 4 else 5

/- What is left of a name behind its beginning. -/
def behind?
    (stem : String)
    (name : List Char) : Option (List Char) :=
  if stem.toList.isPrefixOf name then
    some (name.drop stem.length)
  else none

/- The character whose numeral ends a name. -/
def coded?
    (name : List Char)
    (names : CodedNames) : Option Char := do
  let digits ← behind? names.stem name
  let c := Char.ofNat (digitsValue 16 digits)
  let fits :=
    if names.padded then digits.length ≤ 5
    else digits.length = numeralLength c
  if fits && digits.all isHexDigit
      && isInRanges names.ranges c then some c
  else none

------------------------------------------------------------
-- Names of Syllables
------------------------------------------------------------

/- The consonants with which a syllable starts. -/
def leadNames : List String :=
  ["G", "GG", "N", "D", "DD", "R", "M", "B", "BB", "S", "SS",
    "", "J", "JJ", "C", "K", "T", "P", "H"]

/- The vowels of syllables. -/
def vowelNames : List String :=
  ["A", "AE", "YA", "YAE", "EO", "E", "YEO", "YE", "O", "WA",
    "WAE", "OE", "YO", "U", "WEO", "WE", "WI", "YU", "EU",
    "YI", "I"]

/- The consonants with which a syllable ends. -/
def tailNames : List String :=
  ["", "G", "GG", "GS", "N", "NJ", "NH", "D", "L", "LG", "LM",
    "LB", "LS", "LT", "LP", "LH", "M", "B", "BS", "S", "SS",
    "NG", "J", "C", "K", "T", "P", "H"]

/- The letter occurs in vowels. -/
def isVowelLetter (c : Char) : Bool :=
  ['A', 'E', 'I', 'O', 'U', 'W', 'Y'].contains c

/-
  The character of a syllable. Syllables stand in the order
  of their first consonants, then vowels, then last ones.
-/
def syllable? (name : List Char) : Option Char := do
  let letters ← behind? "HANGUL SYLLABLE " name
  let lead := letters.takeWhile (!isVowelLetter ·)
  let rest := letters.drop lead.length
  let vowel := rest.takeWhile isVowelLetter
  let tail := rest.drop vowel.length
  let i ← leadNames.idxOf? (String.ofList lead)
  let j ← vowelNames.idxOf? (String.ofList vowel)
  let k ← tailNames.idxOf? (String.ofList tail)
  let inBlock :=
    (i * vowelNames.length + j) * tailNames.length + k
  return Char.ofNat (0xAC00 + inBlock)

------------------------------------------------------------
-- All Names
------------------------------------------------------------

/- The character that has a name. -/
def find? (name : List Char) : Option Char :=
  let name := name.map Char.toUpper
  (syllable? name).orElse fun _ =>
    (codedNames.findSome? (coded? name)).orElse fun _ =>
      table.findSome? (NameRun.find? name)

end CharName

end SigCheck
