import SigCheck.Grammar.Parse

/-
  The operators, and the tokens that may stand behind the
  parts of a program. A fault of a finished part counts only
  once such a token is seen; any other token is at fault
  itself.

  Key definitions include:
    * `binaryLevels`, `comparisonSigns`, `augmentedSigns`
    * `Follow`, `Follow.has`
    * `Follow.test`, `Follow.atom`, `Follow.firstAtom`
    * `Parse.failBefore`
-/

namespace SigCheck

------------------------------------------------------------
-- Operators
------------------------------------------------------------

/- The operators between operands, loosest first. -/
def binaryLevels : List (List (String × BinaryOp)) :=
  [[("|", .bitOr)], [("^", .bitXor)], [("&", .bitAnd)],
    [("<<", .shiftLeft), (">>", .shiftRight)],
    [("+", .add), ("-", .sub)],
    [("*", .mul), ("/", .div), ("//", .floorDiv),
      ("%", .mod), ("@", .matMul)]]

/- The operator of a level that a token stands for. -/
def binaryOpOf?
    (level : List (String × BinaryOp)) :
    Token → Option BinaryOp
  | .symbol sign => level.lookup sign
  | _ => none

/- The signs that compare two operands. -/
def comparisonSigns : List String :=
  ["==", "!=", "<", "<=", ">", ">=", "in"]

/- The signs that change a variable by a value. -/
def augmentedSigns : List String :=
  ["+=", "-=", "*=", "/=", "//=", "%=", "@=", "&=", "|=",
    "^=", "<<=", ">>=", "**="]

/- The token changes a variable by a value. -/
def isAugmented : Token → Bool
  | .symbol sign => augmentedSigns.contains sign
  | _ => false

------------------------------------------------------------
-- Followers
------------------------------------------------------------

/- What may stand behind a part of a program. -/
structure Follow where
  signs : List String
  lineEnd : Bool

namespace Follow

/- The token may stand behind the part. -/
def has (f : Follow) : Token → Bool
  | .newline => f.lineEnd
  | .symbol sign => f.signs.contains sign
  | _ => false

/- Signs that make an atom the left part of something. -/
def continuing : List String :=
  ["(", "[", ".", "**", "is", "not", "and", "or", "if"]
    ++ comparisonSigns ++ binaryLevels.flatten.map (·.1)

/- What may stand behind a test. -/
def test : Follow :=
  ⟨[")", "]", "\x7d", ",", ":", ";", "=", "as", "async",
      "for", "from"] ++ augmentedSigns, true⟩

/- What may stand behind an atom. -/
def atom : Follow :=
  ⟨"else" :: continuing ++ test.signs, true⟩

/- What may stand behind an atom that a `with` starts with. -/
def firstAtom : Follow :=
  ⟨[",", ":", "as"] ++ continuing, false⟩

/- What may stand behind a pattern. -/
def pattern : Follow :=
  ⟨[":", "if", ",", ")", "]", "\x7d"], false⟩

/- What may stand behind a string that is a pattern. -/
def literalPattern : Follow :=
  ⟨["|", "as"] ++ pattern.signs, false⟩

/- What stands behind the key of a mapping pattern. -/
def patternKey : Follow :=
  ⟨[":"], false⟩

/- What may stand behind the parameters of a function. -/
def parameters : Follow :=
  ⟨["->", ":"], false⟩

end Follow

namespace Parse

/-
  Fail with the fault of a part that was read, if the next
  token may stand behind the part; otherwise that token is
  not expected.
-/
def failBefore
    {α : Type}
    (follow : Follow)
    (fault : ParseFault)
    (offset : Nat) : Parse α := do
  if (← peek).any follow.has then failAt fault offset
  else unexpected

/- What may stand behind an atom that starts at a byte. -/
def followOfAtom (start : Nat) : Parse Follow := do
  if (← get).itemsStart == some start then
    return .firstAtom
  else return .atom

/- The items of a `with` start at the next token. -/
def startItems : Parse Unit := do
  let start ← here
  modify fun cursor => { cursor with itemsStart := some start }

end Parse

end SigCheck
