import SigCheck.Decimal.Shortest

/-
  Tokens of the checked language with the text that names
  them in messages.

  Key definitions include:
    * `StringKind`
    * `Token`, `Token.text`
    * `Lexeme`
    * `isKeyword`
-/

namespace SigCheck

------------------------------------------------------------
-- String Kinds
------------------------------------------------------------

/- What the letters before a string literal say. -/
structure StringKind where
  raw : Bool := false
  bytes : Bool := false
  formatted : Bool := false
  unicode : Bool := false
  deriving DecidableEq, Repr, Inhabited

namespace StringKind

/- The kind that one letter announces. -/
def ofLetter? (c : Char) : Option StringKind :=
  match c.toLower with
  | 'r' => some { raw := true }
  | 'b' => some { bytes := true }
  | 'f' => some { formatted := true }
  | 'u' => some { unicode := true }
  | _ => none

/- The kind that two letters announce. -/
def ofLetters? (c d : Char) : Option StringKind :=
  match c.toLower, d.toLower with
  | 'r', 'b' => some { raw := true, bytes := true }
  | 'b', 'r' => some { raw := true, bytes := true }
  | 'r', 'f' => some { raw := true, formatted := true }
  | 'f', 'r' => some { raw := true, formatted := true }
  | _, _ => none

/- The letters in their usual order. -/
def text (k : StringKind) : String :=
  (if k.raw then "r" else "")
    ++ (if k.formatted then "f" else "")
    ++ (if k.bytes then "b" else "")
    ++ (if k.unicode then "u" else "")

/- The number of letters. -/
def length (k : StringKind) : Nat :=
  k.text.length

end StringKind

------------------------------------------------------------
-- Tokens
------------------------------------------------------------

/- A string literal as it stands between its quotes. -/
structure StringToken where
  kind : StringKind
  triple : Bool
  body : List Char
  deriving DecidableEq, Repr, Inhabited

/- A token. Keywords and operators are symbols. -/
inductive Token where
  | name (id : String)
  | symbol (sign : String)
  | int (value : Nat)
  | float (value : Decimal)
  | imaginary (value : Decimal)
  | string (literal : StringToken)
  | newline
  | indent
  | dedent
  deriving DecidableEq, Repr, Inhabited

namespace Token

/- The quotes around a literal. -/
def quotes (triple : Bool) : String :=
  if triple then "\"\"\"" else "\""

/- How a message names the token. -/
def text : Token → String
  | name id => "'" ++ id ++ "'"
  | symbol sign => "'" ++ sign ++ "'"
  | int value => "'" ++ toString value ++ "'"
  | float value => "'" ++ value.nearestText ++ "'"
  | imaginary value => "0j" ++ value.nearestText
  | string literal =>
      literal.kind.text ++ quotes literal.triple
        ++ String.ofList literal.body
        ++ quotes literal.triple
  | newline => "Newline"
  | indent => "Indent"
  | dedent => "Dedent"

end Token

/- A token with its place. -/
structure Lexeme where
  token : Token
  start : Nat
  stop : Nat
  deriving DecidableEq, Repr, Inhabited

------------------------------------------------------------
-- Keywords
------------------------------------------------------------

/- The reserved words. -/
def keywords : List String :=
  ["False", "None", "True", "and", "as", "assert", "async",
    "await", "break", "class", "continue", "def", "del",
    "elif", "else", "except", "finally", "for", "from",
    "global", "if", "import", "in", "is", "lambda",
    "nonlocal", "not", "or", "pass", "raise", "return",
    "try", "while", "with", "yield"]

/- The word is reserved everywhere. -/
def isKeyword (word : String) : Bool :=
  keywords.contains word

/- Words that are reserved only where a statement starts. -/
def softKeywords : List String :=
  ["match", "case", "type"]

/- The word is reserved only where a statement starts. -/
def isSoftKeyword (word : String) : Bool :=
  softKeywords.contains word

end SigCheck
