import SigCheck.Toml.Scalar
import SigCheck.Toml.Tree

/-
  Reading configuration texts line by line. Reading fails
  without a reason: a text is a configuration or it is not.

  Key definitions include:
    * `TomlReader`
    * `TomlReader.basicText`, `TomlReader.plainText`
    * `TomlReader.keyPath`
    * `TomlReader.value`
    * `TomlLine`, `TomlReader.lines`
    * `TomlValue.ofText?`
-/

namespace SigCheck

/- Reading takes characters from the front of a text. -/
abbrev TomlReader := StateT (List Char) Option

namespace TomlReader

variable {α : Type}

------------------------------------------------------------
-- Characters
------------------------------------------------------------

/- The next character. -/
def peek : TomlReader (Option Char) := do
  return (← get).head?

/- Leave out so many characters. -/
def skip (count : Nat) : TomlReader Unit :=
  modify fun cs => cs.drop count

/- Take the next character. -/
def next : TomlReader Char := do
  match ← get with
  | c :: cs =>
      set cs
      return c
  | [] => failure

/- Take the given character. -/
def expect (c : Char) : TomlReader Unit := do
  guard ((← next) == c)

/- Take the characters in front that satisfy a test. -/
def takeWhile
    (test : Char → Bool) : TomlReader (List Char) := do
  let (taken, rest) := (← get).span test
  set rest
  return taken

/- Leave out blanks and tabs. -/
def skipBlanks : TomlReader Unit := do
  let _ ← takeWhile fun c => c == ' ' || c == '\t'

/- The length of the line end in front, if there is one. -/
def lineEnd? : List Char → Option Nat
  | '\n' :: _ => some 1
  | '\r' :: '\n' :: _ => some 2
  | _ => none

/- Take a line end. -/
def expectLineEnd : TomlReader Unit := do
  match lineEnd? (← get) with
  | some length => skip length
  | none => failure

/- Leave out a line end, if there is one. -/
def skipLineEnd : TomlReader Unit := do
  skip ((lineEnd? (← get)).getD 0)

/-
  Read items until one is missing. Each takes characters, so
  their number is bounded by that of the characters.
-/
def untilMissing
    (item : TomlReader (Option α)) :
    Nat → TomlReader (List α)
  | 0 => return []
  | fuel + 1 => do
      match ← item with
      | none => return []
      | some a => return a :: (← untilMissing item fuel)

/- Read items until one is missing. -/
def many
    (item : TomlReader (Option α)) :
    TomlReader (List α) := do
  untilMissing item ((← get).length + 1)

------------------------------------------------------------
-- Comments
------------------------------------------------------------

/- The character can stand in a text as it is. -/
def isPlain (c : Char) : Bool :=
  c == '\t' || (' ' ≤ c && c != '\x7f')

/- Take a comment, without the line end behind it. -/
def comment : TomlReader Unit := do
  expect '#'
  let _ ← takeWhile fun c => isPlain c || c == '\x7f'

/- Take what may stand between values over several lines. -/
def skipSpace : TomlReader Unit := do
  let _ ← many do
    skipBlanks
    let cs ← get
    if cs.head? == some '#' then
      comment
      expectLineEnd
      return some ()
    else
      match lineEnd? cs with
      | some length =>
          skip length
          return some ()
      | none => return none

/- The line may end here, after a comment. -/
def endLine : TomlReader Unit := do
  skipBlanks
  if (← peek) == some '#' then comment
  if (← peek).isSome then expectLineEnd

------------------------------------------------------------
-- Texts
------------------------------------------------------------

/- A character by the hexadecimal digits of its number. -/
def numberedChar (count : Nat) : TomlReader (List Char) := do
  let digits := (← get).take count
  guard (digits.length == count && digits.all isHexDigit)
  skip count
  let code := digitsValue 16 digits
  guard (code < 0x110000 && !(0xD800 ≤ code && code < 0xE000))
  return [Char.ofNat code]

/- What an escape behind its backslash stands for. -/
def escape : TomlReader (List Char) := do
  match ← next with
  | 'b' => return ['\x08']
  | 't' => return ['\t']
  | 'n' => return ['\n']
  | 'f' => return ['\x0c']
  | 'r' => return ['\r']
  | '"' => return ['"']
  | '\\' => return ['\\']
  | 'u' => numberedChar 4
  | 'U' => numberedChar 8
  | _ => failure

/-
  A backslash at the end of a line joins it with the next
  one that is not blank.
-/
def joinLines : TomlReader Unit := do
  skipBlanks
  expectLineEnd
  let _ ← many do
    let cs ← get
    match lineEnd? cs with
    | some length =>
        skip length
        return some ()
    | none =>
        if cs.head? == some ' ' || cs.head? == some '\t' then
          skip 1
          return some ()
        else return none

/- A piece of a text on one line. -/
def shortPiece
    (quote : Char)
    (escapes : Bool) :
    TomlReader (Option (List Char)) := do
  let c ← next
  if c == quote then return none
  else if escapes && c == '\\' then return some (← escape)
  else
    guard (isPlain c)
    return some [c]

/- A text on one line behind its opening quote. -/
def shortText
    (quote : Char)
    (escapes : Bool) : TomlReader (List Char) := do
  return (← many (shortPiece quote escapes)).flatten

/-
  A piece of a text over several lines. Three quotes end the
  text; one or two in front of them belong to it.
-/
def longPiece
    (quote : Char)
    (escapes : Bool) :
    TomlReader (Option (List Char)) := do
  let cs ← get
  match lineEnd? cs with
  | some length =>
      skip length
      return some ['\n']
  | none =>
      let quotes := cs.takeWhile (· == quote)
      if 3 ≤ quotes.length then return none
      else if !quotes.isEmpty then
        skip quotes.length
        return some quotes
      else
        let c ← next
        if escapes && c == '\\' then
          (do joinLines; return some []) <|> some <$> escape
        else
          guard (isPlain c)
          return some [c]

/- A text over several lines behind its opening quotes. -/
def longText
    (quote : Char)
    (escapes : Bool) : TomlReader (List Char) := do
  skipLineEnd
  let pieces ← many (longPiece quote escapes)
  let quotes := (← get).takeWhile (· == quote)
  guard (3 ≤ quotes.length)
  let inside := min 2 (quotes.length - 3)
  skip (inside + 3)
  return pieces.flatten ++ List.replicate inside quote

/- A text in quotes of either kind. -/
def quotedText (quote : Char) : TomlReader String := do
  let escapes := quote == '"'
  if (← get).take 3 == [quote, quote, quote] then
    skip 3
    return String.ofList (← longText quote escapes)
  else
    skip 1
    return String.ofList (← shortText quote escapes)

------------------------------------------------------------
-- Keys
------------------------------------------------------------

/- The character can stand in a key without quotes. -/
def isBare (c : Char) : Bool :=
  c.isAlphanum || c == '_' || c == '-'

/- A part of a key. -/
def simpleKey : TomlReader String := do
  match ← peek with
  | some '"' =>
      skip 1
      return String.ofList (← shortText '"' true)
  | some '\'' =>
      skip 1
      return String.ofList (← shortText '\'' false)
  | _ =>
      let name ← takeWhile isBare
      guard !name.isEmpty
      return String.ofList name

/- Keys have fewer parts, and values fewer layers, than this. -/
def depthLimit : Nat := 80

/- A key: parts with points between them. -/
def keyPath : TomlReader (List String) := do
  skipBlanks
  let first ← simpleKey
  skipBlanks
  let rest ← many do
    if (← peek) == some '.' then
      skip 1
      skipBlanks
      let part ← simpleKey
      skipBlanks
      return some part
    else return none
  guard (rest.length + 1 < depthLimit)
  return first :: rest

------------------------------------------------------------
-- Values
------------------------------------------------------------

/- The character can stand in a word. -/
def isWordChar (c : Char) : Bool :=
  c.isAlphanum || c == '_' || c == '-' || c == '+'
    || c == '.' || c == ':'

/-
  A word as it stands in the text. A blank between a date
  and a time of day belongs to it.
-/
def word : TomlReader (List Char) := do
  let first ← takeWhile isWordChar
  match ← get with
  | ' ' :: c :: _ =>
      if c.isDigit && TomlWord.afterDate first == some [] then
        skip 1
        return first ++ ' ' :: (← takeWhile isWordChar)
      else return first
  | _ => return first

/- A value that holds no others. -/
def simpleValue : TomlReader TomlValue := do
  match ← peek with
  | some '"' => return .text (← quotedText '"')
  | some '\'' => return .text (← quotedText '\'')
  | _ =>
      match TomlValue.ofWord? (← word) with
      | some v => return v
      | none => failure

/- The items of a list, and the bracket that closes it. -/
def arrayItems
    (item : TomlReader TomlValue) :
    TomlReader (List TomlValue) := do
  let items ← many do
    skipSpace
    if (← peek) == some ']' then return none
    else
      let v ← item
      skipSpace
      if (← peek) == some ',' then skip 1
      else guard ((← peek) == some ']')
      return some v
  expect ']'
  return items

/- A key with its value. -/
def entry
    (item : TomlReader TomlValue) :
    TomlReader (List String × TomlValue) := do
  let path ← keyPath
  expect '='
  skipBlanks
  return (path, ← item)

/- The entries of a table on one line. -/
def lineEntries
    (item : TomlReader TomlValue) :
    TomlReader (List (List String × TomlValue)) := do
  skipBlanks
  if (← peek) == some '\x7d' then
    skip 1
    return []
  else
    let first ← entry item
    skipBlanks
    let rest ← many do
      if (← peek) == some ',' then
        skip 1
        let e ← entry item
        skipBlanks
        return some e
      else return none
    expect '\x7d'
    return first :: rest

/- A value of up to so many layers. -/
def layeredValue : Nat → TomlReader TomlValue
  | 0 => simpleValue
  | depth + 1 => do
      match ← peek with
      | some '[' =>
          skip 1
          return .array (← arrayItems (layeredValue depth))
      | some '\x7b' =>
          skip 1
          let entries ← lineEntries (layeredValue depth)
          match TomlNode.ofEntries entries with
          | some node => return node.value
          | none => failure
      | _ => simpleValue

/- A value. -/
def value : TomlReader TomlValue :=
  layeredValue (depthLimit - 1)

------------------------------------------------------------
-- Lines
------------------------------------------------------------

end TomlReader

/- A line that says something. -/
inductive TomlLine where
  | table (path : List String)
  | item (path : List String)
  | entry (path : List String) (value : TomlValue)

namespace TomlReader

/- The header of a table or of an item of a list. -/
def header : TomlReader TomlLine := do
  expect '['
  if (← peek) == some '[' then
    skip 1
    let path ← keyPath
    expect ']'
    expect ']'
    return .item path
  else
    let path ← keyPath
    expect ']'
    return .table path

/- The next line; nothing at the end of the text. -/
def line : TomlReader (Option (Option TomlLine)) := do
  skipBlanks
  match ← peek with
  | none => return none
  | some '[' => do
      let l ← header
      endLine
      return some (some l)
  | some c =>
      if c == '#' || c == '\n' || c == '\r' then
        endLine
        return some none
      else
        let (path, v) ← entry value
        endLine
        return some (some (.entry path v))

/- The lines of a text. A mark for its encoding may lead. -/
def lines : TomlReader (List TomlLine) := do
  if (← peek) == some '\ufeff' then skip 1
  return (← many line).filterMap id

end TomlReader

------------------------------------------------------------
-- Texts
------------------------------------------------------------

namespace TomlNode

/-
  A line in the table that the last header opened. The path
  of that header goes with the tree.
-/
def addLine
    (state : List String × TomlNode)
    (line : TomlLine) : Option (List String × TomlNode) :=
  let (owner, node) := state
  match line with
  | .table path => do
      return (path, ← node.addTable path)
  | .item path => do
      return (path, ← node.addItem path)
  | .entry path v => do
      return (owner,
        ← node.changeAt false (addEntry path v) owner)

end TomlNode

/- The table that a text writes. -/
def TomlValue.ofText? (text : String) : Option TomlValue := do
  let (lines, rest) ← TomlReader.lines.run text.toList
  guard rest.isEmpty
  let (_, node) ← lines.foldlM TomlNode.addLine ([], .empty)
  return node.value

end SigCheck
