import SigCheck.Decimal.Digits
import SigCheck.Grammar.Letters
import SigCheck.Grammar.Token

/-
  The tokens of a source text. A line feed, a carriage
  return and both together are one line end. Lines inside
  brackets are joined; elsewhere the blanks at the start of
  a line make indents and dedents.

  Reading stops at the first fault. The tokens of the step
  in which it happens are lost, so a fault hides an indent
  in front of it.

  Key definitions include:
    * `LexFault`, `LexFailure`
    * `Glyph`, `glyphsOf`
    * `readString`, `readNumber`, `readIndent`
    * `LexState.step`
    * `markSoftKeywords`
    * `TokenStream.ofText`
-/

namespace SigCheck

------------------------------------------------------------
-- Faults
------------------------------------------------------------

/- What can be wrong with the characters of a source. -/
inductive LexFault where
  | openString
  | lineEndInString
  | closedTooMuch
  | textEnd
  | dedentLevel
  | mixedIndent
  | tabsAfterSpaces
  | lineContinuation
  | unknownCharacter (c : Char)
  | numberSyntax
  | numberZeros
  | numberFraction
  | numberDigits
  deriving DecidableEq, Repr

namespace LexFault

/- What the user reads. -/
def message : LexFault → String
  | openString => "Got unexpected string"
  | lineEndInString => "EOL while scanning string literal"
  | closedTooMuch => "Got unexpected nesting"
  | textEnd => "unexpected EOF while parsing"
  | dedentLevel =>
      "unindent does not match any outer indentation level"
  | mixedIndent =>
      "inconsistent use of tabs and spaces in indentation"
  | tabsAfterSpaces =>
      "Tabs not allowed as part of indentation after spaces"
  | lineContinuation =>
      "unexpected character after line continuation character"
  | unknownCharacter c =>
      "Got unexpected token " ++ c.toString
  | numberSyntax => "Invalid Syntax"
  | numberZeros => "Invalid Token"
  | numberFraction => "Invalid decimal literal"
  | numberDigits => "ParseBigIntError \x7b kind: Empty \x7d"

end LexFault

/- A fault with the byte at which it is noticed. -/
structure LexFailure where
  fault : LexFault
  offset : Nat
  deriving DecidableEq, Repr

------------------------------------------------------------
-- Characters
------------------------------------------------------------

/- A character with the number of bytes that it took. -/
structure Glyph where
  char : Char
  width : Nat
  deriving DecidableEq, Repr

/- The characters of a text, every line end being one. -/
def glyphsOf : List Char → List Glyph
  | [] => []
  | '\r' :: '\n' :: cs => ⟨'\n', 2⟩ :: glyphsOf cs
  | '\r' :: cs => ⟨'\n', 1⟩ :: glyphsOf cs
  | c :: cs => ⟨c, c.utf8Size⟩ :: glyphsOf cs

/- Something read, the byte behind it and the rest. -/
structure Reading (α : Type) where
  value : α
  stop : Nat
  rest : List Glyph

/- The characters in front that satisfy a test. -/
def readWhile
    (test : Char → Bool)
    (pos : Nat) : List Glyph → Reading (List Char)
  | [] => ⟨[], pos, []⟩
  | g :: gs =>
      if test g.char then
        let more := readWhile test (pos + g.width) gs
        { more with value := g.char :: more.value }
      else ⟨[], pos, g :: gs⟩

/- The first character, if there is one. -/
def headChar? (gs : List Glyph) : Option Char :=
  gs.head?.map (·.char)

/- The second character, if there is one. -/
def secondChar? (gs : List Glyph) : Option Char :=
  headChar? gs.tail

/- The text goes on with the given characters. -/
def startsWith : List Glyph → List Char → Bool
  | _, [] => true
  | g :: gs, c :: cs => g.char == c && startsWith gs cs
  | [], _ :: _ => false

------------------------------------------------------------
-- Strings
------------------------------------------------------------

/-
  The body of a string literal up to its closing quotes. A
  backslash keeps the character behind it from closing.
-/
def readString
    (quote : Char)
    (triple : Bool)
    (pos : Nat) :
    List Glyph → Except LexFailure (Reading (List Char))
  | [] =>
      .error
        ⟨if triple then .textEnd else .openString, pos⟩
  | g :: gs =>
      if g.char == '\\' then
        match gs with
        | [] =>
            .error
              ⟨if triple then .textEnd else .openString,
                pos + g.width⟩
        | h :: hs => do
            let more ←
              readString quote triple
                (pos + g.width + h.width) hs
            return { more with
              value := '\\' :: h.char :: more.value }
      else if g.char == '\n' && !triple then
        .error ⟨.lineEndInString, pos + g.width⟩
      else if g.char == quote && !triple then
        .ok ⟨[], pos + g.width, gs⟩
      else if g.char == quote
          && startsWith gs [quote, quote] then
        .ok ⟨[], pos + 3, gs.drop 2⟩
      else do
        let more ←
          readString quote triple (pos + g.width) gs
        return { more with value := g.char :: more.value }

/- A string literal behind its letters, at its first quote. -/
def readLiteral
    (kind : StringKind)
    (quote : Char)
    (pos : Nat)
    (gs : List Glyph) :
    Except LexFailure (Reading Token) := do
  let triple := startsWith gs [quote, quote, quote]
  let opening := if triple then 3 else 1
  let body ←
    readString quote triple (pos + opening)
      (gs.drop opening)
  return ⟨.string ⟨kind, triple, body.value⟩, body.stop,
    body.rest⟩

/- The character is a quote. -/
def isQuote (c : Char) : Bool :=
  c == '"' || c == '\''

/-
  The letters of a string literal and its quote, if the text
  goes on with one.
-/
def stringOpening? :
    List Glyph → Option (StringKind × Char)
  | g :: h :: gs =>
      if isQuote h.char then
        (StringKind.ofLetter? g.char).map (·, h.char)
      else
        match gs with
        | i :: _ =>
            if isQuote i.char then
              (StringKind.ofLetters? g.char h.char).map
                (·, i.char)
            else none
        | [] => none
  | _ => none

------------------------------------------------------------
-- Numbers
------------------------------------------------------------

/- Digits of a base, with single underscores between them. -/
def readDigits
    (base : Nat)
    (pos : Nat) : List Glyph → Reading (List Char)
  | [] => ⟨[], pos, []⟩
  | g :: gs =>
      if isDigitOf base g.char then
        let more := readDigits base (pos + g.width) gs
        { more with value := g.char :: more.value }
      else if g.char == '_'
          && (headChar? gs).any (isDigitOf base) then
        readDigits base (pos + g.width) gs
      else ⟨[], pos, g :: gs⟩

/- An exponent follows: a letter, perhaps a sign, a digit. -/
def atExponent : List Glyph → Bool
  | e :: s :: gs =>
      (e.char == 'e' || e.char == 'E')
        && (s.char.isDigit
          || ((s.char == '+' || s.char == '-')
            && (headChar? gs).any Char.isDigit))
  | _ => false

/- The digits behind the point, if a point follows. -/
def readFraction
    (pos : Nat)
    (gs : List Glyph) :
    Except LexFailure (Reading (List Char)) :=
  match gs with
  | g :: rest =>
      if g.char == '.' then
        if headChar? rest == some '_' then
          .error ⟨.numberSyntax, pos⟩
        else .ok (readDigits 10 (pos + 1) rest)
      else .ok ⟨[], pos, gs⟩
  | [] => .ok ⟨[], pos, gs⟩

/- A sign and the digits of an exponent. -/
def readSigned
    (pos : Nat)
    (gs : List Glyph) :
    Except LexFailure (Reading (Bool × List Char)) :=
  match gs with
  | g :: rest =>
      if g.char == '+' || g.char == '-' then
        if headChar? rest == some '_' then
          .error ⟨.numberSyntax, pos⟩
        else
          let digits := readDigits 10 (pos + 1) rest
          .ok ⟨(g.char == '-', digits.value), digits.stop,
            digits.rest⟩
      else
        let digits := readDigits 10 pos gs
        .ok ⟨(false, digits.value), digits.stop, digits.rest⟩
  | [] => .ok ⟨(false, []), pos, gs⟩

/-
  The exponent, if its letter follows. Once the letter is
  there, digits have to come.
-/
def readExponent
    (pos : Nat)
    (gs : List Glyph) :
    Except LexFailure (Reading Int) :=
  match gs with
  | g :: rest =>
      if g.char == 'e' || g.char == 'E' then
        if headChar? rest == some '_' then
          .error ⟨.numberSyntax, pos⟩
        else do
          let signed ← readSigned (pos + 1) rest
          let (negative, digits) := signed.value
          if digits.isEmpty then
            throw ⟨.numberFraction, signed.stop⟩
          let size : Int := digitsValue 10 digits
          return ⟨if negative then -size else size,
            signed.stop, signed.rest⟩
      else .ok ⟨0, pos, gs⟩
  | [] => .ok ⟨0, pos, gs⟩

/- A letter makes the number imaginary. -/
def readImaginary
    (value : Decimal)
    (real : Token)
    (pos : Nat)
    (gs : List Glyph) : Reading Token :=
  match headChar? gs with
  | some 'j' => ⟨.imaginary value, pos + 1, gs.tail⟩
  | some 'J' => ⟨.imaginary value, pos + 1, gs.tail⟩
  | _ => ⟨real, pos, gs⟩

/- A number in base ten. -/
def readDecimal
    (pos : Nat)
    (gs : List Glyph) :
    Except LexFailure (Reading Token) := do
  let whole := readDigits 10 pos gs
  if headChar? whole.rest == some '.'
      || atExponent whole.rest then
    let fraction ← readFraction whole.stop whole.rest
    let exponent ←
      readExponent fraction.stop fraction.rest
    let value : Decimal :=
      ⟨digitsValue 10 (whole.value ++ fraction.value),
        exponent.value - (fraction.value.length : Int)⟩
    return readImaginary value (.float value)
      exponent.stop exponent.rest
  else
    let value := digitsValue 10 whole.value
    let number :=
      readImaginary ⟨value, 0⟩ (.int value)
        whole.stop whole.rest
    if number.value == .int value
        && headChar? gs == some '0' && value != 0 then
      throw ⟨.numberZeros, number.stop⟩
    return number

/- A number in a base that two characters announce. -/
def readBased
    (base : Nat)
    (pos : Nat)
    (gs : List Glyph) :
    Except LexFailure (Reading Token) :=
  let digits := readDigits base (pos + 2) (gs.drop 2)
  if digits.value.isEmpty then
    .error ⟨.numberDigits, pos⟩
  else
    .ok ⟨.int (digitsValue base digits.value), digits.stop,
      digits.rest⟩

/- A number. -/
def readNumber
    (pos : Nat)
    (gs : List Glyph) :
    Except LexFailure (Reading Token) :=
  if headChar? gs == some '0' then
    match (secondChar? gs).map Char.toLower with
    | some 'x' => readBased 16 pos gs
    | some 'o' => readBased 8 pos gs
    | some 'b' => readBased 2 pos gs
    | _ => readDecimal pos gs
  else readDecimal pos gs

------------------------------------------------------------
-- Indentation
------------------------------------------------------------

/- The blanks at the start of a line. -/
structure Indentation where
  tabs : Nat
  spaces : Nat
  deriving DecidableEq, Repr

namespace Indentation

/-
  Compare two indentations, where that does not depend on
  the width of a tab.
-/
def compare?
    (a b : Indentation) : Option Ordering :=
  if a.tabs < b.tabs then
    if a.spaces ≤ b.spaces then some .lt else none
  else if b.tabs < a.tabs then
    if b.spaces ≤ a.spaces then some .gt else none
  else some (compare a.spaces b.spaces)

end Indentation

/- The blanks of a line, and whether the line has a token. -/
structure LineOpening where
  level : Indentation
  filled : Bool

/-
  Skip empty lines and comments, and read the blanks of the
  first line with a token.
-/
def readIndent
    (inComment : Bool)
    (level : Indentation)
    (pos : Nat) :
    List Glyph → Except LexFailure (Reading LineOpening)
  | [] => .ok ⟨⟨⟨0, 0⟩, false⟩, pos, []⟩
  | g :: gs =>
      let next := pos + g.width
      if g.char == '\n' then
        readIndent false ⟨0, 0⟩ next gs
      else if inComment then
        readIndent true ⟨0, 0⟩ next gs
      else
        match g.char with
        | ' ' =>
            readIndent false ⟨level.tabs, level.spaces + 1⟩
              next gs
        | '\t' =>
            if level.spaces != 0 then
              .error ⟨.tabsAfterSpaces, pos⟩
            else readIndent false ⟨level.tabs + 1, 0⟩ next gs
        | '#' => readIndent true ⟨0, 0⟩ next gs
        | '\x0c' => readIndent false ⟨0, 0⟩ next gs
        | _ => .ok ⟨⟨level, true⟩, pos, g :: gs⟩

/- The innermost open indentation. -/
def currentIndent (stack : List Indentation) : Indentation :=
  stack.head?.getD ⟨0, 0⟩

/-
  Close the levels that lie deeper than the new one. The
  level that remains must be the new one.
-/
def closeLevels
    (level : Indentation)
    (pos : Nat) :
    List Indentation →
      Except LexFailure (List Lexeme × List Indentation)
  | [] =>
      match level.compare? ⟨0, 0⟩ with
      | some .eq => .ok ([], [])
      | some .lt => .ok ([], [])
      | some .gt => .error ⟨.dedentLevel, pos⟩
      | none => .error ⟨.mixedIndent, pos⟩
  | top :: outer =>
      match level.compare? top with
      | some .eq => .ok ([], top :: outer)
      | some .gt => .error ⟨.dedentLevel, pos⟩
      | none => .error ⟨.mixedIndent, pos⟩
      | some .lt => do
          let (tokens, stack) ← closeLevels level pos outer
          return (⟨.dedent, pos, pos⟩ :: tokens, stack)

/- The tokens that the blanks of a line stand for. -/
def indentTokens
    (level : Indentation)
    (pos : Nat)
    (stack : List Indentation) :
    Except LexFailure (List Lexeme × List Indentation) :=
  match level.compare? (currentIndent stack) with
  | some .eq => .ok ([], stack)
  | some .gt =>
      let width := level.spaces + level.tabs
      .ok ([⟨.indent, pos - width, pos⟩], level :: stack)
  | some .lt => closeLevels level pos stack
  | none => .error ⟨.mixedIndent, pos⟩

------------------------------------------------------------
-- One Step
------------------------------------------------------------

/- The operators, longer ones before their beginnings. -/
def operators : List String :=
  ["**=", "//=", ">>=", "<<=", "...",
    "==", "!=", "<=", ">=", "->", "+=", "-=", "*=", "/=",
    "%=", "&=", "|=", "^=", "@=", ":=", "**", "//", "<<",
    ">>",
    "=", "+", "*", "/", "%", "|", "^", "&", "-", "@", "~",
    "(", ")", "[", "]", "\x7b", "\x7d", ":", ";", "<", ">",
    ",", "."]

/- The operator with which the text goes on. -/
def operatorAt? (gs : List Glyph) : Option String :=
  operators.find? fun op => startsWith gs op.toList

/- The signs that open a bracket. -/
def isOpening (sign : String) : Bool :=
  sign == "(" || sign == "[" || sign == "\x7b"

/- The signs that close a bracket. -/
def isClosing (sign : String) : Bool :=
  sign == ")" || sign == "]" || sign == "\x7d"

/- Blanks that separate tokens within a line. -/
def isBlank (c : Char) : Bool :=
  c == ' ' || c == '\t' || c == '\x0c'

/- How far the text has been read. -/
structure LexState where
  pos : Nat
  rest : List Glyph
  atLineStart : Bool
  nesting : Nat
  indents : List Indentation

/- The tokens of a step, and the state to go on from. -/
abbrev LexStep := List Lexeme × Option LexState

namespace LexState

/- Go on behind something that was read. -/
def goOn
    (s : LexState)
    (pos : Nat)
    (rest : List Glyph) : LexState :=
  { s with pos := pos, rest := rest }

/- The step that makes one token. -/
def emit
    (s : LexState)
    (r : Reading Token) : LexStep :=
  ([⟨r.value, s.pos, r.stop⟩], some (s.goOn r.stop r.rest))

/-
  The end of the text: brackets must be closed, the last
  line is ended, and every open level is closed.
-/
def finish (s : LexState) : Except LexFailure LexStep :=
  if 0 < s.nesting then .error ⟨.textEnd, s.pos⟩
  else
    let line :=
      if s.atLineStart then []
      else [Lexeme.mk .newline s.pos s.pos]
    let levels :=
      s.indents.map fun _ => Lexeme.mk .dedent s.pos s.pos
    .ok (line ++ levels, none)

/- A line end is a token outside of brackets only. -/
def lineEnd
    (s : LexState)
    (width : Nat)
    (rest : List Glyph) : LexStep :=
  let next := s.goOn (s.pos + width) rest
  if s.nesting = 0 then
    ([⟨.newline, s.pos, s.pos + width⟩],
      some { next with atLineStart := true })
  else ([], some next)

/- A backslash joins its line with the next one. -/
def joinLines
    (s : LexState)
    (rest : List Glyph) : Except LexFailure LexStep :=
  match rest with
  | g :: more =>
      if g.char == '\n' then
        let pos := s.pos + 1 + g.width
        if more.isEmpty then .error ⟨.textEnd, pos⟩
        else .ok ([], some (s.goOn pos more))
      else .error ⟨.lineContinuation, s.pos + 1⟩
  | [] => .error ⟨.lineContinuation, s.pos + 1⟩

/- A word: a keyword or a name. -/
def word (s : LexState) : LexStep :=
  let letters := readWhile isNameRest s.pos s.rest
  let text := String.ofList letters.value
  let token :=
    if isKeyword text then Token.symbol text
    else .name text
  s.emit { letters with value := token }

/- An operator or a bracket, or a character that is neither. -/
def sign
    (s : LexState)
    (g : Glyph)
    (rest : List Glyph) : Except LexFailure LexStep :=
  match operatorAt? s.rest with
  | some op =>
      let stop := s.pos + op.length
      let after := s.goOn stop (s.rest.drop op.length)
      let token := [Lexeme.mk (.symbol op) s.pos stop]
      if isOpening op then
        .ok (token,
          some { after with nesting := s.nesting + 1 })
      else if isClosing op then
        if s.nesting = 0 then
          .error ⟨.closedTooMuch, stop⟩
        else
          .ok (token,
            some { after with nesting := s.nesting - 1 })
      else .ok (token, some after)
  | none =>
      if g.char == '!' then
        .error ⟨.unknownCharacter '!', s.pos⟩
      else if isPictograph g.char then
        .ok (s.emit
          ⟨.name g.char.toString, s.pos + g.width, rest⟩)
      else
        .error ⟨.unknownCharacter g.char, s.pos + g.width⟩

/- Read one token within a line, or what lies between two. -/
def token (s : LexState) : Except LexFailure LexStep :=
  match s.rest with
  | [] => s.finish
  | g :: rest =>
      match stringOpening? s.rest with
      | some (kind, quote) => do
          let width := kind.length
          let r ←
            readLiteral kind quote (s.pos + width)
              (s.rest.drop width)
          return s.emit r
      | none =>
          if isNameStart g.char then .ok s.word
          else if isQuote g.char then do
            let r ← readLiteral {} g.char s.pos s.rest
            return s.emit r
          else if g.char.isDigit
              || (g.char == '.'
                && (headChar? rest).any Char.isDigit) then do
            let r ← readNumber s.pos s.rest
            return s.emit r
          else if g.char == '\n' then
            .ok (s.lineEnd g.width rest)
          else if isBlank g.char then
            let blanks := readWhile isBlank s.pos s.rest
            .ok ([], some (s.goOn blanks.stop blanks.rest))
          else if g.char == '#' then
            let comment :=
              readWhile (· != '\n') s.pos s.rest
            .ok ([],
              some (s.goOn comment.stop comment.rest))
          else if g.char == '\\' then s.joinLines rest
          else s.sign g rest

/- At the start of a line its blanks are read first. -/
def step (s : LexState) : Except LexFailure LexStep :=
  if s.atLineStart then do
    let line ← readIndent false ⟨0, 0⟩ s.pos s.rest
    let (levels, indents) ←
      indentTokens line.value.level line.stop s.indents
    let opened : LexState :=
      { s with
        pos := line.stop
        rest := line.rest
        atLineStart := !line.value.filled
        indents := indents }
    let (tokens, next) ← opened.token
    return (levels ++ tokens, next)
  else s.token

end LexState

/-
  Read token after token. Every step takes a character or
  ends the text, so the length of the text bounds them.
-/
def lexSteps :
    Nat → LexState → List Lexeme →
      List Lexeme × Option LexFailure
  | 0, _, done => (done.reverse, none)
  | fuel + 1, s, done =>
      match s.step with
      | .error failure => (done.reverse, some failure)
      | .ok (tokens, none) =>
          ((tokens.reverse ++ done).reverse, none)
      | .ok (tokens, some next) =>
          lexSteps fuel next (tokens.reverse ++ done)

------------------------------------------------------------
-- Soft Keywords
------------------------------------------------------------

/-
  The rest of a line has a colon outside of brackets that
  belongs to no lambda and does not come first.
-/
def hasBlockColon
    (nesting : Nat)
    (first inLambda : Bool) : List Token → Bool
  | [] => false
  | .newline :: _ => false
  | .symbol sign :: rest =>
      if isOpening sign then
        hasBlockColon (nesting + 1) false inLambda rest
      else if isClosing sign then
        hasBlockColon (nesting - 1) false inLambda rest
      else if sign == "lambda" && nesting == 0 then
        hasBlockColon nesting false true rest
      else if sign == ":" && nesting == 0 then
        if inLambda then
          hasBlockColon nesting false false rest
        else if first then
          hasBlockColon nesting false false rest
        else true
      else hasBlockColon nesting false inLambda rest
  | _ :: rest => hasBlockColon nesting false inLambda rest

/-
  The line goes on with an equals sign, with nothing but
  square brackets before it.
-/
def hasAliasSign (nesting : Nat) : List Token → Bool
  | [] => false
  | .newline :: _ => false
  | .symbol sign :: rest =>
      if sign == "=" && nesting == 0 then true
      else if sign == "[" then hasAliasSign (nesting + 1) rest
      else if sign == "]" then hasAliasSign (nesting - 1) rest
      else if 0 < nesting then hasAliasSign nesting rest
      else false
  | _ :: rest =>
      if 0 < nesting then hasAliasSign nesting rest
      else false

/- A word at the start of a line acts as a keyword there. -/
def actsAsKeyword
    (word : String)
    (rest : List Token) : Bool :=
  if word == "type" then
    match rest with
    | .name _ :: more => hasAliasSign 0 more
    | _ => false
  else hasBlockColon 0 true false rest

/- A new statement may start behind the token. -/
def opensLine : Token → Bool
  | .newline => true
  | .indent => true
  | .dedent => true
  | _ => false

/- Turn soft keywords into symbols where they act as such. -/
def markSoftKeywords
    (lineStart : Bool) : List Lexeme → List Lexeme
  | [] => []
  | l :: ls =>
      let token :=
        match l.token with
        | .name word =>
            if lineStart && isSoftKeyword word
                && actsAsKeyword word (ls.map (·.token)) then
              Token.symbol word
            else l.token
        | token => token
      { l with token := token }
        :: markSoftKeywords (opensLine l.token) ls

------------------------------------------------------------
-- Streams
------------------------------------------------------------

/- The tokens up to the first fault, if there is one. -/
structure TokenStream where
  lexemes : List Lexeme
  failure : Option LexFailure

/-
  The tokens of a text. A mark of the byte order in front is
  skipped; soft keywords count from the first line only in a
  module.
-/
def TokenStream.ofText
    (isModule : Bool)
    (text : String) : TokenStream :=
  let glyphs := glyphsOf text.toList
  let start : LexState :=
    match glyphs with
    | ⟨'\ufeff', width⟩ :: rest => ⟨width, rest, true, 0, []⟩
    | glyphs => ⟨0, glyphs, true, 0, []⟩
  let (lexemes, failure) :=
    lexSteps (glyphs.length + 1) start []
  ⟨markSoftKeywords isModule lexemes, failure⟩

end SigCheck
