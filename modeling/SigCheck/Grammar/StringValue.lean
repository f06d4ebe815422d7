import SigCheck.CharName.Lookup
import SigCheck.Grammar.Lexer

/-
  The value of string literals: escapes, adjacent literals,
  and the check of formatted ones, whose expressions are
  read by a given reader of expressions.

  Key definitions include:
    * `FormatFault`, `StringFault`, `StringFailure`
    * `readEscape`
    * `plainValue`
    * `Format.textPart`, `Format.field`
    * `StringValue`, `StringValue.ofLiterals`
-/

namespace SigCheck

------------------------------------------------------------
-- Faults
------------------------------------------------------------

/- What can be wrong with a formatted string. -/
inductive FormatFault where
  | unclosedField
  | emptyField
  | loneBrace
  | badConversion
  | unmatched (closing : Char)
  | mismatched (opening : Char) (closing : Char)
  | nestedTooDeeply
  | openString
  | badExpression (message : String)
  deriving DecidableEq, Repr

namespace FormatFault

/- What the user reads. -/
def message : FormatFault → String
  | unclosedField => "expecting '\x7d'"
  | emptyField => "empty expression not allowed"
  | loneBrace => "single '\x7d' is not allowed"
  | badConversion => "invalid conversion character"
  | unmatched closing =>
      "unmatched '" ++ closing.toString ++ "'"
  | mismatched opening closing =>
      "closing parenthesis '" ++ closing.toString
        ++ "' does not match opening parenthesis '"
        ++ opening.toString ++ "'"
  | nestedTooDeeply => "expressions nested too deeply"
  | openString => "unterminated string"
  | badExpression message => message

end FormatFault

/- What can be wrong with the value of a string. -/
inductive StringFault where
  | openEscape
  | badCodePoint
  | bytesBeyondAscii
  | mixedBytes
  | format (fault : FormatFault)
  deriving DecidableEq, Repr

namespace StringFault

/- What the user reads. -/
def message : StringFault → String
  | openEscape => "Got unexpected string"
  | badCodePoint => "Got unexpected unicode"
  | bytesBeyondAscii =>
      "bytes can only contain ASCII literal characters"
  | mixedBytes => "cannot mix bytes and nonbytes literals"
  | format fault => "f-string: " ++ fault.message

end StringFault

/- A fault with the byte at which it is noticed. -/
structure StringFailure where
  fault : StringFault
  offset : Nat
  deriving DecidableEq, Repr

/- Something read from a body, and what is left of it. -/
structure Piece (α : Type) where
  value : α
  stop : Nat
  rest : List Char

------------------------------------------------------------
-- Escapes
------------------------------------------------------------

/- The characters that a short escape stands for. -/
def shortEscape? : Char → Option Char
  | '\\' => some '\\'
  | '\'' => some '\''
  | '"' => some '"'
  | 'a' => some '\x07'
  | 'b' => some '\x08'
  | 'f' => some '\x0c'
  | 'n' => some '\n'
  | 'r' => some '\r'
  | 't' => some '\t'
  | 'v' => some '\x0b'
  | _ => none

/- The character is an octal digit. -/
def isOctal (c : Char) : Bool :=
  isDigitOf 8 c

/-
  The character of a code point. Halves of pairs become the
  replacement character.
-/
def charOfCode? (code : Nat) : Option Char :=
  if 0xD800 ≤ code && code ≤ 0xDFFF then some '\ufffd'
  else if code < 0x110000 then some (Char.ofNat code)
  else none

/- A character given by a fixed number of digits. -/
def readCode
    (count pos : Nat)
    (cs : List Char) :
    Except StringFailure (Piece (List Char)) :=
  let digits := cs.take count
  if digits.length = count && digits.all isHexDigit then
    match charOfCode? (digitsValue 16 digits) with
    | some c => .ok ⟨[c], pos + count, cs.drop count⟩
    | none => .error ⟨.badCodePoint, pos⟩
  else .error ⟨.badCodePoint, pos⟩

/- The number of bytes of a list of characters. -/
def bytesOf (cs : List Char) : Nat :=
  cs.foldl (fun n c => n + c.utf8Size) 0

/- The most bytes that the name of a character has. -/
def longestName : Nat := 88

/- A character given by its name between braces. -/
def readNamed
    (pos : Nat)
    (cs : List Char) :
    Except StringFailure (Piece (List Char)) :=
  match cs with
  | '\x7b' :: rest =>
      let name := rest.takeWhile (· != '\x7d')
      let stop := pos + bytesOf name + 2
      match rest.drop name.length with
      | [] => .error ⟨.openEscape, pos + 1 + bytesOf name⟩
      | _ :: more =>
          if longestName < bytesOf name then
            .error ⟨.badCodePoint, stop⟩
          else
            match CharName.find? name with
            | some c => .ok ⟨[c], stop, more⟩
            | none => .error ⟨.badCodePoint, pos + 1⟩
  | _ => .error ⟨.openEscape, pos⟩

/- What follows a backslash, given the byte behind that. -/
def readEscape
    (bytes : Bool)
    (pos : Nat) :
    List Char → Except StringFailure (Piece (List Char))
  | [] => .error ⟨.openEscape, pos⟩
  | c :: cs =>
      let next := pos + c.utf8Size
      if c == '\n' then .ok ⟨[], next, cs⟩
      else if isOctal c then
        let more := (cs.takeWhile isOctal).take 2
        .ok
          ⟨[Char.ofNat (digitsValue 8 (c :: more))],
            next + more.length, cs.drop more.length⟩
      else
        match shortEscape? c with
        | some e => .ok ⟨[e], next, cs⟩
        | none =>
            if c == 'x' then readCode 2 next cs
            else if c == 'u' && !bytes then readCode 4 next cs
            else if c == 'U' && !bytes then readCode 8 next cs
            else if c == 'N' && !bytes then readNamed next cs
            else if bytes && 127 < c.toNat then
              .error ⟨.bytesBeyondAscii, next⟩
            else .ok ⟨['\\', c], next, cs⟩

/-
  The value of a literal without fields. Each round takes a
  character, so the length of the body bounds them.
-/
def plainValue
    (kind : StringKind) :
    Nat → Nat → List Char → Except StringFailure (List Char)
  | 0, _, _ => .ok []
  | _ + 1, _, [] => .ok []
  | fuel + 1, pos, c :: cs =>
      if c == '\\' && !kind.raw then do
        let escape ← readEscape kind.bytes (pos + 1) cs
        let more ←
          plainValue kind fuel escape.stop escape.rest
        return escape.value ++ more
      else if kind.bytes && 127 < c.toNat then
        .error ⟨.bytesBeyondAscii, pos + c.utf8Size⟩
      else do
        let more ← plainValue kind fuel (pos + c.utf8Size) cs
        return c :: more

------------------------------------------------------------
-- Formatted Strings
------------------------------------------------------------

namespace Format

/-
  The expression of a field so far, back to front, with the
  open brackets. It is `shown` once an equals sign asks for
  its text, too.
-/
structure FieldState where
  text : List Char := []
  shown : Bool := false
  brackets : List Char := []

/- A reader of the text of an expression. -/
abbrev ExprCheck := List Char → Option String

/- A reader of what follows the colon of a field. -/
abbrev SpecCheck :=
  Nat → List Char → Except StringFailure (Piece Unit)

/- A failure of a formatted string. -/
def fail
    {α : Type}
    (fault : FormatFault)
    (offset : Nat) : Except StringFailure α :=
  .error ⟨.format fault, offset⟩

/- The bracket that closes another. -/
def closingOf : Char → Char
  | '(' => ')'
  | '[' => ']'
  | _ => '\x7d'

/- A string inside an expression up to its closing quote. -/
def quotedPart
    (quote : Char)
    (pos : Nat) :
    List Char → Except StringFailure (Piece (List Char))
  | [] => fail .openString pos
  | c :: cs =>
      let next := pos + c.utf8Size
      if c == quote then .ok ⟨[c], next, cs⟩
      else do
        let more ← quotedPart quote next cs
        return { more with value := c :: more.value }

/- The conversion behind an exclamation mark. -/
def conversion
    (pos : Nat)
    (cs : List Char) : Except StringFailure (Piece Unit) :=
  match cs with
  | [] => fail .unclosedField pos
  | c :: rest =>
      let next := pos + c.utf8Size
      if c == 's' || c == 'a' || c == 'r' then
        match rest with
        | '\x7d' :: _ => .ok ⟨(), next, rest⟩
        | ':' :: _ => .ok ⟨(), next, rest⟩
        | _ => fail .unclosedField next
      else fail .badConversion next

/- The end of a field: its expression is read. -/
def closeField
    (check : ExprCheck)
    (start pos : Nat)
    (state : FieldState) :
    Except StringFailure Unit :=
  if isBlankText state.text then fail .emptyField pos
  else
    match check state.text.reverse with
    | some message => fail (.badExpression message) start
    | none => .ok ()

/- A field from behind its opening brace. -/
def field
    (check : ExprCheck)
    (spec : SpecCheck)
    (start : Nat) :
    Nat → Nat → FieldState → List Char →
      Except StringFailure (Piece Unit)
  | 0, pos, _, _ => fail .unclosedField pos
  | _ + 1, pos, _, [] => fail .unclosedField pos
  | fuel + 1, pos, state, c :: cs =>
      let next := pos + c.utf8Size
      let outer := state.brackets.isEmpty
      let push (text : List Char) : FieldState :=
        { state with text := text.reverse ++ state.text }
      let equalsNext := cs.head? == some '='
      if equalsNext
          && (c == '!' || c == '=' || c == '>' || c == '<') then
        field check spec start fuel (next + 1)
          (push [c, '=']) cs.tail
      else if c == '!' && outer then
        if isBlankText state.text then fail .emptyField next
        else do
          let r ← conversion next cs
          field check spec start fuel r.stop state r.rest
      else if c == '=' && outer then
        field check spec start fuel next
          { state with shown := true } cs
      else if c == ':' && outer then do
        let r ← spec next cs
        field check spec start fuel r.stop state r.rest
      else if c == '(' || c == '[' || c == '\x7b' then
        field check spec start fuel next
          { push [c] with brackets := c :: state.brackets } cs
      else if c == ')' || c == ']'
          || (c == '\x7d' && !outer) then
        match state.brackets with
        | [] => fail (.unmatched c) next
        | opening :: rest =>
            if closingOf opening == c then
              field check spec start fuel next
                { push [c] with brackets := rest } cs
            else fail (.mismatched opening c) next
      else if c == '\x7d' then do
        closeField check start next state
        return ⟨(), next, cs⟩
      else if isQuote c then do
        let r ← quotedPart c next cs
        field check spec start fuel r.stop
          (push (c :: r.value)) r.rest
      else if c == ' ' && state.shown then
        field check spec start fuel next state cs
      else if c == '\\' then fail .openString next
      else if state.shown then fail .unclosedField next
      else field check spec start fuel next (push [c]) cs

/- The character opens or closes a field. -/
def isBrace (c : Char) : Bool :=
  c == '\x7b' || c == '\x7d'

/-
  The text of a formatted string with its fields. Inside a
  field it ends before a closing brace, and braces are not
  doubled.
-/
def textPart
    (kind : StringKind)
    (check : ExprCheck)
    (spec : SpecCheck)
    (inner : Bool) :
    Nat → Nat → List Char →
      Except StringFailure (Piece Unit)
  | 0, pos, cs => .ok ⟨(), pos, cs⟩
  | _ + 1, pos, [] => .ok ⟨(), pos, []⟩
  | fuel + 1, pos, c :: cs =>
      let next := pos + c.utf8Size
      if c == '\x7b' then
        if !inner && cs.head? == some '\x7b' then
          textPart kind check spec inner fuel (next + 1)
            cs.tail
        else if !inner && cs.isEmpty then
          fail .unclosedField next
        else do
          let r ←
            field check spec next (cs.length + 1) next {} cs
          textPart kind check spec inner fuel r.stop r.rest
      else if c == '\x7d' then
        if inner then .ok ⟨(), pos, c :: cs⟩
        else if cs.head? == some '\x7d' then
          textPart kind check spec inner fuel (next + 1)
            cs.tail
        else fail .loneBrace next
      else if c == '\\' && !kind.raw
          && !cs.head?.any isBrace then do
        let escape ← readEscape false next cs
        textPart kind check spec inner fuel escape.stop
          escape.rest
      else textPart kind check spec inner fuel next cs

/-
  What follows the colon of a field: text up to the closing
  brace, with fields that `part` reads.
-/
def specPart
    (part : SpecCheck) : Nat → SpecCheck
  | 0, pos, cs => .ok ⟨(), pos, cs⟩
  | _ + 1, pos, [] => .ok ⟨(), pos, []⟩
  | fuel + 1, pos, c :: cs =>
      if c == '\x7b' then do
        let r ← part pos (c :: cs)
        if r.rest.length < (c :: cs).length then
          specPart part fuel r.stop r.rest
        else return r
      else if c == '\x7d' then .ok ⟨(), pos, c :: cs⟩
      else specPart part fuel (pos + c.utf8Size) cs

/- Fields two levels down are too deep. -/
def tooDeep : SpecCheck :=
  fun pos _ => fail .nestedTooDeeply pos

/- Fields within the format of a field. -/
def innerSpec
    (kind : StringKind)
    (check : ExprCheck) : SpecCheck :=
  fun pos cs =>
    let size := cs.length + 1
    specPart
      (textPart kind check (specPart tooDeep size) true size)
      size pos cs

/- Check a formatted string. -/
def checkBody
    (kind : StringKind)
    (check : ExprCheck)
    (pos : Nat)
    (cs : List Char) : Except StringFailure Unit := do
  let _ ←
    textPart kind check (innerSpec kind check) false
      (cs.length + 1) pos cs
  return ()

end Format

------------------------------------------------------------
-- Literals
------------------------------------------------------------

/- What adjacent string literals make together. -/
inductive StringValue where
  | text (value : String)
  | bytes
  | formatted
  deriving DecidableEq, Repr

namespace StringValue

/- The byte at which the body of a literal starts. -/
def bodyStart (start : Nat) (s : StringToken) : Nat :=
  start + s.kind.length + (if s.triple then 3 else 1)

/- The text of one literal, empty for a formatted one. -/
def textOf
    (check : Format.ExprCheck)
    (literal : Nat × StringToken) :
    Except StringFailure (List Char) := do
  let (start, s) := literal
  let pos := bodyStart start s
  if s.kind.formatted then
    Format.checkBody s.kind check pos s.body
    return []
  else plainValue s.kind (s.body.length + 1) pos s.body

/-
  The value of adjacent literals with the bytes at which
  they start. Either all or none of them hold bytes.
-/
def ofLiterals
    (check : Format.ExprCheck)
    (literals : List (Nat × StringToken)) :
    Except StringFailure StringValue := do
  let start := (literals.head?.map (·.1)).getD 0
  let anyBytes := literals.any (·.2.kind.bytes)
  if anyBytes && !literals.all (·.2.kind.bytes) then
    throw ⟨.mixedBytes, start⟩
  let texts ← literals.mapM (textOf check)
  if anyBytes then return bytes
  else if literals.any (·.2.kind.formatted) then
    return formatted
  else return text (String.ofList texts.flatten)

end StringValue

end SigCheck
