import SigCheck.Grammar.StringValue
import SigCheck.Grammar.Tree

/-
  Steps of reading a program from its tokens. A step that
  meets a token with which no program goes on fails there;
  behind the last token it fails with the fault at which the
  tokens end.

  Key definitions include:
    * `ParseFault`, `ParseError`
    * `Cursor`, `Parse`
    * `Parse.unexpected`
    * `Parse.accept`, `Parse.expect`
    * `Parse.separated`
-/

namespace SigCheck

------------------------------------------------------------
-- Faults
------------------------------------------------------------

/- What can be wrong with a program text. -/
inductive ParseFault where
  | lex (fault : LexFault)
  | string (fault : StringFault)
  | unexpected (token : Token)
  | unexpectedIndent
  | expectedBlock
  | unfinished
  | positionalAfterKeyword
  | repeatedKeyword (name : String)
  | unpackingAfterMapping
  | requiredAfterDefault
  | repeatedParameter (name : String)
  | bareStar
  | loneStarred
  | loneMapping
  | wildcardTarget
  deriving DecidableEq, Repr

namespace ParseFault

/- What the user reads. -/
def message : ParseFault → String
  | lex fault => fault.message
  | string fault => fault.message
  | unexpected token =>
      "invalid syntax. Got unexpected token " ++ token.text
  | unexpectedIndent => "unexpected indent"
  | expectedBlock => "expected an indented block"
  | unfinished => "Got unexpected EOF"
  | positionalAfterKeyword =>
      "positional argument follows keyword argument"
  | repeatedKeyword name =>
      "keyword argument repeated: " ++ name
  | unpackingAfterMapping =>
      "iterable argument unpacking follows keyword "
        ++ "argument unpacking"
  | requiredAfterDefault =>
      "non-default argument follows default argument"
  | repeatedParameter name =>
      "duplicate argument '" ++ name
        ++ "' in function definition"
  | bareStar => "named arguments must follow bare *"
  | loneStarred => "cannot use starred expression here"
  | loneMapping =>
      "cannot use double starred expression here"
  | wildcardTarget => "cannot use '_' as a target"

end ParseFault

/- A fault with the byte at which reading stopped. -/
structure ParseError where
  fault : ParseFault
  offset : Nat
  deriving DecidableEq, Repr

/- The text of the fault alone. -/
def ParseError.message (e : ParseError) : String :=
  e.fault.message

------------------------------------------------------------
-- Cursors
------------------------------------------------------------

/-
  The tokens still to be read, the end of the last one that
  was read, the fault behind the last of all, and the byte
  at which the items of the last `with` start.
-/
structure Cursor where
  rest : List Lexeme
  stop : Nat
  failure : Option LexFailure
  itemsStart : Option Nat := none

/- A step of reading. -/
abbrev Parse := StateT Cursor (Except ParseError)

namespace Parse

variable {α : Type}

/- Fail at a byte. -/
def failAt (fault : ParseFault) (offset : Nat) : Parse α :=
  throw ⟨fault, offset⟩

/- The next token. -/
def peek : Parse (Option Token) := do
  return (← get).rest.head?.map (·.token)

/- The token behind the next one. -/
def peekSecond : Parse (Option Token) := do
  return (← get).rest.tail.head?.map (·.token)

/- The byte at which the next token starts. -/
def here : Parse Nat := do
  let cursor ← get
  return (cursor.rest.head?.map (·.start)).getD cursor.stop

/- The stretch from a byte to the end of the last token. -/
def rangeFrom (start : Nat) : Parse ByteRange := do
  return ⟨start, (← get).stop⟩

/- The tokens end with a fault that comes next. -/
def failIfBroken : Parse Unit := do
  let cursor ← get
  match cursor.rest, cursor.failure with
  | [], some f => failAt (.lex f.fault) f.offset
  | _, _ => return ()

/- The next token does not go on with any program. -/
def unexpected : Parse α := do
  let cursor ← get
  match cursor.rest with
  | [] => do
      failIfBroken
      failAt .unfinished cursor.stop
  | l :: _ =>
      match l.token with
      | .indent => failAt .unexpectedIndent l.start
      | token => failAt (.unexpected token) l.start

/- Only an indent goes on with the program here. -/
def unexpectedBlock : Parse α := do
  let cursor ← get
  match cursor.rest with
  | [] => do
      failIfBroken
      failAt (.lex .dedentLevel) cursor.stop
  | l :: _ => failAt .expectedBlock l.start

/- Move behind the next token. -/
def advance : Parse Unit :=
  modify fun cursor =>
    match cursor.rest with
    | [] => cursor
    | l :: ls => { cursor with rest := ls, stop := l.stop }

/- The next token is the given one. -/
def nextIs (token : Token) : Parse Bool := do
  return (← peek) == some token

/- The next token is a given symbol. -/
def atSign (sign : String) : Parse Bool :=
  nextIs (.symbol sign)

/- Move behind the token if it comes next. -/
def acceptToken (token : Token) : Parse Bool := do
  if ← nextIs token then
    advance
    return true
  else return false

/- Move behind a symbol if it comes next. -/
def accept (sign : String) : Parse Bool :=
  acceptToken (.symbol sign)

/- Move behind one of some symbols if it comes next. -/
def acceptAny (signs : List String) : Parse Bool := do
  match ← peek with
  | some (.symbol sign) =>
      if signs.contains sign then
        advance
        return true
      else return false
  | _ => return false

/- Move behind a token that has to come next. -/
def expectToken (token : Token) : Parse Unit := do
  if !(← acceptToken token) then unexpected

/- Move behind a symbol that has to come next. -/
def expect (sign : String) : Parse Unit :=
  expectToken (.symbol sign)

/- Read a name. -/
def identifier : Parse String := do
  match ← peek with
  | some (.name id) => do
      advance
      return id
  | _ => unexpected

/-
  Read an item, and further ones as long as a comma and the
  start of an item follow. The second result tells whether a
  comma is left behind the last one.
-/
def separatedFrom
    (starts : Token → Bool)
    (item : Parse α) :
    Nat → Parse (List α × Bool)
  | 0 => unexpected
  | fuel + 1 => do
      let first ← item
      if ← accept "," then
        if (← peek).any starts then
          let (rest, trailing) ←
            separatedFrom starts item fuel
          return (first :: rest, trailing)
        else return ([first], true)
      else return ([first], false)

/- Items between commas, perhaps with a comma behind them. -/
def separated
    (fuel : Nat)
    (starts : Token → Bool)
    (item : Parse α) : Parse (List α × Bool) :=
  separatedFrom starts item fuel

/- Items between commas without one behind the last. -/
def sequence
    (item : Parse α) : Nat → Parse (List α)
  | 0 => unexpected
  | fuel + 1 => do
      let first ← item
      if ← accept "," then
        return first :: (← sequence item fuel)
      else return [first]

/- Read items as long as a test on the next token holds. -/
def many
    (starts : Token → Bool)
    (item : Parse α) : Nat → Parse (List α)
  | 0 => unexpected
  | fuel + 1 => do
      if (← peek).any starts then
        let first ← item
        return first :: (← many starts item fuel)
      else return []

/-
  Try one way of reading and then another. If both fail, the
  failure that lies further on counts.
-/
def orElseFurther (first second : Parse α) : Parse α :=
  fun cursor =>
    match first cursor with
    | .ok r => .ok r
    | .error e =>
        match second cursor with
        | .ok r => .ok r
        | .error f =>
            .error (if f.offset < e.offset then e else f)

end Parse

end SigCheck
