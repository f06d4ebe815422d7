import SigCheck.Grammar.Expression

/-
  Patterns of `match` statements. They are read to find out
  where a text goes wrong; nothing of them is kept.

  Key definitions include:
    * `Pattern.number`, `Pattern.dotted`
    * `Pattern.closed`
    * `Pattern.alternatives`, `Pattern.whole`
    * `Pattern.reader`
-/

namespace SigCheck

open Parse

namespace Pattern

------------------------------------------------------------
-- Constants and Names
------------------------------------------------------------

/- The token is a number. -/
def isNumber : Token → Bool
  | .int _ => true
  | .float _ => true
  | .imaginary _ => true
  | _ => false

/- A number without a sign. -/
def plainNumber : Parse Unit := do
  if (← peek).any isNumber then advance else unexpected

/-
  A number, perhaps with a minus in front, or two with a
  sign between them.
-/
def number : Parse Unit := do
  let _ ← accept "-"
  plainNumber
  if ← acceptAny ["+", "-"] then plainNumber

/- Names with dots behind a name. -/
def memberNames : Nat → Parse Unit
  | 0 => unexpected
  | fuel + 1 => do
      if ← accept "." then
        let _ ← identifier
        memberNames fuel

/- A name with at least one dot. -/
def dotted (fuel : Nat) : Parse Unit := do
  let _ ← identifier
  expect "."
  let _ ← identifier
  memberNames fuel

/- A constant that is written as a word. -/
def isConstantWord (t : Token) : Bool :=
  t == .symbol "None" || t == .symbol "True"
    || t == .symbol "False"

/- A number may start with the token. -/
def startsNumber (t : Token) : Bool :=
  isNumber t || t == .symbol "-"

/- The token is a string. -/
def isString : Token → Bool
  | .string _ => true
  | _ => false

/- The token is a name. -/
def isName : Token → Bool
  | .name _ => true
  | _ => false

/- A constant, if one comes next. -/
def constant? (g : Rules) (follow : Follow) : Parse Bool := do
  let next ← peek
  if next.any isConstantWord then
    advance
    return true
  else if next.any startsNumber then
    number
    return true
  else if next.any isString then
    let _ ← g.stringAtom follow
    return true
  else return false

------------------------------------------------------------
-- Closed Patterns
------------------------------------------------------------

/- A closed pattern may start with the token. -/
def starts (t : Token) : Bool :=
  isName t || isConstantWord t || startsNumber t
    || isString t || t == .symbol "*" || t == .symbol "("
    || t == .symbol "[" || t == .symbol "\x7b"

/- Patterns up to a closing sign. -/
def sequenceUpTo
    (inner : Parse Unit)
    (closing : String)
    (fuel : Nat) : Parse Unit := do
  if !(← accept closing) then
    let _ ← separated fuel starts inner
    expect closing

/- The token is a name or starts the key of a mapping. -/
def startsEntry (t : Token) : Bool :=
  isName t || isConstantWord t || startsNumber t
    || isString t || t == .symbol "**"

/- Entries of a mapping; two stars come last. -/
def entries
    (g : Rules)
    (inner : Parse Unit) : Nat → Parse Unit
  | 0 => unexpected
  | fuel + 1 => do
      if ← accept "**" then
        let _ ← identifier
        let _ ← accept ","
        return ()
      else
        if !(← constant? g .patternKey) then dotted g.fuel
        expect ":"
        inner
        if ← accept "," then
          if (← peek).any startsEntry then
            entries g inner fuel

/- Arguments with names. -/
def namedArgs (inner : Parse Unit) : Nat → Parse Unit
  | 0 => unexpected
  | fuel + 1 => do
      let _ ← identifier
      expect "="
      inner
      if ← accept "," then
        if !(← atSign ")") then namedArgs inner fuel

/- Arguments of a class; those with names come last. -/
def classArgs (inner : Parse Unit) : Nat → Parse Unit
  | 0 => unexpected
  | fuel + 1 => do
      if (← peekSecond) == some (.symbol "=") then
        namedArgs inner (fuel + 1)
      else
        inner
        if ← accept "," then
          if !(← atSign ")") then classArgs inner fuel

/- A pattern that no operator holds together. -/
def closed (g : Rules) (inner : Parse Unit) : Parse Unit := do
  if ← accept "*" then
    let _ ← identifier
    return ()
  else if ← accept "(" then sequenceUpTo inner ")" g.fuel
  else if ← accept "[" then sequenceUpTo inner "]" g.fuel
  else if ← accept "\x7b" then
    if !(← accept "\x7d") then
      entries g inner g.fuel
      expect "\x7d"
  else if ← constant? g .literalPattern then return ()
  else
    let _ ← identifier
    memberNames g.fuel
    if ← accept "(" then
      if !(← accept ")") then
        classArgs inner g.fuel
        expect ")"

------------------------------------------------------------
-- Whole Patterns
------------------------------------------------------------

/- Closed patterns with bars between them. -/
def alternatives
    (g : Rules)
    (inner : Parse Unit) : Nat → Parse Unit
  | 0 => unexpected
  | fuel + 1 => do
      closed g inner
      if ← accept "|" then alternatives g inner fuel

/- A pattern, perhaps bound to a name. -/
def whole (g : Rules) (inner : Parse Unit) : Parse Unit := do
  let start ← here
  alternatives g inner g.fuel
  if ← accept "as" then
    let name ← identifier
    if name == "_" then
      failBefore .pattern .wildcardTarget start

/- Patterns nested at most so many times. -/
def reader (g : Rules) : Nat → Parse Unit
  | 0 => unexpected
  | depth + 1 => whole g (reader g depth)

/- The patterns of a case. -/
def caseList (g : Rules) : Parse Unit := do
  let _ ← separated g.fuel starts (reader g g.fuel)
  return ()

end Pattern

end SigCheck
