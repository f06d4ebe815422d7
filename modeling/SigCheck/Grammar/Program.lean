import SigCheck.Grammar.Statement

/-
  Texts as syntax trees: whole modules, and expressions on
  their own as they stand in annotations that are strings.

  Key definitions include:
    * `programLines`
    * `expressionWith`
    * `parseModule`
    * `parseExpression`
-/

namespace SigCheck

open Parse

------------------------------------------------------------
-- Ends
------------------------------------------------------------

/- The tokens are used up without a fault. -/
def expectEnd : Parse Unit := do
  failIfBroken
  if (← peek).isSome then unexpected

/- Move behind ends of lines. -/
def skipNewlines : Nat → Parse Unit
  | 0 => return ()
  | fuel + 1 => do
      if ← acceptToken .newline then skipNewlines fuel

/- Statements up to the end of the text. -/
def programLines
    (line : Parse (List Stmt)) : Nat → Parse (List Stmt)
  | 0 => unexpected
  | fuel + 1 => do
      if (← peek).isNone then
        failIfBroken
        return []
      else if ← acceptToken .newline then
        programLines line fuel
      else
        let first ← line
        return first ++ (← programLines line fuel)

------------------------------------------------------------
-- Readers
------------------------------------------------------------

/- Run a reader on the tokens of a text. -/
def runOn
    {α : Type}
    (stream : TokenStream)
    (reader : Parse α) : Except ParseError α :=
  let cursor : Cursor :=
    { rest := stream.lexemes
      stop := 0
      failure := stream.failure }
  (reader cursor).map (·.1)

/- Read a text that is one expression. -/
def expressionWith
    (check : Format.ExprCheck)
    (text : String) : Except ParseError Expr :=
  let stream := TokenStream.ofText false text
  let g := rulesFor check stream.lexemes.length
  runOn stream do
    let value ← g.testList
    skipNewlines g.fuel
    expectEnd
    return value.value

/-
  What is wrong with an expression in a formatted string, in
  which strings are formatted again so many times.
-/
def fieldFault : Nat → Format.ExprCheck
  | 0, _ => none
  | depth + 1, text =>
      let bracketed := "(" ++ String.ofList text ++ ")"
      match expressionWith (fieldFault depth) bracketed with
      | .ok _ => none
      | .error e => some e.message

/- Read a text that is one expression. -/
def parseExpression
    (text : String) : Except ParseError Expr :=
  expressionWith (fieldFault text.length) text

/- Read the text of a module. -/
def parseModule
    (text : String) : Except ParseError (List Stmt) :=
  let stream := TokenStream.ofText true text
  let g :=
    rulesFor (fieldFault text.length) stream.lexemes.length
  runOn stream (programLines (statementAt g g.fuel) g.fuel)

end SigCheck
