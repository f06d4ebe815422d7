import SigCheck.Grammar.Program

/-
  Type expressions: what annotations look like once string
  literals in them are read as expressions. Forms that no
  type has are kept by their place alone.

  Key definitions include:
    * `NamePath`, `Expr.path?`
    * `TypeExpr`
    * `Expr.typeExprWith`, `TypeExpr.ofText`
    * `Expr.typeExpr`
-/

namespace SigCheck

------------------------------------------------------------
-- Paths
------------------------------------------------------------

/- A name, or a member of what a path names. -/
inductive NamePath where
  | name (id : String)
  | member (owner : NamePath) (attr : String)
  deriving DecidableEq, Repr, Inhabited

namespace NamePath

/- The last name of a path. -/
def last : NamePath → String
  | name id => id
  | member _ attr => attr

end NamePath

/- The path that an expression is, if it is one. -/
def Expr.path? : Expr → Option NamePath
  | .name id _ => some (.name id)
  | .member value attr _ =>
      value.path?.map fun owner => .member owner attr
  | _ => none

------------------------------------------------------------
-- Type Expressions
------------------------------------------------------------

/-
  An annotation. The text in a `quoted` one was read as an
  expression; an `unreadable` one says why that failed.
  Places inside a quoted annotation count from the start of
  its text.
-/
inductive TypeExpr where
  | ident (id : String) (range : ByteRange)
  | member
      (owner : TypeExpr)
      (attr : String)
      (range : ByteRange)
  | subscript
      (head : TypeExpr)
      (args : List TypeExpr)
      (range : ByteRange)
  | either
      (left : TypeExpr)
      (right : TypeExpr)
      (range : ByteRange)
  | list (items : List TypeExpr) (range : ByteRange)
  | tuple (items : List TypeExpr) (range : ByteRange)
  | noneType (range : ByteRange)
  | ellipsis (range : ByteRange)
  | quoted (body : TypeExpr) (range : ByteRange)
  | unreadable (fault : ParseError) (range : ByteRange)
  | other (range : ByteRange)

instance : Inhabited TypeExpr := ⟨.other ⟨0, 0⟩⟩

namespace TypeExpr

/- The place of an annotation. -/
def range : TypeExpr → ByteRange
  | ident _ r => r
  | member _ _ r => r
  | subscript _ _ r => r
  | either _ _ r => r
  | list _ r => r
  | tuple _ r => r
  | noneType r => r
  | ellipsis r => r
  | quoted _ r => r
  | unreadable _ r => r
  | other r => r

/- The annotation is `...`. -/
def isEllipsis : TypeExpr → Bool
  | ellipsis _ => true
  | _ => false

/- The path that an annotation is, if it is one. -/
def path? : TypeExpr → Option NamePath
  | ident id _ => some (.name id)
  | member owner attr _ =>
      owner.path?.map fun path => .member path attr
  | _ => none

/- An annotation without the quotes around all of it. -/
def unquoted : TypeExpr → TypeExpr
  | quoted body _ => body
  | t => t

end TypeExpr

------------------------------------------------------------
-- Reading
------------------------------------------------------------

mutual

/- The annotation that an expression is. -/
def Expr.typeExprWith
    (quote : String → ByteRange → TypeExpr) :
    Expr → TypeExpr
  | .literal (.str text) r => quote text r
  | .literal .none r => .noneType r
  | .literal .ellipsis r => .ellipsis r
  | .name id r => .ident id r
  | .member value attr r =>
      .member (value.typeExprWith quote) attr r
  | .subscript value (.tuple items _) r =>
      .subscript (value.typeExprWith quote)
        (Expr.typeExprsWith quote items) r
  | .subscript value index r =>
      .subscript (value.typeExprWith quote)
        [index.typeExprWith quote] r
  | .binary left .bitOr right r =>
      .either (left.typeExprWith quote)
        (right.typeExprWith quote) r
  | .list items r =>
      .list (Expr.typeExprsWith quote items) r
  | .tuple items r =>
      .tuple (Expr.typeExprsWith quote items) r
  | e => .other e.range

/- The annotations that expressions are. -/
def Expr.typeExprsWith
    (quote : String → ByteRange → TypeExpr) :
    List Expr → List TypeExpr
  | [] => []
  | e :: es =>
      e.typeExprWith quote :: Expr.typeExprsWith quote es

end

/-
  The annotation in a string literal, with literals nested
  in it at most so many times.
-/
def TypeExpr.ofText
    (parse : String → Except ParseError Expr) :
    Nat → String → ByteRange → TypeExpr
  | 0, _, r => .other r
  | depth + 1, text, r =>
      match parse text with
      | .ok e =>
          .quoted (e.typeExprWith (ofText parse depth)) r
      | .error fault => .unreadable fault r

/-
  The annotation that an expression is. A literal is longer
  than the literals in it, which bounds the nesting.
-/
def Expr.typeExpr (e : Expr) : TypeExpr :=
  e.typeExprWith fun text r =>
    TypeExpr.ofText parseExpression (text.length + 1) text r

end SigCheck
