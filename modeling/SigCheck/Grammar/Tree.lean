import SigCheck.Source.Location

/-
  Syntax trees of the checked language, as far as checking
  looks at them. An expression or statement whose parts are
  never looked at is kept without them.

  Key definitions include:
    * `Literal`, `BinaryOp`
    * `Expr`, `Keyword`
    * `ParamDef`, `ParamDefs`
    * `Stmt`
-/

namespace SigCheck

------------------------------------------------------------
-- Expressions
------------------------------------------------------------

/- A constant. Only texts and truth values keep their value. -/
inductive Literal where
  | none
  | ellipsis
  | bool (value : Bool)
  | str (value : String)
  | bytes
  | int
  | float
  | imaginary
  deriving DecidableEq, Repr, Inhabited

/- The operators between two operands. -/
inductive BinaryOp where
  | add
  | sub
  | mul
  | matMul
  | div
  | floorDiv
  | mod
  | pow
  | shiftLeft
  | shiftRight
  | bitOr
  | bitXor
  | bitAnd
  deriving DecidableEq, Repr, Inhabited

mutual

/-
  An expression with its place. A `formatted` string shows
  nothing of the expressions in it; `closed` stands for
  comprehensions, slices and yields.
-/
inductive Expr where
  | literal (value : Literal) (range : ByteRange)
  | formatted (range : ByteRange)
  | name (id : String) (range : ByteRange)
  | member
      (value : Expr) (attr : String) (range : ByteRange)
  | subscript
      (value : Expr) (index : Expr) (range : ByteRange)
  | call
      (callee : Expr)
      (args : List Expr)
      (keywords : List Keyword)
      (range : ByteRange)
  | lambda
      (params : List (String × Bool))
      (body : Expr)
      (range : ByteRange)
  | list (items : List Expr) (range : ByteRange)
  | set (items : List Expr) (range : ByteRange)
  | tuple (items : List Expr) (range : ByteRange)
  | dict
      (keys : List Expr)
      (values : List Expr)
      (range : ByteRange)
  | boolean (operands : List Expr) (range : ByteRange)
  | negation (operand : Expr) (range : ByteRange)
  | unary (operand : Expr) (range : ByteRange)
  | binary
      (left : Expr)
      (op : BinaryOp)
      (right : Expr)
      (range : ByteRange)
  | compare
      (left : Expr)
      (others : List Expr)
      (range : ByteRange)
  | conditional
      (test : Expr)
      (body : Expr)
      (orelse : Expr)
      (range : ByteRange)
  | named (target : Expr) (value : Expr) (range : ByteRange)
  | starred (value : Expr) (range : ByteRange)
  | await (value : Expr) (range : ByteRange)
  | closed (range : ByteRange)

/-
  A keyword argument; without a name it unpacks a mapping.
-/
structure Keyword where
  name : Option String
  value : Expr

end

instance : Inhabited Expr := ⟨.closed ⟨0, 0⟩⟩

namespace Expr

/- The place of an expression. -/
def range : Expr → ByteRange
  | literal _ r => r
  | formatted r => r
  | name _ r => r
  | member _ _ r => r
  | subscript _ _ r => r
  | call _ _ _ r => r
  | lambda _ _ r => r
  | list _ r => r
  | set _ r => r
  | tuple _ r => r
  | dict _ _ r => r
  | boolean _ r => r
  | negation _ r => r
  | unary _ r => r
  | binary _ _ _ r => r
  | compare _ _ r => r
  | conditional _ _ _ r => r
  | named _ _ r => r
  | starred _ r => r
  | await _ r => r
  | closed r => r

/- The expression unpacks an iterable. -/
def isStarred : Expr → Bool
  | starred _ _ => true
  | _ => false

end Expr

------------------------------------------------------------
-- Parameters
------------------------------------------------------------

/-
  A parameter of a definition. Its place runs from its name
  to the end of its annotation.
-/
structure ParamDef where
  name : String
  typeExpr : Option Expr := none
  hasDefault : Bool := false
  range : ByteRange

/- The parameters of a definition by the way they are marked. -/
structure ParamDefs where
  positionalOnly : List ParamDef := []
  regular : List ParamDef := []
  star : Option ParamDef := none
  keywordOnly : List ParamDef := []
  doubleStar : Option ParamDef := none
  deriving Inhabited

namespace ParamDefs

/- The parameters that stand before a star. -/
def positional (ps : ParamDefs) : List ParamDef :=
  ps.positionalOnly ++ ps.regular

/- All parameters in the order of the source. -/
def all (ps : ParamDefs) : List ParamDef :=
  ps.positional ++ ps.star.toList ++ ps.keywordOnly
    ++ ps.doubleStar.toList

end ParamDefs

------------------------------------------------------------
-- Statements
------------------------------------------------------------

/- An imported name with the name that it gets. -/
structure ImportAlias where
  name : String
  alias? : Option String
  deriving DecidableEq, Repr, Inhabited

/- An item of a `with` statement. -/
structure WithItem where
  context : Expr
  target : Option Expr

/- The parts of a function definition but its body. -/
structure FunctionHead where
  name : String
  params : ParamDefs
  decorators : List Expr
  returns : Option Expr
  isAsync : Bool

/- The parts of a class definition but its body. -/
structure ClassHead where
  name : String
  bases : List Expr
  keywords : List Keyword
  decorators : List Expr

mutual

/-
  A statement. Statements that declare, bind and call
  nothing are `inert`.
-/
inductive Stmt where
  | function (head : FunctionHead) (body : List Stmt)
  | cls (head : ClassHead) (body : List Stmt)
  | assign (targets : List Expr) (value : Expr)
  | annotated
      (target : Expr)
      (typeExpr : Expr)
      (value : Option Expr)
  | augmented (value : Expr)
  | ret (value : Option Expr) (range : ByteRange)
  | expr (value : Expr)
  | importModules (names : List ImportAlias)
  | importNames
      (module : String)
      (names : List ImportAlias)
  | branch
      (test : Expr)
      (body : List Stmt)
      (orelse : List Stmt)
  | whileLoop
      (test : Expr)
      (body : List Stmt)
      (orelse : List Stmt)
  | forLoop
      (isAsync : Bool)
      (target : Expr)
      (iter : Expr)
      (body : List Stmt)
      (orelse : List Stmt)
  | withBlock (items : List WithItem) (body : List Stmt)
  | tryBlock
      (body : List Stmt)
      (handlers : List Handler)
      (orelse : List Stmt)
      (finalbody : List Stmt)
  | raise (exc : Option Expr)
  | assert (test : Expr)
  | inert

/- A handler of a `try` statement. -/
structure Handler where
  name : Option String
  body : List Stmt

end

instance : Inhabited Stmt := ⟨.inert⟩

end SigCheck
