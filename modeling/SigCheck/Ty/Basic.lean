/-
  Types of the checked language, together with the parameter
  lists that callables carry.

  A signature is a concrete parameter list, a parameter
  specification variable behind some leading parameters, or
  the gradual list that accepts every call.

  Key definitions include:
    * `ParamKind`
    * `Ty`, `TypeArg`, `Parameter`, `Signature`
    * `Parameter.isRequired`
    * `Parameter.anonymize`
    * `Ty.size`, `Signature.size`
    * `Ty.beq`, with `Ty.beq_iff_eq`
-/

namespace SigCheck

------------------------------------------------------------
-- Parameter Kinds
------------------------------------------------------------

/- The five ways in which a parameter takes its arguments. -/
inductive ParamKind where
  | positionalOnly
  | positionalOrKeyword
  | varPositional
  | keywordOnly
  | varKeyword
  deriving DecidableEq, Repr

namespace ParamKind

/- The parameter fills one positional slot. -/
def isPositional : ParamKind → Bool
  | positionalOnly => true
  | positionalOrKeyword => true
  | _ => false

/- The parameter can be reached by its own name. -/
def isKeyword : ParamKind → Bool
  | positionalOrKeyword => true
  | keywordOnly => true
  | _ => false

/- The parameter collects any number of arguments. -/
def isVariadic : ParamKind → Bool
  | varPositional => true
  | varKeyword => true
  | _ => false

end ParamKind

------------------------------------------------------------
-- Types and Signatures
------------------------------------------------------------

mutual

/-
  A type. Classes without type arguments are `cls`; an
  instance of a generic class is `generic`, with its
  arguments in declaration order.
-/
inductive Ty where
  | any
  | never
  | noneType
  | bool
  | int
  | float
  | str
  | bytes
  | object
  | list (item : Ty)
  | set (item : Ty)
  | dict (key : Ty) (value : Ty)
  | tuple (items : List Ty)
  | union (members : List Ty)
  | cls (name : String)
  | generic (name : String) (args : List TypeArg)
  | callable (sig : Signature) (ret : Ty)
  | typeVar (name : String)
  | specArgs (name : String)
  | specKwargs (name : String)

/- An argument of a generic class. -/
inductive TypeArg where
  | type (ty : Ty)
  | params (sig : Signature)

/-
  A parameter. Only a positional-only parameter may lack a
  name.
-/
structure Parameter where
  name : Option String
  kind : ParamKind
  ty : Ty
  hasDefault : Bool

/-
  What a callable accepts: a concrete list, the list that
  `var` stands for behind anonymous leading parameters, or
  any arguments whatever.
-/
inductive Signature where
  | params (list : List Parameter)
  | spec (lead : List Parameter) (var : String)
  | gradual

end

instance : Inhabited Ty := ⟨.any⟩
instance : Inhabited TypeArg := ⟨.type .any⟩
instance : Inhabited Signature := ⟨.gradual⟩
instance : Inhabited Parameter :=
  ⟨⟨none, .positionalOnly, .any, false⟩⟩

------------------------------------------------------------
-- Parameters
------------------------------------------------------------

namespace Parameter

/- An anonymous required positional-only parameter. -/
def anonymous (ty : Ty) : Parameter :=
  ⟨none, .positionalOnly, ty, false⟩

/- A named parameter without a default. -/
def named
    (name : String)
    (kind : ParamKind)
    (ty : Ty) : Parameter :=
  ⟨some name, kind, ty, false⟩

/- A call that gives the parameter nothing is an error. -/
def isRequired (p : Parameter) : Bool :=
  !p.hasDefault && !p.kind.isVariadic

/-
  What a message calls the parameter at an index: its name,
  or its place counted from one.
-/
def label
    (p : Parameter)
    (index : Nat) : String :=
  p.name.getD ("#" ++ toString (index + 1))

/- Forget the name: only a position can fill the parameter. -/
def anonymize (p : Parameter) : Parameter :=
  { p with kind := .positionalOnly, name := none }

end Parameter

namespace Signature

/- The bare parameter specification variable. -/
def ofVar (var : String) : Signature :=
  .spec [] var

/- The variable behind the leading parameters, if there is one. -/
def specVar? : Signature → Option String
  | .spec _ var => some var
  | _ => none

end Signature

namespace Ty

/- `Any` is consistent with every type. -/
def isAny : Ty → Bool
  | .any => true
  | _ => false

end Ty

------------------------------------------------------------
-- Size
------------------------------------------------------------

mutual

/- The number of types, arguments and parameters in a type. -/
def Ty.size : Ty → Nat
  | .list t => t.size + 1
  | .set t => t.size + 1
  | .dict k v => k.size + v.size + 1
  | .tuple ts => Ty.sizeAll ts + 1
  | .union ts => Ty.sizeAll ts + 1
  | .generic _ args => TypeArg.sizeAll args + 1
  | .callable sig ret => sig.size + ret.size + 1
  | _ => 1

/- The total size of a list of types. -/
def Ty.sizeAll : List Ty → Nat
  | [] => 0
  | t :: ts => t.size + Ty.sizeAll ts

/- The size of a class argument. -/
def TypeArg.size : TypeArg → Nat
  | .type t => t.size + 1
  | .params sig => sig.size + 1

/- The total size of a list of class arguments. -/
def TypeArg.sizeAll : List TypeArg → Nat
  | [] => 0
  | a :: args => a.size + TypeArg.sizeAll args

/- The size of a parameter. -/
def Parameter.size : Parameter → Nat
  | ⟨_, _, ty, _⟩ => ty.size + 1

/- The total size of a parameter list. -/
def Parameter.sizeAll : List Parameter → Nat
  | [] => 0
  | p :: ps => p.size + Parameter.sizeAll ps

/- The size of a signature. -/
def Signature.size : Signature → Nat
  | .params ps => Parameter.sizeAll ps + 1
  | .spec lead _ => Parameter.sizeAll lead + 1
  | .gradual => 1

end

------------------------------------------------------------
-- Equality
------------------------------------------------------------

mutual

/- Equality of types, member by member. -/
def Ty.beq : Ty → Ty → Bool
  | .any, .any => true
  | .never, .never => true
  | .noneType, .noneType => true
  | .bool, .bool => true
  | .int, .int => true
  | .float, .float => true
  | .str, .str => true
  | .bytes, .bytes => true
  | .object, .object => true
  | .list a, .list b => Ty.beq a b
  | .set a, .set b => Ty.beq a b
  | .dict k v, .dict l w => Ty.beq k l && Ty.beq v w
  | .tuple as, .tuple bs => Ty.beqAll as bs
  | .union as, .union bs => Ty.beqAll as bs
  | .cls m, .cls n => m == n
  | .generic m as, .generic n bs =>
      m == n && TypeArg.beqAll as bs
  | .callable s r, .callable t q =>
      Signature.beq s t && Ty.beq r q
  | .typeVar m, .typeVar n => m == n
  | .specArgs m, .specArgs n => m == n
  | .specKwargs m, .specKwargs n => m == n
  | _, _ => false
termination_by structural a => a

/- Equality of lists of types. -/
def Ty.beqAll : List Ty → List Ty → Bool
  | [], [] => true
  | a :: as, b :: bs => Ty.beq a b && Ty.beqAll as bs
  | _, _ => false
termination_by structural a => a

/- Equality of class arguments. -/
def TypeArg.beq : TypeArg → TypeArg → Bool
  | .type a, .type b => Ty.beq a b
  | .params s, .params t => Signature.beq s t
  | _, _ => false
termination_by structural a => a

/- Equality of lists of class arguments. -/
def TypeArg.beqAll : List TypeArg → List TypeArg → Bool
  | [], [] => true
  | a :: as, b :: bs =>
      TypeArg.beq a b && TypeArg.beqAll as bs
  | _, _ => false
termination_by structural a => a

/- Equality of parameters. -/
def Parameter.beq : Parameter → Parameter → Bool
  | ⟨m, k, a, d⟩, ⟨n, l, b, e⟩ =>
      m == n && k == l && Ty.beq a b && d == e
termination_by structural a => a

/- Equality of parameter lists. -/
def Parameter.beqAll :
    List Parameter → List Parameter → Bool
  | [], [] => true
  | p :: ps, q :: qs =>
      Parameter.beq p q && Parameter.beqAll ps qs
  | _, _ => false
termination_by structural a => a

/- Equality of signatures. -/
def Signature.beq : Signature → Signature → Bool
  | .params ps, .params qs => Parameter.beqAll ps qs
  | .spec ps v, .spec qs w =>
      Parameter.beqAll ps qs && v == w
  | .gradual, .gradual => true
  | _, _ => false
termination_by structural a => a

end

mutual

/- The test for equal types decides equality. -/
theorem Ty.beq_iff_eq :
    (a : Ty) → ∀ b, Ty.beq a b = true ↔ a = b
  | .any => by intro b; cases b <;> simp [Ty.beq]
  | .never => by intro b; cases b <;> simp [Ty.beq]
  | .noneType => by intro b; cases b <;> simp [Ty.beq]
  | .bool => by intro b; cases b <;> simp [Ty.beq]
  | .int => by intro b; cases b <;> simp [Ty.beq]
  | .float => by intro b; cases b <;> simp [Ty.beq]
  | .str => by intro b; cases b <;> simp [Ty.beq]
  | .bytes => by intro b; cases b <;> simp [Ty.beq]
  | .object => by intro b; cases b <;> simp [Ty.beq]
  | .cls _ => by intro b; cases b <;> simp [Ty.beq]
  | .typeVar _ => by intro b; cases b <;> simp [Ty.beq]
  | .specArgs _ => by intro b; cases b <;> simp [Ty.beq]
  | .specKwargs _ => by intro b; cases b <;> simp [Ty.beq]
  | .list t => by
      have ih := Ty.beq_iff_eq t
      intro b
      cases b <;> simp [Ty.beq, ih]
  | .set t => by
      have ih := Ty.beq_iff_eq t
      intro b
      cases b <;> simp [Ty.beq, ih]
  | .dict k v => by
      have ihk := Ty.beq_iff_eq k
      have ihv := Ty.beq_iff_eq v
      intro b
      cases b <;> simp [Ty.beq, ihk, ihv]
  | .tuple ts => by
      have ih := Ty.beqAll_iff_eq ts
      intro b
      cases b <;> simp [Ty.beq, ih]
  | .union ts => by
      have ih := Ty.beqAll_iff_eq ts
      intro b
      cases b <;> simp [Ty.beq, ih]
  | .generic _ args => by
      have ih := TypeArg.beqAll_iff_eq args
      intro b
      cases b <;> simp [Ty.beq, ih]
  | .callable sig ret => by
      have ihs := Signature.beq_iff_eq sig
      have ihr := Ty.beq_iff_eq ret
      intro b
      cases b <;> simp [Ty.beq, ihs, ihr]

/- The test for equal lists of types decides equality. -/
theorem Ty.beqAll_iff_eq :
    (as : List Ty) →
      ∀ bs, Ty.beqAll as bs = true ↔ as = bs
  | [] => by intro bs; cases bs <;> simp [Ty.beqAll]
  | a :: as => by
      have ih := Ty.beq_iff_eq a
      have ihs := Ty.beqAll_iff_eq as
      intro bs
      cases bs <;> simp [Ty.beqAll, ih, ihs]

/- The test for equal class arguments decides equality. -/
theorem TypeArg.beq_iff_eq :
    (a : TypeArg) → ∀ b, TypeArg.beq a b = true ↔ a = b
  | .type t => by
      have ih := Ty.beq_iff_eq t
      intro b
      cases b <;> simp [TypeArg.beq, ih]
  | .params sig => by
      have ih := Signature.beq_iff_eq sig
      intro b
      cases b <;> simp [TypeArg.beq, ih]

/-
  The test for equal lists of class arguments decides
  equality.
-/
theorem TypeArg.beqAll_iff_eq :
    (as : List TypeArg) →
      ∀ bs, TypeArg.beqAll as bs = true ↔ as = bs
  | [] => by intro bs; cases bs <;> simp [TypeArg.beqAll]
  | a :: as => by
      have ih := TypeArg.beq_iff_eq a
      have ihs := TypeArg.beqAll_iff_eq as
      intro bs
      cases bs <;> simp [TypeArg.beqAll, ih, ihs]

/- The test for equal parameters decides equality. -/
theorem Parameter.beq_iff_eq :
    (p : Parameter) →
      ∀ q, Parameter.beq p q = true ↔ p = q
  | ⟨_, _, ty, _⟩ => by
      have ih := Ty.beq_iff_eq ty
      intro q
      cases q
      simp [Parameter.beq, ih, and_assoc]

/- The test for equal parameter lists decides equality. -/
theorem Parameter.beqAll_iff_eq :
    (ps : List Parameter) →
      ∀ qs, Parameter.beqAll ps qs = true ↔ ps = qs
  | [] => by intro qs; cases qs <;> simp [Parameter.beqAll]
  | p :: ps => by
      have ih := Parameter.beq_iff_eq p
      have ihs := Parameter.beqAll_iff_eq ps
      intro qs
      cases qs <;> simp [Parameter.beqAll, ih, ihs]

/- The test for equal signatures decides equality. -/
theorem Signature.beq_iff_eq :
    (s : Signature) →
      ∀ t, Signature.beq s t = true ↔ s = t
  | .params ps => by
      have ih := Parameter.beqAll_iff_eq ps
      intro t
      cases t <;> simp [Signature.beq, ih]
  | .spec ps _ => by
      have ih := Parameter.beqAll_iff_eq ps
      intro t
      cases t <;> simp [Signature.beq, ih]
  | .gradual => by
      intro t
      cases t <;> simp [Signature.beq]

end

instance : DecidableEq Ty :=
  fun a b => decidable_of_iff _ (Ty.beq_iff_eq a b)

instance : DecidableEq TypeArg :=
  fun a b => decidable_of_iff _ (TypeArg.beq_iff_eq a b)

instance : DecidableEq Parameter :=
  fun p q => decidable_of_iff _ (Parameter.beq_iff_eq p q)

instance : DecidableEq Signature :=
  fun s t => decidable_of_iff _ (Signature.beq_iff_eq s t)

end SigCheck
