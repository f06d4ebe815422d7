import SigCheck.Call.Inference
import SigCheck.Diagnostic.Basic
import SigCheck.Source.Replacement
import SigCheck.TypeExpr.Resolution

/-
  What checking carries along: scopes with the variables
  that they hold rigid, classes whose bodies are open, fresh
  names, and the diagnostics in the order in which they are
  found, with the log that keeps a bounded number of them.

  Key definitions include:
    * `CheckConfig`, `ConstraintHook`, `CheckEnv`
    * `Scope`
    * `CheckState`
    * `CheckState.lookup?`, `CheckState.define`
    * `CheckState.take`
    * `CheckState.instantiate`
    * `CheckState.restoreNames`, `CheckState.restoreCause`
    * `Check`, `Check.report`, `Check.inScope`
-/

namespace SigCheck

------------------------------------------------------------
-- Surroundings
------------------------------------------------------------

/- The switches of checking. -/
structure CheckConfig where
  enabled : Bool := true
  requireMatchingName : Bool := true
  dunderPositional : Bool := true
  join : JoinStrategy := .supertype
  checkArgumentTypes : Bool := true
  checkReturnTypes : Bool := true
  deriving Repr, Inhabited

/-
  What a solved variable must satisfy beyond the rules; a
  text tells why it does not. By default nothing more.
-/
structure ConstraintHook where
  spec : SpecDecl → Signature → Option String :=
    fun _ _ => none
  typeVar : TypeVarDecl → Ty → Option String :=
    fun _ _ => none
  deriving Inhabited

/- What stays the same while a text is checked. -/
structure CheckEnv where
  config : CheckConfig := {}
  hook : ConstraintHook := {}
  index : LineIndex
  file : String := "<string>"
  maxErrors : Nat := 100

------------------------------------------------------------
-- Scopes
------------------------------------------------------------

/- What opens a scope. -/
inductive ScopeKind where
  | function
  | cls
  | lambda
  deriving DecidableEq, Repr

/-
  The names of a function, class or lambda, the variables
  that its header binds, and what a function returns.
-/
structure Scope where
  kind : ScopeKind
  symbols : Table Symbol := ∅
  rigid : RigidVars := {}
  returns : Option Ty := none

/- A symbol with the scopes around its definition. -/
structure Found where
  symbol : Symbol
  scopes : List Scope

namespace Scope

/-
  The symbol of a name in scopes, innermost first. A class
  body is visible from directly inside it only.
-/
def findIn
    (name : String) :
    Bool → List Scope → Option Found
  | _, [] => none
  | direct, s :: outer =>
      if s.kind == .cls && !direct then
        findIn name false outer
      else
        match s.symbols.find? name with
        | some symbol => some ⟨symbol, s :: outer⟩
        | none => findIn name false outer

/- The variables that scopes hold rigid. -/
def rigidOf (scopes : List Scope) : RigidVars where
  types := scopes.reverse.flatMap (·.rigid.types)
  specs := scopes.reverse.flatMap (·.rigid.specs)

/- The declared parameter specifications of a scope. -/
def specNames (s : Scope) : List String :=
  SymbolTable.specNames s.symbols

end Scope

------------------------------------------------------------
-- State
------------------------------------------------------------

/- A fresh name with the variable that it stands for. -/
structure FreshName where
  name : String
  var : String
  deriving DecidableEq, Repr

namespace FreshName

/- Put a name behind all that are not shorter. -/
def insertByLength
    (f : FreshName) : List FreshName → List FreshName
  | [] => [f]
  | g :: gs =>
      if byteLength g.name < byteLength f.name then
        f :: g :: gs
      else g :: insertByLength f gs

/- Longer names first, and equally long ones in order. -/
def longestFirst (fresh : List FreshName) : List FreshName :=
  fresh.foldl (fun done f => f.insertByLength done) []

end FreshName

/-
  The state of checking. Scopes and classes are listed from
  the innermost one. The log keeps of what was found as many
  errors as the user wants to see.
-/
structure CheckState where
  globals : SymbolTable := ∅
  scopes : List Scope := []
  classes : List ClassInfo := []
  fresh : List FreshName := []
  found : Array Diagnostic := #[]
  log : ErrorLog := {}
  deriving Inhabited

namespace CheckState

/- A name with the scopes around its definition. -/
def find? (s : CheckState) (name : String) : Option Found :=
  match Scope.findIn name true s.scopes with
  | some found => some found
  | none =>
      (s.globals.find? name).map fun symbol => ⟨symbol, []⟩

/- What a name stands for. -/
def lookup? (s : CheckState) (name : String) : Option Symbol :=
  (s.find? name).map (·.symbol)

/- What names mean in annotations. -/
def names (s : CheckState) : NameEnv :=
  .ofLookup s.lookup?

/- Define a name in the innermost scope. -/
def define
    (s : CheckState)
    (name : String)
    (symbol : Symbol) : CheckState :=
  match s.scopes with
  | [] => { s with globals := s.globals.insert name symbol }
  | scope :: outer =>
      let symbols := scope.symbols.insert name symbol
      { s with
        scopes := { scope with symbols := symbols } :: outer }

/- The innermost scope is a class body. -/
def inClassBody (s : CheckState) : Bool :=
  s.scopes.head?.any (·.kind == .cls)

/- All variables that are rigid here. -/
def rigid (s : CheckState) : RigidVars :=
  Scope.rigidOf s.scopes

/- What the innermost function returns. -/
def expectedReturn (s : CheckState) : Option Ty :=
  (s.scopes.find? (·.kind == .function)).bind (·.returns)

/- Every declared parameter specification, sorted. -/
def visibleSpecs (s : CheckState) : List String :=
  (s.globals.specNames
    ++ s.scopes.flatMap Scope.specNames).eraseDups.mergeSort
      fun a b => a ≤ b

/- The class of a name, be it defined or still open. -/
def cls? (s : CheckState) (name : String) : Option ClassInfo :=
  match (s.lookup? name).bind Symbol.cls? with
  | some info => some info
  | none => s.classes.find? (·.name == name)

/- The state before anything is checked. -/
def start (env : CheckEnv) : CheckState where
  log := { limit := env.maxErrors }

/- Take in a diagnostic. -/
def take (s : CheckState) (d : Diagnostic) : CheckState :=
  { s with
    found := s.found.push d
    log := s.log.add d }

/- Change the innermost open class. -/
def updateClass
    (s : CheckState)
    (f : ClassInfo → ClassInfo) : CheckState :=
  match s.classes with
  | [] => s
  | info :: outer => { s with classes := f info :: outer }

------------------------------------------------------------
-- Fresh Names
------------------------------------------------------------

/- The variable that a name stands for. -/
def declaredName (s : CheckState) (name : String) : String :=
  ((s.fresh.find? (·.name == name)).map (·.var)).getD name

/- A fresh name for a variable. -/
def freshName
    (s : CheckState)
    (var : String) : String × CheckState :=
  let name := var ++ "@" ++ toString (s.fresh.length + 1)
  (name, { s with fresh := s.fresh ++ [⟨name, var⟩] })

/- Fresh names for several variables. -/
def freshNames
    (s : CheckState) :
    List String → List (String × String) × CheckState
  | [] => ([], s)
  | var :: vars =>
      let (name, s) := s.freshName var
      let (rest, s) := s.freshNames vars
      ((var, name) :: rest, s)

/-
  Give the variables of a type fresh names where they are
  rigid here without being so where the type was defined.
-/
def instantiate
    (s : CheckState)
    (ty : Ty)
    (definedIn : List Scope) : Ty × CheckState :=
  let rigid := s.rigid
  let held := Scope.rigidOf definedIn
  let types := ty.typeVars.filter fun v =>
    rigid.types.contains v && !held.types.contains v
  let specs := ty.specVars.filter fun v =>
    rigid.specs.contains v && !held.specs.contains v
  let (freshTypes, s) := s.freshNames types
  let (freshSpecs, s) := s.freshNames specs
  let subst : Substitution :=
    ⟨.ofPairs (freshTypes.map fun (v, w) => (v, .typeVar w)),
      .ofPairs (freshSpecs.map fun (v, w) => (v, .ofVar w))⟩
  (ty.substitute subst, s)

/-
  A text with the variables that fresh names stand for. One
  name may be a part of another, so longer ones go first.
-/
def restoreNames (s : CheckState) (text : String) : String :=
  if text.toList.contains '@' then
    (FreshName.longestFirst s.fresh).foldl
      (fun text f => replaceAll f.name f.var text) text
  else text

/- The texts of what is wrong with a call without fresh names. -/
def restoreCause (s : CheckState) : Cause → Cause
  | .unsatisfiableBinding var first second =>
      .unsatisfiableBinding (s.restoreNames var)
        (s.restoreNames first) (s.restoreNames second)
  | .callSiteMismatch callee reason =>
      .callSiteMismatch callee (s.restoreNames reason)
  | .invalidArgType param expected found =>
      .invalidArgType param (s.restoreNames expected)
        (s.restoreNames found)
  | cause => cause

end CheckState

------------------------------------------------------------
-- Steps
------------------------------------------------------------

/- A step of checking. -/
abbrev Check := ReaderT CheckEnv (StateM CheckState)

namespace Check

/- The names that are visible. -/
def names : Check NameEnv := do
  return (← get).names

/- What an expression refers to, if it is a path. -/
def meaning (e : Expr) : Check Meaning := do
  return (← names).meaningOf e.path?

/- Define a name in the innermost scope. -/
def define (name : String) (symbol : Symbol) : Check Unit :=
  modify fun s => s.define name symbol

/- Report a diagnostic of the checked file. -/
def report (d : Diagnostic) : Check Unit := do
  let file := (← read).file
  modify fun s => s.take (d.inFile file)

/- Report diagnostics in order. -/
def reportAll : List Diagnostic → Check Unit
  | [] => return ()
  | d :: ds => do
      report d
      reportAll ds

/- Report a cause at a location. -/
def reportAt (cause : Cause) (location : Location) : Check Unit :=
  report { cause := cause, location := location }

/- The location of a stretch of the text. -/
def locate (range : ByteRange) : Check Location := do
  return (← read).index.location range

/- The type of an annotation. -/
def resolve (e : Expr) : Check Ty := do
  return e.typeExpr.resolve (← names)

/- A type as it is used here. -/
def instantiate
    (ty : Ty)
    (definedIn : List Scope) : Check Ty :=
  modifyGet fun s => s.instantiate ty definedIn

/- A step inside a new innermost scope. -/
def inScope
    {α : Type}
    (scope : Scope)
    (step : Check α) : Check α := do
  modify fun s => { s with scopes := scope :: s.scopes }
  let result ← step
  modify fun s => { s with scopes := s.scopes.tail }
  return result

end Check

end SigCheck
