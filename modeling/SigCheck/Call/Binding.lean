import SigCheck.Ty.Basic

/-
  The arguments of a call and the rule that matches them to
  the parameters of a list.

  Key definitions include:
    * `CallArgs`, `ArgSource`, `BoundArg`
    * `CallMismatch`, with `CallMismatch.message`
    * `Binding.placePositional?`
    * `Binding.placeKeywords`
    * `Binding.missing`
    * `Signature.bind`
-/

namespace SigCheck

------------------------------------------------------------
-- Arguments
------------------------------------------------------------

/-
  The types of the arguments at one call site. The unpacked
  iterables and mappings may supply any number of arguments.
-/
structure CallArgs where
  positional : List Ty := []
  keywords : List (String × Ty) := []
  star : List Ty := []
  doubleStar : List Ty := []
  deriving Inhabited

/- Where an argument stands in the call. -/
inductive ArgSource where
  | positional (index : Nat)
  | keyword (name : String)
  deriving DecidableEq, Repr

/- An argument with the parameter that receives it. -/
structure BoundArg where
  param : Parameter
  label : String
  arg : Ty
  source : ArgSource
  deriving DecidableEq

------------------------------------------------------------
-- Mismatches
------------------------------------------------------------

/- Why the arguments of a call do not fit its parameters. -/
inductive CallMismatch where
  | tooManyPositional (expected : Nat) (found : Nat)
  | unexpectedKeyword (name : String)
  | multipleValues (name : String)
  | positionalOnlyAsKeyword (name : String)
  | missing (names : List String)
  | forwardingRequired (var : String)
  | leadMismatch (expected : Nat) (found : Nat)
  deriving DecidableEq, Repr

namespace CallMismatch

/- The ending of a counted noun. -/
def plural (count : Nat) : String :=
  if count == 1 then "" else "s"

/- A name between single quotes. -/
def quoted (name : String) : String :=
  "'" ++ name ++ "'"

/- What the user reads about a mismatch. -/
def message : CallMismatch → String
  | tooManyPositional expected found =>
      s!"too many positional arguments (expected at most {expected}, found {found})"
  | unexpectedKeyword name =>
      "unexpected keyword argument " ++ quoted name
  | multipleValues name =>
      "multiple values for argument " ++ quoted name
  | positionalOnlyAsKeyword name =>
      "positional-only argument " ++ quoted name
        ++ " passed by keyword"
  | missing names =>
      "missing argument" ++ plural names.length ++ " "
        ++ ", ".intercalate (names.map quoted)
  | forwardingRequired var =>
      "arguments must be forwarded as (*args: " ++ var
        ++ ".args, **kwargs: " ++ var ++ ".kwargs)"
  | leadMismatch expected found =>
      s!"expected {expected} leading positional argument"
        ++ plural expected
        ++ s!" before *args, found {found}"

end CallMismatch

------------------------------------------------------------
-- Binding
------------------------------------------------------------

namespace Binding

/- A parameter with its index in its list. -/
abbrev Slot := Nat × Parameter

/- The parameters of a list with their indices. -/
def slots (ps : List Parameter) : List Slot :=
  ps.zipIdx.map fun (p, index) => (index, p)

/- The slots that positional arguments fill, in order. -/
def positionalSlots (ps : List Parameter) : List Slot :=
  (slots ps).filter (·.2.kind.isPositional)

/- The first slot of a kind. -/
def slotOfKind?
    (kind : ParamKind)
    (ps : List Parameter) : Option Slot :=
  (slots ps).find? (·.2.kind == kind)

/-
  The slot of the positional argument at an index: its own
  place, or the star parameter behind the last place.
-/
def placePositional?
    (ps : List Parameter)
    (index : Nat) : Option Slot :=
  ((positionalSlots ps)[index]?).or
    (slotOfKind? .varPositional ps)

/- The slot that a keyword reaches by name. -/
def keywordSlot?
    (ps : List Parameter)
    (name : String) : Option Slot :=
  (slots ps).find? fun (_, p) =>
    p.kind.isKeyword && p.name == some name

/- The name belongs to a positional-only parameter. -/
def isPositionalOnlyName
    (ps : List Parameter)
    (name : String) : Bool :=
  ps.any fun p =>
    p.kind == .positionalOnly && p.name == some name

/- Match the positional arguments, from a first index on. -/
def placePositionals
    (ps : List Parameter)
    (total : Nat) :
    Nat → List Ty → Except CallMismatch (List BoundArg)
  | _, [] => .ok []
  | index, arg :: args =>
      match placePositional? ps index with
      | none =>
          .error
            (.tooManyPositional (positionalSlots ps).length
              total)
      | some (place, p) => do
          let rest ←
            placePositionals ps total (index + 1) args
          return ⟨p, p.label place, arg, .positional index⟩
            :: rest

/-
  The slot of one keyword argument, given the filled slots:
  the parameter of that name, or the one that collects other
  keywords.
-/
def placeKeyword
    (ps : List Parameter)
    (filled : List Nat)
    (name : String) : Except CallMismatch Slot :=
  match keywordSlot? ps name with
  | some (place, p) =>
      if filled.contains place then
        .error (.multipleValues name)
      else .ok (place, p)
  | none =>
      match slotOfKind? .varKeyword ps with
      | some slot => .ok slot
      | none =>
          if isPositionalOnlyName ps name then
            .error (.positionalOnlyAsKeyword name)
          else .error (.unexpectedKeyword name)

/-
  Match the keyword arguments in order. The second result
  lists all slots that are filled afterwards.
-/
def placeKeywords
    (ps : List Parameter) :
    List Nat → List (String × Ty) →
      Except CallMismatch (List BoundArg × List Nat)
  | filled, [] => .ok ([], filled)
  | filled, (name, arg) :: keywords => do
      let (place, p) ← placeKeyword ps filled name
      let (bound, filled) ←
        placeKeywords ps (place :: filled) keywords
      return (⟨p, name, arg, .keyword name⟩ :: bound, filled)

/- An unpacking in the call may supply the parameter. -/
def mayBeUnpacked
    (args : CallArgs)
    (p : Parameter) : Bool :=
  (!args.star.isEmpty && p.kind.isPositional)
    || (!args.doubleStar.isEmpty && p.kind.isKeyword)

/- The labels of the required parameters left without a value. -/
def missing
    (ps : List Parameter)
    (args : CallArgs)
    (filled : List Nat) : List String :=
  (slots ps).filterMap fun (place, p) =>
    if p.isRequired && !filled.contains place
        && !mayBeUnpacked args p then
      some (p.label place)
    else none

/- Match arguments to the parameters of a concrete list. -/
def bindParams
    (ps : List Parameter)
    (args : CallArgs) :
    Except CallMismatch (List BoundArg) := do
  let count := args.positional.length
  let leading ← placePositionals ps count 0 args.positional
  let taken := (positionalSlots ps).take count
  let (named, filled) ←
    placeKeywords ps (taken.map (·.1)) args.keywords
  match missing ps args filled with
  | [] => return leading ++ named
  | names => throw (.missing names)

end Binding

namespace Signature

/-
  Match arguments to a signature. The gradual list takes
  everything; what a variable accepts is for its caller to
  know.
-/
def bind
    (sig : Signature)
    (args : CallArgs) :
    Except CallMismatch (List BoundArg) :=
  match sig with
  | .gradual => .ok []
  | .spec _ var => .error (.forwardingRequired var)
  | .params ps => Binding.bindParams ps args

end Signature

end SigCheck
