import SigCheck.Call.Fault
import SigCheck.Ty.Substitution
import SigCheck.Ty.Variables

/-
  Inference of one call: bind the arguments, collect what
  they say about the variables of the callee, reconcile
  several candidates for one variable, check the argument
  types and substitute the result.

  Variables of an enclosing function are rigid: they are
  never solved, and a callee that takes such a variable's
  list accepts only the call that forwards it.

  Key definitions include:
    * `InferOptions`, `RigidVars`
    * `Candidates`, `Ty.collect`
    * `stripLead`
    * `Candidates.reconcile`
    * `checkTail`
    * `Ty.inferCall`
-/

namespace SigCheck

------------------------------------------------------------
-- Options and Results
------------------------------------------------------------

/- How several candidates for one variable are joined. -/
inductive JoinStrategy where
  | supertype
  | exact
  deriving DecidableEq, Repr, Inhabited

/- The switches of inference. -/
structure InferOptions where
  join : JoinStrategy := .supertype
  checkTypes : Bool := true
  deriving Repr, Inhabited

/- The variables that belong to enclosing functions. -/
structure RigidVars where
  types : List String := []
  specs : List String := []
  deriving DecidableEq, Repr, Inhabited

namespace RigidVars

/- The variable is rigid. -/
def holds (rigid : RigidVars) : VarName → Bool
  | .type name => rigid.types.contains name
  | .spec name => rigid.specs.contains name

end RigidVars

/-
  What inference finds: the type of the result, the solved
  variables before unsolved ones are defaulted, and the
  issues in the order of their discovery.
-/
structure CallOutcome where
  ret : Ty
  solved : Substitution
  issues : List CallIssue

------------------------------------------------------------
-- Calls through a Variable
------------------------------------------------------------

/- Match the first positional arguments to leading parameters. -/
def bindLead
    (lead : List Parameter)
    (args : CallArgs) : List BoundArg :=
  (lead.zip args.positional).zipIdx.map
    fun ((p, arg), index) =>
      ⟨p, "#" ++ toString (index + 1), arg,
        .positional index⟩

/- The only unpacked type is `Any` or the one expected. -/
def forwardsOnly
    (expected : Ty) : List Ty → Bool
  | [t] => t.isAny || t == expected
  | _ => false

/-
  Match the call that forwards a variable: the leading
  arguments, then exactly its `*args` and `**kwargs`.
-/
def bindForwarding
    (lead : List Parameter)
    (var : String)
    (args : CallArgs) :
    Except CallMismatch (List BoundArg) :=
  if args.positional.length != lead.length then
    .error
      (.leadMismatch lead.length args.positional.length)
  else if args.keywords.isEmpty
      && forwardsOnly (.specArgs var) args.star
      && forwardsOnly (.specKwargs var) args.doubleStar then
    .ok (bindLead lead args)
  else .error (.forwardingRequired var)

/- The arguments behind the leading ones. -/
def CallArgs.dropLead
    (args : CallArgs)
    (count : Nat) : CallArgs :=
  { args with positional := args.positional.drop count }

/-
  What a parameter list still expects after the leading
  parameters are supplied. A star parameter goes on taking
  them.
-/
def stripLeadParams :
    List Parameter → List Parameter →
      Option (List Parameter)
  | [], ps => some ps
  | _ :: _, [] => none
  | expected :: lead, p :: ps =>
      if p.kind.isPositional
          && expected.ty.isSubtype p.ty then
        stripLeadParams lead ps
      else if p.kind == .varPositional
          && expected.ty.isSubtype p.ty then
        stripLeadParams lead (p :: ps)
      else none

/- Every leading parameter fits the one at its place. -/
def fitsLead (lead own : List Parameter) : Bool :=
  (lead.zip own).all fun (expected, p) =>
    expected.ty.isSubtype p.ty

/- What a signature still expects behind leading parameters. -/
def stripLead
    (lead : List Parameter) : Signature → Option Signature
  | .gradual => some .gradual
  | .params ps => (stripLeadParams lead ps).map .params
  | .spec own var =>
      if own.length < lead.length then none
      else if fitsLead lead own then
        some (.spec (own.drop lead.length) var)
      else none

------------------------------------------------------------
-- Candidates
------------------------------------------------------------

/-
  What the arguments say about the variables, in order. A
  candidate for a parameter specification remembers the
  argument that it comes from.
-/
structure Candidates where
  types : List (String × Ty) := []
  specs : List (String × Signature × ArgSource) := []
  deriving Inhabited

namespace Candidates

/- Two runs of candidates, one after the other. -/
def append (a b : Candidates) : Candidates :=
  ⟨a.types ++ b.types, a.specs ++ b.specs⟩

instance : Append Candidates := ⟨append⟩

end Candidates

/- The type mentions a variable that a call may solve. -/
def Ty.hasFreeVars
    (rigid : RigidVars)
    (t : Ty) : Bool :=
  t.mentions.any fun v => !rigid.holds v

mutual

/-
  What an argument type says about the free variables of a
  parameter type. `Any` says nothing. Of a union the first
  member with a free variable is matched, unless a member
  without one takes the argument.
-/
def Ty.collect
    (rigid : RigidVars)
    (source : ArgSource) : Ty → Ty → Candidates
  | _, .any => {}
  | .typeVar name, actual =>
      if rigid.types.contains name then {}
      else ⟨[(name, actual)], []⟩
  | .callable s r, .callable t q =>
      Signature.collect rigid source s t
        ++ Ty.collect rigid source r q
  | .list p, .list a => Ty.collect rigid source p a
  | .set p, .set a => Ty.collect rigid source p a
  | .dict k v, .dict l w =>
      Ty.collect rigid source k l
        ++ Ty.collect rigid source v w
  | .tuple ps, .tuple as =>
      if ps.length == as.length then
        Ty.collectAll rigid source ps as
      else {}
  | .generic m ps, .generic n as =>
      if m == n && ps.length == as.length then
        TypeArg.collectAll rigid source ps as
      else {}
  | .union members, actual =>
      if members.any fun m =>
          !m.hasFreeVars rigid && actual.isSubtype m then
        {}
      else Ty.collectFirst rigid source members actual
  | _, _ => {}
termination_by structural t => t

/- Match the first type of a list that has a free variable. -/
def Ty.collectFirst
    (rigid : RigidVars)
    (source : ArgSource) : List Ty → Ty → Candidates
  | [], _ => {}
  | t :: ts, actual =>
      if t.hasFreeVars rigid then
        Ty.collect rigid source t actual
      else Ty.collectFirst rigid source ts actual
termination_by structural t => t

/- Match types place by place. -/
def Ty.collectAll
    (rigid : RigidVars)
    (source : ArgSource) : List Ty → List Ty → Candidates
  | p :: ps, a :: as =>
      Ty.collect rigid source p a
        ++ Ty.collectAll rigid source ps as
  | _, _ => {}
termination_by structural t => t

/- Match one class argument. -/
def TypeArg.collect
    (rigid : RigidVars)
    (source : ArgSource) : TypeArg → TypeArg → Candidates
  | .type p, .type a => Ty.collect rigid source p a
  | .params p, .params a =>
      Signature.collect rigid source p a
  | _, _ => {}
termination_by structural t => t

/- Match class arguments place by place. -/
def TypeArg.collectAll
    (rigid : RigidVars)
    (source : ArgSource) :
    List TypeArg → List TypeArg → Candidates
  | p :: ps, a :: as =>
      TypeArg.collect rigid source p a
        ++ TypeArg.collectAll rigid source ps as
  | _, _ => {}
termination_by structural t => t

/-
  Match a parameter list. A free variable takes what is left
  behind its leading parameters; a list that cannot take
  those says nothing here and fails the type check later.
-/
def Signature.collect
    (rigid : RigidVars)
    (source : ArgSource) :
    Signature → Signature → Candidates
  | .spec lead var, actual =>
      if rigid.specs.contains var then {}
      else
        match stripLead lead actual with
        | some rest => ⟨[], [(var, rest, source)]⟩
        | none => {}
  | .params ps, .params as =>
      Parameter.collectAll rigid source ps as
  | _, _ => {}
termination_by structural t => t

/- Match the type of a parameter. -/
def Parameter.collect
    (rigid : RigidVars)
    (source : ArgSource) :
    Parameter → Parameter → Candidates
  | ⟨_, kind, ty, _⟩, actual =>
      if kind == actual.kind
          || (kind.isPositional
            && actual.kind.isPositional) then
        Ty.collect rigid source ty actual.ty
      else {}
termination_by structural t => t

/- Match parameters of like kinds, place by place. -/
def Parameter.collectAll
    (rigid : RigidVars)
    (source : ArgSource) :
    List Parameter → List Parameter → Candidates
  | p :: ps, a :: as =>
      Parameter.collect rigid source p a
        ++ Parameter.collectAll rigid source ps as
  | _, _ => {}
termination_by structural t => t

end

------------------------------------------------------------
-- Reconciliation
------------------------------------------------------------

namespace JoinStrategy

/- Join two candidates, where that can be done. -/
def apply
    (strategy : JoinStrategy)
    (s t : Signature) : Option Signature :=
  match strategy with
  | supertype => s.commonSupertype t
  | exact =>
      match s, t with
      | .gradual, t => some t
      | s, .gradual => some s
      | s, t => if s.equivalent t then some s else none

end JoinStrategy

/-
  The state of reconciliation: the solutions so far, the
  variables given up, and the issues.
-/
structure SpecSolving where
  solved : Table Signature := ∅
  failed : List String := []
  issues : List CallIssue := []

namespace SpecSolving

/-
  Take in one more candidate. Two candidates without a join
  are reported once, and the gradual list then keeps the
  rest of the call quiet.
-/
def add
    (strategy : JoinStrategy)
    (state : SpecSolving)
    (candidate : String × Signature × ArgSource) :
    SpecSolving :=
  let (var, sig, source) := candidate
  if state.failed.contains var then state
  else
    match state.solved.find? var with
    | none =>
        { state with solved := state.solved.insert var sig }
    | some current =>
        match strategy.apply current sig with
        | some joined =>
            { state with
              solved := state.solved.insert var joined }
        | none =>
            { solved := state.solved.insert var .gradual
              failed := var :: state.failed
              issues :=
                state.issues
                  ++ [⟨.unsatisfiable var current sig,
                    .arg source⟩] }

end SpecSolving

namespace Candidates

/- Take in one more candidate for a type variable. -/
def addType
    (solved : Table Ty)
    (candidate : String × Ty) : Table Ty :=
  let (name, ty) := candidate
  match solved.find? name with
  | some known =>
      solved.insert name (Ty.unionOf [known, ty])
  | none => solved.insert name ty

/-
  Solve every variable from its candidates: type variables
  by union, parameter specifications by the join strategy.
-/
def reconcile
    (strategy : JoinStrategy)
    (candidates : Candidates) :
    Substitution × List CallIssue :=
  let specs :=
    candidates.specs.foldl (SpecSolving.add strategy) {}
  (⟨candidates.types.foldl addType ∅, specs.solved⟩,
    specs.issues)

end Candidates

------------------------------------------------------------
-- Checking Arguments
------------------------------------------------------------

/- The argument does not have the expected type. -/
def BoundArg.check
    (arg : BoundArg)
    (expected : Ty) : List CallIssue :=
  if arg.arg.isSubtype expected then []
  else
    [⟨.wrongType arg.label expected arg.arg,
      .arg arg.source⟩]

/- Count positional arguments from further left. -/
def ArgSource.shift
    (source : ArgSource)
    (offset : Nat) : ArgSource :=
  match source with
  | .positional index => .positional (index + offset)
  | source => source

/-
  The arguments behind the leading ones must fit what the
  variable of the callee was solved to.
-/
def checkTail
    (options : InferOptions)
    (rigid : RigidVars)
    (callee : String)
    (target : Signature)
    (tail : CallArgs)
    (offset : Nat) : List CallIssue :=
  let result : Except CallMismatch (List BoundArg) :=
    match target with
    | .gradual => .ok []
    | .params ps => Binding.bindParams ps tail
    | .spec lead var =>
        if rigid.specs.contains var then
          bindForwarding lead var tail
        else .ok []
  match result with
  | .error m => [.ofMismatch callee m]
  | .ok bound =>
      if options.checkTypes then
        bound.flatMap fun arg =>
          let shifted : BoundArg :=
            { arg with source := arg.source.shift offset }
          shifted.check arg.param.ty
      else []

------------------------------------------------------------
-- Inference
------------------------------------------------------------

/- Match the arguments of a call to the callee's parameters. -/
def bindCall
    (rigid : RigidVars)
    (callee : String)
    (sig : Signature)
    (args : CallArgs) : List BoundArg × List CallIssue :=
  let settle (result : Except CallMismatch (List BoundArg)) :=
    match result with
    | .ok bound => (bound, [])
    | .error m => ([], [CallIssue.ofMismatch callee m])
  match sig with
  | .gradual => ([], [])
  | .params ps => settle (Binding.bindParams ps args)
  | .spec lead var =>
      if rigid.specs.contains var then
        settle (bindForwarding lead var args)
      else
        let found := args.positional.length
        (bindLead lead args,
          if found < lead.length && args.star.isEmpty then
            [.ofMismatch callee
              (.leadMismatch lead.length found)]
          else [])

/-
  Unsolved variables of the callee become `Any` and the
  gradual list.
-/
def Substitution.withDefaults
    (solved : Substitution)
    (rigid : RigidVars)
    (callee : Ty) : Substitution where
  types :=
    (callee.typeVars.filter fun name =>
      !rigid.types.contains name).foldl
      (fun types name => types.insertNew name .any)
      solved.types
  specs :=
    (callee.specVars.filter fun name =>
      !rigid.specs.contains name).foldl
      (fun specs name => specs.insertNew name .gradual)
      solved.specs

/- The issues of the arguments behind a solved variable. -/
def tailIssues
    (options : InferOptions)
    (rigid : RigidVars)
    (callee : String)
    (sig : Signature)
    (solved : Substitution)
    (args : CallArgs) : List CallIssue :=
  match sig with
  | .spec lead var =>
      if rigid.specs.contains var then []
      else
        match solved.specs.find? var with
        | none => []
        | some target =>
            checkTail options rigid callee target
              (args.dropLead lead.length) lead.length
  | _ => []

/-
  Infer a call of a value of some type under some name. A
  callee that is not known to be callable yields `Any`.
-/
def Ty.inferCall
    (options : InferOptions)
    (rigid : RigidVars)
    (callee : String)
    (ty : Ty)
    (args : CallArgs) : CallOutcome :=
  match ty with
  | .callable sig ret =>
      let (bound, mismatches) :=
        bindCall rigid callee sig args
      let candidates :=
        bound.foldl
          (fun found arg =>
            found
              ++ Ty.collect rigid arg.source arg.param.ty
                arg.arg)
          {}
      let (solved, clashes) :=
        candidates.reconcile options.join
      let tail :=
        tailIssues options rigid callee sig solved args
      let full := solved.withDefaults rigid ty
      let wrong :=
        if options.checkTypes then
          bound.flatMap fun arg =>
            arg.check (arg.param.ty.substitute full)
        else []
      ⟨ret.substitute full, solved,
        mismatches ++ clashes ++ tail ++ wrong⟩
  | _ => ⟨.any, {}, []⟩

end SigCheck
