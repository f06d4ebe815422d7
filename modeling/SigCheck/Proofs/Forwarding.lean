import SigCheck.Proofs.Meet
import SigCheck.Proofs.Solution
import SigCheck.Symbol.Basic

/-
  Forwarding a parameter list through a variable.

  A callee that takes a callable of the form `Callable[P, R]`
  solves `P` by the whole parameter list of its argument and
  `R` by its return type, whatever these are. Decorators then
  give back the function that they were given, and instances
  of a generic class the function that they were made from.

  Key definitions include:
    * `ForwardVars`, `ForwardVars.type`
    * `Decorator`, `Decorator.applyAll`
    * `ClassInfo.Holds`

  Correctness is proven by:
    * `ForwardVars.collect_type`
    * `ForwardVars.inferCall_takenBy`
    * `ForwardVars.forwards_callable`
-/

namespace SigCheck

------------------------------------------------------------
-- Forwarded Callables
------------------------------------------------------------

/-
  A parameter specification and a type variable that together
  stand for any callable.
-/
structure ForwardVars where
  spec : String
  ret : String
  deriving DecidableEq, Repr

namespace ForwardVars

/- The callable of the parameter list and the return type. -/
def type (vars : ForwardVars) : Ty :=
  .callable (.ofVar vars.spec) (.typeVar vars.ret)

/- No enclosing scope holds one of the variables. -/
def IsFree
    (vars : ForwardVars)
    (rigid : RigidVars) : Prop :=
  vars.spec ∉ rigid.specs ∧ vars.ret ∉ rigid.types

instance
    (vars : ForwardVars)
    (rigid : RigidVars) : Decidable (vars.IsFree rigid) := by
  unfold IsFree
  infer_instance

variable {vars : ForwardVars} {rigid : RigidVars}
variable {sig : Signature} {ret : Ty}

/- No leading parameters leave a signature as it is. -/
theorem stripLead_nil (sig : Signature) :
    stripLead [] sig = some sig := by
  cases sig <;> rfl

/-
  A callable argument says what both variables are, unless
  its return type is `Any`, which says nothing.
-/
theorem collect_type
    (hFree : vars.IsFree rigid)
    (source : ArgSource)
    (sig : Signature)
    (ret : Ty) :
    Ty.collect rigid source vars.type (.callable sig ret) =
      ⟨if ret.isAny then [] else [(vars.ret, ret)],
        [(vars.spec, sig, source)]⟩ := by
  rcases hFree with ⟨hSpec, hRet⟩
  have hSignature :
      Signature.collect rigid source (.ofVar vars.spec) sig =
        ⟨[], [(vars.spec, sig, source)]⟩ := by
    rw [Signature.ofVar, Signature.collect, stripLead_nil]
    simp [hSpec]
  have hReturn :
      Ty.collect rigid source (.typeVar vars.ret) ret =
        ⟨if ret.isAny then [] else [(vars.ret, ret)], []⟩ := by
    cases ret <;> simp [Ty.collect, Ty.isAny, hRet]
  rw [type, Ty.collect, hSignature, hReturn]
  rfl

/- A substitution that solves both variables. -/
structure SolvedBy
    (vars : ForwardVars)
    (subst : Substitution)
    (sig : Signature)
    (ret : Ty) : Prop where
  spec : subst.specs.find? vars.spec = some sig
  ret : subst.types.find? vars.ret = some ret

/- It makes the forwarded callable the one that solved it. -/
theorem SolvedBy.substitute_type
    {subst : Substitution}
    (h : vars.SolvedBy subst sig ret) :
    vars.type.substitute subst = .callable sig ret := by
  rw [Ty.substitute_eq_replaceVars h.spec]
  simp [type, Signature.ofVar, Ty.replaceVars,
    Signature.replaceVars, Parameter.replaceVarsAll, h.spec,
    h.ret]

/- The call of a callee with one parameter. -/
theorem inferCall_single
    (options : InferOptions)
    (rigid : RigidVars)
    (callee param : String)
    (expected actual result : Ty) :
    let p := Parameter.named param .positionalOrKeyword expected
    let ty := Ty.callable (.params [p]) result
    let found :=
      (Ty.collect rigid (.positional 0) expected
        actual).reconcile options.join
    let full := found.1.withDefaults rigid ty
    ty.inferCall options rigid callee
        { positional := [actual] } =
      ⟨result.substitute full, found.1,
        found.2 ++
          if options.checkTypes then
            BoundArg.check ⟨p, param, actual, .positional 0⟩
              (expected.substitute full)
          else []⟩ := by
  intro p ty found full
  have hBound :
      bindCall rigid callee (.params [p])
          { positional := [actual] } =
        ([⟨p, param, actual, .positional 0⟩], []) := rfl
  have hNone (candidates : Candidates) :
      {} ++ candidates = candidates := rfl
  unfold Ty.inferCall
  simp only [ty, hBound, List.foldl_cons, List.foldl_nil,
    hNone, tailIssues, List.flatMap_cons, List.flatMap_nil,
    List.append_nil, List.nil_append]
  rfl

/- The type of a callee that takes the forwarded callable. -/
def takenBy
    (vars : ForwardVars)
    (param : String)
    (result : Ty) : Ty :=
  .callable
    (.params [.named param .positionalOrKeyword vars.type])
    result

theorem type_ret_mem_mentions_takenBy
    (param : String)
    (result : Ty) :
    .type vars.ret ∈ (vars.takenBy param result).mentions := by
  simp [takenBy, type, Parameter.named, Ty.mentions,
    Signature.mentions, Parameter.mentionsAll,
    Parameter.mentions]

/- What a callable argument says solves both variables. -/
theorem solvedBy_reconcile
    (hFree : vars.IsFree rigid)
    (strategy : JoinStrategy)
    (source : ArgSource)
    (sig : Signature)
    (ret : Ty)
    {callee : Ty}
    (hMentioned : .type vars.ret ∈ callee.mentions) :
    let found :=
      (Ty.collect rigid source vars.type
        (.callable sig ret)).reconcile strategy
    found.2 = [] ∧
      found.1.specs.find? vars.spec = some sig ∧
        vars.SolvedBy (found.1.withDefaults rigid callee)
          sig ret := by
  rw [collect_type hFree]
  intro found
  have hSpec : found.1.specs.find? vars.spec = some sig := by
    simp [found, Candidates.reconcile, SpecSolving.add]
  refine ⟨rfl, hSpec, ?_, ?_⟩
  · rw [Substitution.find?_specs_withDefaults, hSpec]
    rfl
  · rw [Substitution.find?_types_withDefaults]
    -- A return type `Any` is found as the default.
    cases hAny : ret.isAny with
    | true =>
        rw [Ty.isAny_iff.mp hAny]
        simp [found, hAny, Candidates.reconcile, hMentioned,
          hFree.2]
    | false =>
        simp [found, hAny, Candidates.reconcile,
          Candidates.addType]

/-
  The call of such a callee has no issue, and its result has
  the variables replaced by what they stand for.
-/
theorem inferCall_takenBy
    (hFree : vars.IsFree rigid)
    (options : InferOptions)
    (callee param : String)
    (result : Ty)
    (sig : Signature)
    (ret : Ty) :
    let outcome :=
      (vars.takenBy param result).inferCall options rigid
        callee { positional := [.callable sig ret] }
    outcome.issues = [] ∧
      ∃ full, vars.SolvedBy full sig ret ∧
        outcome.ret = result.substitute full := by
  rcases solvedBy_reconcile hFree options.join
    (.positional 0) sig ret
    (type_ret_mem_mentions_takenBy param result) with
    ⟨hClashes, -, hFull⟩
  have hSubstituted := hFull.substitute_type
  simp only [takenBy, inferCall_single]
  refine ⟨?_, _, hFull, rfl⟩
  rw [← takenBy, hClashes, hSubstituted]
  simp [BoundArg.check, Ty.isSubtype_refl]

end ForwardVars

------------------------------------------------------------
-- Decorators
------------------------------------------------------------

/-
  A decorator that gives back a callable with the parameter
  list and the return type of its argument, under the name
  by which it is called.
-/
structure Decorator where
  callee : String
  param : String
  vars : ForwardVars
  deriving DecidableEq, Repr

namespace Decorator

/- The type of the decorator as a callee. -/
def type (d : Decorator) : Ty :=
  d.vars.takenBy d.param d.vars.type

/-
  Call the decorators of a stack one after the other, the
  innermost one first, and collect the issues.
-/
def applyAll
    (options : InferOptions)
    (rigid : RigidVars) :
    List Decorator → Ty → Ty × List CallIssue
  | [], ty => (ty, [])
  | d :: ds, ty =>
      let outcome :=
        d.type.inferCall options rigid d.callee
          { positional := [ty] }
      let (ty, issues) := applyAll options rigid ds outcome.ret
      (ty, outcome.issues ++ issues)

variable {rigid : RigidVars}

/- A stack of decorators gives back what it was given. -/
theorem applyAll_eq
    {stack : List Decorator}
    (hFree : ∀ d ∈ stack, d.vars.IsFree rigid)
    (options : InferOptions)
    (sig : Signature)
    (ret : Ty) :
    applyAll options rigid stack (.callable sig ret) =
      (.callable sig ret, []) := by
  induction stack with
  | nil => rfl
  | cons d ds ih =>
      rcases List.forall_mem_cons.mp hFree with ⟨hd, hds⟩
      rcases ForwardVars.inferCall_takenBy hd options d.callee
        d.param d.vars.type sig ret with
        ⟨hIssues, full, hFull, hRet⟩
      rw [hFull.substitute_type] at hRet
      simp only [applyAll, type, hIssues, hRet, ih hds]
      rfl

end Decorator

------------------------------------------------------------
-- Generic Classes
------------------------------------------------------------

/-
  The class is generic over the variables, and its instances
  are made from the callable that they stand for.
-/
structure ClassInfo.Holds
    (c : ClassInfo)
    (vars : ForwardVars) : Prop where
  typeParams :
    c.typeParams =
      [⟨vars.spec, .paramSpec⟩, ⟨vars.ret, .typeVar⟩]
  ctor :
    ∃ param, c.ctor =
      some
        (.params
          [.named param .positionalOrKeyword vars.type])

namespace ClassInfo.Holds

variable {c : ClassInfo} {vars : ForwardVars}
variable {sig : Signature} {ret : Ty}

/- The class itself takes the callable. -/
theorem ctorType_eq
    (h : c.Holds vars) :
    ∃ param,
      c.ctorType = vars.takenBy param c.instanceType := by
  rcases h.ctor with ⟨param, hCtor⟩
  exact ⟨param, by rw [ctorType, hCtor]; rfl⟩

/- An instance has what the variables stand for. -/
theorem substitute_instanceType
    (h : c.Holds vars)
    {subst : Substitution}
    (hSolved : vars.SolvedBy subst sig ret) :
    c.instanceType.substitute subst =
      .generic c.name [.params sig, .type ret] := by
  rw [Ty.substitute_eq_replaceVars hSolved.spec]
  simp [instanceType, isGeneric, h.typeParams,
    TypeParam.toArg, Ty.replaceVars, TypeArg.replaceVarsAll,
    TypeArg.replaceVars, Signature.ofVar,
    Signature.replaceVars, Parameter.replaceVarsAll,
    hSolved.spec, hSolved.ret]

/- The arguments of an instance solve the variables. -/
theorem solvedBy_bindArgs
    (h : c.Holds vars) :
    vars.SolvedBy
      (c.bindArgs [.params sig, .type ret]) sig ret := by
  constructor <;>
    simp [bindArgs, h.typeParams, bindParam,
      Substitution.setSpec, Substitution.setType]

end ClassInfo.Holds

------------------------------------------------------------
-- Nothing Is Lost
------------------------------------------------------------

namespace ForwardVars

/-
  Decorators that forward a callable give it back without an
  issue, however many there are. A generic class takes it
  without an issue, and a member of the instance that has the
  forwarded type has the type of the callable.
-/
theorem forwards_callable
    (options : InferOptions)
    (rigid : RigidVars)
    (sig : Signature)
    (ret : Ty) :
    (∀ stack : List Decorator,
      (∀ d ∈ stack, d.vars.IsFree rigid) →
        Decorator.applyAll options rigid stack
            (.callable sig ret) =
          (.callable sig ret, [])) ∧
      ∀ (c : ClassInfo) (vars : ForwardVars),
        c.Holds vars → vars.IsFree rigid →
          ∀ callee member : String,
            c.members.find? member = some vars.type →
              let outcome :=
                c.ctorType.inferCall options rigid callee
                  { positional := [.callable sig ret] }
              outcome.issues = [] ∧
                ∃ args, outcome.ret = .generic c.name args ∧
                  c.member? member args =
                    some (.callable sig ret) := by
  constructor
  · intro stack hStack
    exact Decorator.applyAll_eq hStack options sig ret
  · intro c vars hHolds hFree callee member hMember
    rcases hHolds.ctorType_eq with ⟨param, hCtor⟩
    rcases inferCall_takenBy hFree options callee param
      c.instanceType sig ret with
      ⟨hIssues, full, hFull, hRet⟩
    rw [hHolds.substitute_instanceType hFull] at hRet
    rw [hCtor]
    refine ⟨hIssues, _, hRet, ?_⟩
    rw [ClassInfo.member?, hMember, Option.map_some,
      hHolds.solvedBy_bindArgs.substitute_type]

/-
  A function whose own parameters mention the variables, and
  whose return type says nothing, inside another scope.
-/
theorem forwards_callable_mentioning :
    let rigid : RigidVars := ⟨["T"], ["Q"]⟩
    let vars : ForwardVars := ⟨"P", "R"⟩
    let sig : Signature :=
      .params
        [⟨some "x", .positionalOrKeyword, .typeVar "R", false⟩,
          ⟨some "rest", .varPositional, vars.type, false⟩,
          ⟨some "flag", .keywordOnly, .list .any, true⟩]
    let stack : List Decorator :=
      [⟨"logged", "f", vars⟩, ⟨"timed", "fn", ⟨"S", "R"⟩⟩]
    let job : ClassInfo :=
      { name := "Job"
        typeParams := [⟨"P", .paramSpec⟩, ⟨"R", .typeVar⟩]
        ctor :=
          some
            (.params
              [.named "fn" .positionalOrKeyword vars.type])
        members := Table.ofPairs [("run", vars.type)] }
    let outcome :=
      job.ctorType.inferCall {} rigid "Job"
        { positional := [.callable sig .any] }
    Decorator.applyAll {} rigid stack (.callable sig .any) =
        (.callable sig .any, []) ∧
      outcome.issues = [] ∧
        ∃ args, outcome.ret = .generic "Job" args ∧
          job.member? "run" args =
            some (.callable sig .any) := by
  intro rigid vars sig stack job outcome
  have hForwards := forwards_callable {} rigid sig .any
  exact
    ⟨hForwards.1 stack (by decide),
      hForwards.2 job vars ⟨rfl, "fn", rfl⟩ (by decide) "Job"
        "run" rfl⟩

end ForwardVars

end SigCheck
