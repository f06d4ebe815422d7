import SigCheck.Proofs.BindingRule
import SigCheck.Proofs.Forwarding

/-
  Calls through a wrapper that takes a callable first.

  The wrapper solves its parameter specification by the
  parameter list of its first argument and checks the other
  arguments against that list as it stands. So it calls the
  callable as a scope would that holds all variables of the
  callable rigid: where these are free, the callable's own
  variables are not solved by its arguments.

  Key definitions include:
    * `RigidVars.HoldsAll`
    * `ForwardVars.wrapper`
    * `CallArgs.behind`
    * `CallIssue.shift`

  Correctness is proven by:
    * `Ty.collect_eq_empty`
    * `inferCall_of_holdsAll`
    * `ForwardVars.inferCall_wrapper`
    * `ForwardVars.inferCall_wrapper_eq`
-/

------------------------------------------------------------
-- Rigid Variables
------------------------------------------------------------

namespace SigCheck

/- All of the variables belong to enclosing functions. -/
def RigidVars.HoldsAll
    (rigid : RigidVars)
    (vs : List VarName) : Prop :=
  ∀ v ∈ vs, rigid.holds v = true

instance (rigid : RigidVars) (vs : List VarName) :
    Decidable (rigid.HoldsAll vs) := by
  unfold RigidVars.HoldsAll
  infer_instance

namespace RigidVars

variable {rigid : RigidVars} {vs ws : List VarName}

@[simp] theorem holdsAll_cons {v : VarName} :
    rigid.HoldsAll (v :: vs) ↔
      rigid.holds v = true ∧ rigid.HoldsAll vs :=
  List.forall_mem_cons

@[simp] theorem holdsAll_append :
    rigid.HoldsAll (vs ++ ws) ↔
      rigid.HoldsAll vs ∧ rigid.HoldsAll ws :=
  List.forall_mem_append

end RigidVars

@[simp] theorem Candidates.empty_append (c : Candidates) :
    ({} : Candidates) ++ c = c :=
  rfl

section Collect

variable {rigid : RigidVars} (source : ArgSource)

mutual

/- A type without free variables says nothing of any. -/
theorem Ty.collect_eq_empty :
    (p : Ty) → rigid.HoldsAll p.mentions →
      ∀ a, Ty.collect rigid source p a = {}
  | .any, _ => by intro a; cases a <;> rfl
  | .never, _ => by intro a; cases a <;> rfl
  | .noneType, _ => by intro a; cases a <;> rfl
  | .bool, _ => by intro a; cases a <;> rfl
  | .int, _ => by intro a; cases a <;> rfl
  | .float, _ => by intro a; cases a <;> rfl
  | .str, _ => by intro a; cases a <;> rfl
  | .bytes, _ => by intro a; cases a <;> rfl
  | .object, _ => by intro a; cases a <;> rfl
  | .cls _, _ => by intro a; cases a <;> rfl
  | .specArgs _, _ => by intro a; cases a <;> rfl
  | .specKwargs _, _ => by intro a; cases a <;> rfl
  | .typeVar name, h => by
      have hRigid : rigid.types.contains name = true :=
        h (.type name) (by simp [Ty.mentions])
      intro a
      cases a <;> simp only [Ty.collect, hRigid, if_true]
  | .list t, h => by
      have ih := Ty.collect_eq_empty t h
      intro a
      cases a <;> simp [Ty.collect, ih]
  | .set t, h => by
      have ih := Ty.collect_eq_empty t h
      intro a
      cases a <;> simp [Ty.collect, ih]
  | .dict k v, h => by
      have ⟨hk, hv⟩ := RigidVars.holdsAll_append.mp h
      have ihk := Ty.collect_eq_empty k hk
      have ihv := Ty.collect_eq_empty v hv
      intro a
      cases a <;> simp [Ty.collect, ihk, ihv]
  | .tuple ts, h => by
      have ih := Ty.collectAll_eq_empty ts h
      intro a
      cases a <;> simp [Ty.collect, ih]
  | .union ts, h => by
      have ih := Ty.collectFirst_eq_empty ts h
      intro a
      cases a <;> simp [Ty.collect, ih]
  | .generic _ args, h => by
      have ih := TypeArg.collectAll_eq_empty args h
      intro a
      cases a <;> simp [Ty.collect, ih]
  | .callable sig ret, h => by
      have ⟨hSig, hRet⟩ := RigidVars.holdsAll_append.mp h
      have ihs := Signature.collect_eq_empty sig hSig
      have ihr := Ty.collect_eq_empty ret hRet
      intro a
      cases a <;> simp [Ty.collect, ihs, ihr]

/- Nor do members of a union. -/
theorem Ty.collectFirst_eq_empty :
    (ts : List Ty) → rigid.HoldsAll (Ty.mentionsAll ts) →
      ∀ a, Ty.collectFirst rigid source ts a = {}
  | [], _ => fun _ => rfl
  | t :: ts, h => by
      have ⟨ht, hts⟩ := RigidVars.holdsAll_append.mp h
      have ih := Ty.collect_eq_empty t ht
      have ihs := Ty.collectFirst_eq_empty ts hts
      intro a
      simp [Ty.collectFirst, ih, ihs]

/- Nor do the items of a tuple. -/
theorem Ty.collectAll_eq_empty :
    (ts : List Ty) → rigid.HoldsAll (Ty.mentionsAll ts) →
      ∀ as, Ty.collectAll rigid source ts as = {}
  | [], _ => fun _ => rfl
  | t :: ts, h => by
      have ⟨ht, hts⟩ := RigidVars.holdsAll_append.mp h
      have ih := Ty.collect_eq_empty t ht
      have ihs := Ty.collectAll_eq_empty ts hts
      intro as
      cases as <;> simp [Ty.collectAll, ih, ihs]

/- Nor does a class argument. -/
theorem TypeArg.collect_eq_empty :
    (p : TypeArg) → rigid.HoldsAll p.mentions →
      ∀ a, TypeArg.collect rigid source p a = {}
  | .type t, h => by
      have ih := Ty.collect_eq_empty t h
      intro a
      cases a <;> simp [TypeArg.collect, ih]
  | .params sig, h => by
      have ih := Signature.collect_eq_empty sig h
      intro a
      cases a <;> simp [TypeArg.collect, ih]

/- Nor do the arguments of a class. -/
theorem TypeArg.collectAll_eq_empty :
    (ps : List TypeArg) →
      rigid.HoldsAll (TypeArg.mentionsAll ps) →
        ∀ as, TypeArg.collectAll rigid source ps as = {}
  | [], _ => fun _ => rfl
  | p :: ps, h => by
      have ⟨hp, hps⟩ := RigidVars.holdsAll_append.mp h
      have ih := TypeArg.collect_eq_empty p hp
      have ihs := TypeArg.collectAll_eq_empty ps hps
      intro as
      cases as <;> simp [TypeArg.collectAll, ih, ihs]

/- Nor does a parameter list. -/
theorem Signature.collect_eq_empty :
    (sig : Signature) → rigid.HoldsAll sig.mentions →
      ∀ a, Signature.collect rigid source sig a = {}
  | .gradual, _ => by intro a; cases a <;> rfl
  | .spec _ var, h => by
      have hRigid : rigid.specs.contains var = true :=
        (RigidVars.holdsAll_cons.mp h).1
      intro a
      simp only [Signature.collect, hRigid, if_true]
  | .params ps, h => by
      have ih := Parameter.collectAll_eq_empty ps h
      intro a
      cases a <;> simp [Signature.collect, ih]

/- Nor does a parameter. -/
theorem Parameter.collect_eq_empty :
    (p : Parameter) → rigid.HoldsAll p.mentions →
      ∀ a, Parameter.collect rigid source p a = {}
  | ⟨_, _, ty, _⟩, h => by
      have ih := Ty.collect_eq_empty ty h
      intro a
      simp [Parameter.collect, ih]

/- Nor do the parameters of a list. -/
theorem Parameter.collectAll_eq_empty :
    (ps : List Parameter) →
      rigid.HoldsAll (Parameter.mentionsAll ps) →
        ∀ as, Parameter.collectAll rigid source ps as = {}
  | [], _ => fun _ => rfl
  | p :: ps, h => by
      have ⟨hp, hps⟩ := RigidVars.holdsAll_append.mp h
      have ih := Parameter.collect_eq_empty p hp
      have ihs := Parameter.collectAll_eq_empty ps hps
      intro as
      cases as <;> simp [Parameter.collectAll, ih, ihs]

end

end Collect

end SigCheck

------------------------------------------------------------
-- Shifted Positions
------------------------------------------------------------

namespace SigCheck

/- The call with one more positional argument in front. -/
def CallArgs.behind
    (first : Ty)
    (args : CallArgs) : CallArgs :=
  { args with positional := first :: args.positional }

/- Count the argument that an issue points at from further left. -/
def IssueSite.shift (offset : Nat) : IssueSite → IssueSite
  | call => call
  | arg source => arg (source.shift offset)

/- The same fault, found at a shifted position. -/
def CallIssue.shift
    (offset : Nat)
    (issue : CallIssue) : CallIssue :=
  { issue with site := issue.site.shift offset }

theorem CallIssue.shift_zero (issue : CallIssue) :
    issue.shift 0 = issue := by
  rcases issue with ⟨fault, call | (index | name)⟩ <;> rfl

/- A shifted argument is checked alike. -/
theorem BoundArg.check_shift
    (arg : BoundArg)
    (expected : Ty)
    (offset : Nat) :
    BoundArg.check
        { arg with source := arg.source.shift offset }
        expected =
      (arg.check expected).map (·.shift offset) := by
  unfold check
  simp only
  split <;> rfl

section CheckTail

variable {ps : List Parameter} {args : CallArgs}
variable (options : InferOptions) (rigid : RigidVars)
variable (callee : String) (offset : Nat)

theorem checkTail_of_error
    {m : CallMismatch}
    (h : Binding.bindParams ps args = .error m) :
    checkTail options rigid callee (.params ps) args offset =
      [.ofMismatch callee m] := by
  simp only [checkTail, h]

theorem checkTail_of_ok
    {bound : List BoundArg}
    (h : Binding.bindParams ps args = .ok bound) :
    checkTail options rigid callee (.params ps) args offset =
      if options.checkTypes then
        bound.flatMap fun arg =>
          (arg.check arg.param.ty).map (·.shift offset)
      else [] := by
  simp only [checkTail, h, BoundArg.check_shift]

/-
  What follows leading arguments is checked as it is without
  them, at shifted positions.
-/
theorem checkTail_shift
    (ps : List Parameter)
    (args : CallArgs)
    (rigid' : RigidVars) :
    checkTail options rigid callee (.params ps) args offset =
      (checkTail options rigid' callee (.params ps) args
        0).map (·.shift offset) := by
  cases hBind : Binding.bindParams ps args with
  | error m =>
      rw [checkTail_of_error _ _ _ _ hBind,
        checkTail_of_error _ _ _ _ hBind]
      rfl
  | ok bound =>
      rw [checkTail_of_ok _ _ _ _ hBind,
        checkTail_of_ok _ _ _ _ hBind]
      simp only [CallIssue.shift_zero, List.map_id_fun']
      split
      · exact List.map_flatMap.symm
      · rfl

end CheckTail

end SigCheck

------------------------------------------------------------
-- Calls without Free Variables
------------------------------------------------------------

namespace SigCheck

/- Where all variables are rigid, none gets a default. -/
theorem Substitution.withDefaults_eq_empty
    {rigid : RigidVars} {callee : Ty}
    (h : rigid.HoldsAll callee.mentions) :
    ({} : Substitution).withDefaults rigid callee = {} := by
  have hTypes :
      (callee.typeVars.filter fun name =>
        !rigid.types.contains name) = [] := by
    refine List.filter_eq_nil_iff.mpr fun name hName => ?_
    have hHeld : rigid.types.contains name = true :=
      h _ (Ty.mem_typeVars_iff.mp hName)
    rw [hHeld]
    nofun
  have hSpecs :
      (callee.specVars.filter fun name =>
        !rigid.specs.contains name) = [] := by
    refine List.filter_eq_nil_iff.mpr fun name hName => ?_
    have hHeld : rigid.specs.contains name = true :=
      h _ (Ty.mem_specVars_iff.mp hName)
    rw [hHeld]
    nofun
  rw [withDefaults, hTypes, hSpecs]
  rfl

theorem Parameter.mentions_eq (p : Parameter) :
    p.mentions = p.ty.mentions := by
  cases p
  rfl

/- A parameter mentions nothing that its list does not. -/
theorem RigidVars.holdsAll_of_mem
    {rigid : RigidVars} {ps : List Parameter} {p : Parameter}
    (h : rigid.HoldsAll (Parameter.mentionsAll ps))
    (hp : p ∈ ps) : rigid.HoldsAll p.ty.mentions := by
  induction ps with
  | nil => cases hp
  | cons q qs ih =>
      rcases holdsAll_append.mp h with ⟨hq, hqs⟩
      rcases List.mem_cons.mp hp with rfl | hp
      · rwa [← p.mentions_eq]
      · exact ih hqs hp

/- Arguments without candidates leave nothing to solve. -/
theorem foldl_collect_eq_empty
    {rigid : RigidVars} {bound : List BoundArg}
    (h :
      ∀ b ∈ bound, rigid.HoldsAll b.param.ty.mentions) :
    bound.foldl
        (fun found arg =>
          found
            ++ Ty.collect rigid arg.source arg.param.ty
              arg.arg)
        ({} : Candidates) = {} := by
  induction bound with
  | nil => rfl
  | cons b bound ih =>
      rcases List.forall_mem_cons.mp h with ⟨hb, hRest⟩
      rw [List.foldl_cons, Ty.collect_eq_empty b.source _ hb]
      exact ih hRest

/-
  A call without free variables checks its arguments against
  the parameters as they stand, and gives the return type as
  it stands.
-/
theorem inferCall_of_holdsAll
    {rigid : RigidVars} {ps : List Parameter} {ret : Ty}
    (hRigid :
      rigid.HoldsAll (Ty.callable (.params ps) ret).mentions)
    (options : InferOptions)
    (callee : String)
    (args : CallArgs) :
    (Ty.callable (.params ps) ret).inferCall options rigid
        callee args =
      ⟨ret, {},
        checkTail options rigid callee (.params ps) args 0⟩ := by
  have hList := (RigidVars.holdsAll_append.mp hRigid).1
  have hFull := Substitution.withDefaults_eq_empty hRigid
  have hReconcile :
      ({} : Candidates).reconcile options.join = ({}, []) :=
    rfl
  have hSame (t : Ty) : t.substitute {} = t := rfl
  unfold Ty.inferCall bindCall
  cases hBind : Binding.bindParams ps args with
  | error m =>
      rw [checkTail_of_error _ _ _ _ hBind]
      simp only [hBind, List.foldl_nil, hReconcile, hFull,
        hSame, tailIssues]
      simp
  | ok bound =>
      have hBound :
          ∀ b ∈ bound, rigid.HoldsAll b.param.ty.mentions :=
        fun b hb =>
          RigidVars.holdsAll_of_mem hList
            (Binding.param_mem_of_bindParams hBind b hb)
      rw [checkTail_of_ok _ _ _ _ hBind]
      simp only [hBind, foldl_collect_eq_empty hBound,
        hReconcile, hFull, hSame, tailIssues,
        CallIssue.shift_zero]
      simp

end SigCheck

------------------------------------------------------------
-- The Wrapper
------------------------------------------------------------

namespace SigCheck

namespace ForwardVars

variable {vars : ForwardVars} {rigid : RigidVars}

/-
  A callee that takes a callable and its arguments, and
  gives what the callable gives.
-/
def wrapper (vars : ForwardVars) : Ty :=
  .callable (.spec [.anonymous vars.type] vars.spec)
    (.typeVar vars.ret)

theorem type_ret_mem_mentions_wrapper :
    .type vars.ret ∈ vars.wrapper.mentions := by
  simp [wrapper, Ty.mentions]

/-
  The wrapper takes any callable and checks what follows
  against its parameter list as it stands.
-/
theorem inferCall_wrapper
    (hFree : vars.IsFree rigid)
    (options : InferOptions)
    (callee : String)
    (sig : Signature)
    (ret : Ty)
    (args : CallArgs) :
    let outcome :=
      vars.wrapper.inferCall options rigid callee
        (args.behind (.callable sig ret))
    outcome.ret = ret ∧
      outcome.issues =
        checkTail options rigid callee sig args 1 := by
  have hSpec : rigid.specs.contains vars.spec = false := by
    simpa using hFree.1
  rcases solvedBy_reconcile hFree options.join
    (.positional 0) sig ret type_ret_mem_mentions_wrapper
    with ⟨hClashes, hSolved, hFull⟩
  -- The one leading argument is the callable itself.
  have hBound :
      bindCall rigid callee
          (.spec [.anonymous vars.type] vars.spec)
          (args.behind (.callable sig ret)) =
        ([⟨.anonymous vars.type, "#1", .callable sig ret,
          .positional 0⟩], []) := by
    simp only [bindCall, hSpec]
    simp [bindLead, CallArgs.behind]
    decide
  have hTail :
      (args.behind (.callable sig ret)).dropLead 1 = args :=
    rfl
  have hType :
      (Parameter.anonymous vars.type).ty = vars.type := rfl
  have hRet :=
    Ty.substitute_eq_replaceVars hFull.spec
      (.typeVar vars.ret)
  simp only [Ty.replaceVars, hFull.ret, Option.getD_some]
    at hRet
  have hSubstituted := hFull.substitute_type
  intro outcome
  simp only [outcome, wrapper, Ty.inferCall, hBound,
    List.foldl_cons, List.foldl_nil, Candidates.empty_append,
    List.flatMap_singleton, hType, hClashes]
  rw [← wrapper, hSubstituted]
  simp only [tailIssues, hSpec, hSolved, List.length_singleton,
    hTail]
  refine ⟨hRet, ?_⟩
  simp [BoundArg.check, Ty.isSubtype_refl]

/-
  Calling through the wrapper is calling the callable in a
  scope that holds all of the callable's variables rigid. A
  call that does not bind is reported in any scope alike.
-/
theorem inferCall_wrapper_eq
    (hFree : vars.IsFree rigid)
    (options : InferOptions)
    (callee : String)
    (ps : List Parameter)
    (ret : Ty)
    (args : CallArgs) :
    let f := Ty.callable (.params ps) ret
    let outcome :=
      vars.wrapper.inferCall options rigid callee
        (args.behind f)
    (∀ own : RigidVars, own.HoldsAll f.mentions →
      let direct := f.inferCall options own callee args
      outcome.ret = direct.ret ∧
        outcome.issues = direct.issues.map (·.shift 1)) ∧
      ∀ (m : CallMismatch) (own : RigidVars),
        Binding.bindParams ps args = .error m →
          outcome.issues = [.ofMismatch callee m] ∧
            (f.inferCall options own callee args).issues =
              [.ofMismatch callee m] := by
  intro f outcome
  rcases inferCall_wrapper hFree options callee (.params ps)
    ret args with ⟨hRet, hIssues⟩
  refine ⟨?rigid, ?mismatch⟩
  case rigid =>
    intro own hOwn direct
    have hDirect : direct = _ :=
      inferCall_of_holdsAll hOwn options callee args
    rw [hDirect]
    refine ⟨hRet, ?_⟩
    exact
      hIssues.trans
        (checkTail_shift options rigid callee 1 ps args own)
  case mismatch =>
    intro m own hBind
    refine ⟨?_, ?_⟩
    · exact
        hIssues.trans
          (checkTail_of_error options rigid callee 1 hBind)
    · simp only [f, Ty.inferCall, bindCall, hBind, tailIssues]
      simp [Candidates.reconcile]

/-
  A function that is generic in `T`, inside its own scope,
  and called with a second argument that it does not take.
-/
theorem inferCall_wrapper_eq_own :
    let vars : ForwardVars := ⟨"P", "R"⟩
    let own : RigidVars := ⟨["T"], []⟩
    let ps : List Parameter :=
      [.named "x" .positionalOrKeyword (.typeVar "T")]
    let f := Ty.callable (.params ps) (.typeVar "T")
    let args : CallArgs := { positional := [.typeVar "T"] }
    let more : CallArgs := { positional := [.int, .int] }
    let m : CallMismatch := .tooManyPositional 1 2
    let outcome :=
      vars.wrapper.inferCall {} {} "w" (args.behind f)
    let direct := f.inferCall {} own "w" args
    outcome.ret = direct.ret ∧
      outcome.issues = direct.issues.map (·.shift 1) ∧
        (vars.wrapper.inferCall {} {} "w"
          (more.behind f)).issues = [.ofMismatch "w" m] := by
  intro vars own ps f args more m outcome direct
  have hFree : vars.IsFree {} := by decide
  have hEq :=
    inferCall_wrapper_eq hFree {} "w" ps (.typeVar "T")
  rcases (hEq args).1 own (by decide) with ⟨hRet, hIssues⟩
  exact ⟨hRet, hIssues, ((hEq more).2 m own rfl).1⟩

/-
  A generic function takes any argument when it is called
  itself, and its own variable becomes the argument's type.
  Behind the wrapper the variable stays as it is.
-/
theorem inferCall_wrapper_ne_direct :
    let vars : ForwardVars := ⟨"P", "R"⟩
    let ps : List Parameter :=
      [.named "x" .positionalOrKeyword (.typeVar "T")]
    let f := Ty.callable (.params ps) (.typeVar "T")
    let args : CallArgs := { positional := [.int] }
    let outcome :=
      vars.wrapper.inferCall {} {} "w" (args.behind f)
    let direct := f.inferCall {} {} "w" args
    vars.IsFree {} ∧
      direct.issues = [] ∧
      direct.ret = .int ∧
      outcome.issues =
        [⟨.wrongType "x" (.typeVar "T") .int,
          .arg (.positional 1)⟩] ∧
      outcome.ret = .typeVar "T" := by
  decide

end ForwardVars

end SigCheck
