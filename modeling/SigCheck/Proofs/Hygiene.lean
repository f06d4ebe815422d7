import SigCheck.Proofs.CallRenaming
import SigCheck.Proofs.FreshRenaming

/-
  A call inside functions says what it says at module level.
  Names of the module are used under fresh names where their
  variables are rigid, so both calls are the same one under
  different names, and what is reported of them has the
  names of the program only.

  Members of instances get no fresh names. Their calls agree
  as long as no variable of the member is rigid.

  Key definitions include:
    * `VarRenaming.Retells`
    * `Check.Alike`
    * `CheckState.atModule`
    * `CheckState.Reaches`, `CheckState.KeepsApart`
    * `CheckState.Hygienic`

  Correctness is proven by:
    * `CallFault.rename_renameVars`
    * `Check.runCall_renamed`
    * `CheckState.Reaches.exists_freshened`
    * `CheckState.Good.hygienic`
-/

namespace SigCheck

------------------------------------------------------------
-- Restored Names
------------------------------------------------------------

/- The second renaming undoes the new names of known ones. -/
structure VarRenaming.Retells
    (ρ : VarRenaming)
    (known : String → Prop)
    (f g : String → String) : Prop where
  types : ∀ v, known v → g (ρ.types v) = f v
  specs : ∀ v, known v → g (ρ.specs v) = f v
  same : ∀ v, known v → g v = f v

section Retell

variable {ρ : VarRenaming} {known : String → Prop}
variable {f g : String → String}

mutual

/- A type under new names is restored to the same type. -/
theorem Ty.rename_renameVars
    (h : ρ.Retells known f g)
    (t : Ty) (hUses : t.Uses known) :
    (t.renameVars ρ).rename g = t.rename f := by
  cases t with
  | typeVar name =>
      exact congrArg Ty.typeVar (h.types name hUses)
  | specArgs name =>
      exact congrArg Ty.specArgs (h.same name hUses)
  | specKwargs name =>
      exact congrArg Ty.specKwargs (h.same name hUses)
  | list t =>
      exact congrArg Ty.list (Ty.rename_renameVars h t hUses)
  | set t =>
      exact congrArg Ty.set (Ty.rename_renameVars h t hUses)
  | dict k v =>
      exact
        congrArg₂ Ty.dict (Ty.rename_renameVars h k hUses.1)
          (Ty.rename_renameVars h v hUses.2)
  | tuple ts =>
      exact
        congrArg Ty.tuple
          (Ty.renameAll_renameVarsAll h ts hUses)
  | union ts =>
      exact
        congrArg Ty.union
          (Ty.renameAll_renameVarsAll h ts hUses.2)
  | generic name args =>
      exact
        congrArg (Ty.generic name)
          (TypeArg.renameAll_renameVarsAll h args hUses.2)
  | callable sig ret =>
      exact
        congrArg₂ Ty.callable
          (Signature.rename_renameVars h sig hUses.1)
          (Ty.rename_renameVars h ret hUses.2)
  | _ => rfl

/- Each of a list of types is restored. -/
theorem Ty.renameAll_renameVarsAll
    (h : ρ.Retells known f g)
    (ts : List Ty) (hUses : Ty.UsesAll known ts) :
    Ty.renameAll g (Ty.renameVarsAll ρ ts) =
      Ty.renameAll f ts := by
  cases ts with
  | nil => rfl
  | cons t ts =>
      exact
        congrArg₂ List.cons (Ty.rename_renameVars h t hUses.1)
          (Ty.renameAll_renameVarsAll h ts hUses.2)

/- A class argument is restored. -/
theorem TypeArg.rename_renameVars
    (h : ρ.Retells known f g)
    (a : TypeArg) (hUses : a.Uses known) :
    (a.renameVars ρ).rename g = a.rename f := by
  cases a with
  | type t =>
      exact
        congrArg TypeArg.type (Ty.rename_renameVars h t hUses)
  | params sig =>
      exact
        congrArg TypeArg.params
          (Signature.rename_renameVars h sig hUses)

/- Each of a list of class arguments is restored. -/
theorem TypeArg.renameAll_renameVarsAll
    (h : ρ.Retells known f g)
    (args : List TypeArg) (hUses : TypeArg.UsesAll known args) :
    TypeArg.renameAll g (TypeArg.renameVarsAll ρ args) =
      TypeArg.renameAll f args := by
  cases args with
  | nil => rfl
  | cons a args =>
      exact
        congrArg₂ List.cons
          (TypeArg.rename_renameVars h a hUses.1)
          (TypeArg.renameAll_renameVarsAll h args hUses.2)

/- A parameter is restored. -/
theorem Parameter.rename_renameVars
    (h : ρ.Retells known f g)
    (p : Parameter) (hUses : p.Uses known) :
    (p.renameVars ρ).rename g = p.rename f := by
  cases p with
  | mk name kind ty hasDefault =>
      exact
        congrArg (Parameter.mk name kind · hasDefault)
          (Ty.rename_renameVars h ty hUses.2)

/- Each of a parameter list is restored. -/
theorem Parameter.renameAll_renameVarsAll
    (h : ρ.Retells known f g)
    (ps : List Parameter) (hUses : Parameter.UsesAll known ps) :
    Parameter.renameAll g (Parameter.renameVarsAll ρ ps) =
      Parameter.renameAll f ps := by
  cases ps with
  | nil => rfl
  | cons p ps =>
      exact
        congrArg₂ List.cons
          (Parameter.rename_renameVars h p hUses.1)
          (Parameter.renameAll_renameVarsAll h ps hUses.2)

/- A signature is restored. -/
theorem Signature.rename_renameVars
    (h : ρ.Retells known f g)
    (sig : Signature) (hUses : sig.Uses known) :
    (sig.renameVars ρ).rename g = sig.rename f := by
  cases sig with
  | gradual => rfl
  | params ps =>
      exact
        congrArg Signature.params
          (Parameter.renameAll_renameVarsAll h ps hUses)
  | spec lead var =>
      exact
        congrArg₂ Signature.spec
          (Parameter.renameAll_renameVarsAll h lead hUses.1)
          (h.specs var hUses.2)

end

/- A fault under new names is restored to the same fault. -/
theorem CallFault.rename_renameVars
    (h : ρ.Retells known f g)
    (fault : CallFault) (hUses : fault.Uses known) :
    (fault.renameVars ρ).rename g = fault.rename f := by
  cases fault with
  | mismatch callee reason =>
      cases reason with
      | forwardingRequired var =>
          exact
            congrArg
              (CallFault.mismatch callee
                <| .forwardingRequired ·)
              (h.same var hUses.2)
      | _ => rfl
  | unsatisfiable var first second =>
      have hFirst :=
        Signature.rename_renameVars h first hUses.2.1
      have hSecond :=
        Signature.rename_renameVars h second hUses.2.2
      simp only [CallFault.renameVars, CallFault.rename,
        h.specs var hUses.1, hFirst, hSecond]
  | wrongType param expected found =>
      exact
        congrArg₂ (CallFault.wrongType param)
          (Ty.rename_renameVars h expected hUses.2.1)
          (Ty.rename_renameVars h found hUses.2.2)

end Retell

------------------------------------------------------------
-- Reports of Calls
------------------------------------------------------------

/- The hook has nothing to say. -/
def ConstraintHook.IsQuiet (hook : ConstraintHook) : Prop :=
  ∀ reason, ¬ hook.Gives reason

/- By default nothing more is asked of solved variables. -/
theorem ConstraintHook.isQuiet_default :
    ConstraintHook.IsQuiet {} := by
  rintro reason (⟨decl, sig, h⟩ | ⟨decl, ty, h⟩) <;> cases h

/- What is reported of an issue of a call. -/
def CheckState.issueReport
    (s : CheckState)
    (locate : IssueSite → Location)
    (issue : CallIssue) : Diagnostic where
  cause := s.restoreCause issue.fault.cause
  location := locate issue.site

/-
  Two runs add the same reports to their states, and restored
  their results are the same type.
-/
structure Check.Alike
    (t u : CheckState)
    (r r' : Ty × CheckState) : Prop where
  reports : ∃ ds, r.2 = t.takeAll ds ∧ r'.2 = u.takeAll ds
  result :
    r.1.rename t.declaredName = r'.1.rename u.declaredName

namespace Check

variable {env : CheckEnv}

/- A quiet hook reports nothing of solved variables. -/
theorem exec_reportSolved
    (hQuiet : env.hook.IsQuiet)
    (callee : String)
    (solved : Substitution)
    (location : Location)
    (s : CheckState) :
    (reportSolved callee solved location).exec env s =
      ((), s) := by
  have hSpec (decl : SpecDecl) (sig : Signature) :
      env.hook.spec decl sig = none := by
    rw [Option.eq_none_iff_forall_ne_some]
    intro reason hReason
    exact hQuiet reason (Or.inl ⟨decl, sig, hReason⟩)
  have hType (decl : TypeVarDecl) (ty : Ty) :
      env.hook.typeVar decl ty = none := by
    rw [Option.eq_none_iff_forall_ne_some]
    intro reason hReason
    exact hQuiet reason (Or.inr ⟨decl, ty, hReason⟩)
  unfold reportSolved
  simp [exec_reportAll, hSpec, hType]

/- A call infers a result, and its issues are reported. -/
theorem exec_runCall
    (hQuiet : env.hook.IsQuiet)
    (callee : String)
    (ty : Ty)
    (args : CallArgs)
    (locate : IssueSite → Location)
    (s : CheckState) :
    (runCall callee ty args locate).exec env s =
      let outcome :=
        ty.inferCall
          ⟨env.config.join, env.config.checkArgumentTypes⟩
          s.rigid callee args
      (outcome.ret,
        s.takeAll
          ((outcome.issues.map (s.issueReport locate)).map
            (·.inFile env.file))) := by
  unfold runCall
  simp only [exec_bind, exec_read, exec_get, exec_pure,
    exec_reportSolved hQuiet]
  unfold reportIssues
  simp only [exec_bind, exec_get, exec_reportAll]
  rfl

/-
  Where the variables are free on both sides, a call under
  new names gives the result and the reports of the call.
-/
theorem runCall_renamed
    (hQuiet : env.hook.IsQuiet)
    {t u : CheckState}
    (ht : t.HasFresh)
    (hu : u.HasFresh)
    {ρ : VarRenaming}
    (hRetells :
      ρ.Retells u.Knows u.declaredName t.declaredName)
    {callee : String} {ty : Ty} {args : CallArgs}
    (hCallee : IsSignless callee)
    (hTy : ty.Uses u.Knows)
    (hTy' : (ty.renameVars ρ).Uses t.Knows)
    (hArgs : args.Uses u.Knows)
    (hArgs' : args.Uses t.Knows)
    (hFree : ∀ v ∈ ty.mentions, ρ.Frees u.rigid t.rigid v)
    (hArgsFree :
      args.Has (.ofVars (ρ.Frees u.rigid t.rigid)))
    (hFixed : args.mapTy (Ty.renameVars ρ) = args)
    (locate : IssueSite → Location) :
    Alike t u
      ((runCall callee (ty.renameVars ρ) args locate).exec
        env t)
      ((runCall callee ty args locate).exec env u) := by
  let options : InferOptions :=
    ⟨env.config.join, env.config.checkArgumentTypes⟩
  have hOutcome :=
    hTy.inferCall options u.rigid hCallee hArgs
  have hOutcome' :=
    hTy'.inferCall options t.rigid hCallee hArgs'
  have hRenamed :=
    Ty.inferCall_renamed hFree hArgsFree options callee
  rw [hFixed] at hRenamed
  have hReports :
      (ty.inferCall options u.rigid callee args).issues.map
          (u.issueReport locate) =
        ((ty.renameVars ρ).inferCall options t.rigid callee
          args).issues.map (t.issueReport locate) := by
    have hIssues := hRenamed.issues
    rw [hIssues, List.map_map]
    apply List.map_congr_left
    intro issue hIssue
    have hUses := hOutcome.issues issue hIssue
    have hUses' :
        (issue.fault.renameVars ρ).Uses t.Knows :=
      hOutcome'.issues (issue.renameVars ρ)
        (hIssues ▸ List.mem_map_of_mem hIssue)
    have hCause :
        u.restoreCause issue.fault.cause =
          t.restoreCause (issue.fault.renameVars ρ).cause := by
      rw [CallFault.restoreCause_eq ht _ hUses',
        CallFault.restoreCause_eq hu _ hUses,
        CallFault.rename_renameVars hRetells _ hUses]
    rw [Function.comp_apply]
    unfold CheckState.issueReport
    rw [hCause]
    rfl
  rw [exec_runCall hQuiet, exec_runCall hQuiet]
  constructor
  · refine ⟨_, rfl, ?_⟩
    exact
      congrArg
        (fun ds => u.takeAll (ds.map (·.inFile env.file)))
        hReports
  · dsimp only
    rw [hRenamed.ret]
    exact Ty.rename_renameVars hRetells _ hOutcome.ret

end Check

------------------------------------------------------------
-- Module Level
------------------------------------------------------------

/- A symbol in a scope has that scope around it. -/
theorem Scope.scopes_ne_nil_of_findIn
    {name : String} {direct : Bool}
    {scopes : List Scope} {found : Found}
    (h : Scope.findIn name direct scopes = some found) :
    found.scopes ≠ [] := by
  induction scopes generalizing direct with
  | nil => cases h
  | cons scope outer ih =>
      unfold Scope.findIn at h
      split at h
      · exact ih h
      · split at h
        · cases h
          exact List.cons_ne_nil _ _
        · exact ih h

namespace CheckState

/- The state outside of all functions and classes. -/
def atModule (s : CheckState) : CheckState :=
  { s with scopes := [] }

variable {env : CheckEnv} {s t : CheckState}

/- Outside of all functions it is good as well. -/
theorem Good.atModule (h : s.Good env) :
    s.atModule.Good env where
  sound := h.sound.withScopes (List.forall_mem_nil _)
  tells := h.tells.of_before (.of_eq rfl rfl) rfl

/- A symbol of the module is found outside as inside. -/
theorem find?_atModule
    {name : String} {symbol : Symbol}
    (h : s.find? name = some ⟨symbol, []⟩) :
    s.atModule.find? name = some ⟨symbol, []⟩ := by
  unfold CheckState.find? at h
  split at h
  · rename_i found hFound
    cases h
    exact absurd rfl (Scope.scopes_ne_nil_of_findIn hFound)
  · exact h

/- The same names are known with the same fresh ones. -/
theorem knows_congr (h : t.fresh = s.fresh) :
    t.Knows = s.Knows := by
  unfold Knows
  rw [h]

/- The expression is the form that reveals a type. -/
def Reveals (s : CheckState) (e : Expr) : Prop :=
  (s.names.meaningOf e.path?).isForm .revealType = true

instance (s : CheckState) (e : Expr) :
    Decidable (s.Reveals e) :=
  inferInstanceAs (Decidable (_ = true))

/-
  What is called is a function or a class of the module that
  no scope hides, or a member that is found to be the same
  from inside and from outside.
-/
inductive Reaches
    (env : CheckEnv)
    (s : CheckState) : Expr → Prop
  | function {id : String} {ty : Ty} {range : ByteRange} :
      s.find? id = some ⟨.value ty, []⟩ →
      Reaches env s (.name id range)
  | constructor
      {id : String} {info : ClassInfo} {range : ByteRange} :
      s.find? id = some ⟨.cls info, []⟩ →
      Reaches env s (.name id range)
  | member
      {value : Expr} {attr : String} {range : ByteRange}
      {ty : Ty} :
      ¬ s.Reveals (.member value attr range) →
      ¬ s.atModule.Reveals (.member value attr range) →
      ((Expr.member value attr range).infer.exec env s).1 =
        ty →
      ((Expr.member value attr range).infer.exec env
        s.atModule).1 = ty →
      Reaches env s (.member value attr range)

/- A member has no variable of its own that is rigid. -/
def KeepsApart (env : CheckEnv) (s : CheckState) : Expr → Prop
  | .member value attr range =>
      ∀ v ∈ ((Expr.member value attr range).infer.exec env
        s).1.mentions, s.rigid.holds v = false
  | _ => True

/- A value or a class does not reveal types. -/
theorem not_reveals_name
    {id : String} {symbol : Symbol} {range : ByteRange}
    (hFind : s.find? id = some ⟨symbol, []⟩)
    (hSymbol : symbol.meaning.special? = none) :
    ¬ s.Reveals (.name id range) := by
  have hMeaning :
      s.names.meaningOf (Expr.name id range).path? =
        symbol.meaning := by
    simp [names, NameEnv.ofLookup, lookup?, hFind, Expr.path?,
      NameEnv.meaningOf, NameEnv.meaning]
  unfold Reveals Meaning.isForm
  rw [hMeaning, hSymbol]
  decide

namespace Reaches

variable {callee : Expr}

/- What is called does not reveal types. -/
theorem not_reveals
    (h : s.Reaches env callee) :
    ¬ s.Reveals callee ∧ ¬ s.atModule.Reveals callee := by
  cases h with
  | function hFind =>
      exact
        ⟨not_reveals_name hFind rfl,
          not_reveals_name (find?_atModule hFind) rfl⟩
  | constructor hFind =>
      exact
        ⟨not_reveals_name hFind rfl,
          not_reveals_name (find?_atModule hFind) rfl⟩
  | member hInner hOuter => exact ⟨hInner, hOuter⟩

end Reaches

/-
  From inside the type of the expression is the one from
  outside under names that are free.
-/
structure Freshened
    (env : CheckEnv)
    (s : CheckState)
    (e : Expr)
    (ty : Ty)
    (ρ : VarRenaming) : Prop where
  outer : (e.infer.exec env s.atModule).1 = ty
  inner : (e.infer.exec env s).1 = ty.renameVars ρ
  free : ρ.Freshens s (e.infer.exec env s).2 ty.mentions

/- A type of the module gets fresh names from inside. -/
theorem Sound.freshened_name
    (h : s.Sound)
    {id : String} {symbol : Symbol} {ty : Ty}
    {range : ByteRange}
    (hFind : s.find? id = some ⟨symbol, []⟩)
    (hTy : ty.Uses s.Knows)
    (hType : ∀ t : CheckState,
      t.find? id = some ⟨symbol, []⟩ →
        (Check.nameType id).exec env t = t.instantiate ty []) :
    Freshened env s (.name id range) ty
      (s.freshRenaming ty) := by
  have hInner :
      (Expr.name id range).infer.exec env s =
        (ty.renameVars (s.freshRenaming ty),
          (s.freshSpecs ty).2) :=
    (hType s hFind).trans (h.instantiate_global hTy)
  have hOuter :
      (Expr.name id range).infer.exec env s.atModule =
        (ty, s.atModule) :=
    (hType _ (find?_atModule hFind)).trans
      (instantiate_of_rigid_eq_empty _ rfl ty [])
  constructor
  · rw [hOuter]
  · rw [hInner]
  · rw [hInner]
    exact h.freshens_instance hTy

/- No fresh names are given outside of all functions. -/
theorem fresh_exec_atModule
    (env : CheckEnv)
    (s : CheckState)
    {α : Type} {step : Check α}
    (hMade : Check.Made false false step) :
    (step.exec env s.atModule).2.fresh = s.fresh :=
  hMade.fresh_eq env s.atModule rfl rfl

/- A member without rigid variables is used as it is. -/
theorem Good.freshened_self
    (h : s.Good env)
    {e : Expr} {ty : Ty}
    (hNamed : e.Named)
    (hInner : (e.infer.exec env s).1 = ty)
    (hOuter : (e.infer.exec env s.atModule).1 = ty)
    (hFree : ∀ v ∈ ty.mentions, s.rigid.holds v = false) :
    Freshened env s e ty .refl := by
  have hKept := e.keeps_infer hNamed s h
  refine ⟨hOuter, ?_, ?_⟩
  · rw [hInner]
    exact
      (ty.renameVars_of_fixed fun v _ =>
        VarRenaming.apply_refl v).symm
  · constructor
    · intro v hv
      rw [VarRenaming.apply_refl]
      exact hFree v hv
    · exact fun v _ _ => VarRenaming.apply_refl v
    · exact fun v hv => ⟨hKept.before.knows v hv, rfl⟩
    · exact fun v hv => ⟨hKept.before.knows v hv, rfl⟩

/- What is called has free names from inside. -/
theorem Reaches.exists_freshened
    {callee : Expr}
    (h : s.Reaches env callee)
    (hApart : s.KeepsApart env callee)
    (hGood : s.Good env)
    (hNamed : callee.Named) :
    ∃ ty ρ, Freshened env s callee ty ρ := by
  have hSound := hGood.sound
  cases h with
  | @function id ty range hFind =>
      have hTy : ty.Uses s.Knows := hSound.uses_of_find? hFind
      refine ⟨ty, _, hSound.freshened_name hFind hTy ?_⟩
      intro t hFind
      unfold Check.nameType
      rw [Check.exec_bind, Check.exec_get, hFind]
      rfl
  | @constructor id info range hFind =>
      have hInfo : info.Uses s.Knows :=
        hSound.uses_of_find? hFind
      have hTy :=
        hInfo.ctorType fun _ => CheckState.knows_of_isName
      refine
        ⟨info.ctorType, _, hSound.freshened_name hFind hTy ?_⟩
      intro t hFind
      unfold Check.nameType
      rw [Check.exec_bind, Check.exec_get, hFind]
      rfl
  | @member value attr range ty hForm hForm' hInner hOuter =>
      have hFree :
          ∀ v ∈ ((Expr.member value attr range).infer.exec env
            s).1.mentions, s.rigid.holds v = false :=
        hApart
      rw [hInner] at hFree
      exact
        ⟨_, _, hGood.freshened_self hNamed hInner hOuter hFree⟩

end CheckState

namespace VarRenaming.Freshens

variable {ρ : VarRenaming} {vs : List VarName}
variable {s r t u : CheckState}

/- Variables with fresh names are free on either side. -/
theorem frees
    (h : ρ.Freshens s r vs) :
    ∀ v ∈ vs, ρ.Frees {} s.rigid v := by
  intro v hv
  refine ⟨?_, h.free v hv⟩
  cases v <;> rfl

/- So are those that are not rigid anyway. -/
theorem frees_of_holds_eq_false
    (h : ρ.Freshens s r vs)
    (v : VarName)
    (hv : s.Knows v.text)
    (hFree : s.rigid.holds v = false) :
    ρ.Frees {} s.rigid v := by
  refine ⟨?_, ?_⟩
  · cases v <;> rfl
  · rw [h.fixed v hv hFree]
    exact hFree

/- Fresh names are restored to what they were given for. -/
theorem retells
    (h : ρ.Freshens s r vs)
    (hst : s.Before t)
    (hrt : r.Before t)
    (hKnows : u.Knows = s.Knows)
    (ht : t.HasFresh)
    (hu : u.HasFresh) :
    ρ.Retells u.Knows u.declaredName t.declaredName := by
  have hStem {v : String} (hv : u.Knows v) :
      u.declaredName v = stem v :=
    CheckState.declaredName_eq_stem hu hv
  have hNew {v w : String}
      (hw : r.Knows w ∧ stem w = stem v) :
      t.declaredName w = stem v :=
    (CheckState.declaredName_eq_stem ht
      (hrt.knows w hw.1)).trans hw.2
  constructor
  · intro v hv
    rw [hStem hv]
    rw [hKnows] at hv
    exact hNew (h.types v hv)
  · intro v hv
    rw [hStem hv]
    rw [hKnows] at hv
    exact hNew (h.specs v hv)
  · intro v hv
    rw [hStem hv]
    rw [hKnows] at hv
    exact CheckState.declaredName_eq_stem ht (hst.knows v hv)

end VarRenaming.Freshens

/- What holds of variables in arguments is carried over. -/
theorem CallArgs.Has.ofVars_mono
    {known : String → Prop} {P Q : VarName → Prop}
    {args : CallArgs}
    (h : args.Has (.ofVars P))
    (hUses : args.Uses known)
    (hPQ : ∀ v, known v.text → P v → Q v) :
    args.Has (.ofVars Q) where
  positional t ht := by
    have hAll := (t.has_ofVars_iff).mp (h.positional t ht)
    have hKnown := hUses.positional t ht
    exact
      (t.has_ofVars_iff).mpr fun v hv =>
        hPQ v (hKnown.known_of_mem hv) (hAll v hv)
  keywords entry hEntry := by
    have hAll :=
      (Ty.has_ofVars_iff _).mp (h.keywords entry hEntry)
    have hKnown := (hUses.keywords entry hEntry).2
    exact
      (Ty.has_ofVars_iff _).mpr fun v hv =>
        hPQ v (hKnown.known_of_mem hv) (hAll v hv)

/- Arguments whose variables keep their names stay the same. -/
theorem CallArgs.mapTy_renameVars_of_fixed
    {ρ : VarRenaming} {args : CallArgs}
    (h : args.Has (.ofVars fun v => ρ.apply v = v)) :
    args.mapTy (Ty.renameVars ρ) = args := by
  have hTypes :
      ∀ t ∈ args.positional, t.renameVars ρ = t :=
    fun t ht =>
      t.renameVars_of_fixed
        ((t.has_ofVars_iff).mp (h.positional t ht))
  have hEntries :
      ∀ entry ∈ args.keywords,
        (entry.1, entry.2.renameVars ρ) = entry :=
    fun entry hEntry =>
      Prod.ext rfl
        (Ty.renameVars_of_fixed _
          ((Ty.has_ofVars_iff _).mp (h.keywords entry hEntry)))
  have hPositional := List.map_congr_left hTypes
  have hKeywords := List.map_congr_left hEntries
  rw [List.map_id'] at hPositional hKeywords
  unfold CallArgs.mapTy
  rw [hPositional, hKeywords]

------------------------------------------------------------
-- Hygiene
------------------------------------------------------------

open Check

/- The types of the arguments of a call. -/
def Expr.argTypes
    (args : List Expr)
    (keywords : List Keyword) : Check CallArgs := do
  Keyword.inferAll keywords (← Expr.inferArgs args {})

namespace Expr

variable {env : CheckEnv} {s t u : CheckState}
variable {callee : Expr} {es : List Expr}
variable {ks : List Keyword} {args : CallArgs}

/- The argument types are made of the steps. -/
theorem argTypes_made
    {inClass binds : Bool}
    (es : List Expr)
    (ks : List Keyword) :
    Made inClass binds (argTypes es ks) :=
  (Expr.inferArgs_made es {}).bind
    fun _ => Keyword.inferAll_made ks _

/- The argument types have known names. -/
theorem keeps_argTypes
    (hArgs : Expr.NamedAll es)
    (hKeywords : Keyword.NamedAll ks)
    (s : CheckState) :
    Keeps env s (argTypes es ks) CallArgs.Uses := by
  have hEmpty : CallArgs.Uses s.Knows {} :=
    ⟨List.forall_mem_nil _, List.forall_mem_nil _⟩
  apply (Expr.keeps_inferArgs es hArgs s hEmpty).bind
  intro args t _ hUses
  exact Keyword.keeps_inferAll ks hKeywords t hUses

/- A call is run behind its callee and its arguments. -/
theorem exec_call
    (hForm : ¬ s.Reveals callee)
    (hArgs :
      (argTypes es ks).exec env (callee.infer.exec env s).2 =
        (args, t))
    (range : ByteRange) :
    (Expr.call callee es ks range).infer.exec env s =
      (runCall callee.calleeName (callee.infer.exec env s).1
        args
        (CallExpr.siteLocation ⟨callee, es, ks, range⟩
          env.index)).exec env t := by
  have hMeaning :
      (meaning callee).exec env s =
        (s.names.meaningOf callee.path?, s) :=
    rfl
  unfold argTypes at hArgs
  rw [exec_bind] at hArgs
  conv_lhs => unfold Expr.infer
  unfold CheckState.Reveals at hForm
  rw [exec_bind_of_eq hMeaning, if_neg hForm, exec_bind,
    exec_bind, exec_bind_of_eq hArgs]
  rfl

/-
  The state behind the callee and the arguments of a call.
  The types of both have known names, and the same variables
  are rigid as in front of them.
-/
structure Prepares
    (env : CheckEnv)
    (s : CheckState)
    (callee : Expr)
    (args : CallArgs)
    (t : CheckState) : Prop where
  sound : t.Sound
  start : s.Before t
  before : (callee.infer.exec env s).2.Before t
  rigid : t.rigid = s.rigid
  callee : (callee.infer.exec env s).1.Uses t.Knows
  args : args.Uses t.Knows

/- Callees and arguments are inferred so from good states. -/
theorem prepares_of_exec
    (hGood : s.Good env)
    (hCallee : callee.Named)
    (hArgs : Expr.NamedAll es)
    (hKeywords : Keyword.NamedAll ks)
    (hExec :
      (argTypes es ks).exec env (callee.infer.exec env s).2 =
        (args, t)) :
    Prepares env s callee args t := by
  have hFirst := callee.keeps_infer hCallee s hGood
  have hSecond := keeps_argTypes hArgs hKeywords _ hFirst.good
  have hMade :
      Made s.inClassBody false
        (callee.infer >>= fun _ => argTypes es ks) :=
    callee.infer_made.bind fun _ => argTypes_made es ks
  have hRigid := (hMade.frames env s rfl).rigid_eq
  rw [exec_bind, hExec] at hRigid
  rw [hExec] at hSecond
  exact {
    sound := hSecond.good.sound
    start := hFirst.before.trans hSecond.before
    before := hSecond.before
    rigid := hRigid
    callee := Ty.Uses.mono hSecond.before.knows _ hFirst.post
    args := hSecond.post }

/- From outside no name becomes known on the way. -/
theorem knows_of_exec_atModule
    (hExec :
      (argTypes es ks).exec env
        (callee.infer.exec env s.atModule).2 = (args, u)) :
    u.Knows = s.Knows := by
  have hMade :
      Made false false
        (callee.infer >>= fun _ => argTypes es ks) :=
    callee.infer_made.bind fun _ => argTypes_made es ks
  have hFresh := CheckState.fresh_exec_atModule env s hMade
  rw [exec_bind, hExec] at hFresh
  exact CheckState.knows_congr hFresh

end Expr

/-
  Every call whose arguments have no rigid variable gives from
  inside the diagnostics, and up to the names of variables
  the result, that it gives at module level.
-/
def CheckState.Hygienic
    (env : CheckEnv)
    (s : CheckState)
    (callee : Expr) : Prop :=
  ∀ (es : List Expr) (ks : List Keyword) (range : ByteRange)
    (args : CallArgs) (t u : CheckState),
    (Expr.call callee es ks range).Named →
    (Expr.argTypes es ks).exec env
        (callee.infer.exec env s).2 = (args, t) →
    (Expr.argTypes es ks).exec env
        (callee.infer.exec env s.atModule).2 = (args, u) →
    args.Has (.ofVars fun v => s.rigid.holds v = false) →
    Alike t u
      ((Expr.call callee es ks range).infer.exec env s)
      ((Expr.call callee es ks range).infer.exec env
        s.atModule)

/-
  Generic functions and classes of the module are hygienic,
  and so are members whose own variables are not rigid.
-/
theorem CheckState.Good.hygienic
    {env : CheckEnv} {s : CheckState} {callee : Expr}
    (hGood : s.Good env)
    (hQuiet : env.hook.IsQuiet)
    (hReaches : s.Reaches env callee)
    (hApart : s.KeepsApart env callee) :
    s.Hygienic env callee := by
  intro es ks range args t u hNamed hInner hOuter hFree
  rcases hNamed with ⟨hCallee, hArgs, hKeywords⟩
  rcases hReaches.exists_freshened hApart hGood hCallee with
    ⟨ty, ρ, hTy⟩
  rcases hReaches.not_reveals with ⟨hForm, hForm'⟩
  have ht :=
    Expr.prepares_of_exec hGood hCallee hArgs hKeywords hInner
  have hu :=
    Expr.prepares_of_exec hGood.atModule hCallee hArgs hKeywords
      hOuter
  have hKnows := Expr.knows_of_exec_atModule hOuter
  have hRigid : u.rigid = {} := hu.rigid
  have hTyIn := ht.callee
  have hTyOut := hu.callee
  have hArgsOut := hu.args
  rw [hTy.inner] at hTyIn
  rw [hTy.outer] at hTyOut
  rw [hKnows] at hArgsOut
  -- Arguments keep the names of their variables.
  have hFixed :
      args.Has (.ofVars fun v => ρ.apply v = v) :=
    hFree.ofVars_mono hArgsOut hTy.free.fixed
  have hArgsFree :
      args.Has (.ofVars (ρ.Frees {} s.rigid)) :=
    hFree.ofVars_mono hArgsOut
      hTy.free.frees_of_holds_eq_false
  have hTyFree := hTy.free.frees
  rw [← hRigid, ← ht.rigid] at hArgsFree hTyFree
  have hRetells :=
    hTy.free.retells ht.start ht.before hKnows ht.sound.fresh
      hu.sound.fresh
  rw [Expr.exec_call hForm hInner,
    Expr.exec_call hForm' hOuter, hTy.inner, hTy.outer]
  exact
    runCall_renamed hQuiet ht.sound.fresh hu.sound.fresh
      hRetells (Expr.Named.isSignless_calleeName _ hCallee)
      hTyOut hTyIn hu.args ht.args hTyFree hArgsFree
      (CallArgs.mapTy_renameVars_of_fixed hFixed) _

/- The type of a function that returns what it is given. -/
def Ty.identity : Ty :=
  .callable
    (.params
      [⟨some "x", .positionalOrKeyword, .typeVar "T", false⟩])
    (.typeVar "T")

/-
  Inside a function that holds `T` rigid, in a module with a
  generic function `f` and a value `a` of a class that has a
  generic method `m`.
-/
def CheckState.insideGeneric : CheckState where
  globals :=
    .ofPairs
      [("f", .value .identity),
        ("A", .cls
          { name := "A"
            members := .ofPairs [("m", .identity)] }),
        ("a", .value (.cls "A"))]
  scopes := [⟨.function, ∅, ⟨["T"], []⟩, none⟩]

/- All of its names are valid. -/
theorem CheckState.good_insideGeneric :
    insideGeneric.Good { index := .ofText "" } := by
  have hT : insideGeneric.Knows "T" :=
    knows_of_isName (by decide)
  have hName : ∀ n ∈ some "x", IsName n := by decide
  have hType : Ty.identity.Uses insideGeneric.Knows :=
    ⟨⟨⟨hName, hT⟩, trivial⟩, hT⟩
  have hMembers (v : String) (t : Ty)
      (h : (Table.ofPairs [("m", Ty.identity)]).find? v =
        some t) : t.Uses insideGeneric.Knows := by
    have hMem := Table.mem_of_find?_ofPairs h
    rw [List.mem_singleton] at hMem
    cases hMem
    exact hType
  refine ⟨⟨List.forall_mem_nil _, List.forall_mem_nil _,
    SymbolTable.uses_ofPairs ?_, ?_,
    List.forall_mem_nil _⟩, List.forall_mem_nil _⟩
  · simp only [List.forall_mem_cons]
    refine ⟨hType, ?_, (by decide : IsName "A"),
      List.forall_mem_nil _⟩
    exact ⟨(by decide), List.forall_mem_nil _, nofun, hMembers⟩
  · have hScope :
        Scope.Uses insideGeneric.Knows
          ⟨.function, ∅, ⟨["T"], []⟩, none⟩ :=
      ⟨nofun, by decide, List.forall_mem_nil _, nofun⟩
    exact List.forall_mem_singleton.mpr hScope

/-
  In the function the call `f(1)` gives what it gives outside
  of it. Its type is `int`.
-/
theorem CheckState.hygienic_insideGeneric :
    let env : CheckEnv := { index := .ofText "" }
    insideGeneric.Hygienic env (.name "f" default) ∧
      ((Expr.call (.name "f" default)
        [.literal .int default] [] default).infer.exec env
        insideGeneric).1 = .int :=
  ⟨good_insideGeneric.hygienic ConstraintHook.isQuiet_default
    (.function rfl) trivial, by decide⟩

/- A generic method that is called inside and outside. -/
def methodCalledTwice : String :=
  "T = TypeVar(\"T\")\n"
    ++ "class A:\n"
    ++ "    def m(self, x: T) -> T: ...\n"
    ++ "a = A()\n"
    ++ "def f(y: T) -> None: reveal_type(a.m(1))\n"
    ++ "reveal_type(a.m(1))\n"

/-
  A method whose own variable is rigid is not hygienic. The
  call from inside takes the variable for the rigid one: it
  reports the argument and gives back the variable.
-/
theorem CheckState.member_not_hygienic :
    (ofSource { index := .ofText methodCalledTwice }
        methodCalledTwice).found.toList.map (·.cause) =
      [.invalidArgType "x" "T" "int", .revealedType "T",
        .revealedType "int"] ∧
    ¬ ∀ (env : CheckEnv) (s : CheckState) (callee : Expr),
      s.Good env → env.hook.IsQuiet → s.Reaches env callee →
        s.Hygienic env callee := by
  refine ⟨by decide +kernel, fun hAll => ?_⟩
  have hReaches :
      insideGeneric.Reaches { index := .ofText "" }
        (.member (.name "a" default) "m" default) :=
    .member (by decide) (by decide) rfl rfl
  have hHygienic :=
    hAll _ _ _ good_insideGeneric
      ConstraintHook.isQuiet_default hReaches
  have hArgs :
      CallArgs.Has
        (.ofVars fun v => insideGeneric.rigid.holds v = false)
        { positional := [.int] } :=
    ⟨by simp [Ty.Has], nofun⟩
  have hBase : IsName "a" := by decide
  have hAttr : IsName "m" := by decide
  have hAlike :=
    hHygienic [.literal .int default] [] default _ _ _
      ⟨⟨hBase, hAttr⟩, ⟨trivial, trivial⟩, trivial⟩ rfl rfl
      hArgs
  exact absurd hAlike.result (by decide)

end SigCheck
