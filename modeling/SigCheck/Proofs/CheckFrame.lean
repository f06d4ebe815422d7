import SigCheck.Proofs.CheckSteps

/-
  What a step leaves alone. It defines names in the innermost
  scope only and changes the innermost class only, and that
  one only from right inside its body. So the body of a
  function, which has a scope of its own, leaves behind
  nothing but reports and fresh names.

  Key definitions include:
    * `Scope.header`
    * `CheckState.Frames`
    * `Check.Reports`

  Correctness is proven by:
    * `Check.Made.frames`
    * `Check.Made.exists_reports`
    * `Check.after_functionBody`
-/

namespace SigCheck

------------------------------------------------------------
-- Frames
------------------------------------------------------------

/- The scope without the names that are defined in it. -/
def Scope.header (scope : Scope) : Scope :=
  { scope with symbols := ∅ }

/-
  The second state differs from the first one at most in the
  names of its innermost scope, in the innermost class if the
  flag is set, in what was found, and in more fresh names.
-/
structure CheckState.Frames
    (inClass : Bool)
    (s t : CheckState) : Prop where
  globals : s.scopes ≠ [] → t.globals = s.globals
  header :
    t.scopes.head?.map Scope.header =
      s.scopes.head?.map Scope.header
  outerScopes : t.scopes.tail = s.scopes.tail
  classes : inClass = false → t.classes = s.classes
  outerClasses : t.classes.tail = s.classes.tail
  fresh : s.fresh <+: t.fresh

namespace CheckState.Frames

variable {inClass : Bool} {s t u : CheckState}

/- A state without symbols and classes changed. -/
theorem of_eq
    (hGlobals : t.globals = s.globals)
    (hScopes : t.scopes = s.scopes)
    (hClasses : t.classes = s.classes)
    (hFresh : s.fresh <+: t.fresh) :
    Frames inClass s t where
  globals _ := hGlobals
  header := by rw [hScopes]
  outerScopes := by rw [hScopes]
  classes _ := hClasses
  outerClasses := by rw [hClasses]
  fresh := hFresh

/- Every state differs in nothing from itself. -/
theorem refl (s : CheckState) : Frames inClass s s :=
  of_eq rfl rfl rfl List.prefix_rfl

/- The same scopes are open. -/
theorem scopes_eq_nil_iff (h : Frames inClass s t) :
    t.scopes = [] ↔ s.scopes = [] := by
  have hHeader := h.header
  cases hs : s.scopes <;> cases ht : t.scopes <;>
    simp_all

/- Whether a class body is open does not change. -/
theorem inClassBody_eq (h : Frames inClass s t) :
    t.inClassBody = s.inClassBody := by
  have hHeader := h.header
  unfold inClassBody
  cases hs : s.scopes with
  | nil =>
      rw [h.scopes_eq_nil_iff.2 hs]
  | cons outer scopes =>
      cases ht : t.scopes with
      | nil =>
          rw [h.scopes_eq_nil_iff.1 ht] at hs
          contradiction
      | cons outer' scopes' =>
          rw [hs, ht] at hHeader
          have hKind :
              outer'.header.kind = outer.header.kind := by
            simpa using congrArg (·.map (·.kind)) hHeader
          simpa [Scope.header] using
            congrArg (· == ScopeKind.cls) hKind

/- The same variables are rigid. -/
theorem rigid_eq (h : Frames inClass s t) :
    t.rigid = s.rigid := by
  have hHeader := h.header
  have hOuter := h.outerScopes
  unfold rigid
  cases hs : s.scopes with
  | nil => rw [h.scopes_eq_nil_iff.2 hs]
  | cons scope outer =>
      cases ht : t.scopes with
      | nil =>
          rw [h.scopes_eq_nil_iff.1 ht] at hs
          contradiction
      | cons scope' outer' =>
          rw [hs, ht] at hHeader hOuter
          have hRigid :
              scope'.header.rigid = scope.header.rigid := by
            simpa using congrArg (·.map (·.rigid)) hHeader
          have hSame : scope'.rigid = scope.rigid := hRigid
          have hRest : outer' = outer := hOuter
          simp [Scope.rigidOf, hSame, hRest]

/- Differences add up over several steps. -/
theorem trans
    (hst : Frames inClass s t)
    (htu : Frames inClass t u) : Frames inClass s u where
  globals hs := by
    have ht : t.scopes ≠ [] := mt hst.scopes_eq_nil_iff.1 hs
    rw [htu.globals ht, hst.globals hs]
  header := htu.header.trans hst.header
  outerScopes := htu.outerScopes.trans hst.outerScopes
  classes hIn := (htu.classes hIn).trans (hst.classes hIn)
  outerClasses := htu.outerClasses.trans hst.outerClasses
  fresh := hst.fresh.trans htu.fresh

end CheckState.Frames

------------------------------------------------------------
-- Frames of Steps
------------------------------------------------------------

namespace CheckState

variable {inClass : Bool} (s : CheckState)

/- A definition changes the innermost scope only. -/
theorem frames_define (name : String) (symbol : Symbol) :
    Frames inClass s (s.define name symbol) := by
  unfold define
  split
  · rename_i hScopes
    exact {
      globals := fun h => absurd hScopes h
      header := rfl
      outerScopes := rfl
      classes := fun _ => rfl
      outerClasses := rfl
      fresh := List.prefix_rfl }
  · rename_i scope outer hScopes
    exact {
      globals := fun _ => rfl
      header := by simp [hScopes, Scope.header]
      outerScopes := by simp [hScopes]
      classes := fun _ => rfl
      outerClasses := rfl
      fresh := List.prefix_rfl }

/- A change of the innermost class changes that one only. -/
theorem frames_updateClass (f : ClassInfo → ClassInfo) :
    Frames true s (s.updateClass f) := by
  unfold updateClass
  split
  · exact .refl s
  · rename_i info outer hClasses
    exact {
      globals := fun _ => rfl
      header := rfl
      outerScopes := rfl
      classes := by simp
      outerClasses := by simp [hClasses]
      fresh := List.prefix_rfl }

/- Fresh names come behind those that were given before. -/
theorem frames_freshNames (vars : List String) :
    Frames inClass s (s.freshNames vars).2 := by
  induction vars generalizing s with
  | nil => exact .refl s
  | cons var vars ih =>
      simp only [freshNames, freshName]
      apply Frames.trans _ (ih _)
      exact .of_eq rfl rfl rfl (List.prefix_append _ _)

/- A type as it is used here may take fresh names. -/
theorem frames_instantiate
    (ty : Ty)
    (definedIn : List Scope) :
    Frames inClass s (s.instantiate ty definedIn).2 := by
  unfold instantiate
  exact (s.frames_freshNames _).trans (frames_freshNames _ _)

/- Where nothing is rigid a type is used as it is. -/
theorem instantiate_of_rigid_eq_empty
    (hRigid : s.rigid = {})
    (ty : Ty)
    (definedIn : List Scope) :
    s.instantiate ty definedIn = (ty, s) := by
  have hNone (held vs : List String) :
      (vs.filter fun v =>
        ([] : List String).contains v && !held.contains v) =
        [] :=
    List.filter_eq_nil_iff.mpr (by simp)
  simp only [instantiate, hRigid, hNone, freshNames]
  rfl

/- What happened inside a scope leaves the outer ones alone. -/
theorem frames_of_inner
    {t : CheckState} {scope : Scope}
    (h :
      Frames false { s with scopes := scope :: s.scopes } t) :
    Frames inClass s { t with scopes := t.scopes.tail } :=
  .of_eq (h.globals (by simp)) h.outerScopes
    (h.classes rfl) h.fresh

/- What happened in a class body leaves outer ones alone. -/
theorem frames_of_classBody
    {t : CheckState} {info : ClassInfo} {scope : Scope}
    (h :
      Frames true
        { s with
          classes := info :: s.classes
          scopes := scope :: s.scopes } t) :
    Frames inClass s
      { t with
        scopes := t.scopes.tail
        classes := t.classes.tail } :=
  .of_eq (h.globals (by simp)) h.outerScopes
    h.outerClasses h.fresh

end CheckState

namespace Check

variable {inClass binds : Bool}
variable {α : Type} {step : Check α}

/- A class body is run in the scope and class that it opens. -/
theorem exec_classBody
    (env : CheckEnv)
    (s : CheckState)
    (info : ClassInfo)
    (body : Check Unit) :
    (classBody info body).exec env s =
      let t :=
        (body.exec env
          { s with
            classes := info :: s.classes
            scopes := info.bodyScope :: s.scopes }).2
      (t.classes.head?.getD info,
        { t with
          scopes := t.scopes.tail
          classes := t.classes.tail }) :=
  rfl

/- A step in a scope of its own is run in that scope. -/
theorem exec_inScope
    (env : CheckEnv)
    (s : CheckState)
    (scope : Scope)
    (step : Check α) :
    (inScope scope step).exec env s =
      let r :=
        step.exec env { s with scopes := scope :: s.scopes }
      (r.1, { r.2 with scopes := r.2.scopes.tail }) :=
  rfl

/- A step changes nothing outside of its frame. -/
theorem Made.frames
    (hMade : Made inClass binds step)
    (env : CheckEnv)
    (s : CheckState)
    (hIn : s.inClassBody = inClass) :
    CheckState.Frames inClass s (step.exec env s).2 := by
  induction hMade generalizing s with
  | pure a => exact .refl s
  | bind hStep hNext ihStep ihNext =>
      have hFirst := ihStep s hIn
      rw [exec_bind]
      exact hFirst.trans
        (ihNext _ _ (hFirst.inClassBody_eq.trans hIn))
  | read hBlind hNext ih => exact ih env s hIn
  | look hBlind hNext ih => exact ih s hIn s hIn
  | define name symbol => exact s.frames_define name symbol
  | report d => exact .of_eq rfl rfl rfl List.prefix_rfl
  | instantiate ty definedIn =>
      exact s.frames_instantiate ty definedIn
  | updateClass f => exact s.frames_updateClass f
  | inScope scope hKind hRigid hStep ih =>
      rw [exec_inScope]
      apply s.frames_of_inner
      apply ih
      simpa [CheckState.inClassBody] using hKind
  | classBody info hBody ih =>
      rw [exec_classBody]
      apply s.frames_of_classBody
      apply ih
      simp [CheckState.inClassBody, ClassInfo.bodyScope]

/-
  Where nothing is rigid, and no scope that is opened holds
  anything rigid, no fresh names are given.
-/
theorem Made.fresh_eq
    (hMade : Made inClass false step)
    (env : CheckEnv)
    (s : CheckState)
    (hIn : s.inClassBody = inClass)
    (hRigid : s.rigid = {}) :
    (step.exec env s).2.fresh = s.fresh := by
  generalize hBinds : false = binds at hMade
  induction hMade generalizing s with
  | pure a => rfl
  | bind hStep hNext ihStep ihNext =>
      have hFirst := hStep.frames env s hIn
      rw [exec_bind, ihNext _ _
        (hFirst.inClassBody_eq.trans hIn)
        (hFirst.rigid_eq.trans hRigid) hBinds]
      exact ihStep s hIn hRigid hBinds
  | read hBlind hNext ih => exact ih env s hIn hRigid hBinds
  | look hBlind hNext ih =>
      exact ih s hIn s hIn hRigid hBinds
  | define name symbol =>
      change (s.define name symbol).fresh = s.fresh
      unfold CheckState.define
      split <;> rfl
  | report d => rfl
  | instantiate ty definedIn =>
      have hSame :=
        s.instantiate_of_rigid_eq_empty hRigid ty definedIn
      exact congrArg (·.2.fresh) hSame
  | updateClass f =>
      change (s.updateClass f).fresh = s.fresh
      unfold CheckState.updateClass
      split <;> rfl
  | inScope scope hKind hScope hStep ih =>
      rw [exec_inScope]
      refine ih _ ?_ ?_ hBinds
      · simpa [CheckState.inClassBody] using hKind
      · have hOuter := hRigid
        unfold CheckState.rigid Scope.rigidOf at hOuter ⊢
        rw [RigidVars.mk.injEq] at hOuter
        simp [hScope hBinds.symm, hOuter]
  | classBody info hBody ih => cases hBinds

------------------------------------------------------------
-- Reports of Steps
------------------------------------------------------------

/-
  The step reports these diagnostics, whatever was found
  before and however much of it is kept, and neither its
  result nor the rest of the state depends on that.
-/
def Reports
    (step : Check α)
    (env : CheckEnv)
    (s : CheckState)
    (ds : List Diagnostic) : Prop :=
  ∀ count found log,
    step.exec (env.withMaxErrors count)
        (s.withFound found log) =
      ((step.exec env s).1,
        ((step.exec env s).2.withFound found log).takeAll ds)

variable {env : CheckEnv} {s : CheckState}

/- A step that reports nothing. -/
theorem reports_nil
    (h : ∀ count found log,
      step.exec (env.withMaxErrors count)
          (s.withFound found log) =
        ((step.exec env s).1,
          (step.exec env s).2.withFound found log)) :
    step.Reports env s [] := by
  intro count found log
  rw [h, CheckState.takeAll_nil]

/- Steps in a row report one after the other. -/
theorem Reports.bind
    {β : Type} {next : α → Check β}
    {first second : List Diagnostic}
    (hStep : step.Reports env s first)
    (hNext :
      (next (step.exec env s).1).Reports env
        (step.exec env s).2 second) :
    (step >>= next).Reports env s (first ++ second) := by
  intro count found log
  rw [exec_bind_of_eq (hStep count found log), exec_bind]
  have hSecond :=
    hNext count (found ++ first.toArray) (log.addAll first)
  simpa [CheckState.withFound, CheckState.takeAll,
    ErrorLog.addAll] using hSecond

end Check

namespace CheckState

variable
  (s : CheckState)
  (found : Array Diagnostic)
  (log : ErrorLog)

/- A definition does not depend on what was found. -/
theorem define_withFound (name : String) (symbol : Symbol) :
    (s.withFound found log).define name symbol =
      (s.define name symbol).withFound found log := by
  rcases s with ⟨globals, scopes⟩
  cases scopes <;> rfl

/- A change of a class does not depend on what was found. -/
theorem updateClass_withFound (f : ClassInfo → ClassInfo) :
    (s.withFound found log).updateClass f =
      (s.updateClass f).withFound found log := by
  rcases s with ⟨globals, scopes, classes⟩
  cases classes <;> rfl

/- Fresh names do not depend on what was found. -/
theorem freshNames_withFound (vars : List String) :
    (s.withFound found log).freshNames vars =
      ((s.freshNames vars).1,
        (s.freshNames vars).2.withFound found log) := by
  induction vars generalizing s with
  | nil => rfl
  | cons var vars ih =>
      have hRest := ih (s.freshName var).2
      simp only [freshName, withFound] at hRest
      simp only [freshNames, freshName, withFound, hRest]

/- Using a type does not depend on what was found. -/
theorem instantiate_withFound
    (ty : Ty)
    (definedIn : List Scope) :
    (s.withFound found log).instantiate ty definedIn =
      let r := s.instantiate ty definedIn
      (r.1, r.2.withFound found log) := by
  have hRigid : (s.withFound found log).rigid = s.rigid := rfl
  simp only [instantiate, hRigid, freshNames_withFound]

end CheckState

namespace Check

variable {inClass binds : Bool}
variable {α : Type} {step : Check α}

/- Every step reports a fixed list of diagnostics. -/
theorem Made.exists_reports
    (hMade : Made inClass binds step)
    (env : CheckEnv)
    (s : CheckState)
    (hIn : s.inClassBody = inClass) :
    ∃ ds, step.Reports env s ds := by
  induction hMade generalizing s with
  | pure a => exact ⟨[], reports_nil fun _ _ _ => rfl⟩
  | bind hStep hNext ihStep ihNext =>
      have hFrame := hStep.frames env s hIn
      rcases ihStep s hIn with ⟨first, hFirst⟩
      rcases ihNext _ _ (hFrame.inClassBody_eq.trans hIn) with
        ⟨second, hSecond⟩
      exact ⟨first ++ second, hFirst.bind hSecond⟩
  | read hBlind hNext ih =>
      rcases ih env s hIn with ⟨ds, hReports⟩
      refine ⟨ds, ?_⟩
      intro count found log
      rw [exec_bind, exec_read, hBlind]
      exact hReports count found log
  | look hBlind hNext ih =>
      rcases ih s hIn s hIn with ⟨ds, hReports⟩
      refine ⟨ds, ?_⟩
      intro count found log
      rw [exec_bind, exec_get, hBlind]
      exact hReports count found log
  | define name symbol =>
      refine ⟨[], reports_nil ?_⟩
      intro count found log
      exact congrArg (Prod.mk ())
        (s.define_withFound found log name symbol)
  | report d =>
      refine ⟨[d.inFile env.file], ?_⟩
      intro count found log
      simp only [exec_report]
      rw [← CheckState.takeAll_take, CheckState.takeAll_nil]
      rfl
  | instantiate ty definedIn =>
      refine ⟨[], reports_nil ?_⟩
      intro count found log
      exact s.instantiate_withFound found log ty definedIn
  | updateClass f =>
      refine ⟨[], reports_nil ?_⟩
      intro count found log
      exact congrArg (Prod.mk ())
        (s.updateClass_withFound found log f)
  | inScope scope hKind hRigid hStep ih =>
      have hInner :
          ({ s with scopes := scope :: s.scopes } :
            CheckState).inClassBody = false := by
        simpa [CheckState.inClassBody] using hKind
      rcases ih _ hInner with ⟨ds, hReports⟩
      refine ⟨ds, ?_⟩
      intro count found log
      have hRun := hReports count found log
      simp only [CheckState.withFound] at hRun
      simp only [exec_inScope, CheckState.withFound, hRun]
      rfl
  | classBody info hBody ih =>
      have hInner :
          ({ s with
            classes := info :: s.classes
            scopes := info.bodyScope :: s.scopes } :
            CheckState).inClassBody = true := by
        simp [CheckState.inClassBody, ClassInfo.bodyScope]
      rcases ih _ hInner with ⟨ds, hReports⟩
      refine ⟨ds, ?_⟩
      intro count found log
      have hRun := hReports count found log
      simp only [CheckState.withFound] at hRun
      simp only [exec_classBody, CheckState.withFound, hRun]
      rfl

end Check

------------------------------------------------------------
-- Function Bodies
------------------------------------------------------------

/- What was found before is what the reports come behind. -/
theorem Check.Reports.exec_eq
    {α : Type} {step : Check α}
    {env : CheckEnv} {s : CheckState}
    {ds : List Diagnostic}
    (h : step.Reports env s ds) :
    (step.exec env s).2 =
      ((step.exec env s).2.withFound s.found s.log).takeAll
        ds :=
  congrArg Prod.snd (h env.maxErrors s.found s.log)

/-
  A step in a scope of its own that is not a class body
  leaves nothing behind but reports and fresh names.
-/
theorem Check.Made.after_inScope
    {binds : Bool} {step : Check Unit}
    (hMade : Made false binds step)
    (env : CheckEnv)
    (s : CheckState)
    (scope : Scope)
    (hKind : scope.kind ≠ .cls) :
    ∃ ds fresh,
      s.after env (Check.inScope scope step) =
        { s with
          fresh := s.fresh ++ fresh
          found := s.found ++ ds.toArray
          log := s.log.addAll ds } := by
  let inner : CheckState :=
    { s with scopes := scope :: s.scopes }
  have hInner : inner.inClassBody = false := by
    simpa [inner, CheckState.inClassBody] using hKind
  have hFrame := hMade.frames env inner hInner
  rcases hMade.exists_reports env inner hInner with
    ⟨ds, hReports⟩
  rcases hFrame.fresh with ⟨fresh, hFresh⟩
  have hGlobals := hFrame.globals (by simp [inner])
  have hScopes :
      (step.exec env inner).2.scopes.tail = s.scopes :=
    hFrame.outerScopes
  have hClasses := hFrame.classes rfl
  have hExec := hReports.exec_eq
  refine ⟨ds, fresh, ?_⟩
  change ((Check.inScope scope step).exec env s).2 = _
  rw [exec_inScope]
  change
    { (step.exec env inner).2 with
      scopes := (step.exec env inner).2.scopes.tail } = _
  rw [hScopes, hExec]
  simp only [CheckState.takeAll, CheckState.withFound,
    hGlobals, hClasses, ← hFresh, inner]

/-
  Checking the body of a function leaves the names of the
  module, every open scope and every open class as they are.
  It only adds reports and fresh names.
-/
theorem Check.after_functionBody
    (env : CheckEnv)
    (s : CheckState)
    (facts : FunctionFacts)
    (receiver : Bool)
    (body : List Stmt) :
    ∃ ds fresh,
      s.after env
          (functionBody facts receiver (Stmt.checkAll body)) =
        { s with
          fresh := s.fresh ++ fresh
          found := s.found ++ ds.toArray
          log := s.log.addAll ds } := by
  have hBody : Made false true (Stmt.checkAll body) :=
    Stmt.checkAll_made body
  change
    ∃ ds fresh,
      ((functionBody facts receiver _).exec env s).2 = _
  unfold functionBody
  rw [exec_bind, exec_get]
  apply hBody.after_inScope env s
  simp [FunctionFacts.bodyScope]

end SigCheck
