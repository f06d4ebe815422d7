import SigCheck.Proofs.SoundState

/-
  No fresh name is reported. Whatever text is checked, the
  states that checking goes through are sound, and the types
  and faults in what it finds are those of the program: each
  fresh name is replaced by the variable that it stands for.

  The type that a result was found to have is an exception;
  it is reported without that.

  Key definitions include:
    * `Cause.typeTexts`
    * `CheckState.Restores`

  Correctness is proven by:
    * `Stmt.keeps_check`
    * `CheckState.good_ofSource`
    * `CheckState.ofSource_restores`
-/

namespace SigCheck

------------------------------------------------------------
-- Plain Reports
------------------------------------------------------------

/- What is wrong with projections is told without types. -/
theorem ProjectionCheck.plain_errors (c : ProjectionCheck) :
    ∀ d ∈ c.errors, d.cause.Plain := by
  have hLone (own : ProjectionKind) (stars : String)
      (other : ProjectionKind) (p : Projected) :
      (c.loneError own stars other p).cause.Plain := by
    unfold ProjectionCheck.loneError
    dsimp only
    split <;> trivial
  unfold ProjectionCheck.errors
  simp only [List.forall_mem_append]
  refine ⟨⟨⟨?_, ?_⟩, ?_⟩, ?_⟩
  · intro d hd
    rcases List.mem_filterMap.mp hd with ⟨p, -, hp⟩
    rcases Option.map_eq_some_iff.mp hp with ⟨q, -, rfl⟩
    trivial
  · intro d hd
    rcases List.mem_filterMap.mp hd with ⟨p, -, hp⟩
    rcases Option.map_eq_some_iff.mp hp with ⟨q, -, rfl⟩
    trivial
  · unfold ProjectionCheck.starErrors
    split
    · split
      · exact List.forall_mem_nil _
      · rw [List.forall_mem_singleton]
        trivial
    · rw [List.forall_mem_singleton]
      trivial
    · unfold ProjectionCheck.loneErrors
      rw [List.forall_mem_append]
      constructor
      all_goals
        intro d hd
        rcases List.mem_map.mp hd with ⟨p, -, rfl⟩
        exact hLone _ _ _ p
  · intro d hd
    rcases List.mem_flatMap.mp hd with ⟨pair, -, hd⟩
    rcases List.mem_append.mp hd with hd | hd
    · rcases List.mem_map.mp hd with ⟨p, -, rfl⟩
      trivial
    · rcases List.mem_map.mp hd with ⟨p, -, rfl⟩
      trivial

/- What is wrong with a declaration is told without types. -/
theorem Declaration.plain_specErrors (d : Declaration) :
    ∀ e ∈ d.specErrors, e.cause.Plain := by
  have hFault (reason : String) (range : ByteRange) :
      ∀ e ∈ [d.fault reason range], e.cause.Plain := by
    rw [List.forall_mem_singleton]
    trivial
  have hKeyword (k : Keyword) :
      ∀ e ∈ d.keywordErrors k, e.cause.Plain := by
    unfold Declaration.keywordErrors
    split
    · exact hFault _ _
    · split
      · exact List.forall_mem_nil _
      · split
        · split
          · exact List.forall_mem_nil _
          · exact hFault _ _
        · exact hFault _ _
  unfold Declaration.specErrors
  split
  · exact hFault _ _
  · simp only [List.forall_mem_append]
    refine ⟨⟨?_, ?_⟩, ?_⟩
    · unfold Declaration.positionalErrors
      split
      · exact hFault _ _
      · rw [List.forall_mem_append]
        constructor
        · unfold Declaration.nameErrors
          split
          · exact hFault _ _
          · split
            · rw [List.forall_mem_singleton]
              trivial
            · exact List.forall_mem_nil _
        · intro e he
          rcases List.mem_map.mp he with ⟨extra, -, rfl⟩
          trivial
    · intro e he
      rcases List.mem_flatMap.mp he with ⟨k, -, he⟩
      exact hKeyword k e he
    · unfold Declaration.varianceErrors
      split
      · exact List.forall_mem_nil _
      · exact hFault _ _

namespace Check

variable {env : CheckEnv} {s : CheckState}

/- Plain causes are reported. -/
theorem keeps_reportPlain
    {ds : List Diagnostic}
    (h : ∀ d ∈ ds, d.cause.Plain) :
    Keeps env s (reportAll ds) anything :=
  keeps_reportAll fun _ d hd => .plain (h d hd)

------------------------------------------------------------
-- Functions
------------------------------------------------------------

/- The annotations of a header are checked. -/
theorem keeps_validateHead
    {head : FunctionHead}
    (h : head.Named) :
    Keeps env s (validateHead head) anything := by
  unfold validateHead
  apply keeps_names
  intro hNames
  apply keeps_read
  exact keeps_reportPlain (h.plain_headErrors hNames _)

/- An annotation is checked. -/
theorem keeps_validate
    (position : Position)
    {e : Expr}
    (h : e.Named) :
    Keeps env s (validate position e) anything := by
  unfold validate
  apply keeps_read
  apply keeps_names
  intro hNames
  exact keeps_reportPlain
    (h.typeExpr.plain_useSiteErrors hNames _ _)

/- What a header says has names of the program. -/
theorem keeps_facts
    {head : FunctionHead}
    (h : head.Named)
    (receiver : Bool) :
    Keeps env s (facts head receiver)
      fun _ f => f.Named := by
  unfold facts
  apply Keeps.bind (P := fun _ c => c.names.Named)
  · exact keeps_of_exec rfl fun hSound => hSound.named_names
  intro c t _ hNames
  have hPair := ProjectionCheck.isName_of_pair? hNames
  apply (keeps_reportPlain c.plain_errors).bind
  intro _ u _ _
  apply keeps_names
  intro hNames
  apply keeps_read
  apply keeps_pure
  refine ⟨h.params, hPair,
    h.params.uses_signature hNames _ hPair, ?_⟩
  intro ty hTy
  rcases Option.map_eq_some_iff.mp hTy with ⟨e, he, rfl⟩
  exact TypeExpr.uses_resolve hNames _
    (h.returns e he).typeExpr

end Check

/- The scope of a body has known names. -/
theorem FunctionFacts.Named.uses_bodyScope
    {known : String → Prop}
    (hKnown : ∀ v, IsName v → known v)
    {f : FunctionFacts}
    (h : f.Named)
    {names : NameEnv}
    (hNames : names.Named)
    (outer : RigidVars)
    {receiver : Option Ty}
    (hReceiver : ∀ t ∈ receiver, t.Uses known) :
    (f.bodyScope names outer receiver).Uses known := by
  have hMono {t : Ty} (ht : t.Uses IsName) : t.Uses known :=
    Ty.Uses.mono hKnown t ht
  have hTyped {ps : List ParamDef}
      (hps : ∀ p ∈ ps, p ∈ f.params.all) :
      ∀ pair ∈ ps.map fun p => (p.name, p.type names),
        pair.2.Uses known := by
    intro pair hPair
    rcases List.mem_map.mp hPair with ⟨p, hp, rfl⟩
    exact hMono ((h.params p (hps p hp)).uses_type hNames)
  have hPositional :
      ∀ p ∈ f.params.positional, p ∈ f.params.all := by
    intro p hp
    simp only [ParamDefs.all, List.mem_append, hp, true_or]
  have hKeyword :
      ∀ p ∈ f.params.keywordOnly, p ∈ f.params.all := by
    intro p hp
    simp only [ParamDefs.all, List.mem_append, hp, true_or,
      or_true]
  have hPlain :
      ∀ pair ∈ f.plainNames names receiver,
        pair.2.Uses known := by
    unfold FunctionFacts.plainNames
    dsimp only
    rw [List.forall_mem_append]
    refine ⟨?_, hTyped hKeyword⟩
    split
    · rename_i ty p ps hPs
      rw [hPs, List.forall_mem_cons] at hPositional
      rw [List.forall_mem_cons]
      refine ⟨?_, hTyped hPositional.2⟩
      dsimp only
      split
      · exact hMono
          ((h.params p hPositional.1).uses_type hNames)
      · exact hReceiver ty rfl
    · exact hTyped hPositional
  have hBound := h.isName_bound outer
  refine ⟨SymbolTable.uses_ofPairs ?_, hBound.1, hBound.2,
    h.declared⟩
  intro pair hPair
  rcases List.mem_map.mp hPair with ⟨⟨name, ty⟩, hMem, rfl⟩
  simp only [List.mem_append, List.mem_map] at hMem
  rcases hMem with (hMem | ⟨p, -, hp⟩) | ⟨p, -, hp⟩
  · exact hPlain _ hMem
  · cases hp
    exact hMono h.uses_starType
  · cases hp
    exact hMono h.uses_doubleStarType

namespace Check

variable {env : CheckEnv} {s : CheckState}

/- The body of a function is checked in its scope. -/
theorem keeps_functionBody
    {f : FunctionFacts}
    (hFacts : f.Named)
    (receiver : Bool)
    {body : Check Unit}
    (hBody : ∀ s, Keeps env s body anything) :
    Keeps env s (functionBody f receiver body) anything := by
  unfold functionBody
  apply keeps_get
  intro hSound
  apply Keeps.inScope _ (hBody _)
  apply hFacts.uses_bodyScope
    (fun _ => CheckState.knows_of_isName) hSound.named_names
  intro t ht
  split at ht
  · rcases Option.map_eq_some_iff.mp ht with ⟨c, hc, rfl⟩
    exact (hSound.classes c
      (List.mem_of_mem_head? hc)).instanceType
        fun _ => CheckState.knows_of_isName
  · cases ht

/- A decorator gives a type with known names. -/
theorem keeps_applyDecorator
    {e : Expr}
    (h : e.Named)
    {ty : Ty}
    (hTy : ty.Uses s.Knows) :
    Keeps env s (applyDecorator e ty) Ty.Uses := by
  unfold applyDecorator
  apply (e.keeps_infer h s).bind
  intro callee t hst hCallee
  apply keeps_locate
  intro location
  refine keeps_runCall (Expr.Named.isSignless_calleeName e h)
    hCallee ⟨?_, List.forall_mem_nil _⟩ _
  rw [List.forall_mem_singleton]
  exact Ty.Uses.mono hst.knows ty hTy

/- The arguments of a decorator are looked at. -/
theorem keeps_visitArgs
    {e : Expr}
    (h : e.Named) :
    Keeps env s (visitArgs e) anything := by
  unfold visitArgs
  split
  · apply (Expr.keeps_inferAll _ h.2.1 s).bind
    intro _ _ _ _
    exact keeps_pure trivial
  · exact keeps_pure trivial

/- Decorators give a type with known names. -/
theorem keeps_applyDecorators
    {ds : List Expr}
    (h : ∀ d ∈ ds, d.Named)
    {ty : Ty}
    (hTy : ty.Uses s.Knows) :
    Keeps env s (applyDecorators ds ty)
      fun known r => r.2.Uses known := by
  induction ds generalizing s ty with
  | nil => exact keeps_pure hTy
  | cons d ds ih =>
      rw [List.forall_mem_cons] at h
      unfold applyDecorators
      apply Keeps.bind (P := anything)
      · exact keeps_of_exec rfl fun _ => trivial
      intro form t hst _
      have hTy := Ty.Uses.mono hst.knows ty hTy
      cases form with
      | some form =>
          apply (keeps_visitArgs h.1).bind
          intro _ u htu _
          apply (ih h.2 (Ty.Uses.mono htu.knows ty hTy)).bind
          intro r v _ hr
          exact keeps_pure hr
      | none =>
          apply (keeps_applyDecorator h.1 hTy).bind
          intro ty u _ hTy
          exact ih h.2 hTy

/- A method as a member has the names of its type. -/
theorem uses_memberOf
    {known : String → Prop}
    (isProperty receiver : Bool)
    {ty : Ty}
    (h : ty.Uses known) :
    (memberOf isProperty receiver ty).Uses known := by
  unfold memberOf
  split
  · exact h.propertyType
  · split
    · exact h.dropReceiver
    · exact h

/- The innermost open class changes within known names. -/
theorem keeps_updateClass
    {f : ClassInfo → ClassInfo}
    (hf : ∀ c, c.Uses s.Knows → (f c).Uses s.Knows) :
    Keeps env s (modify fun s => s.updateClass f)
      anything := by
  apply keeps_modify
  · unfold CheckState.updateClass
    split <;> rfl
  · unfold CheckState.updateClass
    split <;> rfl
  · intro hSound
    exact hSound.updateClass hf

/- A function keeps the state sound if its body does. -/
theorem keeps_function
    {head : FunctionHead}
    (h : head.Named)
    {body : Check Unit}
    (hBody : ∀ s, Keeps env s body anything) :
    Keeps env s (function head body) anything := by
  unfold function
  apply Keeps.bind (P := anything)
  · exact keeps_of_exec (exec_isStatic env s _)
      fun _ => trivial
  intro isStatic t _ _
  apply keeps_get
  intro _
  apply (keeps_validateHead h).bind
  intro _ u _ _
  apply (keeps_facts h _).bind
  intro facts v _ hFacts
  apply (keeps_functionBody hFacts _ hBody).bind
  intro _ w _ _
  apply Keeps.bind
  · apply keeps_applyDecorators
    · intro d hd
      exact h.decorators d (List.mem_reverse.mp hd)
    · exact Ty.Uses.mono
        (fun _ => CheckState.knows_of_isName) _ hFacts.type
  rintro ⟨isProperty, ty⟩ x _ hTy
  dsimp only at hTy ⊢
  split
  · apply Keeps.bind
    · apply keeps_updateClass
      intro c hc
      exact hc.addMethod head.name (uses_memberOf _ _ hTy)
    · intro _ y hxy _
      exact keeps_define _ (Ty.Uses.mono hxy.knows ty hTy)
  · exact keeps_define _ hTy

------------------------------------------------------------
-- Classes
------------------------------------------------------------

/- The body of a class gives members with known names. -/
theorem keeps_classBody
    {info : ClassInfo}
    (hInfo : info.Uses s.Knows)
    {body : Check Unit}
    (hBody : ∀ s, Keeps env s body anything) :
    Keeps env s (classBody info body) ClassInfo.Uses := by
  unfold classBody
  apply Keeps.bind (P := anything)
  · apply keeps_modify rfl rfl
    intro hSound
    exact hSound.withClasses (List.forall_mem_cons.mpr
      ⟨hInfo, hSound.classes⟩)
  intro _ t hst _
  have hInfo := hInfo.mono hst.knows
  apply Keeps.bind (P := anything)
  · apply Keeps.inScope _ (hBody _)
    refine ⟨nofun, ?_, ?_, nofun⟩
    all_goals
      intro v hv
      rcases List.mem_map.mp hv with ⟨p, hp, rfl⟩
      exact hInfo.typeParams p (List.mem_filter.mp hp).1
  intro _ u htu _
  have hInfo := hInfo.mono htu.knows
  intro hGood
  have hClose :
      u.Before { u with classes := u.classes.tail } :=
    .of_eq rfl rfl
  have hSound := hGood.sound
  refine ⟨hClose, ⟨hSound.withClasses fun c hc =>
    hSound.classes c (List.mem_of_mem_tail hc),
    hGood.tells.of_before hClose rfl⟩, ?_⟩
  change (u.classes.head?.getD info).Uses u.Knows
  cases hHead : u.classes.head? with
  | none => exact hInfo
  | some c =>
      exact hSound.classes c (List.mem_of_mem_head? hHead)

/- A class keeps the state sound if its body does. -/
theorem keeps_cls
    {head : ClassHead}
    (h : head.Named)
    {body : Check Unit}
    (hBody : ∀ s, Keeps env s body anything) :
    Keeps env s (cls head body) anything := by
  have hBases :
      ∀ t ∈ head.bases.map Expr.typeExpr, t.Named := by
    intro t ht
    rcases List.mem_map.mp ht with ⟨e, he, rfl⟩
    exact (h.bases e he).typeExpr
  unfold cls
  apply keeps_names
  intro hNames
  apply keeps_read
  apply Keeps.bind
  · apply keeps_reportPlain
    intro d hd
    rcases List.mem_flatMap.mp hd with ⟨base, hBase, hd⟩
    exact plain_baseErrors hNames (hBases base hBase) _ d hd
  intro _ t _ _
  apply Keeps.bind
  · exact Keyword.keeps_inferAll head.keywords
      (Keyword.namedAll_iff.mpr h.keywords) t
      ⟨List.forall_mem_nil _, List.forall_mem_nil _⟩
  intro _ u _ _
  have hInfo (known : String → Prop) :
      ClassInfo.Uses known
        { name := head.name
          typeParams :=
            classTypeParams s.names
              (head.bases.map Expr.typeExpr) } :=
    ⟨h.name, isName_of_classTypeParams hNames hBases, nofun,
      nofun⟩
  apply Keeps.bind
  · apply keeps_define
    exact hInfo u.Knows
  intro _ v _ _
  apply (keeps_classBody (hInfo v.Knows) hBody).bind
  intro info w _ hMembers
  apply Keeps.bind
  · exact Expr.keeps_inferAll head.decorators
      (Expr.namedAll_iff.mpr h.decorators) w
  intro _ x hwx _
  exact keeps_define _ (hMembers.mono hwx.knows)

------------------------------------------------------------
-- Assignments
------------------------------------------------------------

/- The only target of an assignment has a name. -/
theorem isName_of_singleName?
    {targets : List Expr} {name : String}
    (h : ∀ e ∈ targets, e.Named)
    (hName : singleName? targets = some name) :
    IsName name := by
  unfold singleName? at hName
  split at hName
  · rename_i target
    rw [List.forall_mem_singleton] at h
    cases target with
    | name id range =>
        cases hName
        exact h
    | _ => cases hName
  · cases hName

/- A declaration defines a variable with a name. -/
theorem keeps_declareSpec
    {targets : List Expr}
    (h : ∀ e ∈ targets, e.Named)
    (call : CallExpr) :
    Keeps env s (declareSpec targets call) anything := by
  unfold declareSpec
  apply Keeps.bind (P := fun _ d => d.targets = targets)
  · exact keeps_of_exec rfl fun _ => rfl
  intro d t _ hTargets
  apply (keeps_reportPlain d.plain_specErrors).bind
  intro _ u _ _
  split
  · rename_i decl hDecl
    rcases Option.map_eq_some_iff.mp hDecl with
      ⟨name, hName, rfl⟩
    rw [hTargets] at hName
    exact keeps_define _ (isName_of_singleName? h hName)
  · exact keeps_pure trivial

/- A declaration defines a variable with a name. -/
theorem keeps_declareTypeVar
    {targets : List Expr}
    (h : ∀ e ∈ targets, e.Named)
    (call : CallExpr) :
    Keeps env s (declareTypeVar targets call) anything := by
  unfold declareTypeVar
  apply Keeps.bind (P := fun _ d => d.targets = targets)
  · exact keeps_of_exec rfl fun _ => rfl
  intro d t _ hTargets
  split
  · rename_i decl hDecl
    rcases Option.map_eq_some_iff.mp hDecl with
      ⟨name, hName, rfl⟩
    rw [hTargets] at hName
    exact keeps_define _ (isName_of_singleName? h hName)
  · exact keeps_pure trivial

/- Targets are bound to a type with known names. -/
theorem keeps_bindAll
    (targets : List Expr)
    {ty : Ty}
    (h : ty.Uses s.Knows) :
    Keeps env s (bindAll targets ty) anything := by
  induction targets generalizing s with
  | nil => exact keeps_pure trivial
  | cons target targets ih =>
      apply (keeps_bindTarget target h).bind
      intro _ t hst _
      exact ih (Ty.Uses.mono hst.knows ty h)

/- The values of an assignment have known names. -/
theorem keeps_assignValue
    (targets : List Expr)
    {value : Expr}
    (h : value.Named) :
    Keeps env s (assignValue targets value) anything := by
  unfold assignValue rejectPacked
  apply Keeps.bind (P := anything)
  · apply keeps_names
    intro _
    apply keeps_read
    apply keeps_reportPlain
    intro d hd
    rcases List.mem_map.mp hd with ⟨range, -, rfl⟩
    trivial
  intro _ t _ _
  apply (value.keeps_infer h t).bind
  intro ty u _ hTy
  exact keeps_bindAll targets hTy

/- An assignment keeps the state sound. -/
theorem keeps_assign
    {targets : List Expr} {value : Expr}
    (hTargets : ∀ e ∈ targets, e.Named)
    (h : value.Named) :
    Keeps env s (assign targets value) anything := by
  unfold assign
  split
  · exact keeps_assignValue targets h
  · apply keeps_meaning
    intro m
    split
    · exact keeps_declareSpec hTargets _
    · exact keeps_declareTypeVar hTargets _
    · exact keeps_assignValue targets h

/- An annotated target gets a type of the program. -/
theorem keeps_annotated
    (target : Expr)
    {typeExpr : Expr} {value : Option Expr}
    (hType : typeExpr.Named)
    (hValue : ∀ e ∈ value, e.Named) :
    Keeps env s (annotated target typeExpr value)
      anything := by
  unfold annotated
  apply (keeps_validate _ hType).bind
  intro _ t _ _
  apply Keeps.bind (P := fun _ ty => ty.Uses IsName)
  · exact keeps_of_exec rfl fun hSound =>
      TypeExpr.uses_resolve hSound.named_names _ hType.typeExpr
  intro declared u _ hDeclared
  have hKnown (s : CheckState) : declared.Uses s.Knows :=
    Ty.Uses.mono
      (fun _ => CheckState.knows_of_isName) _ hDeclared
  dsimp only
  split
  -- Behind the value, if any, both cases go on alike.
  case' h_1 e =>
    apply (Expr.keeps_visit (hValue e rfl) u).bind
    intro _ v _ _
  all_goals
    apply keeps_get
    intro _
    split
    · split
      · apply Keeps.bind
        · apply keeps_updateClass
          intro c hc
          exact hc.setMember _ (hKnown _)
        · intro _ t _ _
          exact keeps_bindTarget target (hKnown t)
      · exact keeps_bindTarget target (hKnown _)
    · exact keeps_bindTarget target (hKnown _)

------------------------------------------------------------
-- Other Statements
------------------------------------------------------------

/- A result is reported with its declared type. -/
theorem keeps_checkReturn
    {found : Ty}
    (h : found.Uses s.Knows)
    (range : ByteRange) :
    Keeps env s (checkReturn found range) anything := by
  unfold checkReturn
  apply keeps_read
  split
  · apply keeps_get
    intro hSound
    split
    · rename_i expected hExpected
      split
      · apply keeps_locate
        intro location
        apply keeps_report
        intro _
        exact .result expected found
          (hSound.uses_of_expectedReturn hExpected) h
      · exact keeps_pure trivial
    · exact keeps_pure trivial
  · exact keeps_pure trivial

/- A return keeps the state sound. -/
theorem keeps_ret
    {value : Option Expr}
    (h : ∀ e ∈ value, e.Named)
    (range : ByteRange) :
    Keeps env s (ret value range) anything := by
  unfold ret
  split
  · rename_i e
    apply (e.keeps_infer (h e rfl) s).bind
    intro found t _ hFound
    exact keeps_checkReturn hFound _
  · have hNone : Ty.noneType.Uses s.Knows := trivial
    exact keeps_checkReturn hNone _

/- What a module stands for has no names. -/
theorem uses_moduleSymbol
    (known : String → Prop)
    (module : String) :
    (ImportAlias.moduleSymbol module).Uses known := by
  unfold ImportAlias.moduleSymbol
  split
  · trivial
  · split <;> trivial

/- An import defines symbols without names. -/
theorem keeps_importModules (aliases : List ImportAlias) :
    Keeps env s (importModules aliases) anything := by
  induction aliases generalizing s with
  | nil => exact keeps_pure trivial
  | cons a aliases ih =>
      apply (keeps_define _ (uses_moduleSymbol _ _)).bind
      intro _ _ _ _
      exact ih

/- An import defines symbols without names. -/
theorem keeps_importNames
    (module : String)
    (aliases : List ImportAlias) :
    Keeps env s (importNames module aliases) anything := by
  induction aliases generalizing s with
  | nil => exact keeps_pure trivial
  | cons a aliases ih =>
      unfold importNames
      dsimp only
      split
      · apply Keeps.bind
        · apply keeps_define
          unfold ImportAlias.symbol
          split <;> trivial
        · intro _ _ _ _
          exact ih
      · exact ih

/- The target of a loop has the names of what it runs over. -/
theorem keeps_loopHead
    (isAsync : Bool)
    (target : Expr)
    {iter : Expr}
    (h : iter.Named) :
    Keeps env s (loopHead isAsync target iter) anything := by
  unfold loopHead
  apply (iter.keeps_infer h s).bind
  intro ty t _ hTy
  apply keeps_bindTarget
  split
  · trivial
  · exact hTy.element

/- The items of a `with` keep the state sound. -/
theorem keeps_withItems
    {items : List WithItem}
    (h : ∀ item ∈ items, item.Named) :
    Keeps env s (withItems items) anything := by
  induction items generalizing s with
  | nil => exact keeps_pure trivial
  | cons item items ih =>
      rw [List.forall_mem_cons] at h
      unfold withItems
      apply (Expr.keeps_visit h.1.context s).bind
      intro _ t _ _
      dsimp only
      split
      · rename_i target hTarget
        have hAny : Ty.any.Uses t.Knows := trivial
        apply (keeps_bindTarget target hAny).bind
        intro _ _ _ _
        exact ih h.2
      · exact ih h.2

/- An expression that may be missing keeps the state sound. -/
theorem keeps_visitOption
    {value : Option Expr}
    (h : ∀ e ∈ value, e.Named) :
    Keeps env s (visitOption value) anything := by
  cases value with
  | none => exact keeps_pure trivial
  | some e => exact Expr.keeps_visit (h e rfl) s

end Check

------------------------------------------------------------
-- Statements
------------------------------------------------------------

open Check

section Statements

variable {env : CheckEnv}

/- A step in front of another one, of which nothing is asked. -/
theorem Check.Keeps.next
    {α : Type} {s : CheckState}
    {step : Check Unit} {next : Unit → Check α}
    {Q : (String → Prop) → α → Prop}
    (hStep : Keeps env s step anything)
    (hNext : ∀ t, Keeps env t (next ()) Q) :
    Keeps env s (step >>= next) Q :=
  hStep.bind fun _ t _ _ => hNext t

mutual

/- A statement with valid names keeps the state sound. -/
theorem Stmt.keeps_check
    (stmt : Stmt) (h : stmt.Named) (s : CheckState) :
    Keeps env s stmt.check anything := by
  cases stmt with
  | function head body =>
      exact keeps_function h.1 (Stmt.keeps_checkAll body h.2)
  | cls head body =>
      exact keeps_cls h.1 (Stmt.keeps_checkAll body h.2)
  | assign targets value => exact keeps_assign h.1 h.2
  | annotated target typeExpr value =>
      exact keeps_annotated target h.2.1 h.2.2
  | augmented value => exact Expr.keeps_visit h s
  | ret value range => exact keeps_ret h range
  | expr value => exact Expr.keeps_visit h s
  | importModules names => exact keeps_importModules names
  | importNames module names =>
      exact keeps_importNames module names
  | branch test body orelse =>
      exact (Expr.keeps_visit h.1 s).next fun t =>
        (Stmt.keeps_checkAll body h.2.1 t).next fun u =>
          Stmt.keeps_checkAll orelse h.2.2 u
  | whileLoop test body orelse =>
      exact (Expr.keeps_visit h.1 s).next fun t =>
        (Stmt.keeps_checkAll body h.2.1 t).next fun u =>
          Stmt.keeps_checkAll orelse h.2.2 u
  | forLoop isAsync target iter body orelse =>
      exact (keeps_loopHead isAsync target h.1.2).next
        fun t =>
          (Stmt.keeps_checkAll body h.2.1 t).next fun u =>
            Stmt.keeps_checkAll orelse h.2.2 u
  | withBlock items body =>
      exact (keeps_withItems h.1).next fun t =>
        Stmt.keeps_checkAll body h.2 t
  | tryBlock body handlers orelse finalbody =>
      exact (Stmt.keeps_checkAll body h.1.1 s).next fun t =>
        (Handler.keeps_checkAll handlers h.1.2 t).next
          fun u =>
            (Stmt.keeps_checkAll orelse h.2.1 u).next
              fun v =>
                Stmt.keeps_checkAll finalbody h.2.2 v
  | raise exc => exact keeps_visitOption h
  | assert test => exact Expr.keeps_visit h s
  | inert => exact keeps_pure trivial

/- Statements with valid names keep the state sound. -/
theorem Stmt.keeps_checkAll
    (stmts : List Stmt) (h : Stmt.NamedAll stmts)
    (s : CheckState) :
    Keeps env s (Stmt.checkAll stmts) anything := by
  cases stmts with
  | nil => exact keeps_pure trivial
  | cons stmt stmts =>
      exact (stmt.keeps_check h.1 s).next fun t =>
        Stmt.keeps_checkAll stmts h.2 t

/- Handlers with valid names keep the state sound. -/
theorem Handler.keeps_checkAll
    (handlers : List Handler) (h : Handler.NamedAll handlers)
    (s : CheckState) :
    Keeps env s (Handler.checkAll handlers) anything := by
  cases handlers with
  | nil => exact keeps_pure trivial
  | cons handler handlers =>
      cases handler with
      | mk name body =>
          have hRest (t : CheckState) :
              Keeps env t (do
                Stmt.checkAll body
                Handler.checkAll handlers) anything :=
            (Stmt.keeps_checkAll body h.1 t).next fun u =>
              Handler.keeps_checkAll handlers h.2 u
          cases name with
          | none => exact hRest s
          | some name =>
              have hAny : (Symbol.value .any).Uses s.Knows :=
                trivial
              exact (keeps_define name hAny).next hRest

end

end Statements

------------------------------------------------------------
-- Texts
------------------------------------------------------------

/-
  The texts in a cause in which types stand, or variables
  in the place of types.
-/
def Cause.typeTexts : Cause → List String
  | .revealedType ty => [ty]
  | .unsatisfiableBinding var first second =>
      [var, first, second]
  | .callSiteMismatch _ reason => [reason]
  | .invalidArgType _ expected found => [expected, found]
  | .invalidReturnType expected found => [expected, found]
  | .invalidTypeArguments _ reason => [reason]
  | .invalidDeclaration _ => []
  | .invalidUseSite _ _ => []
  | .invalidProjection _ => []
  | .syntaxError _ => []
  | .io _ => []

/-
  In a restored cause only a text of the hook and the type
  of a result may have the sign of fresh names.
-/
theorem Cause.Restored.isSignless_typeTexts
    {env : CheckEnv} {s : CheckState} {cause : Cause}
    (hFresh : s.HasFresh)
    (h : cause.Restored env s) :
    ∀ text ∈ cause.typeTexts,
      IsSignless text ∨ env.hook.Gives text
        ∨ ∃ declared, cause = .invalidReturnType declared text
    := by
  intro text hText
  cases h with
  | revealed ty hTy =>
      rw [List.mem_singleton.mp hText]
      exact Or.inl ((Ty.retold_text hFresh ty hTy).isSignless
        hFresh)
  | fault f hf =>
      left
      cases f with
      | mismatch callee reason =>
          rw [List.mem_singleton.mp hText]
          exact (CallMismatch.retold_message hFresh reason
            hf.2).isSignless hFresh
      | unsatisfiable var first second =>
          simp only [CallFault.rename, CallFault.cause,
            typeTexts, List.mem_cons, List.not_mem_nil,
            or_false] at hText
          rcases hText with rfl | rfl | rfl
          · exact (Retold.of_knows hFresh hf.1).isSignless
              hFresh
          · exact (Signature.retold_text hFresh first
              hf.2.1).isSignless hFresh
          · exact (Signature.retold_text hFresh second
              hf.2.2).isSignless hFresh
      | wrongType param expected found =>
          simp only [CallFault.rename, CallFault.cause,
            typeTexts, List.mem_cons, List.not_mem_nil,
            or_false] at hText
          rcases hText with rfl | rfl
          · exact (Ty.retold_text hFresh expected
              hf.2.1).isSignless hFresh
          · exact (Ty.retold_text hFresh found
              hf.2.2).isSignless hFresh
  | hook callee hGives =>
      rw [List.mem_singleton.mp hText]
      exact Or.inr (Or.inl hGives)
  | result declared found hDeclared _ =>
      simp only [typeTexts, List.mem_cons, List.not_mem_nil,
        or_false] at hText
      rcases hText with rfl | rfl
      · exact Or.inl hDeclared.isSignless_text
      · exact Or.inr (Or.inr ⟨_, rfl⟩)
  | plain hPlain =>
      left
      cases cause with
      | invalidTypeArguments target reason =>
          rw [List.mem_singleton.mp hText]
          exact hPlain
      | revealedType ty => exact hPlain.elim
      | unsatisfiableBinding var first second =>
          exact hPlain.elim
      | callSiteMismatch callee reason => exact hPlain.elim
      | invalidArgType param expected found =>
          exact hPlain.elim
      | invalidReturnType declared found => exact hPlain.elim
      | _ => cases hText

/-
  What is asked in a state and what is wrong with a call is
  told with each fresh name replaced by the variable that it
  stands for. An expression has a type of which that can be
  told in the state behind it.
-/
structure CheckState.Restores
    (env : CheckEnv)
    (s : CheckState) : Prop where
  types :
    ∀ e : Expr, e.Named →
      (e.infer.exec env s).2.Good env
        ∧ (e.infer.exec env s).1.Uses
          (e.infer.exec env s).2.Knows
  reveals :
    ∀ (ty : Ty) (range : ByteRange), ty.Uses s.Knows →
      ((reveal ty range).exec env s).2.found =
        s.found.push
          { cause :=
              .revealedType (ty.rename s.declaredName).text
            location := env.index.location range
            file := env.file }
  issues :
    ∀ (issues : List CallIssue)
      (locate : IssueSite → Location),
      (∀ issue ∈ issues, issue.Uses s.Knows) →
      ((reportIssues issues locate).exec env s).2.found =
        s.found
          ++ (issues.map fun issue =>
            { cause :=
                (issue.fault.rename s.declaredName).cause
              location := locate issue.site
              file := env.file : Diagnostic }).toArray

/- A good state tells types and faults as restored. -/
theorem CheckState.Good.restores
    {env : CheckEnv} {s : CheckState}
    (h : s.Good env) : s.Restores env where
  types e he :=
    have hKept := e.keeps_infer he s h
    ⟨hKept.good, hKept.post⟩
  reveals ty range hTy := by
    have hText := Ty.restoreNames_text h.sound.fresh hTy
    simp [reveal, reportAt, report, take, locate, hText,
      Diagnostic.inFile]
  issues issues locate hIssues := by
    simp only [reportIssues, exec_bind, exec_get,
      exec_reportAll, found_takeAll, List.map_map]
    congr 2
    apply List.map_congr_left
    intro issue hIssue
    simp [Diagnostic.inFile,
      CallFault.restoreCause_eq h.sound.fresh _
        (hIssues issue hIssue)]

/- Checking a text keeps the state good. -/
theorem Check.keeps_source
    {env : CheckEnv}
    (text : String)
    (s : CheckState) :
    Keeps env s (Check.source text) anything := by
  unfold Check.source
  split
  · unfold unreadable
    apply keeps_read
    apply keeps_report
    intro _
    exact .plain trivial
  · rename_i body hBody
    apply keeps_read
    split
    · exact Stmt.keeps_checkAll body
        (named_of_parseModule hBody) s
    · exact keeps_pure trivial

namespace CheckState

/- Whatever text is checked, the state behind it is good. -/
theorem good_ofSource (env : CheckEnv) (text : String) :
    (ofSource env text).Good env :=
  (Check.keeps_source text (start env)
    ⟨sound_start env, List.forall_mem_nil _⟩).good

/-
  Whatever text is checked, each cause that is found was
  restored when it was reported. No text of a type in it has
  the sign of fresh names, unless the hook gave it or it is
  the type that a result was found to have. In every state
  that checking may reach, types and faults are told with
  each fresh name replaced by what it stands for.
-/
theorem ofSource_restores (env : CheckEnv) (text : String) :
    (∀ d ∈ (ofSource env text).found.toList,
      (∃ s : CheckState,
        s.Sound
          ∧ s.Before (ofSource env text)
          ∧ d.cause.Restored env s)
      ∧ ∀ told ∈ d.cause.typeTexts,
        IsSignless told ∨ env.hook.Gives told
          ∨ ∃ declared,
            d.cause = .invalidReturnType declared told)
    ∧ (ofSource env text).Restores env
    ∧ ∀ s : CheckState, s.Good env → s.Restores env := by
  have hGood := good_ofSource env text
  refine ⟨?_, hGood.restores, fun s h => h.restores⟩
  intro d hd
  rcases hGood.tells d hd with
    ⟨s, hSound, hBefore, hRestored⟩
  exact ⟨⟨s, hSound, hBefore, hRestored⟩,
    hRestored.isSignless_typeTexts hSound.fresh⟩

/- A generic function that a generic function returns. -/
def identReturned : String :=
  "T = TypeVar(\"T\")\n"
    ++ "def ident(x: T) -> T: ...\n"
    ++ "def outer(y: T) -> int: return ident\n"

/-
  The type of a result is told with the fresh names in it:
  here `ident` is renamed apart from the `T` of `outer`.
-/
theorem result_told_with_fresh_names :
    (ofSource { index := .ofText identReturned }
        identReturned).found.toList.map (·.cause) =
      [.invalidReturnType "int" "(x: T@1) -> T@1"]
    ∧ ¬ ∀ (env : CheckEnv) (text : String),
      ∀ d ∈ (ofSource env text).found.toList,
        ∀ told ∈ d.cause.typeTexts, IsSignless told := by
  have hFound :
      (ofSource { index := .ofText identReturned }
          identReturned).found.toList.map (·.cause) =
        [.invalidReturnType "int" "(x: T@1) -> T@1"] := by
    decide +kernel
  refine ⟨hFound, fun hAll => ?_⟩
  have hMem :
      Cause.invalidReturnType "int" "(x: T@1) -> T@1" ∈
        (ofSource { index := .ofText identReturned }
          identReturned).found.toList.map (·.cause) := by
    rw [hFound]
    exact List.mem_singleton.mpr rfl
  rcases List.mem_map.mp hMem with ⟨d, hd, hCause⟩
  have hTold := hAll _ _ d hd "(x: T@1) -> T@1"
  rw [hCause] at hTold
  exact absurd (hTold (by simp [Cause.typeTexts])) (by decide)

end CheckState

end SigCheck
