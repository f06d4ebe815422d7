import SigCheck.Proofs.NameUse

/-
  The names in what a call gives: bound arguments, results
  and faults have the names of the callee and of the
  arguments, and no others.

  Key definitions include:
    * `CallArgs.Uses`, `BoundArg.Uses`, `CallFault.Uses`
    * `CallOutcome.Uses`

  Correctness is proven by:
    * `Binding.uses_bindParams`
    * `Ty.Uses.inferCall`
-/

namespace SigCheck

variable {known : String → Prop}

------------------------------------------------------------
-- Faults
------------------------------------------------------------

/- The names in a mismatch: plain but for the variable. -/
def CallMismatch.Uses
    (known : String → Prop) : CallMismatch → Prop
  | .tooManyPositional _ _ => True
  | .unexpectedKeyword name => IsSignless name
  | .multipleValues name => IsSignless name
  | .positionalOnlyAsKeyword name => IsSignless name
  | .missing names => ∀ name ∈ names, IsSignless name
  | .forwardingRequired var => known var
  | .leadMismatch _ _ => True

/- The names in a fault. -/
def CallFault.Uses
    (known : String → Prop) : CallFault → Prop
  | .mismatch callee reason =>
      IsSignless callee ∧ reason.Uses known
  | .unsatisfiable var first second =>
      known var ∧ first.Uses known ∧ second.Uses known
  | .wrongType param expected found =>
      IsSignless param ∧ expected.Uses known ∧ found.Uses known

/- The names in an issue. -/
def CallIssue.Uses
    (known : String → Prop)
    (issue : CallIssue) : Prop :=
  issue.fault.Uses known

/- A clash names its variable and the candidates. -/
theorem CallIssue.IsClash.uses
    {issue : CallIssue}
    (h : issue.IsClash (.names known) (.names known)) :
    issue.Uses known := by
  rcases h with ⟨var, first, second, source, rfl, hVar, hs, ht⟩
  exact
    ⟨hVar, (Signature.uses_iff_has first).mpr hs,
      (Signature.uses_iff_has second).mpr ht⟩

------------------------------------------------------------
-- Arguments
------------------------------------------------------------

/- The names in the arguments of a call. -/
structure CallArgs.Uses
    (known : String → Prop)
    (args : CallArgs) : Prop where
  positional : ∀ t ∈ args.positional, t.Uses known
  keywords :
    ∀ entry ∈ args.keywords,
      IsSignless entry.1 ∧ entry.2.Uses known

/- The names in a bound argument. -/
structure BoundArg.Uses
    (known : String → Prop)
    (b : BoundArg) : Prop where
  param : b.param.Uses known
  label : IsSignless b.label
  arg : b.arg.Uses known

/- The names of a matched argument are a trait of it. -/
theorem BoundArg.Uses.has
    {b : BoundArg}
    (h : b.Uses known) :
    b.Has (.names known) (.names known) :=
  ⟨(Parameter.uses_iff_has b.param).mp h.param,
    (Ty.uses_iff_has b.arg).mp h.arg⟩

/- The names in the outcome of a matching. -/
def UsesMatching
    (known : String → Prop) :
    Except CallMismatch (List BoundArg) → Prop
  | .ok bound => ∀ b ∈ bound, b.Uses known
  | .error m => m.Uses known

/- What messages call a parameter is plain. -/
theorem Parameter.Uses.isSignless_label
    {p : Parameter}
    (h : p.Uses known)
    (index : Nat) : IsSignless (p.label index) := by
  unfold Parameter.label
  cases hName : p.name with
  | none => exact isSignless_place _
  | some name =>
      exact ((Parameter.uses_iff.mp h).1 name hName).plain

namespace Binding

variable {ps : List Parameter}

/- A keyword that is not taken is called by its name. -/
theorem uses_of_placeKeyword_error
    {filled : List Nat} {name : String} {m : CallMismatch}
    (hName : IsSignless name)
    (h : placeKeyword ps filled name = .error m) :
    m.Uses known := by
  unfold placeKeyword at h
  split at h
  · split at h
    · cases h
      exact hName
    · cases h
  · split at h
    · cases h
    · split at h
      · cases h
        exact hName
      · cases h
        exact hName

variable (hps : ∀ p ∈ ps, p.Uses known)

include hps

/- Positional arguments are matched with known names. -/
theorem uses_placePositionals
    (total index : Nat)
    (args : List Ty)
    (hArgs : ∀ t ∈ args, t.Uses known) :
    UsesMatching known
      (placePositionals ps total index args) := by
  induction args generalizing index with
  | nil => simp [placePositionals, UsesMatching]
  | cons arg args ih =>
      rw [List.forall_mem_cons] at hArgs
      unfold placePositionals
      split
      · trivial
      · rename_i place p hPlace
        have hp : p.Uses known :=
          hps p (mem_of_placePositional? hPlace)
        have hRest := ih (index + 1) hArgs.2
        cases hMatch :
            placePositionals ps total (index + 1) args with
        | error m =>
            rw [hMatch] at hRest
            exact hRest
        | ok rest =>
            rw [hMatch] at hRest
            exact List.forall_mem_cons.mpr
              ⟨⟨hp, hp.isSignless_label place, hArgs.1⟩, hRest⟩

/- Keyword arguments are matched with known names. -/
theorem uses_placeKeywords
    (filled : List Nat)
    (keywords : List (String × Ty))
    (hKeywords :
      ∀ e ∈ keywords, IsSignless e.1 ∧ e.2.Uses known) :
    UsesMatching known
      ((placeKeywords ps filled keywords).map (·.1)) := by
  induction keywords generalizing filled with
  | nil => simp [placeKeywords, UsesMatching, Except.map]
  | cons keyword keywords ih =>
      rcases keyword with ⟨name, arg⟩
      rw [List.forall_mem_cons] at hKeywords
      unfold placeKeywords
      cases hSlot : placeKeyword ps filled name with
      | error m =>
          exact uses_of_placeKeyword_error hKeywords.1.1
            hSlot
      | ok slot =>
          rcases slot with ⟨place, p⟩
          have hp : p.Uses known :=
            hps p (mem_of_placeKeyword hSlot)
          have hRest := ih (place :: filled) hKeywords.2
          cases hMatch :
              placeKeywords ps (place :: filled)
                keywords with
          | error m =>
              rw [hMatch] at hRest
              simpa [hMatch, bind, Except.bind, Except.map]
                using hRest
          | ok rest =>
              rw [hMatch] at hRest
              have hFirst : BoundArg.Uses known
                  ⟨p, name, arg, .keyword name⟩ :=
                ⟨hp, hKeywords.1.1, hKeywords.1.2⟩
              have hBoth :=
                List.forall_mem_cons.mpr ⟨hFirst, hRest⟩
              simpa [hMatch, bind, Except.bind, Except.map,
                pure, Except.pure, UsesMatching] using hBoth

/- Arguments are matched to a list with known names. -/
theorem uses_bindParams
    {args : CallArgs}
    (hArgs : args.Uses known) :
    UsesMatching known (bindParams ps args) := by
  have hLeading :=
    uses_placePositionals hps args.positional.length 0
      args.positional hArgs.positional
  have hNamed :=
    uses_placeKeywords hps
      (((positionalSlots ps).take
        args.positional.length).map (·.1))
      args.keywords hArgs.keywords
  unfold bindParams
  cases hFirst :
      placePositionals ps args.positional.length 0
        args.positional with
  | error m =>
      rw [hFirst] at hLeading
      simpa [hFirst, bind, Except.bind] using hLeading
  | ok leading =>
      rw [hFirst] at hLeading
      cases hSecond :
          placeKeywords ps
            (((positionalSlots ps).take
              args.positional.length).map (·.1))
            args.keywords with
      | error m =>
          rw [hSecond] at hNamed
          simp only [bind, Except.bind, hFirst, hSecond]
          exact hNamed
      | ok second =>
          rw [hSecond] at hNamed
          simp only [bind, Except.bind, hFirst, hSecond]
          split
          · exact List.forall_mem_append.mpr
              ⟨hLeading, hNamed⟩
          · intro label hLabel
            rcases List.mem_filterMap.mp hLabel with
              ⟨⟨place, p⟩, hp, hSome⟩
            have hUses := hps p (mem_of_mem_slots hp)
            dsimp only at hSome
            split at hSome
            · rw [← Option.some.inj hSome]
              exact hUses.isSignless_label place
            · cases hSome

end Binding

/- Arguments at leading parameters have known names. -/
theorem uses_bindLead
    {lead : List Parameter} {args : CallArgs}
    (hLead : ∀ p ∈ lead, p.Uses known)
    (hArgs : args.Uses known) :
    ∀ b ∈ bindLead lead args, b.Uses known := by
  intro b hb
  rcases List.mem_map.mp hb with
    ⟨⟨⟨p, arg⟩, index⟩, hIndexed, rfl⟩
  have hBoth :=
    List.of_mem_zip (List.fst_mem_of_mem_zipIdx hIndexed)
  exact ⟨hLead p hBoth.1, isSignless_place _,
    hArgs.positional arg hBoth.2⟩

/- A call that forwards is matched with known names. -/
theorem uses_bindForwarding
    {lead : List Parameter} {var : String} {args : CallArgs}
    (hLead : ∀ p ∈ lead, p.Uses known)
    (hVar : known var)
    (hArgs : args.Uses known) :
    UsesMatching known (bindForwarding lead var args) := by
  unfold bindForwarding
  split
  · trivial
  · split
    · exact uses_bindLead hLead hArgs
    · exact hVar

/- The arguments behind the leading ones have known names. -/
theorem CallArgs.Uses.dropLead
    {args : CallArgs}
    (h : args.Uses known)
    (count : Nat) : (args.dropLead count).Uses known :=
  ⟨fun t ht => h.positional t (List.mem_of_mem_drop ht),
    h.keywords⟩

/- A wrong argument is reported with known names. -/
theorem BoundArg.Uses.check
    {b : BoundArg} {expected : Ty}
    (h : b.Uses known)
    (hExpected : expected.Uses known) :
    ∀ issue ∈ b.check expected, issue.Uses known := by
  unfold BoundArg.check
  split
  · simp
  · intro issue hIssue
    rw [List.mem_singleton.mp hIssue]
    exact ⟨h.label, hExpected, h.arg⟩

/- The arguments behind a solved variable, too. -/
theorem uses_checkTail
    {target : Signature} {tail : CallArgs} {callee : String}
    (options : InferOptions)
    (rigid : RigidVars)
    (offset : Nat)
    (hCallee : IsSignless callee)
    (hTarget : target.Uses known)
    (hTail : tail.Uses known) :
    ∀ issue ∈
        checkTail options rigid callee target tail offset,
      issue.Uses known := by
  unfold checkTail
  extract_lets result
  have hResult : UsesMatching known result := by
    unfold result
    split
    · simp [UsesMatching]
    · exact Binding.uses_bindParams
        (Parameter.usesAll_iff.mp hTarget) hTail
    · split
      · exact uses_bindForwarding
          (Parameter.usesAll_iff.mp hTarget.1) hTarget.2 hTail
      · simp [UsesMatching]
  cases hMatch : result with
  | error m =>
      rw [hMatch] at hResult
      intro issue hIssue
      rw [List.mem_singleton.mp hIssue]
      exact ⟨hCallee, hResult⟩
  | ok bound =>
      rw [hMatch] at hResult
      dsimp only
      split
      · intro issue hIssue
        rcases List.mem_flatMap.mp hIssue with
          ⟨b, hb, hIssue⟩
        have hUses := hResult b hb
        have hShifted :
            BoundArg.Uses known
              { b with source := b.source.shift offset } :=
          ⟨hUses.param, hUses.label, hUses.arg⟩
        exact hShifted.check hUses.param.ty issue hIssue
      · simp

------------------------------------------------------------
-- Calls
------------------------------------------------------------

/- The callee's parameters are matched with known names. -/
theorem uses_bindCall
    {sig : Signature} {args : CallArgs} {callee : String}
    (rigid : RigidVars)
    (hCallee : IsSignless callee)
    (hSig : sig.Uses known)
    (hArgs : args.Uses known) :
    (∀ b ∈ (bindCall rigid callee sig args).1, b.Uses known)
      ∧ ∀ issue ∈ (bindCall rigid callee sig args).2,
        issue.Uses known := by
  have hSettle
      (result : Except CallMismatch (List BoundArg))
      (hResult : UsesMatching known result) :
      (∀ b ∈ (match result with
          | .ok bound => (bound, [])
          | .error m =>
              ([], [CallIssue.ofMismatch callee m])).1,
        b.Uses known)
        ∧ ∀ issue ∈ (match result with
          | .ok bound => (bound, [])
          | .error m =>
              ([], [CallIssue.ofMismatch callee m])).2,
          issue.Uses known := by
    cases result with
    | ok bound => exact ⟨hResult, by simp⟩
    | error m =>
        refine ⟨by simp, ?_⟩
        intro issue hIssue
        rw [List.mem_singleton.mp hIssue]
        exact ⟨hCallee, hResult⟩
  unfold bindCall
  cases sig with
  | gradual => simp
  | params ps =>
      exact hSettle _
        (Binding.uses_bindParams
          (Parameter.usesAll_iff.mp hSig) hArgs)
  | spec lead var =>
      have hLead := Parameter.usesAll_iff.mp hSig.1
      dsimp only
      split
      · exact hSettle _
          (uses_bindForwarding hLead hSig.2 hArgs)
      · refine ⟨uses_bindLead hLead hArgs, ?_⟩
        split
        · intro issue hIssue
          rw [List.mem_singleton.mp hIssue]
          exact ⟨hCallee, trivial⟩
        · simp

/- Defaults of unsolved variables bring in no names. -/
theorem Substitution.Uses.withDefaults
    {solved : Substitution}
    (h : solved.Uses known)
    (rigid : RigidVars)
    (callee : Ty) :
    (solved.withDefaults rigid callee).Uses known := by
  rw [uses_iff_has] at h ⊢
  exact h.withDefaults rigid callee

/- The names in what a call gives. -/
structure CallOutcome.Uses
    (known : String → Prop)
    (outcome : CallOutcome) : Prop where
  ret : outcome.ret.Uses known
  solved : outcome.solved.Uses known
  issues : ∀ issue ∈ outcome.issues, issue.Uses known

/- A call has the names of its callee and its arguments. -/
theorem Ty.Uses.inferCall
    {ty : Ty} {args : CallArgs} {callee : String}
    (options : InferOptions)
    (rigid : RigidVars)
    (hCallee : IsSignless callee)
    (hTy : ty.Uses known)
    (hArgs : args.Uses known) :
    (ty.inferCall options rigid callee args).Uses known := by
  unfold Ty.inferCall
  split
  case h_2 => exact ⟨trivial, Substitution.uses_empty, by simp⟩
  case h_1 sig ret =>
    have hBind := uses_bindCall rigid hCallee hTy.1 hArgs
    have hStable := Trait.names_stable known
    have hFound :=
      Candidates.has_empty.foldl_collect hStable rigid
        fun b hb => (hBind.1 b hb).has
    have hReconciled := hStable.reconcile hFound options.join
    have hSolved :=
      Substitution.uses_iff_has.mpr hReconciled.1.has
    have hFull := hSolved.withDefaults rigid (.callable sig ret)
    refine ⟨hTy.2.substitute hFull, hSolved, ?_⟩
    intro issue hIssue
    simp only [List.mem_append] at hIssue
    rcases hIssue with ((hIssue | hIssue) | hIssue) | hIssue
    · exact hBind.2 issue hIssue
    · exact (hReconciled.2 issue hIssue).uses
    · unfold tailIssues at hIssue
      split at hIssue
      · split at hIssue
        · cases hIssue
        · split at hIssue
          · cases hIssue
          · rename_i target hTarget
            exact uses_checkTail options rigid _ hCallee
              (hSolved.specs _ target hTarget)
              (hArgs.dropLead _) issue hIssue
      · cases hIssue
    · split at hIssue
      · rcases List.mem_flatMap.mp hIssue with
          ⟨b, hb, hIssue⟩
        have hUses := hBind.1 b hb
        exact hUses.check
          (hUses.param.ty.substitute hFull) issue hIssue
      · cases hIssue

end SigCheck
