import SigCheck.Proofs.CallView
import SigCheck.Proofs.SolvingRenaming
import SigCheck.Proofs.TraitCalls

/-
  Calls do not depend on what variables are called. Matching
  arguments to parameters does not look at types, so it goes
  along with every change of them. If the variables of the
  callee and of the arguments are free on either side, a call
  under other names has the renamed result and the renamed
  issues.

  Key definitions include:
    * `CallArgs.mapTy`, `BoundArg.mapTy`
    * `VarRenaming.Frees`
    * `CallOutcome.Renamed`

  Correctness is proven by:
    * `Binding.bindParams_mapTy`
    * `Substitution.Renamed.withDefaults`
    * `Ty.inferCall_renamed`
-/

namespace SigCheck

------------------------------------------------------------
-- Matching
------------------------------------------------------------

/- Change the types of the arguments that are spelled out. -/
def CallArgs.mapTy (f : Ty → Ty) (args : CallArgs) : CallArgs :=
  { args with
    positional := args.positional.map f
    keywords := args.keywords.map fun (name, ty) => (name, f ty) }

/- Change the types of a matched argument and its parameter. -/
def BoundArg.mapTy (f : Ty → Ty) (b : BoundArg) : BoundArg :=
  { b with
    param := b.param.mapTy f
    arg := f b.arg }

section Matching

variable {f : Ty → Ty}

/- The arguments behind the leading ones are changed alike. -/
theorem CallArgs.dropLead_mapTy
    (args : CallArgs)
    (count : Nat) :
    (args.mapTy f).dropLead count =
      (args.dropLead count).mapTy f := by
  simp [dropLead, mapTy, List.map_drop]

namespace Binding

/- Positional arguments go to the same slots. -/
theorem placePositionals_mapTy
    (ps : List Parameter)
    (total index : Nat)
    (args : List Ty) :
    placePositionals (ps.map (.mapTy f)) total index
        (args.map f) =
      (placePositionals ps total index args).map
        (List.map (.mapTy f)) := by
  have hKind (p : Parameter) : (p.mapTy f).kind = p.kind := rfl
  induction args generalizing index with
  | nil => rfl
  | cons arg args ih =>
      simp only [List.map_cons, placePositionals,
        placePositional?_map hKind, positionalSlots_map hKind,
        List.length_map]
      cases placePositional? ps index with
      | none => rfl
      | some slot =>
          simp only [Option.map_some, Prod.map, id_eq]
          rw [ih]
          cases placePositionals ps total (index + 1) args <;>
            rfl

/- Keyword arguments go to the same slots. -/
theorem placeKeywords_mapTy
    (ps : List Parameter)
    (filled : List Nat)
    (keywords : List (String × Ty)) :
    placeKeywords (ps.map (.mapTy f)) filled
        (keywords.map fun (name, ty) => (name, f ty)) =
      (placeKeywords ps filled keywords).map
        (Prod.map (List.map (.mapTy f)) id) := by
  have hKind (p : Parameter) : (p.mapTy f).kind = p.kind := rfl
  have hName (p : Parameter) : (p.mapTy f).name = p.name := rfl
  induction keywords generalizing filled with
  | nil => rfl
  | cons keyword keywords ih =>
      rcases keyword with ⟨name, arg⟩
      simp only [List.map_cons, placeKeywords,
        placeKeyword_map hKind hName]
      cases placeKeyword ps filled name with
      | error m => rfl
      | ok slot =>
          simp only [Except.map, Prod.map, id_eq, bind,
            Except.bind]
          rw [ih]
          cases placeKeywords ps (slot.1 :: filled) keywords <;>
            rfl

/- The same parameters are left without a value. -/
theorem missing_mapTy
    (ps : List Parameter)
    (args : CallArgs)
    (filled : List Nat) :
    missing (ps.map (.mapTy f)) (args.mapTy f) filled =
      missing ps args filled := by
  simp only [missing, slots_map, List.filterMap_map]
  rfl

/- Arguments are matched to the same parameters. -/
theorem bindParams_mapTy
    (ps : List Parameter)
    (args : CallArgs) :
    bindParams (ps.map (.mapTy f)) (args.mapTy f) =
      (bindParams ps args).map (List.map (.mapTy f)) := by
  have hKind (p : Parameter) : (p.mapTy f).kind = p.kind := rfl
  have hTaken :
      ((positionalSlots (ps.map (.mapTy f))).take
          args.positional.length).map (·.1) =
        ((positionalSlots ps).take
          args.positional.length).map (·.1) := by
    rw [positionalSlots_map hKind, ← List.map_take,
      List.map_map]
    rfl
  unfold bindParams
  simp only [CallArgs.mapTy, List.length_map,
    placePositionals_mapTy, hTaken, placeKeywords_mapTy]
  cases placePositionals ps args.positional.length 0
      args.positional with
  | error m => rfl
  | ok leading =>
      cases placeKeywords ps
          (((positionalSlots ps).take
            args.positional.length).map (·.1))
          args.keywords with
      | error m => rfl
      | ok named =>
          have hMissing := missing_mapTy (f := f) ps args named.2
          simp only [CallArgs.mapTy] at hMissing
          simp only [Except.map, bind, Except.bind, Prod.map,
            id_eq, hMissing]
          cases missing ps args named.2 with
          | nil => simp [pure, Except.pure]
          | cons name names => rfl

end Binding

/- Arguments at leading parameters are matched alike. -/
theorem bindLead_mapTy
    (lead : List Parameter)
    (args : CallArgs) :
    bindLead (lead.map (.mapTy f)) (args.mapTy f) =
      (bindLead lead args).map (.mapTy f) := by
  simp only [bindLead, CallArgs.mapTy, List.zip_map,
    List.zipIdx_map, List.map_map]
  rfl

end Matching

------------------------------------------------------------
-- Free Variables
------------------------------------------------------------

/- A call may solve the variable on either side. -/
def VarRenaming.Frees
    (ρ : VarRenaming)
    (rigid rigid' : RigidVars)
    (v : VarName) : Prop :=
  rigid.holds v = false ∧ rigid'.holds (ρ.apply v) = false

section Free

variable {ρ : VarRenaming} {rigid rigid' : RigidVars}

/- Variables that are free on either side are so on both. -/
theorem RigidVars.agree_of_frees
    {vs : List VarName}
    (h : ∀ v ∈ vs, ρ.Frees rigid rigid' v) :
    rigid.Agree ρ rigid' vs :=
  fun v hv => (h v hv).2.trans (h v hv).1.symm

/- A free variable of a signature is nowhere rigid. -/
theorem VarRenaming.Frees.contains_eq
    {var : String}
    (h : ρ.Frees rigid rigid' (.spec var)) :
    rigid.specs.contains var = false ∧
      rigid'.specs.contains (ρ.specs var) = false :=
  h

end Free

------------------------------------------------------------
-- Checking Arguments
------------------------------------------------------------

section Checking

variable {ρ : VarRenaming} {rigid rigid' : RigidVars}
variable {callee : String} {args : CallArgs}

/- A wrong argument is wrong under other names. -/
theorem BoundArg.check_renameVars
    (b : BoundArg)
    (expected : Ty) :
    (b.mapTy (Ty.renameVars ρ)).check
        (expected.renameVars ρ) =
      (b.check expected).map (CallIssue.renameVars ρ) := by
  simp only [check, mapTy, Ty.isSubtype_renameVars]
  split <;> rfl

/- Matched arguments are checked against renamed types. -/
theorem flatMap_check_renameVars
    {full full' : Substitution}
    (hFull : full.Renamed ρ full')
    (bound : List BoundArg) :
    ((bound.map (BoundArg.mapTy (Ty.renameVars ρ))).flatMap
        fun b => b.check (b.param.ty.substitute full')) =
      (bound.flatMap fun b =>
        b.check (b.param.ty.substitute full)).map
          (CallIssue.renameVars ρ) := by
  rw [List.flatMap_map, List.map_flatMap]
  apply List.flatMap_congr
  intro b _
  rw [← BoundArg.check_renameVars,
    ← Ty.substitute_renameVars hFull]
  rfl

/- Arguments of the callee's list are matched alike. -/
theorem bindCall_renameVars
    (callee : String)
    (sig : Signature)
    (args : CallArgs)
    (h : ∀ v ∈ sig.mentions, ρ.Frees rigid rigid' v) :
    bindCall rigid' callee (sig.renameVars ρ)
        (args.mapTy (Ty.renameVars ρ)) =
      ((bindCall rigid callee sig args).1.map
          (.mapTy (Ty.renameVars ρ)),
        (bindCall rigid callee sig args).2.map
          (CallIssue.renameVars ρ)) := by
  cases sig with
  | gradual => rfl
  | params ps =>
      simp only [Signature.renameVars,
        Parameter.renameVarsAll_eq, bindCall,
        Binding.bindParams_mapTy]
      cases Binding.bindParams ps args <;> rfl
  | spec lead var =>
      have hVar :=
        (h (.spec var) (List.mem_cons_self ..)).contains_eq
      have hCount :
          (args.mapTy (Ty.renameVars ρ)).positional.length =
            args.positional.length :=
        List.length_map ..
      have hStar :
          (args.mapTy (Ty.renameVars ρ)).star = args.star :=
        rfl
      simp only [Signature.renameVars,
        Parameter.renameVarsAll_eq, bindCall, hVar.1, hVar.2,
        bindLead_mapTy, hCount, hStar, List.length_map]
      simp only [Bool.false_eq_true, if_false]
      congr 1
      split <;> rfl

/- The arguments behind a solved variable are checked alike. -/
theorem checkTail_renameVars
    (options : InferOptions)
    (target : Signature)
    (offset : Nat)
    (h : target.Has (.ofVars (ρ.Frees rigid rigid'))) :
    checkTail options rigid' callee (target.renameVars ρ)
        (args.mapTy (Ty.renameVars ρ)) offset =
      (checkTail options rigid callee target args
        offset).map (CallIssue.renameVars ρ) := by
  cases target with
  | gradual =>
      simp only [Signature.renameVars, checkTail]
      split <;> rfl
  | params ps =>
      simp only [Signature.renameVars,
        Parameter.renameVarsAll_eq, checkTail,
        Binding.bindParams_mapTy]
      cases Binding.bindParams ps args with
      | error m => rfl
      | ok bound =>
          dsimp only [Except.map]
          split
          · rw [List.flatMap_map, List.map_flatMap]
            apply List.flatMap_congr
            intro b _
            exact
              BoundArg.check_renameVars
                { b with source := b.source.shift offset }
                b.param.ty
          · rfl
  | spec lead var =>
      have hVar := VarRenaming.Frees.contains_eq h.1.2
      simp only [Signature.renameVars, checkTail, hVar.1,
        hVar.2, Bool.false_eq_true, if_false]
      split <;> rfl

end Checking

------------------------------------------------------------
-- Defaults
------------------------------------------------------------

/- A variable is mentioned under its new name. -/
theorem VarRenaming.apply_mem_mentions
    (ρ : VarRenaming)
    (t : Ty)
    (v : VarName) :
    ρ.apply v ∈ (t.renameVars ρ).mentions ↔
      v ∈ t.mentions := by
  rw [Ty.mentions_renameVars]
  exact List.mem_map_of_injective ρ.apply_injective

section Defaults

variable {ρ : VarRenaming} {rigid rigid' : RigidVars}

/- Unsolved variables are defaulted under their new names. -/
theorem Substitution.Renamed.withDefaults
    {solved solved' : Substitution} {callee : Ty}
    (hSolved : solved.Renamed ρ solved')
    (h : rigid.Agree ρ rigid' callee.mentions) :
    (solved.withDefaults rigid callee).Renamed ρ
      (solved'.withDefaults rigid'
        (callee.renameVars ρ)) := by
  have hType (name : String) :
      (.type (ρ.types name) ∈ (callee.renameVars ρ).mentions
          ∧ ρ.types name ∉ rigid'.types) ↔
        .type name ∈ callee.mentions
          ∧ name ∉ rigid.types := by
    have hMem :=
      ρ.apply_mem_mentions callee (.type name)
    refine (and_congr_left' hMem).trans ?_
    refine and_congr_right fun hName => not_congr ?_
    have hSame :
        rigid'.types.contains (ρ.types name) =
          rigid.types.contains name :=
      h (.type name) hName
    rw [← List.contains_iff_mem, ← List.contains_iff_mem,
      hSame]
  have hSpec (name : String) :
      (.spec (ρ.specs name) ∈ (callee.renameVars ρ).mentions
          ∧ ρ.specs name ∉ rigid'.specs) ↔
        .spec name ∈ callee.mentions
          ∧ name ∉ rigid.specs := by
    have hMem :=
      ρ.apply_mem_mentions callee (.spec name)
    refine (and_congr_left' hMem).trans ?_
    refine and_congr_right fun hName => not_congr ?_
    have hSame :
        rigid'.specs.contains (ρ.specs name) =
          rigid.specs.contains name :=
      h (.spec name) hName
    rw [← List.contains_iff_mem, ← List.contains_iff_mem,
      hSame]
  constructor
  · intro name
    rw [find?_types_withDefaults, find?_types_withDefaults,
      hSolved.types name, Option.map_or, if_congr (hType name)
        rfl rfl]
    congr 1
    split <;> rfl
  · intro name
    rw [find?_specs_withDefaults, find?_specs_withDefaults,
      hSolved.specs name, Option.map_or, if_congr (hSpec name)
        rfl rfl]
    congr 1
    split <;> rfl

end Defaults

------------------------------------------------------------
-- Calls
------------------------------------------------------------

/- The second outcome is the first one under other names. -/
structure CallOutcome.Renamed
    (ρ : VarRenaming)
    (outcome outcome' : CallOutcome) : Prop where
  ret : outcome'.ret = outcome.ret.renameVars ρ
  solved : outcome.solved.Renamed ρ outcome'.solved
  issues :
    outcome'.issues =
      outcome.issues.map (CallIssue.renameVars ρ)

section Calls

variable {ρ : VarRenaming} {rigid rigid' : RigidVars}

/- What matched arguments say is renamed with them. -/
theorem foldl_collect_renameVars
    {bound : List BoundArg}
    (h : ∀ b ∈ bound,
      rigid.Agree ρ rigid' b.param.ty.mentions) :
    (bound.map (BoundArg.mapTy (Ty.renameVars ρ))).foldl
        (fun found arg =>
          found
            ++ Ty.collect rigid' arg.source arg.param.ty
              arg.arg)
        {} =
      (bound.foldl
        (fun found arg =>
          found
            ++ Ty.collect rigid arg.source arg.param.ty
              arg.arg)
        {}).renameVars ρ := by
  have hFold (found : Candidates) :
      (bound.map (BoundArg.mapTy (Ty.renameVars ρ))).foldl
          (fun found arg =>
            found
              ++ Ty.collect rigid' arg.source arg.param.ty
                arg.arg)
          (found.renameVars ρ) =
        (bound.foldl
          (fun found arg =>
            found
              ++ Ty.collect rigid arg.source arg.param.ty
                arg.arg)
          found).renameVars ρ := by
    induction bound generalizing found with
    | nil => rfl
    | cons b bound ih =>
        rw [List.forall_mem_cons] at h
        rw [List.map_cons, List.foldl_cons, List.foldl_cons,
          ← ih h.2, Candidates.renameVars_append,
          ← Ty.collect_renameVars b.param.ty b.arg h.1]
        rfl
  exact hFold {}

/- Issues behind a solved variable are the same. -/
theorem tailIssues_renameVars
    (options : InferOptions)
    (callee : String)
    {sig : Signature}
    (args : CallArgs)
    {solved solved' : Substitution}
    (hSig : ∀ v ∈ sig.mentions, ρ.Frees rigid rigid' v)
    (hSolved : solved.Renamed ρ solved')
    (hTargets : solved.Has (.ofVars (ρ.Frees rigid rigid'))) :
    tailIssues options rigid' callee (sig.renameVars ρ)
        solved' (args.mapTy (Ty.renameVars ρ)) =
      (tailIssues options rigid callee sig solved args).map
        (CallIssue.renameVars ρ) := by
  cases sig with
  | gradual => rfl
  | params ps => rfl
  | spec lead var =>
      have hVar :=
        (hSig (.spec var) (List.mem_cons_self ..)).contains_eq
      have hFind := hSolved.specs var
      simp only [Signature.renameVars,
        Parameter.renameVarsAll_eq, tailIssues, hVar.1,
        hVar.2, hFind, List.length_map,
        CallArgs.dropLead_mapTy]
      cases hTarget : solved.specs.find? var with
      | none => rfl
      | some target =>
          exact
            checkTail_renameVars options target lead.length
              (hTargets.specs var target hTarget)

/-
  A call of free variables only is inferred alike under
  other names.
-/
theorem Ty.inferCall_renamed
    {ty : Ty} {args : CallArgs}
    (hTy : ∀ v ∈ ty.mentions, ρ.Frees rigid rigid' v)
    (hArgs : args.Has (.ofVars (ρ.Frees rigid rigid')))
    (options : InferOptions)
    (callee : String) :
    (ty.inferCall options rigid callee args).Renamed ρ
      ((ty.renameVars ρ).inferCall options rigid' callee
        (args.mapTy (Ty.renameVars ρ))) := by
  cases ty with
  | callable sig ret =>
      have hStable :=
        Trait.ofVars_stable (ρ.Frees rigid rigid')
      have hBoth := List.forall_mem_append.mp hTy
      have hSig := (Signature.has_ofVars_iff sig).mpr hBoth.1
      have hBound := has_bindCall hSig hArgs rigid callee
      have hParams :
          ∀ b ∈ (bindCall rigid callee sig args).1,
            rigid.Agree ρ rigid' b.param.ty.mentions :=
        fun b hb =>
          RigidVars.agree_of_frees
            ((Ty.has_ofVars_iff _).mp (hBound b hb).param.ty)
      have hBind :=
        bindCall_renameVars callee sig args hBoth.1
      have hCollect := foldl_collect_renameVars hParams
      have hFound :=
        Candidates.has_empty.foldl_collect hStable rigid hBound
      have hTargets :=
        (hStable.reconcile hFound options.join).1.has
      simp only [Ty.renameVars, Ty.inferCall, hBind, hCollect]
      generalize
        (bindCall rigid callee sig args).1.foldl
            (fun found arg =>
              found
                ++ Ty.collect rigid arg.source arg.param.ty
                  arg.arg)
            {} = found
        at hTargets ⊢
      have hReconcile := found.reconcile_renamed ρ options.join
      have hFull :=
        hReconcile.1.withDefaults (RigidVars.agree_of_frees hTy)
      have hTail :=
        tailIssues_renameVars options callee args hBoth.1
          hReconcile.1 hTargets
      have hWrong :=
        flatMap_check_renameVars hFull
          (bindCall rigid callee sig args).1
      refine
        ⟨Ty.substitute_renameVars hFull ret, hReconcile.1, ?_⟩
      dsimp only
      simp only [Ty.renameVars] at hWrong
      rw [hReconcile.2, hTail, hWrong]
      simp only [List.map_append]
      congr 1
      split <;> rfl
  | _ =>
      exact
        ⟨rfl, ⟨Table.renamed_empty, Table.renamed_empty⟩, rfl⟩

end Calls

end SigCheck
