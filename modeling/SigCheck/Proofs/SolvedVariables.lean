import SigCheck.Proofs.TraitCalls

/-
  The variables of a call.

  A call solves variables of its callee, and none that belong
  to an enclosing function. Its result mentions those of the
  callee that stay rigid, and what the arguments mention.

  Key definitions include:
    * `CallArgs.Mentions`
    * `Ty.Leaves`

  Correctness is proven by:
    * `Ty.solves_inferCall`
    * `Substitution.carries_withDefaults`
    * `Ty.leaves_ret_inferCall`
    * `Ty.inferCall_closed`
-/

namespace SigCheck

------------------------------------------------------------
-- Sources of Variables
------------------------------------------------------------

/- The variable occurs in an argument that is spelled out. -/
def CallArgs.Mentions
    (args : CallArgs)
    (v : VarName) : Prop :=
  ∃ t ∈ args.positional ++ args.keywords.map (·.2),
    v ∈ t.mentions

/-
  A call of the type leaves the variable: it is one of the
  type that no call solves, or it comes with the arguments.
-/
def Ty.Leaves
    (ty : Ty)
    (rigid : RigidVars)
    (args : CallArgs)
    (v : VarName) : Prop :=
  (v ∈ ty.mentions ∧ rigid.holds v = true) ∨ args.Mentions v

/- Arguments have the variables that they mention. -/
theorem CallArgs.has_mentions (args : CallArgs) :
    args.Has (.ofVars args.Mentions) where
  positional t ht :=
    (Ty.has_ofVars_iff t).mpr fun _ hv =>
      ⟨t, List.mem_append_left _ ht, hv⟩
  keywords entry hEntry :=
    (Ty.has_ofVars_iff entry.2).mpr fun _ hv =>
      ⟨entry.2,
        List.mem_append_right _ (List.mem_map_of_mem hEntry),
        hv⟩

/- A property of variables is weaker where it holds of more. -/
theorem Trait.ofVars_le
    {P Q : VarName → Prop}
    (h : ∀ v, P v → Q v) :
    (Trait.ofVars P).Le (.ofVars Q) where
  typeVar name := h (.type name)
  spec name := h (.spec name)
  projection _ := id
  name _ := id
  members _ := id
  params _ := id
  lead _ := id

------------------------------------------------------------
-- Solutions
------------------------------------------------------------

section Closed

variable (options : InferOptions) (rigid : RigidVars)
variable (callee : String) (ty : Ty) (args : CallArgs)

/-
  A call solves variables that its callee mentions and that
  are not rigid, by types that mention what the arguments
  mention.
-/
theorem Ty.solves_inferCall :
    (ty.inferCall options rigid callee args).solved.Solves
      rigid (.ofVars (· ∈ ty.mentions))
      (.ofVars args.Mentions) := by
  have hTy : ty.Has (.ofVars (· ∈ ty.mentions)) :=
    (Ty.has_ofVars_iff ty).mpr fun _ hv => hv
  exact
    (Trait.ofVars_stable _).solves_inferCall hTy
      args.has_mentions options rigid callee

variable {rigid ty args} {solved : Substitution}

/- The defaults leave only rigid type variables unsolved. -/
theorem Substitution.mem_types_of_withDefaults
    {name : String}
    (hMentions : .type name ∈ ty.mentions)
    (hNone :
      (solved.withDefaults rigid ty).types.find? name =
        none) :
    name ∈ rigid.types := by
  rw [find?_types_withDefaults, Option.or_eq_none_iff] at hNone
  by_contra hNot
  rw [if_pos ⟨hMentions, hNot⟩] at hNone
  cases hNone.2

/- So it is for parameter specifications. -/
theorem Substitution.mem_specs_of_withDefaults
    {var : String}
    (hMentions : .spec var ∈ ty.mentions)
    (hNone :
      (solved.withDefaults rigid ty).specs.find? var =
        none) :
    var ∈ rigid.specs := by
  rw [find?_specs_withDefaults, Option.or_eq_none_iff] at hNone
  by_contra hNot
  rw [if_pos ⟨hMentions, hNot⟩] at hNone
  cases hNone.2

variable (rigid ty)

/-
  With the defaults, the variables of the callee give way to
  those of the arguments, and only rigid ones stay.
-/
theorem Substitution.carries_withDefaults
    (h : solved.Has (.ofVars args.Mentions)) :
    (solved.withDefaults rigid ty).Carries
      (.ofVars (· ∈ ty.mentions))
      (.ofVars (ty.Leaves rigid args)) := by
  have hFull := h.withDefaults rigid ty
  have hLe :
      (Trait.ofVars args.Mentions).Le
        (.ofVars (ty.Leaves rigid args)) :=
    Trait.ofVars_le fun _ => Or.inr
  refine ⟨?_, ?_, fun _ => id, fun _ => id,
    fun _ => id, fun _ => id, fun _ => id⟩
  · intro name hMentions
    cases hFind :
        (solved.withDefaults rigid ty).types.find? name with
    | some t =>
        exact Ty.Has.mono hLe t (hFull.types name t hFind)
    | none =>
        have hRigid := mem_types_of_withDefaults hMentions hFind
        exact
          Or.inl ⟨hMentions, List.contains_iff_mem.mpr hRigid⟩
  · intro var hMentions
    cases hFind :
        (solved.withDefaults rigid ty).specs.find? var with
    | some sig =>
        exact
          Signature.Has.mono hLe sig
            (hFull.specs var sig hFind)
    | none =>
        have hRigid := mem_specs_of_withDefaults hMentions hFind
        exact
          Or.inl ⟨hMentions, List.contains_iff_mem.mpr hRigid⟩

variable (args)

/- The result mentions only what the call leaves. -/
theorem Ty.leaves_ret_inferCall :
    ∀ v ∈ (ty.inferCall options rigid callee args).ret.mentions,
      ty.Leaves rigid args v := by
  rw [← Ty.has_ofVars_iff]
  have hSolved :=
    (Ty.solves_inferCall options rigid callee ty args).has
  cases ty with
  | callable sig ret =>
      have hCarries :=
        Substitution.carries_withDefaults rigid
          (.callable sig ret) hSolved
      have hTy :
          (Ty.callable sig ret).Has
            (.ofVars (· ∈ (Ty.callable sig ret).mentions)) :=
        (Ty.has_ofVars_iff _).mpr fun _ hv => hv
      rw [Ty.ret_inferCall]
      exact
        hCarries.substitute (Trait.ofVars_stable _) hTy.2
  | _ => trivial

end Closed

/-
  Inference neither leaks nor captures variables: what is
  solved is mentioned by the callee and not rigid, and each
  variable of the result is a rigid one of the callee or
  comes from an argument.
-/
theorem Ty.inferCall_closed
    (options : InferOptions)
    (rigid : RigidVars)
    (callee : String)
    (ty : Ty)
    (args : CallArgs) :
    let outcome := ty.inferCall options rigid callee args
    let spelled :=
      args.positional ++ args.keywords.map (·.2)
    (∀ name, outcome.solved.types.contains name = true →
        name ∈ ty.typeVars ∧ name ∉ rigid.types) ∧
      (∀ var, outcome.solved.specs.contains var = true →
        var ∈ ty.specVars ∧ var ∉ rigid.specs) ∧
      (∀ name ∈ outcome.ret.typeVars,
        (name ∈ ty.typeVars ∧ name ∈ rigid.types) ∨
          ∃ t ∈ spelled, name ∈ t.typeVars) ∧
      ∀ var ∈ outcome.ret.specVars,
        (var ∈ ty.specVars ∧ var ∈ rigid.specs) ∨
          ∃ t ∈ spelled, var ∈ t.specVars := by
  intro outcome spelled
  have hSolves :=
    Ty.solves_inferCall options rigid callee ty args
  have hLeaves :=
    Ty.leaves_ret_inferCall options rigid callee ty args
  simp only [Ty.mem_typeVars_iff, Ty.mem_specVars_iff]
  refine ⟨?_, ?_, ?_, ?_⟩
  · intro name hSolved
    rcases Option.isSome_iff_exists.mp hSolved with ⟨t, hFind⟩
    exact (hSolves.types name t hFind).1.symm
  · intro var hSolved
    rcases Option.isSome_iff_exists.mp hSolved with
      ⟨sig, hFind⟩
    exact (hSolves.specs var sig hFind).1.symm
  · intro name hName
    exact
      (hLeaves (.type name) hName).imp_left
        fun h => ⟨h.1, List.contains_iff_mem.mp h.2⟩
  · intro var hVar
    exact
      (hLeaves (.spec var) hVar).imp_left
        fun h => ⟨h.1, List.contains_iff_mem.mp h.2⟩

end SigCheck
