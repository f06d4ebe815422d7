import SigCheck.Proofs.FreshRenaming

/-
  Unions stay in normal form: joining, replacing variables
  and inferring calls give normal types from normal ones,
  and replacing variables that a normal type does not have
  leaves it as it is.

  To replace variables is to join the members of a union
  anew. The members of a normal union are apart, so joining
  them again changes nothing, and that is why no variables
  at all need no traversal.

  Key definitions include:
    * `Substitution.Avoids`

  Correctness is proven by:
    * `Ty.areMembers_iff`
    * `Ty.substitute_of_avoids`
    * `Ty.unions_stay_normal`
-/

namespace SigCheck

------------------------------------------------------------
-- Members in Normal Form
------------------------------------------------------------

namespace Ty

/- Unions and `Never` are not single members of a union. -/
theorem flatten_eq_singleton_iff {t : Ty} :
    t.flatten = [t] ↔
      t ≠ .never ∧ ∀ ts, t ≠ .union ts := by
  cases t with
  | never => simp [flatten]
  | union ts =>
      constructor
      · intro hSelf
        have hTs : ts = [.union ts] := hSelf
        have hSize := congrArg sizeAll hTs
        simp only [sizeAll, size] at hSize
        omega
      · exact fun h => absurd rfl (h.2 ts)
  | _ => simp [flatten]

/-
  Types may be the members of a union when there are at
  least two, none is a union, `Any` or `Never`, and none is
  a subtype of another one.
-/
theorem areMembers_iff {ts : List Ty} :
    AreMembers ts ↔
      2 ≤ ts.length ∧
        (∀ t ∈ ts,
          t ≠ .any ∧ t ≠ .never ∧ ∀ us, t ≠ .union us) ∧
        ts.Pairwise fun a b =>
          ¬a.isSubtype b ∧ ¬b.isSubtype a := by
  have hAny (t : Ty) : t.isAny = false ↔ t ≠ .any := by
    cases t <;> simp [isAny]
  simp only [Bool.not_eq_true]
  constructor
  · intro h
    refine ⟨h.several, ?_, h.apart⟩
    intro t ht
    exact
      ⟨(hAny t).mp (h.given t ht),
        flatten_eq_singleton_iff.mp (h.flat t ht)⟩
  · rintro ⟨hSeveral, hEach, hApart⟩
    exact
      { several := hSeveral
        flat := fun t ht =>
          flatten_eq_singleton_iff.mpr (hEach t ht).2
        given := fun t ht => (hAny t).mpr (hEach t ht).1
        apart := hApart }

end Ty

instance (ts : List Ty) : Decidable (Ty.AreMembers ts) :=
  decidable_of_iff
    (2 ≤ ts.length ∧ (∀ t ∈ ts, t.flatten = [t]) ∧
      (∀ t ∈ ts, t.isAny = false) ∧
      ts.Pairwise fun a b =>
        a.isSubtype b = false ∧ b.isSubtype a = false)
    ⟨fun h => ⟨h.1, h.2.1, h.2.2.1, h.2.2.2⟩,
      fun h => ⟨h.several, h.flat, h.given, h.apart⟩⟩

------------------------------------------------------------
-- Variables That a Type Does Not Have
------------------------------------------------------------

/- No variable of the type is solved. -/
structure Substitution.Avoids
    (subst : Substitution)
    (t : Ty) : Prop where
  types :
    ∀ v, .type v ∈ t.mentions → subst.types.find? v = none
  specs :
    ∀ v, .spec v ∈ t.mentions → subst.specs.find? v = none

section Avoids

variable {subst : Substitution} {t : Ty}

/- With no variable solved no type has a solved one. -/
theorem Substitution.avoids_of_isEmpty
    (h : subst.isEmpty) : subst.Avoids t := by
  rw [isEmpty, Bool.and_eq_true, Table.isEmpty_iff,
    Table.isEmpty_iff] at h
  exact ⟨fun v _ => h.1 v, fun v _ => h.2 v⟩

/- Variables that are not solved keep their names. -/
theorem Substitution.Avoids.spells
    (h : subst.Avoids t) :
    subst.Spells .refl t.mentions where
  types v hv := by
    rw [h.types v hv]
    rfl
  specs v hv := by
    rw [h.specs v hv]
    rfl

/- Joining the members of normal unions changes nothing. -/
theorem Ty.replaceVars_of_avoids
    (hNormal : t.IsNormal)
    (h : subst.Avoids t) : t.replaceVars subst = t := by
  rw [t.replaceVars_eq_renameVars hNormal h.spells]
  exact
    t.renameVars_of_fixed fun v _ => VarRenaming.apply_refl v

/- Whether or not the type is traversed, it stays. -/
theorem Ty.substitute_of_avoids
    (hNormal : t.IsNormal)
    (h : subst.Avoids t) : t.substitute subst = t := by
  unfold Ty.substitute
  split
  · rfl
  · exact t.replaceVars_of_avoids hNormal h

end Avoids

------------------------------------------------------------
-- Normal Form
------------------------------------------------------------

/-
  From normal types joining, replacing variables and
  inferring a call give normal types. Replacing variables
  that a normal type does not have gives the type itself,
  with and without the traversal that no variables save.
-/
theorem Ty.unions_stay_normal
    {t : Ty} {ts : List Ty}
    {subst : Substitution} {args : CallArgs}
    (ht : t.IsNormal)
    (hts : ∀ u ∈ ts, u.IsNormal)
    (hSubst : subst.Has .normal)
    (hArgs : args.Has .normal)
    (options : InferOptions)
    (rigid : RigidVars)
    (callee : String) :
    let outcome := t.inferCall options rigid callee args
    (unionOf ts).IsNormal ∧
      (t.substitute subst).IsNormal ∧
      outcome.ret.IsNormal ∧
      outcome.solved.Has .normal ∧
      (∀ other : Substitution, other.Avoids t →
        t.substitute other = t ∧ t.replaceVars other = t) ∧
      ∀ none : Substitution, none.isEmpty →
        t.substitute none = t.replaceVars none := by
  have hStable := Trait.normal_stable
  have hCall :=
    hStable.inferCall ht hArgs options rigid callee
  refine
    ⟨has_unionOf hStable hts, hStable.substitute hSubst ht,
      hCall.1, hCall.2, ?_, ?_⟩
  · intro other hAvoids
    exact
      ⟨substitute_of_avoids ht hAvoids,
        replaceVars_of_avoids ht hAvoids⟩
  · intro none hEmpty
    have hAvoids : none.Avoids t :=
      none.avoids_of_isEmpty hEmpty
    rw [substitute_of_avoids ht hAvoids,
      replaceVars_of_avoids ht hAvoids]

/-
  A solved member of a union brings in members of its own,
  and one of these is covered by a member behind it.
-/
theorem Ty.unions_stay_normal_absorbed :
    let result : Ty := .union [.typeVar "T", .float]
    let t : Ty :=
      .callable
        (.params
          [⟨some "x", .positionalOnly, .typeVar "T", false⟩])
        result
    let arg : Ty := .union [.int, .str]
    let subst : Substitution :=
      ({} : Substitution).setType "T" arg
    let args : CallArgs := { positional := [arg] }
    let outcome := t.inferCall {} {} "call" args
    outcome.ret = .union [.str, .float] ∧
      t.IsNormal ∧ subst.Has .normal ∧ args.Has .normal ∧
      (unionOf [result, arg]).IsNormal ∧
      (t.substitute subst).IsNormal ∧
      outcome.ret.IsNormal ∧
      outcome.solved.Has .normal := by
  intro result t arg subst args outcome
  have hResult : result.IsNormal := by
    have hMembers : AreMembers [.typeVar "T", .float] := by
      decide
    exact ⟨hMembers, trivial, trivial, trivial⟩
  have hArg : arg.IsNormal := by
    have hMembers : AreMembers [.int, .str] := by decide
    exact ⟨hMembers, trivial, trivial, trivial⟩
  have ht : t.IsNormal :=
    ⟨⟨trivial, ⟨fun _ _ => trivial, trivial⟩, trivial⟩,
      hResult⟩
  have hSubst : subst.Has .normal := by
    constructor
    · intro v u hFind
      simp only [subst, Substitution.setType,
        Table.find?_insert, Table.find?_empty] at hFind
      split at hFind
      · cases hFind
        exact hArg
      · cases hFind
    · intro v sig hFind
      cases hFind
  have hArgs : args.Has .normal := by
    constructor
    · intro u hu
      rw [List.mem_singleton.mp hu]
      exact hArg
    · intro entry hEntry
      cases hEntry
  have hts : ∀ u ∈ [result, arg], u.IsNormal := by
    intro u hu
    rcases List.mem_pair.mp hu with rfl | rfl
    · exact hResult
    · exact hArg
  have hAll :=
    Ty.unions_stay_normal ht hts hSubst hArgs {} {} "call"
  exact
    ⟨by decide, ht, hSubst, hArgs, hAll.1, hAll.2.1,
      hAll.2.2.1, hAll.2.2.2.1⟩

end SigCheck
