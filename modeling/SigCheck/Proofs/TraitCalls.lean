import SigCheck.Proofs.Traits

/-
  Stable traits under replacement, and in the calls that are
  inferred: what solved variables stand for, and what a call
  gives, has every stable trait of the callee and the types
  of its arguments.

  Replacing variables may also take types with one trait to
  types with another, and what a call says about variables
  has its names from the callee and its types from the
  arguments, each with a trait of its own.

  Key definitions include:
    * `Substitution.Has`, `Substitution.Carries`
    * `Candidates.Has`, `SpecSolving.Has`
    * `CallArgs.Has`, `BoundArg.Has`

  Correctness is proven by:
    * `Substitution.Carries.substitute`
    * `Ty.has_collect`
    * `Trait.Stable.reconcile`
    * `Trait.Stable.inferCall`
-/

namespace SigCheck

variable {c d : Trait}

------------------------------------------------------------
-- Replacement
------------------------------------------------------------

/- What variables are solved to has the trait. -/
structure Substitution.Has
    (c : Trait)
    (subst : Substitution) : Prop where
  types : ∀ v t, subst.types.find? v = some t → t.Has c
  specs : ∀ v sig, subst.specs.find? v = some sig → sig.Has c

/-
  Solving variables takes what has the first trait to what
  has the second one.
-/
structure Substitution.Carries
    (subst : Substitution)
    (c d : Trait) : Prop where
  typeVar :
    ∀ v, c.typeVar v →
      ((subst.types.find? v).getD (.typeVar v)).Has d
  spec :
    ∀ v, c.spec v →
      match subst.specs.find? v with
      | none => d.spec v
      | some sig => sig.Has d
  projection : ∀ v, c.projection v → d.projection v
  name : ∀ n, c.name n → d.name n
  members : ∀ ts, c.members ts → d.members ts
  params : ∀ ps, c.params ps → d.params ps
  lead : ∀ ps, c.lead ps → d.lead ps

/- Values with a trait keep the trait. -/
theorem Substitution.Has.carries
    {subst : Substitution}
    (h : subst.Has c) : subst.Carries c c where
  typeVar v hVar := by
    cases hFind : subst.types.find? v with
    | none => exact hVar
    | some t => exact h.types v t hFind
  spec v hVar := by
    cases hFind : subst.specs.find? v with
    | none => exact hVar
    | some sig => exact h.specs v sig hFind
  projection _ := id
  name _ := id
  members _ := id
  params _ := id
  lead _ := id

/- No variable is solved. -/
theorem Substitution.has_empty : Substitution.Has c {} :=
  ⟨fun _ _ h => by simp at h, fun _ _ h => by simp at h⟩

/- Replacing variables changes the types in a list only. -/
theorem Parameter.map_blank_replaceVarsAll
    (subst : Substitution)
    (ps : List Parameter) :
    (Parameter.replaceVarsAll subst ps).map Parameter.blank =
      ps.map Parameter.blank := by
  induction ps with
  | nil => rfl
  | cons p ps ih =>
      cases p
      rw [Parameter.replaceVarsAll, List.map_cons, ih]
      rfl

/- A list behind leading parameters has what both have. -/
theorem Trait.Stable.behindLead
    (hStable : c.Stable)
    {lead : List Parameter} {sig : Signature}
    (hLead : c.lead lead)
    (hAll : Parameter.HasAll c lead)
    (h : sig.Has c) : (sig.behindLead lead).Has c := by
  have hParams {ps : List Parameter}
      (hps : (Signature.params ps).Has c) :
      (Signature.params (lead ++ ps)).Has c := by
    refine ⟨hStable.behind hLead hps.1, ?_⟩
    rw [Parameter.hasAll_iff, List.forall_mem_append]
    exact
      ⟨Parameter.hasAll_iff.mp hAll,
        Parameter.hasAll_iff.mp hps.2⟩
  cases sig with
  | params ps => exact hParams h
  | spec inner own =>
      refine
        ⟨⟨hStable.behindSpec hLead h.1.1, h.1.2⟩, ?_⟩
      rw [Parameter.hasAll_iff, List.forall_mem_append]
      exact
        ⟨Parameter.hasAll_iff.mp hAll,
          Parameter.hasAll_iff.mp h.2⟩
  | gradual =>
      cases lead with
      | nil => trivial
      | cons p lead => exact hParams hStable.variadics

section Replace

variable {subst : Substitution}

mutual

/- Replacing variables carries the trait over. -/
theorem Ty.Has.replaceVars
    (hStable : d.Stable)
    (hSubst : subst.Carries c d)
    (t : Ty) (h : t.Has c) : (t.replaceVars subst).Has d := by
  cases t with
  | typeVar name => exact hSubst.typeVar name h
  | generic name args =>
      exact
        ⟨hSubst.name name h.1,
          TypeArg.HasAll.replaceVars hStable hSubst args h.2⟩
  | list t => exact Ty.Has.replaceVars hStable hSubst t h
  | set t => exact Ty.Has.replaceVars hStable hSubst t h
  | dict k v =>
      exact
        ⟨Ty.Has.replaceVars hStable hSubst k h.1,
          Ty.Has.replaceVars hStable hSubst v h.2⟩
  | tuple ts => exact Ty.HasAll.replaceVars hStable hSubst ts h
  | union ts =>
      unfold Ty.replaceVars
      exact
        Ty.has_unionOf hStable
          (Ty.hasAll_iff.mp
            (Ty.HasAll.replaceVars hStable hSubst ts h.2))
  | callable sig ret =>
      exact
        ⟨Signature.Has.replaceVars hStable hSubst sig h.1,
          Ty.Has.replaceVars hStable hSubst ret h.2⟩
  | cls name => exact hSubst.name name h
  | specArgs name => exact hSubst.projection name h
  | specKwargs name => exact hSubst.projection name h
  | _ => trivial

/- Replacing variables carries the trait over. -/
theorem Ty.HasAll.replaceVars
    (hStable : d.Stable)
    (hSubst : subst.Carries c d)
    (ts : List Ty) (h : Ty.HasAll c ts) :
    Ty.HasAll d (Ty.replaceVarsAll subst ts) := by
  cases ts with
  | nil => trivial
  | cons t ts =>
      exact
        ⟨Ty.Has.replaceVars hStable hSubst t h.1,
          Ty.HasAll.replaceVars hStable hSubst ts h.2⟩

/- Replacing variables carries the trait over. -/
theorem TypeArg.Has.replaceVars
    (hStable : d.Stable)
    (hSubst : subst.Carries c d)
    (a : TypeArg) (h : a.Has c) :
    (a.replaceVars subst).Has d := by
  cases a with
  | type t => exact Ty.Has.replaceVars hStable hSubst t h
  | params sig =>
      exact Signature.Has.replaceVars hStable hSubst sig h

/- Replacing variables carries the trait over. -/
theorem TypeArg.HasAll.replaceVars
    (hStable : d.Stable)
    (hSubst : subst.Carries c d)
    (args : List TypeArg) (h : TypeArg.HasAll c args) :
    TypeArg.HasAll d (TypeArg.replaceVarsAll subst args) := by
  cases args with
  | nil => trivial
  | cons a args =>
      exact
        ⟨TypeArg.Has.replaceVars hStable hSubst a h.1,
          TypeArg.HasAll.replaceVars hStable hSubst args h.2⟩

/- Replacing variables carries the trait over. -/
theorem Parameter.Has.replaceVars
    (hStable : d.Stable)
    (hSubst : subst.Carries c d)
    (p : Parameter) (h : p.Has c) :
    (p.replaceVars subst).Has d := by
  cases p with
  | mk name kind ty hasDefault =>
      exact
        ⟨fun n hn => hSubst.name n (h.1 n hn),
          Ty.Has.replaceVars hStable hSubst ty h.2⟩

/- Replacing variables carries the trait over. -/
theorem Parameter.HasAll.replaceVars
    (hStable : d.Stable)
    (hSubst : subst.Carries c d)
    (ps : List Parameter) (h : Parameter.HasAll c ps) :
    Parameter.HasAll d
      (Parameter.replaceVarsAll subst ps) := by
  cases ps with
  | nil => trivial
  | cons p ps =>
      exact
        ⟨Parameter.Has.replaceVars hStable hSubst p h.1,
          Parameter.HasAll.replaceVars hStable hSubst ps h.2⟩

/- Replacing variables carries the trait over. -/
theorem Signature.Has.replaceVars
    (hStable : d.Stable)
    (hSubst : subst.Carries c d)
    (sig : Signature) (h : sig.Has c) :
    (sig.replaceVars subst).Has d := by
  cases sig with
  | gradual => trivial
  | params ps =>
      exact
        ⟨hStable.paramsOf
            (Parameter.map_blank_replaceVarsAll subst ps).symm
            (hSubst.params ps h.1),
          Parameter.HasAll.replaceVars hStable hSubst ps h.2⟩
  | spec lead var =>
      have hLead :
          d.lead (Parameter.replaceVarsAll subst lead) :=
        hStable.leadOf
          (Parameter.map_blank_replaceVarsAll subst lead).symm
          (hSubst.lead lead h.1.1)
      have hAll :=
        Parameter.HasAll.replaceVars hStable hSubst lead h.2
      have hVar := hSubst.spec var h.1.2
      cases hFind : subst.specs.find? var with
      | none =>
          rw [hFind] at hVar
          simp only [Signature.replaceVars, hFind]
          exact ⟨⟨hLead, hVar⟩, hAll⟩
      | some sig =>
          rw [hFind] at hVar
          simp only [Signature.replaceVars, hFind]
          exact hStable.behindLead hLead hAll hVar

end

/- Without solved variables the second trait is weaker. -/
theorem Substitution.Carries.le
    (hSubst : subst.Carries c d)
    (hNone : subst.isEmpty = true) : c.Le d := by
  have hTables := Bool.and_eq_true_iff.mp hNone
  have hType (v : String) : subst.types.find? v = none := by
    by_contra hSome
    rcases Option.ne_none_iff_exists'.mp hSome with ⟨t, ht⟩
    cases (Table.isEmpty_eq_false ht).symm.trans hTables.1
  have hSpec (v : String) : subst.specs.find? v = none := by
    by_contra hSome
    rcases Option.ne_none_iff_exists'.mp hSome with ⟨t, ht⟩
    cases (Table.isEmpty_eq_false ht).symm.trans hTables.2
  refine
    ⟨fun v hVar => ?_, fun v hVar => ?_, hSubst.projection,
      hSubst.name, hSubst.members, hSubst.params,
      hSubst.lead⟩
  · have hHas := hSubst.typeVar v hVar
    rwa [hType v] at hHas
  · have hHas := hSubst.spec v hVar
    rwa [hSpec v] at hHas

/- Solving variables carries the trait over. -/
theorem Substitution.Carries.substitute
    (hSubst : subst.Carries c d)
    (hStable : d.Stable)
    {t : Ty}
    (h : t.Has c) : (t.substitute subst).Has d := by
  unfold Ty.substitute
  split
  · rename_i hNone
    exact Ty.Has.mono (hSubst.le hNone) t h
  · exact Ty.Has.replaceVars hStable hSubst t h

/- Solving variables of a signature carries it over, too. -/
theorem Substitution.Carries.substituteSignature
    (hSubst : subst.Carries c d)
    (hStable : d.Stable)
    {sig : Signature}
    (h : sig.Has c) : (sig.substitute subst).Has d := by
  unfold Signature.substitute
  split
  · rename_i hNone
    exact Signature.Has.mono (hSubst.le hNone) sig h
  · exact Signature.Has.replaceVars hStable hSubst sig h

/- Solving variables keeps a trait of types and values. -/
theorem Trait.Stable.substitute
    (hStable : c.Stable)
    (hSubst : subst.Has c)
    {t : Ty}
    (h : t.Has c) : (t.substitute subst).Has c :=
  hSubst.carries.substitute hStable h

/- So does solving variables of a signature. -/
theorem Trait.Stable.substituteSignature
    (hStable : c.Stable)
    (hSubst : subst.Has c)
    {sig : Signature}
    (h : sig.Has c) : (sig.substitute subst).Has c :=
  hSubst.carries.substituteSignature hStable h

end Replace

------------------------------------------------------------
-- Candidates
------------------------------------------------------------

/- A type variable of the trait that a call may solve. -/
def Trait.FreeType
    (c : Trait)
    (rigid : RigidVars)
    (name : String) : Prop :=
  name ∉ rigid.types ∧ c.typeVar name

/- A parameter specification that a call may solve. -/
def Trait.FreeSpec
    (c : Trait)
    (rigid : RigidVars)
    (var : String) : Prop :=
  var ∉ rigid.specs ∧ c.spec var

/-
  What arguments say about variables: these are free and
  have one trait, and what they may stand for has another.
-/
structure Candidates.Has
    (rigid : RigidVars)
    (c d : Trait)
    (found : Candidates) : Prop where
  types :
    ∀ entry ∈ found.types,
      c.FreeType rigid entry.1 ∧ entry.2.Has d
  specs :
    ∀ entry ∈ found.specs,
      c.FreeSpec rigid entry.1 ∧ entry.2.1.Has d

namespace Candidates

variable {rigid : RigidVars}

/- Nothing is said. -/
theorem has_empty : Candidates.Has rigid c d {} :=
  ⟨by simp, by simp⟩

/- Two runs of candidates have what each of them has. -/
theorem Has.append
    {a b : Candidates}
    (ha : a.Has rigid c d)
    (hb : b.Has rigid c d) : (a ++ b).Has rigid c d where
  types entry hEntry := by
    rcases List.mem_append.mp hEntry with hEntry | hEntry
    · exact ha.types entry hEntry
    · exact hb.types entry hEntry
  specs entry hEntry := by
    rcases List.mem_append.mp hEntry with hEntry | hEntry
    · exact ha.specs entry hEntry
    · exact hb.specs entry hEntry

end Candidates

section Collect

variable (rigid : RigidVars) (source : ArgSource)

mutual

/-
  The variables of candidates come from the parameter, and
  their types from the argument.
-/
theorem Ty.has_collect
    (hStable : d.Stable)
    (t actual : Ty)
    (h : t.Has c)
    (hActual : actual.Has d) :
    (Ty.collect rigid source t actual).Has rigid c d := by
  unfold Ty.collect
  split
  · exact Candidates.has_empty
  · split
    · exact Candidates.has_empty
    · rename_i name _ hFree
      have hName : c.FreeType rigid name :=
        ⟨by simpa using hFree, h⟩
      exact ⟨by simpa using ⟨hName, hActual⟩, by simp⟩
  · exact (Signature.has_collect hStable _ _ h.1 hActual.1).append
      (Ty.has_collect hStable _ _ h.2 hActual.2)
  · exact Ty.has_collect hStable _ _ h hActual
  · exact Ty.has_collect hStable _ _ h hActual
  · exact (Ty.has_collect hStable _ _ h.1 hActual.1).append
      (Ty.has_collect hStable _ _ h.2 hActual.2)
  · split
    · exact Ty.has_collectAll hStable _ _ h hActual
    · exact Candidates.has_empty
  · split
    · exact TypeArg.has_collectAll hStable _ _ h.2 hActual.2
    · exact Candidates.has_empty
  · split
    · exact Candidates.has_empty
    · exact Ty.has_collectFirst hStable _ _ h.2 hActual
  · exact Candidates.has_empty

/- So do those of the first type with a free variable. -/
theorem Ty.has_collectFirst
    (hStable : d.Stable)
    (ts : List Ty) (actual : Ty)
    (h : Ty.HasAll c ts)
    (hActual : actual.Has d) :
    (Ty.collectFirst rigid source ts actual).Has rigid c d := by
  cases ts with
  | nil => exact Candidates.has_empty
  | cons t ts =>
      unfold Ty.collectFirst
      split
      · exact Ty.has_collect hStable t actual h.1 hActual
      · exact Ty.has_collectFirst hStable ts actual h.2 hActual

/- So do those of types place by place. -/
theorem Ty.has_collectAll
    (hStable : d.Stable)
    (ts actuals : List Ty)
    (h : Ty.HasAll c ts)
    (hActual : Ty.HasAll d actuals) :
    (Ty.collectAll rigid source ts actuals).Has rigid c d := by
  unfold Ty.collectAll
  split
  · exact (Ty.has_collect hStable _ _ h.1 hActual.1).append
      (Ty.has_collectAll hStable _ _ h.2 hActual.2)
  · exact Candidates.has_empty

/- So do those of a class argument. -/
theorem TypeArg.has_collect
    (hStable : d.Stable)
    (a actual : TypeArg)
    (h : a.Has c)
    (hActual : actual.Has d) :
    (TypeArg.collect rigid source a actual).Has rigid c d := by
  unfold TypeArg.collect
  split
  · exact Ty.has_collect hStable _ _ h hActual
  · exact Signature.has_collect hStable _ _ h hActual
  · exact Candidates.has_empty

/- So do those of class arguments place by place. -/
theorem TypeArg.has_collectAll
    (hStable : d.Stable)
    (args actuals : List TypeArg)
    (h : TypeArg.HasAll c args)
    (hActual : TypeArg.HasAll d actuals) :
    (TypeArg.collectAll rigid source args actuals).Has rigid
      c d := by
  unfold TypeArg.collectAll
  split
  · exact (TypeArg.has_collect hStable _ _ h.1 hActual.1).append
      (TypeArg.has_collectAll hStable _ _ h.2 hActual.2)
  · exact Candidates.has_empty

/- So do those of a parameter list. -/
theorem Signature.has_collect
    (hStable : d.Stable)
    (sig actual : Signature)
    (h : sig.Has c)
    (hActual : actual.Has d) :
    (Signature.collect rigid source sig actual).Has rigid
      c d := by
  unfold Signature.collect
  split
  · split
    · exact Candidates.has_empty
    · rename_i var hFree
      have hVar : c.FreeSpec rigid var :=
        ⟨by simpa using hFree, h.1.2⟩
      split
      · rename_i hStrip
        have hRest := hStable.stripLead hActual hStrip
        exact ⟨by simp, by simpa using ⟨hVar, hRest⟩⟩
      · exact Candidates.has_empty
  · exact Parameter.has_collectAll hStable _ _ h.2 hActual.2
  · exact Candidates.has_empty

/- So do those of one parameter. -/
theorem Parameter.has_collect
    (hStable : d.Stable)
    (p actual : Parameter)
    (h : p.Has c)
    (hActual : actual.Has d) :
    (Parameter.collect rigid source p actual).Has rigid c d := by
  cases p with
  | mk name kind ty hasDefault =>
      unfold Parameter.collect
      split
      · exact Ty.has_collect hStable ty actual.ty h.2 hActual.ty
      · exact Candidates.has_empty

/- So do those of parameters place by place. -/
theorem Parameter.has_collectAll
    (hStable : d.Stable)
    (ps actuals : List Parameter)
    (h : Parameter.HasAll c ps)
    (hActual : Parameter.HasAll d actuals) :
    (Parameter.collectAll rigid source ps actuals).Has rigid
      c d := by
  unfold Parameter.collectAll
  split
  · exact (Parameter.has_collect hStable _ _ h.1 hActual.1).append
      (Parameter.has_collectAll hStable _ _ h.2 hActual.2)
  · exact Candidates.has_empty

end

end Collect

------------------------------------------------------------
-- Reconciliation
------------------------------------------------------------

/- Solved variables are of a kind, and their signatures too. -/
def HaveSignatures
    (solves : String → Prop)
    (c : Trait)
    (table : Table Signature) : Prop :=
  ∀ v sig, table.find? v = some sig → solves v ∧ sig.Has c

/- Solved variables are of a kind, and their types too. -/
def HaveTypes
    (solves : String → Prop)
    (c : Trait)
    (table : Table Ty) : Prop :=
  ∀ v t, table.find? v = some t → solves v ∧ t.Has c

section Tables

variable {solves : String → Prop}

/- A table may get one more value with the trait. -/
theorem HaveSignatures.insert
    {table : Table Signature} {sig : Signature}
    (h : HaveSignatures solves c table)
    {name : String}
    (hName : solves name)
    (hSig : sig.Has c) :
    HaveSignatures solves c (table.insert name sig) := by
  intro v t hFind
  rw [Table.find?_insert] at hFind
  split at hFind
  · rename_i hSame
    cases hFind
    exact ⟨hSame ▸ hName, hSig⟩
  · exact h v t hFind

/- A table may get one more value with the trait. -/
theorem HaveTypes.insert
    {table : Table Ty} {ty : Ty}
    (h : HaveTypes solves c table)
    {name : String}
    (hName : solves name)
    (hTy : ty.Has c) :
    HaveTypes solves c (table.insert name ty) := by
  intro v t hFind
  rw [Table.find?_insert] at hFind
  split at hFind
  · rename_i hSame
    cases hFind
    exact ⟨hSame ▸ hName, hTy⟩
  · exact h v t hFind

/- A candidate for a type variable keeps the trait. -/
theorem Candidates.haveTypes_addType
    (hStable : c.Stable)
    {solved : Table Ty} {candidate : String × Ty}
    (h : HaveTypes solves c solved)
    (hName : solves candidate.1)
    (hTy : candidate.2.Has c) :
    HaveTypes solves c (addType solved candidate) := by
  rcases candidate with ⟨name, ty⟩
  unfold addType
  dsimp only
  split
  · rename_i old hOld
    have hOld := (h name old hOld).2
    exact
      h.insert hName
        (Ty.has_unionOf hStable (by simp [hOld, hTy]))
  · exact h.insert hName hTy

end Tables

/-
  A clash of two candidates with one trait, for a variable
  with another.
-/
def CallIssue.IsClash
    (c d : Trait)
    (issue : CallIssue) : Prop :=
  ∃ var first second source,
    issue = ⟨.unsatisfiable var first second, .arg source⟩ ∧
      c.spec var ∧ first.Has d ∧ second.Has d

/- The solutions and clashes so far have the traits. -/
structure SpecSolving.Has
    (rigid : RigidVars)
    (c d : Trait)
    (state : SpecSolving) : Prop where
  solved :
    HaveSignatures (c.FreeSpec rigid) d state.solved
  issues : ∀ issue ∈ state.issues, issue.IsClash c d

/-
  The solved variables are free and have one trait, and
  what they are solved to has another.
-/
structure Substitution.Solves
    (rigid : RigidVars)
    (c d : Trait)
    (subst : Substitution) : Prop where
  types : HaveTypes (c.FreeType rigid) d subst.types
  specs : HaveSignatures (c.FreeSpec rigid) d subst.specs

section Reconcile

variable {rigid : RigidVars}

/- No variable is solved. -/
theorem Substitution.solves_empty :
    Substitution.Solves rigid c d {} :=
  ⟨fun _ _ h => by simp at h, fun _ _ h => by simp at h⟩

theorem Substitution.Solves.has
    {subst : Substitution}
    (h : subst.Solves rigid c d) : subst.Has d :=
  ⟨fun v t hFind => (h.types v t hFind).2,
    fun v sig hFind => (h.specs v sig hFind).2⟩

/- Taking in a candidate keeps the traits. -/
theorem SpecSolving.Has.add
    (hStable : d.Stable)
    {state : SpecSolving}
    {candidate : String × Signature × ArgSource}
    (strategy : JoinStrategy)
    (h : state.Has rigid c d)
    (hVar : c.FreeSpec rigid candidate.1)
    (hSig : candidate.2.1.Has d) :
    (state.add strategy candidate).Has rigid c d := by
  rcases candidate with ⟨var, sig, source⟩
  unfold SpecSolving.add
  dsimp only
  split
  · exact h
  · split
    · exact ⟨h.solved.insert hVar hSig, h.issues⟩
    · rename_i current hCurrent
      have hFirst := (h.solved var current hCurrent).2
      split
      · rename_i joined hJoined
        have hJoin := hStable.applyJoin hFirst hSig hJoined
        exact ⟨h.solved.insert hVar hJoin, h.issues⟩
      · refine ⟨h.solved.insert hVar trivial, ?_⟩
        intro issue hIssue
        rcases List.mem_append.mp hIssue with hIssue | hIssue
        · exact h.issues issue hIssue
        · exact
            ⟨var, current, sig, source,
              List.mem_singleton.mp hIssue, hVar.2, hFirst,
              hSig⟩

/- Solutions have the traits that their candidates have. -/
theorem Trait.Stable.reconcile
    (hStable : d.Stable)
    {found : Candidates}
    (h : found.Has rigid c d)
    (strategy : JoinStrategy) :
    (found.reconcile strategy).1.Solves rigid c d ∧
      ∀ issue ∈ (found.reconcile strategy).2,
        issue.IsClash c d := by
  have hTypes (entries : List (String × Ty))
      (hEntries :
        ∀ e ∈ entries, c.FreeType rigid e.1 ∧ e.2.Has d)
      (solved : Table Ty)
      (hSolved : HaveTypes (c.FreeType rigid) d solved) :
      HaveTypes (c.FreeType rigid) d
        (entries.foldl Candidates.addType solved) := by
    induction entries generalizing solved with
    | nil => exact hSolved
    | cons e entries ih =>
        rw [List.forall_mem_cons] at hEntries
        exact
          ih hEntries.2 _
            (Candidates.haveTypes_addType hStable hSolved
              hEntries.1.1 hEntries.1.2)
  have hSpecs
      (entries : List (String × Signature × ArgSource))
      (hEntries :
        ∀ e ∈ entries,
          c.FreeSpec rigid e.1 ∧ e.2.1.Has d)
      (state : SpecSolving)
      (hState : state.Has rigid c d) :
      (entries.foldl (SpecSolving.add strategy) state).Has
        rigid c d := by
    induction entries generalizing state with
    | nil => exact hState
    | cons e entries ih =>
        rw [List.forall_mem_cons] at hEntries
        exact
          ih hEntries.2 _
            (hState.add hStable strategy hEntries.1.1
              hEntries.1.2)
  have hStart : SpecSolving.Has rigid c d {} :=
    ⟨fun _ _ hFind => by simp at hFind, by simp⟩
  have hDone := hSpecs found.specs h.specs {} hStart
  refine ⟨⟨?_, hDone.solved⟩, hDone.issues⟩
  exact
    hTypes found.types h.types ∅
      fun _ _ hFind => by simp at hFind

end Reconcile

------------------------------------------------------------
-- Calls
------------------------------------------------------------

/- The arguments that a call spells out have the trait. -/
structure CallArgs.Has
    (c : Trait)
    (args : CallArgs) : Prop where
  positional : ∀ t ∈ args.positional, t.Has c
  keywords : ∀ entry ∈ args.keywords, entry.2.Has c

/- A matched argument has a trait, and its parameter another. -/
structure BoundArg.Has
    (c d : Trait)
    (b : BoundArg) : Prop where
  param : b.param.Has c
  arg : b.arg.Has d

section Calls

variable {sig : Signature} {args : CallArgs}
variable {bound : List BoundArg}

/- What a call spells out has the trait. -/
theorem CallArgs.Has.of_mem
    (h : args.Has d)
    {t : Ty}
    (ht : t ∈ args.positional ++ args.keywords.map (·.2)) :
    t.Has d := by
  rcases List.mem_append.mp ht with ht | ht
  · exact h.positional t ht
  · rcases List.mem_map.mp ht with ⟨entry, hEntry, rfl⟩
    exact h.keywords entry hEntry

/- Arguments that a list takes are matched with the trait. -/
theorem has_bindParams
    {ps : List Parameter}
    (hps : ∀ p ∈ ps, p.Has c)
    (hArgs : args.Has d)
    (h : Binding.bindParams ps args = .ok bound) :
    ∀ b ∈ bound, b.Has c d :=
  fun b hb =>
    ⟨hps _ (Binding.param_mem_of_bindParams h b hb),
      hArgs.of_mem (Binding.arg_mem_of_bindParams h b hb)⟩

/- Arguments at leading parameters have the trait. -/
theorem has_bindLead
    {lead : List Parameter}
    (hLead : ∀ p ∈ lead, p.Has c)
    (hArgs : args.Has d) :
    ∀ b ∈ bindLead lead args, b.Has c d := by
  intro b hb
  rcases List.mem_map.mp hb with
    ⟨⟨⟨p, arg⟩, index⟩, hIndexed, rfl⟩
  have hBoth :=
    List.of_mem_zip (List.fst_mem_of_mem_zipIdx hIndexed)
  exact ⟨hLead p hBoth.1, hArgs.positional arg hBoth.2⟩

/- Arguments of a call that forwards have the trait. -/
theorem has_bindForwarding
    {lead : List Parameter} {var : String}
    (hLead : ∀ p ∈ lead, p.Has c)
    (hArgs : args.Has d)
    (h : bindForwarding lead var args = .ok bound) :
    ∀ b ∈ bound, b.Has c d := by
  unfold bindForwarding at h
  split at h
  · cases h
  · split at h
    · cases h
      exact has_bindLead hLead hArgs
    · cases h

/- Arguments are matched with the trait. -/
theorem has_bindCall
    (hSig : sig.Has c)
    (hArgs : args.Has d)
    (rigid : RigidVars)
    (callee : String) :
    ∀ b ∈ (bindCall rigid callee sig args).1, b.Has c d := by
  unfold bindCall
  cases sig with
  | gradual => simp
  | params ps =>
      have hps := Parameter.hasAll_iff.mp hSig.2
      dsimp only
      cases hBind : Binding.bindParams ps args with
      | ok bound => exact has_bindParams hps hArgs hBind
      | error m => simp
  | spec lead var =>
      have hLead := Parameter.hasAll_iff.mp hSig.2
      dsimp only
      split
      · cases hBind : bindForwarding lead var args with
        | ok bound => exact has_bindForwarding hLead hArgs hBind
        | error m => simp
      · exact has_bindLead hLead hArgs

/- Defaults of unsolved variables have every trait. -/
theorem Substitution.Has.withDefaults
    {solved : Substitution}
    (h : solved.Has c)
    (rigid : RigidVars)
    (callee : Ty) :
    (solved.withDefaults rigid callee).Has c := by
  constructor
  · intro v t hFind
    rw [find?_types_withDefaults] at hFind
    rcases Option.or_eq_some_iff.mp hFind with
      hFind | ⟨-, hDefault⟩
    · exact h.types v t hFind
    · split at hDefault
      · cases hDefault
        trivial
      · cases hDefault
  · intro v sig hFind
    rw [find?_specs_withDefaults] at hFind
    rcases Option.or_eq_some_iff.mp hFind with
      hFind | ⟨-, hDefault⟩
    · exact h.specs v sig hFind
    · split at hDefault
      · cases hDefault
        trivial
      · cases hDefault

/- What matched arguments say has their traits. -/
theorem Candidates.Has.foldl_collect
    (hStable : d.Stable)
    (rigid : RigidVars)
    {bound : List BoundArg}
    (hBound : ∀ b ∈ bound, b.Has c d)
    {found : Candidates}
    (hFound : found.Has rigid c d) :
    (bound.foldl
      (fun found arg =>
        found
          ++ Ty.collect rigid arg.source arg.param.ty arg.arg)
      found).Has rigid c d := by
  induction bound generalizing found with
  | nil => exact hFound
  | cons b bound ih =>
      rw [List.forall_mem_cons] at hBound
      have hOne :=
        Ty.has_collect rigid b.source hStable _ _
          hBound.1.param.ty hBound.1.arg
      exact ih hBound.2 (hFound.append hOne)

/- A call solves variables of its callee by its arguments. -/
theorem Trait.Stable.solves_inferCall
    (hStable : d.Stable)
    {ty : Ty}
    (hTy : ty.Has c)
    (hArgs : args.Has d)
    (options : InferOptions)
    (rigid : RigidVars)
    (callee : String) :
    (ty.inferCall options rigid callee args).solved.Solves
      rigid c d := by
  unfold Ty.inferCall
  split
  case h_2 => exact Substitution.solves_empty
  case h_1 sig ret =>
    have hBound := has_bindCall hTy.1 hArgs rigid callee
    have hFound :=
      Candidates.has_empty.foldl_collect hStable rigid hBound
    exact (hStable.reconcile hFound options.join).1

/- The result is the return type with all variables solved. -/
theorem Ty.ret_inferCall
    (options : InferOptions)
    (rigid : RigidVars)
    (callee : String)
    (sig : Signature)
    (ret : Ty)
    (args : CallArgs) :
    let ty := Ty.callable sig ret
    let outcome := ty.inferCall options rigid callee args
    outcome.ret =
      ret.substitute (outcome.solved.withDefaults rigid ty) :=
  rfl

/-
  The result of a call and the solution of its variables
  have what the callee and the arguments have.
-/
theorem Trait.Stable.inferCall
    (hStable : c.Stable)
    {ty : Ty}
    (hTy : ty.Has c)
    (hArgs : args.Has c)
    (options : InferOptions)
    (rigid : RigidVars)
    (callee : String) :
    (ty.inferCall options rigid callee args).ret.Has c ∧
      (ty.inferCall options rigid callee args).solved.Has
        c := by
  have hSolved :=
    (hStable.solves_inferCall hTy hArgs options rigid
      callee).has
  refine ⟨?_, hSolved⟩
  cases ty with
  | callable sig ret =>
      rw [Ty.ret_inferCall]
      exact
        hStable.substitute
          (hSolved.withDefaults rigid (.callable sig ret))
          hTy.2
  | _ => trivial

end Calls

end SigCheck
