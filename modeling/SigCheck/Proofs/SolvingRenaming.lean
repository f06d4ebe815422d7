import SigCheck.Call.Inference
import SigCheck.Proofs.SubtypeRenaming

/-
  Solving variables does not depend on what they are called.
  The arguments of a call say the same about variables under
  other names, several candidates are reconciled alike, and
  solutions replace variables alike.

  Solutions are compared by what they hold for a variable
  under its name on either side, not by the order in which
  names were entered.

  Key definitions include:
    * `Table.Renamed`, `Substitution.Renamed`
    * `RigidVars.Agree`
    * `Candidates.renameVars`

  Correctness is proven by:
    * `Ty.substitute_renameVars`
    * `Ty.collect_renameVars`
    * `Candidates.reconcile_renamed`
-/

namespace SigCheck

------------------------------------------------------------
-- Tables
------------------------------------------------------------

namespace Table

variable {α β : Type}

/- The second table holds the changed values of new names. -/
def Renamed
    (σ : Equiv.Perm String)
    (g : α → β)
    (t : Table α)
    (u : Table β) : Prop :=
  ∀ name, u.find? (σ name) = (t.find? name).map g

section Renamed

variable {σ : Equiv.Perm String} {g : α → β}
variable {t : Table α} {u : Table β}

theorem renamed_empty : Renamed σ g ∅ ∅ :=
  fun _ => rfl

/- A value is entered under both names. -/
theorem Renamed.insert
    (h : Renamed σ g t u)
    (name : String)
    (value : α) :
    Renamed σ g (t.insert name value)
      (u.insert (σ name) (g value)) := by
  intro key
  rw [find?_insert, find?_insert, h key]
  by_cases hKey : name = key
  · simp [hKey]
  · simp [hKey]

/- A table without values has no entries. -/
theorem isEmpty_iff :
    t.isEmpty = true ↔ ∀ name, t.find? name = none := by
  rcases t with ⟨entries⟩
  cases entries with
  | nil => exact ⟨fun _ _ => rfl, fun _ => rfl⟩
  | cons entry rest =>
      constructor
      · nofun
      · intro h
        have hFirst := h entry.1
        simp [find?, findIn] at hFirst

/- Either table is empty if the other is. -/
theorem Renamed.isEmpty_eq
    (h : Renamed σ g t u) : u.isEmpty = t.isEmpty := by
  rw [Bool.eq_iff_iff, isEmpty_iff, isEmpty_iff]
  constructor
  · intro hNone name
    have hName := h name
    rw [hNone] at hName
    exact Option.map_eq_none_iff.mp hName.symm
  · intro hNone name
    have hName := h (σ.symm name)
    rw [hNone, Equiv.apply_symm_apply] at hName
    exact hName

end Renamed

end Table

------------------------------------------------------------
-- Substitutions
------------------------------------------------------------

/- The second one solves the renamed variables alike. -/
structure Substitution.Renamed
    (ρ : VarRenaming)
    (subst subst' : Substitution) : Prop where
  types :
    subst.types.Renamed ρ.types (Ty.renameVars ρ) subst'.types
  specs :
    subst.specs.Renamed ρ.specs (Signature.renameVars ρ)
      subst'.specs

/- What stands behind leading parameters is renamed alike. -/
theorem Signature.behindLead_renameVars
    (ρ : VarRenaming)
    (lead : List Parameter)
    (sig : Signature) :
    (sig.renameVars ρ).behindLead
        (lead.map (.mapTy (Ty.renameVars ρ))) =
      (sig.behindLead lead).renameVars ρ := by
  cases sig with
  | params ps => simp [behindLead, renameVars]
  | spec inner var => simp [behindLead, renameVars]
  | gradual =>
      cases lead with
      | nil => rfl
      | cons p lead =>
          simp [behindLead, renameVars, Parameter.mapTy,
            Parameter.named, Ty.renameVars]

section Replace

variable {ρ : VarRenaming} {subst subst' : Substitution}
mutual

/- Variables are replaced alike under new names. -/
theorem Ty.replaceVars_renameVars
    (hSubst : subst.Renamed ρ subst')
    (t : Ty) :
    (t.renameVars ρ).replaceVars subst' =
      (t.replaceVars subst).renameVars ρ := by
  cases t with
  | typeVar name =>
      have hFind := hSubst.types name
      simp only [Ty.renameVars, Ty.replaceVars, hFind]
      cases subst.types.find? name <;> rfl
  | list t =>
      exact congrArg Ty.list (Ty.replaceVars_renameVars hSubst t)
  | set t =>
      exact congrArg Ty.set (Ty.replaceVars_renameVars hSubst t)
  | dict k v =>
      exact congrArg₂ Ty.dict (Ty.replaceVars_renameVars hSubst k)
        (Ty.replaceVars_renameVars hSubst v)
  | tuple ts =>
      exact congrArg Ty.tuple
        (Ty.replaceVarsAll_renameVarsAll hSubst ts)
  | union ts =>
      have hAll := Ty.replaceVarsAll_renameVarsAll hSubst ts
      rw [Ty.renameVarsAll_eq] at hAll
      simp only [Ty.renameVars, Ty.replaceVars,
        Ty.renameVarsAll_eq, hAll, Ty.unionOf_renameVars]
  | generic name args =>
      exact congrArg (Ty.generic name)
        (TypeArg.replaceVarsAll_renameVarsAll hSubst args)
  | callable sig ret =>
      exact congrArg₂ Ty.callable
        (Signature.replaceVars_renameVars hSubst sig)
        (Ty.replaceVars_renameVars hSubst ret)
  | _ => rfl

/- So they are in a list of types. -/
theorem Ty.replaceVarsAll_renameVarsAll
    (hSubst : subst.Renamed ρ subst')
    (ts : List Ty) :
    Ty.replaceVarsAll subst' (Ty.renameVarsAll ρ ts) =
      Ty.renameVarsAll ρ (Ty.replaceVarsAll subst ts) := by
  cases ts with
  | nil => rfl
  | cons t ts =>
      exact congrArg₂ List.cons (Ty.replaceVars_renameVars hSubst t)
        (Ty.replaceVarsAll_renameVarsAll hSubst ts)

/- So they are in a class argument. -/
theorem TypeArg.replaceVars_renameVars
    (hSubst : subst.Renamed ρ subst')
    (a : TypeArg) :
    (a.renameVars ρ).replaceVars subst' =
      (a.replaceVars subst).renameVars ρ := by
  cases a with
  | type t =>
      exact congrArg TypeArg.type (Ty.replaceVars_renameVars hSubst t)
  | params sig =>
      exact congrArg TypeArg.params
        (Signature.replaceVars_renameVars hSubst sig)

/- So they are in a list of class arguments. -/
theorem TypeArg.replaceVarsAll_renameVarsAll
    (hSubst : subst.Renamed ρ subst')
    (args : List TypeArg) :
    TypeArg.replaceVarsAll subst'
        (TypeArg.renameVarsAll ρ args) =
      TypeArg.renameVarsAll ρ
        (TypeArg.replaceVarsAll subst args) := by
  cases args with
  | nil => rfl
  | cons a args =>
      exact congrArg₂ List.cons
        (TypeArg.replaceVars_renameVars hSubst a)
        (TypeArg.replaceVarsAll_renameVarsAll hSubst args)

/- So they are in a parameter. -/
theorem Parameter.replaceVars_renameVars
    (hSubst : subst.Renamed ρ subst')
    (p : Parameter) :
    (p.renameVars ρ).replaceVars subst' =
      (p.replaceVars subst).renameVars ρ := by
  cases p with
  | mk name kind ty hasDefault =>
      exact congrArg (Parameter.mk name kind · hasDefault)
        (Ty.replaceVars_renameVars hSubst ty)

/- So they are in a parameter list. -/
theorem Parameter.replaceVarsAll_renameVarsAll
    (hSubst : subst.Renamed ρ subst')
    (ps : List Parameter) :
    Parameter.replaceVarsAll subst'
        (Parameter.renameVarsAll ρ ps) =
      Parameter.renameVarsAll ρ
        (Parameter.replaceVarsAll subst ps) := by
  cases ps with
  | nil => rfl
  | cons p ps =>
      exact congrArg₂ List.cons
        (Parameter.replaceVars_renameVars hSubst p)
        (Parameter.replaceVarsAll_renameVarsAll hSubst ps)

/- So they are in a signature. -/
theorem Signature.replaceVars_renameVars
    (hSubst : subst.Renamed ρ subst')
    (sig : Signature) :
    (sig.renameVars ρ).replaceVars subst' =
      (sig.replaceVars subst).renameVars ρ := by
  cases sig with
  | gradual => rfl
  | params ps =>
      exact congrArg Signature.params
        (Parameter.replaceVarsAll_renameVarsAll hSubst ps)
  | spec lead var =>
      have hLead := Parameter.replaceVarsAll_renameVarsAll hSubst lead
      have hFind := hSubst.specs var
      simp only [Signature.renameVars, Signature.replaceVars,
        hLead, hFind]
      cases subst.specs.find? var with
      | none => rfl
      | some sig =>
          rw [Parameter.renameVarsAll_eq]
          exact Signature.behindLead_renameVars ρ _ sig

end

/- Solving variables gives the renamed type. -/
theorem Ty.substitute_renameVars
    (hSubst : subst.Renamed ρ subst')
    (t : Ty) :
    (t.renameVars ρ).substitute subst' =
      (t.substitute subst).renameVars ρ := by
  unfold Ty.substitute Substitution.isEmpty
  rw [hSubst.types.isEmpty_eq, hSubst.specs.isEmpty_eq]
  split
  · rfl
  · exact Ty.replaceVars_renameVars hSubst t

end Replace

------------------------------------------------------------
-- Leading Parameters
------------------------------------------------------------

section Lead

variable (ρ : VarRenaming)

/- What is left of a list is renamed with it. -/
theorem stripLeadParams_renameVars (lead ps : List Parameter) :
    stripLeadParams (lead.map (.mapTy (Ty.renameVars ρ)))
        (ps.map (.mapTy (Ty.renameVars ρ))) =
      (stripLeadParams lead ps).map
        (List.map (.mapTy (Ty.renameVars ρ))) := by
  have hFits (expected p : Parameter) :
      (expected.mapTy (Ty.renameVars ρ)).ty.isSubtype
          (p.mapTy (Ty.renameVars ρ)).ty =
        expected.ty.isSubtype p.ty :=
    Ty.isSubtype_renameVars expected.ty p.ty
  have hKind (p : Parameter) :
      (p.mapTy (Ty.renameVars ρ)).kind = p.kind :=
    rfl
  induction lead, ps using stripLeadParams.induct with
  | case1 ps => rfl
  | case2 expected lead => rfl
  | case3 expected lead p ps h ih =>
      simp only [List.map_cons, stripLeadParams, hFits,
        hKind, h, if_true]
      exact ih
  | case4 expected lead p ps h h' ih =>
      simp only [List.map_cons, stripLeadParams, hFits,
        hKind, h, h', if_true]
      exact ih
  | case5 expected lead p ps h h' =>
      simp only [List.map_cons, stripLeadParams, hFits,
        hKind, h, h']
      rfl

/- Leading parameters fit where they did. -/
theorem fitsLead_renameVars (lead own : List Parameter) :
    fitsLead (lead.map (.mapTy (Ty.renameVars ρ)))
        (own.map (.mapTy (Ty.renameVars ρ))) =
      fitsLead lead own := by
  unfold fitsLead
  rw [List.zip_map, List.all_map]
  congr 1
  funext pair
  exact Ty.isSubtype_renameVars pair.1.ty pair.2.ty

/- What a signature still expects is renamed with it. -/
theorem stripLead_renameVars
    (lead : List Parameter)
    (sig : Signature) :
    stripLead (lead.map (.mapTy (Ty.renameVars ρ)))
        (sig.renameVars ρ) =
      (stripLead lead sig).map (Signature.renameVars ρ) := by
  cases sig with
  | gradual => rfl
  | params ps =>
      simp only [Signature.renameVars,
        Parameter.renameVarsAll_eq, stripLead,
        stripLeadParams_renameVars, Option.map_map]
      congr 1
      funext rest
      simp [Signature.renameVars]
  | spec own var =>
      simp only [Signature.renameVars,
        Parameter.renameVarsAll_eq, stripLead,
        fitsLead_renameVars, List.length_map]
      split
      · rfl
      · split
        · simp [Signature.renameVars, List.map_drop]
        · rfl

end Lead

------------------------------------------------------------
-- Candidates
------------------------------------------------------------

/- Of some variables the same are rigid under new names. -/
def RigidVars.Agree
    (ρ : VarRenaming)
    (rigid rigid' : RigidVars)
    (vs : List VarName) : Prop :=
  ∀ v ∈ vs, rigid'.holds (ρ.apply v) = rigid.holds v

namespace RigidVars

variable {ρ : VarRenaming} {rigid rigid' : RigidVars}
variable {vs ws : List VarName}

@[simp] theorem agree_append :
    Agree ρ rigid rigid' (vs ++ ws) ↔
      Agree ρ rigid rigid' vs ∧ Agree ρ rigid rigid' ws :=
  List.forall_mem_append

@[simp] theorem agree_cons {v : VarName} :
    Agree ρ rigid rigid' (v :: vs) ↔
      rigid'.holds (ρ.apply v) = rigid.holds v
        ∧ Agree ρ rigid rigid' vs :=
  List.forall_mem_cons

end RigidVars

/- Rename what arguments say about variables. -/
def Candidates.renameVars
    (ρ : VarRenaming)
    (c : Candidates) : Candidates where
  types :=
    c.types.map fun (v, ty) => (ρ.types v, ty.renameVars ρ)
  specs :=
    c.specs.map fun (v, sig, source) =>
      (ρ.specs v, sig.renameVars ρ, source)

/- Runs of candidates are renamed one after the other. -/
theorem Candidates.renameVars_append
    (ρ : VarRenaming)
    (c d : Candidates) :
    (c ++ d).renameVars ρ =
      c.renameVars ρ ++ d.renameVars ρ :=
  congrArg₂ Candidates.mk List.map_append List.map_append

section Collect

variable {ρ : VarRenaming} {rigid rigid' : RigidVars}
variable {source : ArgSource}

/- Free variables stay free under new names. -/
theorem Ty.hasFreeVars_renameVars
    {t : Ty}
    (h : rigid.Agree ρ rigid' t.mentions) :
    (t.renameVars ρ).hasFreeVars rigid' =
      t.hasFreeVars rigid := by
  unfold Ty.hasFreeVars
  rw [Ty.mentions_renameVars, List.any_map]
  rw [Bool.eq_iff_iff, List.any_eq_true, List.any_eq_true]
  refine exists_congr fun v => and_congr_right fun hv => ?_
  rw [Function.comp_apply, h v hv]

/- A member without free variables takes what it took. -/
theorem Ty.isTaken_renameVars
    (ts : List Ty) (actual : Ty)
    (h : rigid.Agree ρ rigid' (Ty.mentionsAll ts)) :
    ((Ty.renameVarsAll ρ ts).any fun m =>
        !m.hasFreeVars rigid'
          && (actual.renameVars ρ).isSubtype m) =
      ts.any fun m =>
        !m.hasFreeVars rigid && actual.isSubtype m := by
  induction ts with
  | nil => rfl
  | cons t ts ih =>
      have hBoth := RigidVars.agree_append.mp h
      simp only [Ty.renameVarsAll, List.any_cons,
        Ty.hasFreeVars_renameVars hBoth.1,
        Ty.isSubtype_renameVars, ih hBoth.2]

mutual

/- What an argument says is renamed with both types. -/
theorem Ty.collect_renameVars
    (t actual : Ty)
    (h : rigid.Agree ρ rigid' t.mentions) :
    Ty.collect rigid' source (t.renameVars ρ)
        (actual.renameVars ρ) =
      (Ty.collect rigid source t actual).renameVars ρ := by
  cases t with
  | typeVar name =>
      have hName :
          rigid'.types.contains (ρ.types name) =
            rigid.types.contains name :=
        h (.type name) (List.mem_cons_self ..)
      have hVar :
          (if rigid'.types.contains (ρ.types name) then {}
            else ⟨[(ρ.types name, actual.renameVars ρ)], []⟩) =
          Candidates.renameVars ρ
            (if rigid.types.contains name then {}
            else ⟨[(name, actual)], []⟩) := by
        rw [hName]
        split <;> rfl
      cases actual with
      | any => rfl
      | _ => exact hVar
  | list t =>
      cases actual with
      | list a => exact Ty.collect_renameVars t a h
      | _ => rfl
  | set t =>
      cases actual with
      | set a => exact Ty.collect_renameVars t a h
      | _ => rfl
  | dict k v =>
      cases actual with
      | dict l w =>
          have hBoth := RigidVars.agree_append.mp h
          exact (congrArg₂ (· ++ ·)
            (Ty.collect_renameVars k l hBoth.1)
            (Ty.collect_renameVars v w hBoth.2)).trans
              (Candidates.renameVars_append ..).symm
      | _ => rfl
  | tuple ts =>
      cases actual with
      | tuple as =>
          have hAll := Ty.collectAll_renameVars ts as h
          rw [Ty.renameVarsAll_eq, Ty.renameVarsAll_eq] at hAll
          simp only [Ty.renameVars, Ty.collect, hAll,
            Ty.renameVarsAll_eq, List.length_map]
          split <;> rfl
      | _ => rfl
  | generic name args =>
      cases actual with
      | generic name' as =>
          have hAll := TypeArg.collectAll_renameVars args as h
          rw [TypeArg.renameVarsAll_eq,
            TypeArg.renameVarsAll_eq] at hAll
          simp only [Ty.renameVars, Ty.collect, hAll,
            TypeArg.renameVarsAll_eq, List.length_map]
          split <;> rfl
      | _ => rfl
  | callable sig ret =>
      cases actual with
      | callable sig' ret' =>
          have hBoth := RigidVars.agree_append.mp h
          exact (congrArg₂ (· ++ ·)
            (Signature.collect_renameVars sig sig' hBoth.1)
            (Ty.collect_renameVars ret ret' hBoth.2)).trans
              (Candidates.renameVars_append ..).symm
      | _ => rfl
  | union ts =>
      have hFirst := Ty.collectFirst_renameVars ts actual h
      have hTaken := Ty.isTaken_renameVars ts actual h
      have hUnion :
          (if (Ty.renameVarsAll ρ ts).any (fun m =>
              !m.hasFreeVars rigid'
                && (actual.renameVars ρ).isSubtype m) then {}
            else
              Ty.collectFirst rigid' source
                (Ty.renameVarsAll ρ ts)
                (actual.renameVars ρ)) =
          Candidates.renameVars ρ
            (if ts.any (fun m =>
                !m.hasFreeVars rigid && actual.isSubtype m) then
              {}
            else Ty.collectFirst rigid source ts actual) := by
        rw [hTaken, hFirst]
        split <;> rfl
      cases actual with
      | any => rfl
      | _ => exact hUnion
  | _ => cases actual <;> rfl
termination_by structural t

/- Of a union the first free member is matched alike. -/
theorem Ty.collectFirst_renameVars
    (ts : List Ty) (actual : Ty)
    (h : rigid.Agree ρ rigid' (Ty.mentionsAll ts)) :
    Ty.collectFirst rigid' source (Ty.renameVarsAll ρ ts)
        (actual.renameVars ρ) =
      (Ty.collectFirst rigid source ts actual).renameVars ρ := by
  cases ts with
  | nil => rfl
  | cons t ts =>
      have hBoth := RigidVars.agree_append.mp h
      have hHead := Ty.collect_renameVars t actual hBoth.1
      have hTail :=
        Ty.collectFirst_renameVars ts actual hBoth.2
      simp only [Ty.renameVarsAll, Ty.collectFirst,
        Ty.hasFreeVars_renameVars hBoth.1, hHead, hTail]
      split <;> rfl
termination_by structural ts

/- Types are matched alike place by place. -/
theorem Ty.collectAll_renameVars
    (ts as : List Ty)
    (h : rigid.Agree ρ rigid' (Ty.mentionsAll ts)) :
    Ty.collectAll rigid' source (Ty.renameVarsAll ρ ts)
        (Ty.renameVarsAll ρ as) =
      (Ty.collectAll rigid source ts as).renameVars ρ := by
  cases ts with
  | nil => rfl
  | cons t ts =>
      cases as with
      | nil => rfl
      | cons a as =>
          have hBoth := RigidVars.agree_append.mp h
          exact (congrArg₂ (· ++ ·)
            (Ty.collect_renameVars t a hBoth.1)
            (Ty.collectAll_renameVars ts as hBoth.2)).trans
              (Candidates.renameVars_append ..).symm
termination_by structural ts

/- Class arguments are matched alike. -/
theorem TypeArg.collect_renameVars
    (a actual : TypeArg)
    (h : rigid.Agree ρ rigid' a.mentions) :
    TypeArg.collect rigid' source (a.renameVars ρ)
        (actual.renameVars ρ) =
      (TypeArg.collect rigid source a actual).renameVars ρ := by
  cases a with
  | type t =>
      cases actual with
      | type u => exact Ty.collect_renameVars t u h
      | params sig => rfl
  | params sig =>
      cases actual with
      | type u => rfl
      | params sig' =>
          exact Signature.collect_renameVars sig sig' h
termination_by structural a

/- So they are place by place. -/
theorem TypeArg.collectAll_renameVars
    (args as : List TypeArg)
    (h : rigid.Agree ρ rigid' (TypeArg.mentionsAll args)) :
    TypeArg.collectAll rigid' source
        (TypeArg.renameVarsAll ρ args)
        (TypeArg.renameVarsAll ρ as) =
      (TypeArg.collectAll rigid source args as).renameVars
        ρ := by
  cases args with
  | nil => rfl
  | cons b args =>
      cases as with
      | nil => rfl
      | cons a as =>
          have hBoth := RigidVars.agree_append.mp h
          exact (congrArg₂ (· ++ ·)
            (TypeArg.collect_renameVars b a hBoth.1)
            (TypeArg.collectAll_renameVars args as
              hBoth.2)).trans
              (Candidates.renameVars_append ..).symm
termination_by structural args

/- Parameter lists are matched alike. -/
theorem Signature.collect_renameVars
    (sig actual : Signature)
    (h : rigid.Agree ρ rigid' sig.mentions) :
    Signature.collect rigid' source (sig.renameVars ρ)
        (actual.renameVars ρ) =
      (Signature.collect rigid source sig actual).renameVars
        ρ := by
  cases sig with
  | gradual => rfl
  | params ps =>
      cases actual with
      | params as => exact Parameter.collectAll_renameVars ps as h
      | _ => rfl
  | spec lead var =>
      have hVar :
          rigid'.specs.contains (ρ.specs var) =
            rigid.specs.contains var :=
        h (.spec var) (List.mem_cons_self ..)
      have hLead := stripLead_renameVars ρ lead actual
      simp only [Signature.renameVars, Signature.collect, hVar,
        Parameter.renameVarsAll_eq, hLead]
      split
      · rfl
      · cases stripLead lead actual <;> rfl
termination_by structural sig

/- Parameters are matched alike. -/
theorem Parameter.collect_renameVars
    (p actual : Parameter)
    (h : rigid.Agree ρ rigid' p.mentions) :
    Parameter.collect rigid' source (p.renameVars ρ)
        (actual.renameVars ρ) =
      (Parameter.collect rigid source p actual).renameVars
        ρ := by
  cases p with
  | mk name kind ty hasDefault =>
      cases actual with
      | mk name' kind' ty' hasDefault' =>
          have hTy := Ty.collect_renameVars ty ty' h
          simp only [Parameter.renameVars, Parameter.collect,
            hTy]
          split <;> rfl
termination_by structural p

/- So they are place by place. -/
theorem Parameter.collectAll_renameVars
    (ps as : List Parameter)
    (h : rigid.Agree ρ rigid' (Parameter.mentionsAll ps)) :
    Parameter.collectAll rigid' source
        (Parameter.renameVarsAll ρ ps)
        (Parameter.renameVarsAll ρ as) =
      (Parameter.collectAll rigid source ps as).renameVars
        ρ := by
  cases ps with
  | nil => rfl
  | cons p ps =>
      cases as with
      | nil => rfl
      | cons a as =>
          have hBoth := RigidVars.agree_append.mp h
          exact (congrArg₂ (· ++ ·)
            (Parameter.collect_renameVars p a hBoth.1)
            (Parameter.collectAll_renameVars ps as
              hBoth.2)).trans
              (Candidates.renameVars_append ..).symm

termination_by structural ps
end

end Collect

------------------------------------------------------------
-- Reconciliation
------------------------------------------------------------

/- Rename the variables in a fault. -/
def CallFault.renameVars
    (ρ : VarRenaming) : CallFault → CallFault
  | .mismatch callee reason => .mismatch callee reason
  | .unsatisfiable var first second =>
      .unsatisfiable (ρ.specs var) (first.renameVars ρ)
        (second.renameVars ρ)
  | .wrongType param expected found =>
      .wrongType param (expected.renameVars ρ)
        (found.renameVars ρ)

/- Rename the variables in an issue of a call. -/
def CallIssue.renameVars
    (ρ : VarRenaming)
    (issue : CallIssue) : CallIssue :=
  { issue with fault := issue.fault.renameVars ρ }

/- Two candidates are joined alike under new names. -/
theorem JoinStrategy.apply_renameVars
    (ρ : VarRenaming)
    (strategy : JoinStrategy)
    (s t : Signature) :
    strategy.apply (s.renameVars ρ) (t.renameVars ρ) =
      (strategy.apply s t).map (Signature.renameVars ρ) := by
  cases strategy with
  | supertype => exact Signature.commonSupertype_renameVars ρ s t
  | exact =>
      have hSame := Signature.equivalent_renameVars ρ s t
      have hTest :
          (if (s.renameVars ρ).equivalent (t.renameVars ρ) then
              some (s.renameVars ρ)
            else none) =
            (if s.equivalent t then some s else none).map
              (Signature.renameVars ρ) := by
        rw [hSame]
        split <;> rfl
      cases s with
      | gradual => rfl
      | params ps =>
          cases t with
          | gradual => rfl
          | _ => exact hTest
      | spec lead var =>
          cases t with
          | gradual => rfl
          | _ => exact hTest

/- The second state has the renamed solutions and issues. -/
structure SpecSolving.Renamed
    (ρ : VarRenaming)
    (state state' : SpecSolving) : Prop where
  solved :
    state.solved.Renamed ρ.specs (Signature.renameVars ρ)
      state'.solved
  failed : state'.failed = state.failed.map ρ.specs
  issues :
    state'.issues = state.issues.map (CallIssue.renameVars ρ)

namespace SpecSolving

variable {ρ : VarRenaming} {state state' : SpecSolving}

/- One more candidate is taken in alike. -/
theorem Renamed.add
    (h : state.Renamed ρ state')
    (strategy : JoinStrategy)
    (var : String)
    (sig : Signature)
    (source : ArgSource) :
    (state.add strategy (var, sig, source)).Renamed ρ
      (state'.add strategy
        (ρ.specs var, sig.renameVars ρ, source)) := by
  have hFailed :
      state'.failed.contains (ρ.specs var) =
        state.failed.contains var := by
    rw [h.failed, Bool.eq_iff_iff]
    simp
  have hFind := h.solved var
  unfold SpecSolving.add
  dsimp only
  rw [hFailed, hFind]
  split
  · exact h
  · cases state.solved.find? var with
    | none => exact ⟨h.solved.insert var sig, h.failed, h.issues⟩
    | some current =>
        have hJoin :=
          JoinStrategy.apply_renameVars ρ strategy current sig
        simp only [Option.map_some, hJoin]
        cases strategy.apply current sig with
        | some joined =>
            exact ⟨h.solved.insert var joined, h.failed,
              h.issues⟩
        | none =>
            refine ⟨h.solved.insert var .gradual, ?_, ?_⟩
            · simp [h.failed]
            · simp [h.issues, CallIssue.renameVars,
                CallFault.renameVars]

end SpecSolving

namespace Candidates

variable (ρ : VarRenaming)

/- Candidates for type variables are united alike. -/
theorem renamed_foldl_addType
    (types : List (String × Ty))
    {table table' : Table Ty}
    (h : table.Renamed ρ.types (Ty.renameVars ρ) table') :
    (types.foldl addType table).Renamed ρ.types
      (Ty.renameVars ρ)
      ((types.map fun (v, ty) =>
        (ρ.types v, ty.renameVars ρ)).foldl addType
          table') := by
  induction types generalizing table table' with
  | nil => exact h
  | cons entry types ih =>
      rcases entry with ⟨name, ty⟩
      apply ih
      have hFind := h name
      unfold addType
      dsimp only
      rw [hFind]
      cases table.find? name with
      | none => exact h.insert name ty
      | some known =>
          have hUnion := Ty.unionOf_renameVars ρ [known, ty]
          simp only [List.map_cons, List.map_nil] at hUnion
          simp only [Option.map_some, hUnion]
          exact h.insert name (Ty.unionOf [known, ty])

/- Candidates are reconciled alike under new names. -/
theorem reconcile_renamed
    (strategy : JoinStrategy)
    (c : Candidates) :
    (c.reconcile strategy).1.Renamed ρ
        ((c.renameVars ρ).reconcile strategy).1
      ∧ ((c.renameVars ρ).reconcile strategy).2 =
        (c.reconcile strategy).2.map
          (CallIssue.renameVars ρ) := by
  have hFold
      (specs : List (String × Signature × ArgSource))
      (state state' : SpecSolving)
      (h : state.Renamed ρ state') :
      (specs.foldl (SpecSolving.add strategy) state).Renamed ρ
        ((specs.map fun (v, sig, source) =>
          (ρ.specs v, sig.renameVars ρ, source)).foldl
            (SpecSolving.add strategy) state') := by
    induction specs generalizing state state' with
    | nil => exact h
    | cons entry specs ih =>
        exact ih _ _
          (h.add strategy entry.1 entry.2.1 entry.2.2)
  have hSpecs :=
    hFold c.specs {} {} ⟨Table.renamed_empty, rfl, rfl⟩
  exact ⟨⟨renamed_foldl_addType ρ c.types
    Table.renamed_empty, hSpecs.solved⟩, hSpecs.issues⟩

end Candidates

end SigCheck
