import Mathlib.Data.List.Nodup
import Mathlib.Data.List.TakeWhile
import Mathlib.Logic.Equiv.Basic
import SigCheck.Proofs.KeywordMerge
import SigCheck.Proofs.SolvingRenaming
import SigCheck.Proofs.SoundState

/-
  A type that is given fresh names is the type under other
  names: each variable that is rigid changes its place with a
  name that nothing has. What the names stand for stays.

  Key definitions include:
    * `stem`
    * `swapPairs`
    * `FreshPairs`
    * `VarRenaming.Freshens`

  Correctness is proven by:
    * `CheckState.declaredName_eq_stem`
    * `Ty.substitute_eq_renameVars`
    * `CheckState.Sound.instantiate_global`
    * `CheckState.Sound.freshens_instance`
-/

namespace SigCheck

------------------------------------------------------------
-- Stems
------------------------------------------------------------

/- The part of a name in front of the sign of fresh names. -/
def stem (v : String) : String :=
  .ofList (v.toList.takeWhile (· != '@'))

/- A name without the sign is its own stem. -/
theorem stem_of_signless
    {v : String}
    (h : IsSignless v) : stem v = v := by
  have hAll : ∀ c ∈ v.toList, (c != '@') = true := by
    intro c hc
    simp only [bne_iff_ne]
    rintro rfl
    exact h hc
  unfold stem
  rw [List.takeWhile_eq_self_iff.mpr hAll, String.ofList_toList]

/- The stem of a fresh name is its variable. -/
theorem FreshName.IsFresh.stem_name
    {f : FreshName}
    (h : f.IsFresh) : stem f.name = f.var := by
  unfold stem
  rw [takeWhile_name h, String.ofList_toList]

namespace CheckState

variable {s : CheckState}

/- A known name is declared to be its stem. -/
theorem declaredName_eq_stem
    (hFresh : s.HasFresh)
    {v : String}
    (h : s.Knows v) : s.declaredName v = stem v := by
  unfold declaredName
  cases hFind : s.fresh.find? (·.name == v) with
  | some f =>
      have hName := List.find?_some hFind
      rw [beq_iff_eq] at hName
      have hf := hFresh f (List.mem_of_find?_eq_some hFind)
      rw [← hName, hf.stem_name]
      rfl
  | none =>
      rcases h with h | ⟨f, hf, hName⟩
      · rw [stem_of_signless h.plain]
        rfl
      · have hNone := List.find?_eq_none.mp hFind f hf
        rw [hName, beq_self_eq_true] at hNone
        exact absurd rfl hNone

end CheckState

------------------------------------------------------------
-- Swaps
------------------------------------------------------------

/- Let both names of each pair change places. -/
def swapPairs : List (String × String) → Equiv.Perm String
  | [] => Equiv.refl String
  | (v, w) :: pairs => (Equiv.swap v w).trans (swapPairs pairs)

section Swaps

variable {pairs : List (String × String)}

/- Other names stay in their places. -/
theorem swapPairs_of_notMem
    {x : String}
    (hLeft : x ∉ pairs.map (·.1))
    (hRight : x ∉ pairs.map (·.2)) :
    swapPairs pairs x = x := by
  induction pairs with
  | nil => rfl
  | cons pair pairs ih =>
      rcases pair with ⟨v, w⟩
      rw [List.map_cons, List.mem_cons, not_or] at hLeft hRight
      have hSwap : Equiv.swap v w x = x :=
        Equiv.swap_apply_of_ne_of_ne hLeft.1 hRight.1
      rw [swapPairs, Equiv.trans_apply, hSwap]
      exact ih hLeft.2 hRight.2

/- The first name of a pair gets to the second one. -/
theorem swapPairs_of_mem
    (hLeft : (pairs.map (·.1)).Nodup)
    (hRight : (pairs.map (·.2)).Nodup)
    (hApart : ∀ v ∈ pairs.map (·.1), v ∉ pairs.map (·.2))
    {v w : String}
    (h : (v, w) ∈ pairs) : swapPairs pairs v = w := by
  induction pairs with
  | nil => cases h
  | cons pair pairs ih =>
      rcases pair with ⟨a, b⟩
      rw [List.map_cons, List.nodup_cons] at hLeft hRight
      rw [List.map_cons, List.map_cons,
        List.forall_mem_cons] at hApart
      simp only [List.mem_cons, not_or] at hApart
      rw [swapPairs, Equiv.trans_apply]
      rcases List.mem_cons.mp h with hHead | hTail
      · cases hHead
        rw [Equiv.swap_apply_left]
        apply swapPairs_of_notMem _ hRight.1
        intro hw
        exact (hApart.2 w hw).1 rfl
      · have hv := List.mem_map_of_mem (f := (·.1)) hTail
        have hSwap : Equiv.swap a b v = v := by
          apply Equiv.swap_apply_of_ne_of_ne
          · rintro rfl
            exact hLeft.1 hv
          · exact (hApart.2 v hv).1
        rw [hSwap]
        exact
          ih hLeft.2 hRight.2 (fun u hu => (hApart.2 u hu).2)
            hTail

end Swaps

------------------------------------------------------------
-- Replacement as Renaming
------------------------------------------------------------

/- Members stay apart under other names. -/
theorem Ty.AreMembers.renameVars
    {ts : List Ty}
    (h : AreMembers ts)
    (ρ : VarRenaming) :
    AreMembers (ts.map (Ty.renameVars ρ)) where
  several := by
    rw [List.length_map]
    exact h.several
  flat := by
    rw [List.forall_mem_map]
    intro t ht
    rw [flatten_renameVars, h.flat t ht]
    rfl
  given := by
    rw [List.forall_mem_map]
    intro t ht
    have hGiven := h.given t ht
    cases t with
    | any => exact hGiven
    | _ => rfl
  apart := by
    rw [List.pairwise_map]
    refine h.apart.imp ?_
    intro a b hab
    rw [isSubtype_renameVars, isSubtype_renameVars]
    exact hab

/- What is put for the variables are their new names. -/
structure Substitution.Spells
    (subst : Substitution)
    (ρ : VarRenaming)
    (vs : List VarName) : Prop where
  types :
    ∀ v, .type v ∈ vs →
      (subst.types.find? v).getD (.typeVar v) =
        .typeVar (ρ.types v)
  specs :
    ∀ v, .spec v ∈ vs →
      (subst.specs.find? v).getD (.ofVar v) =
        .ofVar (ρ.specs v)

namespace Substitution

variable {subst : Substitution} {ρ : VarRenaming}
variable {vs ws : List VarName}

/- It is so for fewer variables. -/
theorem Spells.mono
    (h : subst.Spells ρ vs)
    (hSub : ∀ v ∈ ws, v ∈ vs) : subst.Spells ρ ws where
  types v hv := h.types v (hSub _ hv)
  specs v hv := h.specs v (hSub _ hv)

theorem Spells.left
    (h : subst.Spells ρ (vs ++ ws)) : subst.Spells ρ vs :=
  h.mono fun _ hv => List.mem_append_left ws hv

theorem Spells.right
    (h : subst.Spells ρ (vs ++ ws)) : subst.Spells ρ ws :=
  h.mono fun _ hv => List.mem_append_right vs hv

end Substitution

section Replace

variable {known : String → Prop}
variable {subst : Substitution} {ρ : VarRenaming}

mutual

/- Putting new names for variables renames the type. -/
theorem Ty.replaceVars_eq_renameVars
    (t : Ty)
    (hNormal : t.Has .normal)
    (h : subst.Spells ρ t.mentions) :
    t.replaceVars subst = t.renameVars ρ := by
  cases t with
  | typeVar name =>
      have hName := h.types name (List.mem_cons_self ..)
      unfold Ty.replaceVars Ty.renameVars
      rw [← hName]
  | list t =>
      exact
        congrArg Ty.list (t.replaceVars_eq_renameVars hNormal h)
  | set t =>
      exact
        congrArg Ty.set (t.replaceVars_eq_renameVars hNormal h)
  | dict k v =>
      exact
        congrArg₂ Ty.dict
          (k.replaceVars_eq_renameVars hNormal.1 h.left)
          (v.replaceVars_eq_renameVars hNormal.2 h.right)
  | tuple ts =>
      exact
        congrArg Ty.tuple
          (Ty.replaceVarsAll_eq_renameVarsAll ts hNormal h)
  | union ts =>
      -- Members under new names are members, so joining
      -- them leaves them as they are.
      have hMembers := hNormal.1.renameVars ρ
      unfold Ty.replaceVars Ty.renameVars
      rw [Ty.replaceVarsAll_eq_renameVarsAll ts hNormal.2 h,
        Ty.renameVarsAll_eq, hMembers.unionOf_eq]
  | generic name args =>
      exact
        congrArg (Ty.generic name)
          (TypeArg.replaceVarsAll_eq_renameVarsAll args
            hNormal.2 h)
  | callable sig ret =>
      exact
        congrArg₂ Ty.callable
          (sig.replaceVars_eq_renameVars hNormal.1 h.left)
          (ret.replaceVars_eq_renameVars hNormal.2 h.right)
  | _ => rfl

/- It renames each of a list of types. -/
theorem Ty.replaceVarsAll_eq_renameVarsAll
    (ts : List Ty)
    (hNormal : Ty.HasAll .normal ts)
    (h : subst.Spells ρ (Ty.mentionsAll ts)) :
    Ty.replaceVarsAll subst ts = Ty.renameVarsAll ρ ts := by
  cases ts with
  | nil => rfl
  | cons t ts =>
      exact
        congrArg₂ List.cons
          (t.replaceVars_eq_renameVars hNormal.1 h.left)
          (Ty.replaceVarsAll_eq_renameVarsAll ts hNormal.2
            h.right)

/- It renames a class argument. -/
theorem TypeArg.replaceVars_eq_renameVars
    (a : TypeArg)
    (hNormal : a.Has .normal)
    (h : subst.Spells ρ a.mentions) :
    a.replaceVars subst = a.renameVars ρ := by
  cases a with
  | type t =>
      exact
        congrArg TypeArg.type
          (t.replaceVars_eq_renameVars hNormal h)
  | params sig =>
      exact
        congrArg TypeArg.params
          (sig.replaceVars_eq_renameVars hNormal h)

/- It renames each of a list of class arguments. -/
theorem TypeArg.replaceVarsAll_eq_renameVarsAll
    (args : List TypeArg)
    (hNormal : TypeArg.HasAll .normal args)
    (h : subst.Spells ρ (TypeArg.mentionsAll args)) :
    TypeArg.replaceVarsAll subst args =
      TypeArg.renameVarsAll ρ args := by
  cases args with
  | nil => rfl
  | cons a args =>
      exact
        congrArg₂ List.cons
          (a.replaceVars_eq_renameVars hNormal.1 h.left)
          (TypeArg.replaceVarsAll_eq_renameVarsAll args
            hNormal.2 h.right)

/- It renames a parameter. -/
theorem Parameter.replaceVars_eq_renameVars
    (p : Parameter)
    (hNormal : p.Has .normal)
    (h : subst.Spells ρ p.mentions) :
    p.replaceVars subst = p.renameVars ρ := by
  cases p with
  | mk name kind ty hasDefault =>
      exact
        congrArg (Parameter.mk name kind · hasDefault)
          (ty.replaceVars_eq_renameVars hNormal.2 h)

/- It renames each of a parameter list. -/
theorem Parameter.replaceVarsAll_eq_renameVarsAll
    (ps : List Parameter)
    (hNormal : Parameter.HasAll .normal ps)
    (h : subst.Spells ρ (Parameter.mentionsAll ps)) :
    Parameter.replaceVarsAll subst ps =
      Parameter.renameVarsAll ρ ps := by
  cases ps with
  | nil => rfl
  | cons p ps =>
      exact
        congrArg₂ List.cons
          (p.replaceVars_eq_renameVars hNormal.1 h.left)
          (Parameter.replaceVarsAll_eq_renameVarsAll ps
            hNormal.2 h.right)

/- It renames a signature. -/
theorem Signature.replaceVars_eq_renameVars
    (sig : Signature)
    (hNormal : sig.Has .normal)
    (h : subst.Spells ρ sig.mentions) :
    sig.replaceVars subst = sig.renameVars ρ := by
  cases sig with
  | gradual => rfl
  | params ps =>
      exact
        congrArg Signature.params
          (Parameter.replaceVarsAll_eq_renameVarsAll ps
            hNormal.2 h)
  | spec lead var =>
      have hLead :=
        Parameter.replaceVarsAll_eq_renameVarsAll lead hNormal.2
          (h.mono fun _ hv => List.mem_cons_of_mem _ hv)
      have hVar := h.specs var (List.mem_cons_self ..)
      unfold Signature.replaceVars Signature.renameVars
      dsimp only
      rw [hLead]
      cases hFind : subst.specs.find? var with
      | none =>
          rw [hFind] at hVar
          have hSame : var = ρ.specs var :=
            (Signature.spec.inj hVar).2
          exact congrArg (Signature.spec _) hSame
      | some sig =>
          rw [hFind] at hVar
          have hSig : sig = .ofVar (ρ.specs var) := hVar
          rw [hSig]
          exact
            congrArg (Signature.spec · (ρ.specs var))
              (List.append_nil _)

end

/- Nothing is put only for variables that keep their names. -/
theorem Ty.substitute_eq_renameVars
    {t : Ty}
    (hUses : t.Uses known)
    (h : subst.Spells ρ t.mentions) :
    t.substitute subst = t.renameVars ρ := by
  unfold Ty.substitute
  split
  · rename_i hEmpty
    rw [Substitution.isEmpty, Bool.and_eq_true,
      Table.isEmpty_iff, Table.isEmpty_iff] at hEmpty
    refine (Ty.renameVars_of_fixed t ?_).symm
    intro v hv
    cases v with
    | type name =>
        have hName := h.types name hv
        rw [hEmpty.1] at hName
        exact congrArg VarName.type (Ty.typeVar.inj hName).symm
    | spec name =>
        have hName := h.specs name hv
        rw [hEmpty.2] at hName
        exact
          congrArg VarName.spec
            (Signature.spec.inj hName).2.symm
  · exact t.replaceVars_eq_renameVars hUses.isNormal h

end Replace

------------------------------------------------------------
-- Fresh Names
------------------------------------------------------------

/-
  The pairs give variables of the program new names that are
  unknown in the first state and fresh ones of the second.
-/
structure FreshPairs
    (s t : CheckState)
    (vars : List String)
    (pairs : List (String × String)) : Prop where
  left : pairs.map (·.1) = vars
  nodup : vars.Nodup
  isName : ∀ v ∈ vars, IsName v
  stem : ∀ pair ∈ pairs, stem pair.2 = pair.1
  unknown : ∀ pair ∈ pairs, ¬ s.Knows pair.2
  known : ∀ pair ∈ pairs, t.Knows pair.2

namespace CheckState

variable {s : CheckState}

/- A numbered name is unknown before its number is given. -/
theorem Sound.not_knows
    (h : s.Sound)
    {v : String} {k : Nat}
    (hName : IsName v)
    (hLater : s.fresh.length < k) :
    ¬ s.Knows (v ++ "@" ++ toString k) := by
  have hFresh := isFresh_of_isName hName k
  rintro (hKnown | ⟨f, hf, hSame⟩)
  · exact hKnown.plain hFresh.mem_name
  · rcases h.numbered f hf with ⟨j, hj, hNumber⟩
    have hVar : f.var = v :=
      (h.fresh f hf).var_eq hFresh hSame
    rw [hNumber, hVar] at hSame
    have hText : toString j = toString k :=
      (String.append_right_inj _).mp hSame
    have hDigits : Nat.toDigits 10 j = Nat.toDigits 10 k :=
      String.ofList_injective hText
    have hEq : j = k := by
      rw [← Nat.ofDigitChars_toDigits (n := j)
          (by decide : 1 < 10) (by decide),
        hDigits,
        Nat.ofDigitChars_toDigits (by decide) (by decide)]
    omega

/- Fresh names are given to variables of the program. -/
theorem Sound.freshPairs
    (h : s.Sound)
    {vars : List String}
    (hVars : ∀ v ∈ vars, IsName v)
    (hNodup : vars.Nodup) :
    FreshPairs s (s.freshNames vars).2 vars
      (s.freshNames vars).1 := by
  have hKnown := (h.freshNames hVars).2
  induction vars generalizing s with
  | nil =>
      exact
        ⟨rfl, hNodup, hVars, List.forall_mem_nil _,
          List.forall_mem_nil _, hKnown⟩
  | cons v vars ih =>
      have hNames := List.forall_mem_cons.mp hVars
      have hBefore := s.before_freshNames [v]
      have hOne : (s.freshName v).2.Sound :=
        (h.freshNames
          (List.forall_mem_singleton.mpr hNames.1)).1
      have hRest :=
        ih hOne hNames.2 (List.nodup_cons.mp hNodup).2
          (hOne.freshNames hNames.2).2
      refine
        ⟨congrArg (v :: ·) hRest.left, hNodup, hVars,
          List.forall_mem_cons.mpr ⟨?_, hRest.stem⟩,
          List.forall_mem_cons.mpr ⟨?_, ?_⟩, hKnown⟩
      · exact (isFresh_of_isName hNames.1 _).stem_name
      · exact h.not_knows hNames.1 (Nat.lt_succ_self _)
      · intro pair hPair hKnows
        exact
          hRest.unknown pair hPair (hBefore.knows _ hKnows)

end CheckState

namespace FreshPairs

variable {s t u : CheckState} {vars : List String}
variable {pairs : List (String × String)}

/- They are so seen from further states. -/
theorem widen
    (h : FreshPairs s t vars pairs)
    {s' t' : CheckState}
    (hFirst : s'.Before s)
    (hLast : t.Before t') : FreshPairs s' t' vars pairs where
  left := h.left
  nodup := h.nodup
  isName := h.isName
  stem := h.stem
  unknown pair hPair hKnown :=
    h.unknown pair hPair (hFirst.knows _ hKnown)
  known pair hPair := hLast.knows _ (h.known pair hPair)

/- Each new name is given once. -/
theorem nodup_right
    (h : FreshPairs s t vars pairs) :
    (pairs.map (·.2)).Nodup := by
  have hStems :
      (pairs.map (·.2)).map SigCheck.stem = vars := by
    rw [List.map_map, ← h.left]
    exact List.map_congr_left h.stem
  apply List.Nodup.of_map SigCheck.stem
  rw [hStems]
  exact h.nodup

/- New names are no names of the program. -/
theorem notMem_right
    (h : FreshPairs s t vars pairs)
    {v : String}
    (hv : s.Knows v) : v ∉ pairs.map (·.2) := by
  intro hMem
  rcases List.mem_map.mp hMem with ⟨pair, hPair, rfl⟩
  exact h.unknown pair hPair hv

/- A variable of a pair gets to its new name. -/
theorem swapPairs_of_mem
    (h : FreshPairs s t vars pairs)
    {v w : String}
    (hMem : (v, w) ∈ pairs) : swapPairs pairs v = w := by
  apply SigCheck.swapPairs_of_mem _ h.nodup_right _ hMem
  · rw [h.left]
    exact h.nodup
  · rw [h.left]
    intro u hu
    exact
      h.notMem_right
        (CheckState.knows_of_isName (h.isName u hu))

/- A known name of no pair stays as it is. -/
theorem swapPairs_of_notMem
    (h : FreshPairs s t vars pairs)
    {v : String}
    (hv : s.Knows v)
    (hNot : v ∉ vars) : swapPairs pairs v = v := by
  apply SigCheck.swapPairs_of_notMem _ (h.notMem_right hv)
  rw [h.left]
  exact hNot

/- Known names stay known, and keep their stems. -/
theorem knows_swapPairs
    (h : FreshPairs s t vars pairs)
    (hBefore : s.Before t)
    {v : String}
    (hv : s.Knows v) :
    t.Knows (swapPairs pairs v) ∧
      SigCheck.stem (swapPairs pairs v) =
        SigCheck.stem v := by
  by_cases hMem : v ∈ vars
  · have hPlain := (h.isName v hMem).plain
    rw [← h.left] at hMem
    rcases List.mem_map.mp hMem with ⟨⟨v, w⟩, hPair, rfl⟩
    rw [h.swapPairs_of_mem hPair, stem_of_signless hPlain]
    exact ⟨h.known _ hPair, h.stem _ hPair⟩
  · rw [h.swapPairs_of_notMem hv hMem]
    exact ⟨hBefore.knows v hv, rfl⟩

section Held

variable {vs held : List String}
variable
  (h : FreshPairs s t (vs.filter (held.contains ·)) pairs)

include h

/- A name that is not held rigid stays as it is. -/
theorem swapPairs_of_free
    {v : String}
    (hv : s.Knows v)
    (hFree : held.contains v = false) :
    swapPairs pairs v = v := by
  apply h.swapPairs_of_notMem hv
  intro hMem
  rw [List.mem_filter, hFree] at hMem
  cases hMem.2

/- Afterwards none of the names is held rigid. -/
theorem contains_swapPairs
    (hHeld : ∀ v ∈ held, IsName v)
    {v : String}
    (hv : s.Knows v)
    (hMem : v ∈ vs) :
    held.contains (swapPairs pairs v) = false := by
  cases hContains : held.contains v with
  | false => rw [h.swapPairs_of_free hv hContains, hContains]
  | true =>
      have hVar := List.mem_filter.mpr ⟨hMem, hContains⟩
      rw [← h.left] at hVar
      rcases List.mem_map.mp hVar with ⟨⟨v, w⟩, hPair, rfl⟩
      rw [h.swapPairs_of_mem hPair, Bool.eq_false_iff]
      intro hNew
      have hName := hHeld w (List.contains_iff_mem.mp hNew)
      exact
        h.unknown _ hPair (CheckState.knows_of_isName hName)

end Held

end FreshPairs

------------------------------------------------------------
-- Instances of Types
------------------------------------------------------------

/- A known name is put under its new name. -/
theorem FreshPairs.getD_find?
    {α : Type}
    {s t : CheckState} {vars : List String}
    {pairs : List (String × String)}
    (h : FreshPairs s t vars pairs)
    (put : String → α)
    {v : String}
    (hv : s.Knows v) :
    ((Table.ofPairs
      (pairs.map fun (v, w) => (v, put w))).find? v).getD
        (put v) = put (swapPairs pairs v) := by
  cases hFind :
      (Table.ofPairs
        (pairs.map fun (v, w) => (v, put w))).find? v with
  | some found =>
      have hMem := Table.mem_of_find?_ofPairs hFind
      rcases List.mem_map.mp hMem with
        ⟨⟨a, w⟩, hPair, hSame⟩
      cases hSame
      rw [h.swapPairs_of_mem hPair]
      rfl
  | none =>
      have hNot := Table.notMem_of_find?_ofPairs hFind
      rw [List.map_map] at hNot
      have hLeft : v ∉ vars := by
        rw [← h.left]
        exact hNot
      rw [h.swapPairs_of_notMem hv hLeft]
      rfl

/-
  The renaming gives variables that are rigid in the first
  state names that are fresh in the second one. Of the listed
  variables none is rigid any more.
-/
structure VarRenaming.Freshens
    (ρ : VarRenaming)
    (s t : CheckState)
    (vs : List VarName) : Prop where
  free : ∀ v ∈ vs, s.rigid.holds (ρ.apply v) = false
  fixed :
    ∀ v : VarName, s.Knows v.text →
      s.rigid.holds v = false → ρ.apply v = v
  types :
    ∀ v, s.Knows v →
      t.Knows (ρ.types v) ∧ stem (ρ.types v) = stem v
  specs :
    ∀ v, s.Knows v →
      t.Knows (ρ.specs v) ∧ stem (ρ.specs v) = stem v

namespace CheckState

/- The names for rigid type variables of a type. -/
def freshTypes
    (s : CheckState)
    (ty : Ty) : List (String × String) × CheckState :=
  s.freshNames
    (ty.typeVars.filter (s.rigid.types.contains ·))

/- The names for rigid parameter specifications of a type. -/
def freshSpecs
    (s : CheckState)
    (ty : Ty) : List (String × String) × CheckState :=
  (s.freshTypes ty).2.freshNames
    (ty.specVars.filter (s.rigid.specs.contains ·))

/- What a type of the module is renamed by at its use. -/
def freshRenaming (s : CheckState) (ty : Ty) : VarRenaming where
  types := swapPairs (s.freshTypes ty).1
  specs := swapPairs (s.freshSpecs ty).1

variable {s : CheckState}

/- Of any names those that are held rigid get fresh ones. -/
theorem Sound.freshPairs_filter
    (h : s.Sound)
    {held : List String}
    (vs : List String)
    (hNodup : vs.Nodup)
    (hHeld : ∀ v ∈ held, IsName v) :
    (s.freshNames (vs.filter (held.contains ·))).2.Sound ∧
      FreshPairs s
        (s.freshNames (vs.filter (held.contains ·))).2
        (vs.filter (held.contains ·))
        (s.freshNames (vs.filter (held.contains ·))).1 := by
  have hNames :
      ∀ v ∈ vs.filter (held.contains ·), IsName v := by
    intro v hv
    have hContains := (List.mem_filter.mp hv).2
    exact hHeld v (List.contains_iff_mem.mp hContains)
  exact
    ⟨(h.freshNames hNames).1,
      h.freshPairs hNames (hNodup.filter _)⟩

/- Both kinds of variables get fresh names. -/
theorem Sound.freshPairs_instance
    (h : s.Sound)
    (ty : Ty) :
    FreshPairs s (s.freshSpecs ty).2
        (ty.typeVars.filter (s.rigid.types.contains ·))
        (s.freshTypes ty).1 ∧
      FreshPairs s (s.freshSpecs ty).2
        (ty.specVars.filter (s.rigid.specs.contains ·))
        (s.freshSpecs ty).1 := by
  have hRigid := h.isName_of_rigid
  have hTypes :=
    h.freshPairs_filter ty.typeVars (nodup_eraseDups _)
      hRigid.1
  have hSpecs :=
    hTypes.1.freshPairs_filter ty.specVars
      (nodup_eraseDups _) hRigid.2
  exact
    ⟨hTypes.2.widen (.refl s) (before_freshNames _ _),
      hSpecs.2.widen (s.before_freshNames _) (.refl _)⟩

/- A type of module level is used under fresh names. -/
theorem Sound.instantiate_global
    (h : s.Sound)
    {ty : Ty}
    (hTy : ty.Uses s.Knows) :
    s.instantiate ty [] =
      (ty.renameVars (s.freshRenaming ty),
        (s.freshSpecs ty).2) := by
  rcases h.freshPairs_instance ty with ⟨hTypes, hSpecs⟩
  have hSpells :
      Substitution.Spells
        ⟨.ofPairs ((s.freshTypes ty).1.map
            fun (v, w) => (v, .typeVar w)),
          .ofPairs ((s.freshSpecs ty).1.map
            fun (v, w) => (v, .ofVar w))⟩
        (s.freshRenaming ty) ty.mentions :=
    ⟨fun v hv => hTypes.getD_find? _ (hTy.known_of_mem hv),
      fun v hv => hSpecs.getD_find? _ (hTy.known_of_mem hv)⟩
  -- Around the definition nothing is held rigid.
  have hOuter : Scope.rigidOf [] = {} := rfl
  have hHeld (held : List String) :
      (fun v => held.contains v &&
        !([] : List String).contains v) =
        fun v => held.contains v := by
    funext v
    exact Bool.and_true _
  rw [← Ty.substitute_eq_renameVars hTy hSpells]
  unfold CheckState.instantiate
  simp only [hOuter, hHeld]
  rfl

/- Its variables are free where it is used. -/
theorem Sound.freshens_instance
    (h : s.Sound)
    {ty : Ty}
    (hTy : ty.Uses s.Knows) :
    (s.freshRenaming ty).Freshens s (s.freshSpecs ty).2
      ty.mentions := by
  have hRigid := h.isName_of_rigid
  have hBefore : s.Before (s.freshSpecs ty).2 :=
    (s.before_freshNames _).trans (before_freshNames _ _)
  rcases h.freshPairs_instance ty with ⟨hTypes, hSpecs⟩
  constructor
  · intro v hv
    have hKnown := hTy.known_of_mem hv
    cases v with
    | type name =>
        exact
          hTypes.contains_swapPairs hRigid.1 hKnown
            (Ty.mem_typeVars_iff.mpr hv)
    | spec name =>
        exact
          hSpecs.contains_swapPairs hRigid.2 hKnown
            (Ty.mem_specVars_iff.mpr hv)
  · intro v hKnown hFree
    cases v with
    | type name =>
        exact
          congrArg VarName.type
            (hTypes.swapPairs_of_free hKnown hFree)
    | spec name =>
        exact
          congrArg VarName.spec
            (hSpecs.swapPairs_of_free hKnown hFree)
  · exact fun v hv => hTypes.knows_swapPairs hBefore hv
  · exact fun v hv => hSpecs.knows_swapPairs hBefore hv

end CheckState

end SigCheck
