import Mathlib.Data.List.Permutation
import SigCheck.Proofs.JoinOfMany
import SigCheck.Proofs.ExactJoin
import SigCheck.Proofs.JoinSwap

/-
  Joining signatures one after the other.

  Reconciling joins the candidates of a variable in the
  order of the arguments. For two candidates the order does
  not matter. For more it may, unless the lists keep the
  names of their slots: then joining fails in every order,
  or the results bind the same calls.

  Key definitions include:
    * `Signature.joinAll`
    * `ParamList.Keeping`

  Correctness is proven by:
    * `SpecSolving.Follows.add`
    * `Candidates.reconcile_follows`
    * `ParamList.JoinOf.step`
    * `ParamList.JoinOf.run`
    * `Signature.joinAll_eq_none_iff`
    * `Signature.joinAll_perm`
-/

------------------------------------------------------------
-- Reconciling in Order
------------------------------------------------------------

namespace SigCheck

/-
  Join the signatures from left to right. Without any, all
  calls are admitted.
-/
def Signature.joinAll :
    List Signature → Option Signature
  | [] => some .gradual
  | s :: rest => rest.foldlM commonSupertype s

theorem Signature.joinAll_concat
    {seen : List Signature}
    (hSeen : seen ≠ [])
    (s : Signature) :
    joinAll (seen ++ [s]) =
      (joinAll seen).bind (·.commonSupertype s) := by
  cases seen with
  | nil => contradiction
  | cons first rest => simp [joinAll, List.foldlM_append]

/- The candidates for one variable, in their order. -/
def Candidates.proposed
    (specs : List (String × Signature × ArgSource))
    (var : String) : List Signature :=
  (specs.filter (·.1 == var)).map (·.2.1)

/-
  The state of reconciling follows the candidates seen: each
  variable has their join, or the gradual list and an issue.
-/
structure SpecSolving.Follows
    (state : SpecSolving)
    (seen : List (String × Signature × ArgSource)) :
    Prop where
  solved :
    ∀ var, state.solved.find? var =
      if Candidates.proposed seen var = [] then none
      else
        some
          ((Signature.joinAll
            (Candidates.proposed seen var)).getD .gradual)
  failed :
    ∀ var, state.failed.contains var = true ↔
      Signature.joinAll (Candidates.proposed seen var) = none
  quiet : state.issues = [] ↔ state.failed = []

namespace SpecSolving

open Candidates Signature

variable {state : SpecSolving}
variable {seen : List (String × Signature × ArgSource)}

theorem proposed_concat
    (var key : String)
    (sig : Signature)
    (source : ArgSource) :
    proposed (seen ++ [(key, sig, source)]) var =
      if key = var then proposed seen var ++ [sig]
      else proposed seen var := by
  by_cases hKey : key = var <;>
    simp [proposed, List.filter_append, hKey]

/- A variable without a solution has no candidate yet. -/
theorem Follows.proposed_eq_nil
    (h : Follows state seen)
    {key : String}
    (hFound : state.solved.find? key = none) :
    proposed seen key = [] := by
  by_contra hSeen
  have hSolved := h.solved key
  rw [hFound, if_neg hSeen] at hSolved
  cases hSolved

/- A solution that did not fail joins all candidates. -/
theorem Follows.joinAll_eq_some
    (h : Follows state seen)
    {key : String} {current : Signature}
    (hNot : ¬ state.failed.contains key = true)
    (hFound : state.solved.find? key = some current) :
    proposed seen key ≠ [] ∧
      joinAll (proposed seen key) = some current := by
  have hSolved := h.solved key
  rw [hFound] at hSolved
  have hSeen : proposed seen key ≠ [] := by
    intro hEmpty
    rw [if_pos hEmpty] at hSolved
    cases hSolved
  rw [if_neg hSeen] at hSolved
  refine ⟨hSeen, ?_⟩
  cases hJoin : joinAll (proposed seen key) with
  | none => exact absurd ((h.failed key).mpr hJoin) hNot
  | some s =>
      rw [hJoin] at hSolved
      exact hSolved.symm

/- A candidate concerns only the variable it is for. -/
theorem Follows.of_key
    {next : SpecSolving}
    {key : String} {sig : Signature} {source : ArgSource}
    (h : Follows state seen)
    (hOther :
      ∀ var, key ≠ var →
        next.solved.find? var = state.solved.find? var ∧
          next.failed.contains var =
            state.failed.contains var)
    (hSolved :
      next.solved.find? key =
        some
          ((joinAll (proposed seen key ++ [sig])).getD
            .gradual))
    (hFailed :
      next.failed.contains key = true ↔
        joinAll (proposed seen key ++ [sig]) = none)
    (hQuiet : next.issues = [] ↔ next.failed = []) :
    Follows next (seen ++ [(key, sig, source)]) where
  solved var := by
    rw [proposed_concat]
    by_cases hKey : key = var
    · subst hKey
      simpa using hSolved
    · rw [if_neg hKey, (hOther var hKey).1, h.solved]
  failed var := by
    rw [proposed_concat]
    by_cases hKey : key = var
    · subst hKey
      simpa using hFailed
    · rw [if_neg hKey, (hOther var hKey).2, h.failed]
  quiet := hQuiet

/-
  One more candidate is joined to what its variable has,
  unless the variable has failed before.
-/
theorem Follows.add
    (h : Follows state seen)
    (candidate : String × Signature × ArgSource) :
    Follows (add .supertype state candidate)
      (seen ++ [candidate]) := by
  rcases candidate with ⟨key, sig, source⟩
  unfold SpecSolving.add
  dsimp only
  split
  case isTrue hHas =>
    -- A variable that failed has candidates, and keeps its
    -- gradual list.
    have hNone := (h.failed key).mp hHas
    have hSeen : proposed seen key ≠ [] := by
      intro hEmpty
      simp [hEmpty, joinAll] at hNone
    have hStill :
        joinAll (proposed seen key ++ [sig]) = none := by
      rw [joinAll_concat hSeen, hNone, Option.bind_none]
    refine h.of_key (fun _ _ => ⟨rfl, rfl⟩) ?_ ?_ h.quiet
    · rw [h.solved, if_neg hSeen, hNone, hStill]
    · exact iff_of_true hHas hStill
  case isFalse hNot =>
    split
    case h_1 hFound =>
      have hFirst :
          joinAll (proposed seen key ++ [sig]) = some sig := by
        rw [h.proposed_eq_nil hFound]
        rfl
      refine h.of_key (fun var hKey => ⟨?_, rfl⟩) ?_ ?_ h.quiet
      · rw [Table.find?_insert, if_neg hKey]
      · rw [Table.find?_insert, if_pos rfl, hFirst]
        rfl
      · exact iff_of_false hNot (by simp [hFirst])
    case h_2 current hFound =>
      rcases h.joinAll_eq_some hNot hFound with
        ⟨hSeen, hCurrent⟩
      have hNext :
          joinAll (proposed seen key ++ [sig]) =
            JoinStrategy.supertype.apply current sig := by
        rw [joinAll_concat hSeen, hCurrent]
        rfl
      split
      case h_1 joined hJoin =>
        rw [hJoin] at hNext
        refine
          h.of_key (fun var hKey => ⟨?_, rfl⟩) ?_ ?_ h.quiet
        · rw [Table.find?_insert, if_neg hKey]
        · rw [Table.find?_insert, if_pos rfl, hNext]
          rfl
        · exact iff_of_false hNot (by simp [hNext])
      case h_2 hClash =>
        rw [hClash] at hNext
        refine
          h.of_key (fun var hKey => ⟨?_, ?_⟩) ?_ ?_ (by simp)
        · rw [Table.find?_insert, if_neg hKey]
        · simp [Ne.symm hKey]
        · rw [Table.find?_insert, if_pos rfl, hNext]
          rfl
        · simp [hNext]

theorem Follows.foldl
    (h : Follows state seen)
    (rest : List (String × Signature × ArgSource)) :
    Follows (rest.foldl (SpecSolving.add .supertype) state)
      (seen ++ rest) := by
  induction rest generalizing state seen with
  | nil => simpa using h
  | cons candidate rest ih =>
      simpa using ih (h.add candidate)

theorem follows_nil : Follows {} [] where
  solved _ := rfl
  failed _ := by simp [proposed, joinAll]
  quiet := iff_of_true rfl rfl

end SpecSolving

/-
  Reconciling solves each variable to the join of its
  candidates, from left to right, and finds no issue exactly
  if all these joins exist.
-/
theorem Candidates.reconcile_follows
    (candidates : Candidates) :
    (∀ var,
        (candidates.reconcile .supertype).1.specs.find? var =
          if proposed candidates.specs var = [] then none
          else
            some
              ((Signature.joinAll
                (proposed candidates.specs var)).getD
                  .gradual)) ∧
      ((candidates.reconcile .supertype).2 = [] ↔
        ∀ var,
          Signature.joinAll (proposed candidates.specs var) ≠
            none) := by
  have h :=
    SpecSolving.follows_nil.foldl candidates.specs
  rw [List.nil_append] at h
  refine ⟨h.solved, h.quiet.trans ?_⟩
  simp only [ne_eq, ← h.failed, List.contains_iff_mem,
    List.eq_nil_iff_forall_not_mem]

end SigCheck

------------------------------------------------------------
-- Joining One After the Other
------------------------------------------------------------

namespace SigCheck

namespace ParamList

/-
  Declared lists of one type that keep the names of their
  slots.
-/
structure Keeping
    (ty : Ty)
    (lists : List (List Parameter)) : Prop where
  declared : ∀ ps ∈ lists, Declarable ps
  typed : ∀ ps ∈ lists, OfType ty ps
  keeps : KeepsNames lists

/- Each two of the lists have a join. -/
def PairwiseReconcilable
    (lists : List (List Parameter)) : Prop :=
  ∀ ps ∈ lists, ∀ qs ∈ lists,
    Reconcilable (sharedSlots ps qs) ps qs

variable {ty : Ty} {lists others : List (List Parameter)}
variable {join qs : List Parameter}

theorem Keeping.of_subset
    (h : Keeping ty lists)
    (hSubset : others ⊆ lists) : Keeping ty others where
  declared ps hps := h.declared ps (hSubset hps)
  typed ps hps := h.typed ps (hSubset hps)
  keeps := h.keeps.of_subset hSubset

theorem Keeping.wellFormed
    (h : Keeping ty lists) :
    ∀ ps ∈ lists, WellFormed ps :=
  fun ps hps => (h.declared ps hps).toWellFormed

namespace JoinOf

/- Lists that have a join have one for each two of them. -/
theorem pairwiseReconcilable
    (hKeeping : Keeping ty lists)
    (h : JoinOf lists join) : PairwiseReconcilable lists :=
  (hKeeping.keeps.reconcilableAll_iff h.hasSlot
    hKeeping.wellFormed).mp h.reconcilableAll

/-
  Joining in one more list gives the join of all of them, or
  fails as two of them have none.
-/
theorem step
    (hKeeping : Keeping ty (qs :: lists))
    (hWF : WellFormed join)
    (hTyped : OfType ty join)
    (h : JoinOf lists join) :
    (∃ next,
        (Signature.params join).commonSupertype (.params qs) =
            some (.params next) ∧
          WellFormed next ∧ OfType ty next ∧
            JoinOf (qs :: lists) next) ∨
      (Signature.params join).commonSupertype (.params qs) =
          none ∧
        ¬ PairwiseReconcilable (qs :: lists) := by
  have hqsWF := hKeeping.wellFormed qs List.mem_cons_self
  have hqsTyped := hKeeping.typed qs List.mem_cons_self
  by_cases hExists : ∃ parts : JoinParts, parts.Joins join qs
  · left
    rcases hExists with ⟨parts, hParts⟩
    exact
      ⟨parts.list,
        Signature.commonSupertype_params_eq_some_iff.mpr
          ⟨parts, hParts, rfl⟩,
        (hParts.isJoined hWF hqsWF).toWellFormed,
        hParts.ofType hWF hqsWF hTyped hqsTyped,
        h.add hKeeping.declared hKeeping.keeps hWF hParts⟩
  · right
    refine
      ⟨Signature.commonSupertype_params_eq_none_iff.mpr
        hExists, fun hPairs => hExists ?_⟩
    rw [exists_joins_iff_reconcilable hWF hqsWF hTyped
        hqsTyped,
      h.reconcilable_iff_all hKeeping.keeps
        hKeeping.wellFormed hWF,
      hKeeping.keeps.reconcilableAll_iff h.countsSlots_cons
        hKeeping.wellFormed]
    exact hPairs

/-
  Joining in any number of lists gives the join of all of
  them, or fails as two of them have none.
-/
theorem run
    (rest : List (List Parameter))
    (hKeeping : Keeping ty (rest.reverse ++ lists))
    (hWF : WellFormed join)
    (hTyped : OfType ty join)
    (h : JoinOf lists join) :
    (∃ result,
        (rest.map Signature.params).foldlM
              Signature.commonSupertype (.params join) =
            some (.params result) ∧
          WellFormed result ∧
            JoinOf (rest.reverse ++ lists) result) ∨
      (rest.map Signature.params).foldlM
            Signature.commonSupertype (.params join) = none ∧
        ¬ PairwiseReconcilable (rest.reverse ++ lists) := by
  induction rest generalizing lists join with
  | nil => exact Or.inl ⟨join, rfl, hWF, h⟩
  | cons qs rest ih =>
      have hAll :
          (qs :: rest).reverse ++ lists =
            rest.reverse ++ qs :: lists := by simp
      have hSubset :
          qs :: lists ⊆ rest.reverse ++ qs :: lists :=
        List.subset_append_right _ _
      rw [hAll] at hKeeping ⊢
      rw [List.map_cons, List.foldlM_cons]
      rcases h.step (hKeeping.of_subset hSubset) hWF hTyped
        with ⟨next, hNext, hNextWF, hNextTyped, hJoin⟩ |
          ⟨hNone, hNot⟩
      · rw [hNext]
        exact ih hKeeping hNextWF hNextTyped hJoin
      · rw [hNone]
        refine Or.inr ⟨rfl, fun hPairs => hNot ?_⟩
        exact fun ps hps rs hrs =>
          hPairs ps (hSubset hps) rs (hSubset hrs)

end JoinOf

end ParamList

end SigCheck

------------------------------------------------------------
-- Joining in Another Order
------------------------------------------------------------

namespace SigCheck

open ParamList

namespace Signature

variable {ty : Ty}
variable {lists reordered : List (List Parameter)}
variable {ps qs : List Parameter}

/- Joining gives the join of all lists, or two have none. -/
theorem joinAll_cases
    (hLists : lists ≠ [])
    (hKeeping : Keeping ty lists) :
    (∃ result,
        joinAll (lists.map params) = some (params result) ∧
          WellFormed result ∧ JoinOf lists result) ∨
      joinAll (lists.map params) = none ∧
        ¬ PairwiseReconcilable lists := by
  cases lists with
  | nil => contradiction
  | cons first rest =>
      have hMem (ps : List Parameter) :
          ps ∈ rest.reverse ++ [first] ↔
            ps ∈ first :: rest := by
        simp [or_comm]
      have hWF := hKeeping.wellFormed first List.mem_cons_self
      have hTyped := hKeeping.typed first List.mem_cons_self
      have hAll : Keeping ty (rest.reverse ++ [first]) :=
        hKeeping.of_subset fun ps => (hMem ps).mp
      rcases JoinOf.run rest hAll hWF hTyped (.single hWF)
        with ⟨result, hRun, hResult, hJoin⟩ | ⟨hRun, hNot⟩
      · exact
          Or.inl
            ⟨result, hRun, hResult, hJoin.of_mem_iff hMem⟩
      · refine Or.inr ⟨hRun, fun hPairs => hNot ?_⟩
        exact fun ps hps qs hqs =>
          hPairs ps ((hMem ps).mp hps) qs ((hMem qs).mp hqs)

/-
  Where the lists keep their names, joining them all fails
  exactly if joining two of them does.
-/
theorem joinAll_eq_none_iff
    (hKeeping : Keeping ty lists) :
    joinAll (lists.map params) = none ↔
      ∃ ps ∈ lists, ∃ qs ∈ lists,
        (params ps).commonSupertype (params qs) = none := by
  have hPair {ps qs : List Parameter}
      (hps : ps ∈ lists)
      (hqs : qs ∈ lists) :
      (params ps).commonSupertype (params qs) = none ↔
        ¬ Reconcilable (sharedSlots ps qs) ps qs := by
    rw [commonSupertype_params_eq_none_iff,
      exists_joins_iff_reconcilable
        (hKeeping.wellFormed ps hps)
        (hKeeping.wellFormed qs hqs) (hKeeping.typed ps hps)
        (hKeeping.typed qs hqs)]
  have hNot :
      (∃ ps ∈ lists, ∃ qs ∈ lists,
          (params ps).commonSupertype (params qs) = none) ↔
        ¬ PairwiseReconcilable lists := by
    simp only [PairwiseReconcilable, not_forall, exists_prop]
    refine exists_congr fun ps => and_congr_right fun hps => ?_
    exact
      exists_congr fun qs => and_congr_right fun hqs =>
        hPair hps hqs
  rw [hNot]
  by_cases hLists : lists = []
  · simp [hLists, joinAll, PairwiseReconcilable]
  · rcases joinAll_cases hLists hKeeping with
      ⟨result, hRun, -, hJoin⟩ | ⟨hRun, hNone⟩
    · rw [hRun]
      have hPairs := hJoin.pairwiseReconcilable hKeeping
      exact iff_of_false nofun (not_not_intro hPairs)
    · exact iff_of_true hRun hNone

/- Lists that keep their names may be joined in any order. -/
theorem joinAll_rel_of_keeping
    (hKeeping : Keeping ty lists)
    (hPerm : lists.Perm reordered) :
    Option.Rel SameCalls (joinAll (lists.map params))
      (joinAll (reordered.map params)) := by
  have hMem (ps : List Parameter) :
      ps ∈ reordered ↔ ps ∈ lists := hPerm.mem_iff.symm
  have hKeeping' : Keeping ty reordered :=
    hKeeping.of_subset hPerm.symm.subset
  by_cases hLists : lists = []
  · cases hLists
    cases hPerm.nil_eq
    exact .some fun args => Iff.rfl
  · have hReordered : reordered ≠ [] := by
      rintro rfl
      exact hLists hPerm.eq_nil
    have hPairs :
        PairwiseReconcilable reordered ↔
          PairwiseReconcilable lists := by
      simp only [PairwiseReconcilable, hMem]
    rcases joinAll_cases hLists hKeeping with
      ⟨result, hRun, hWF, hJoin⟩ | ⟨hRun, hNot⟩ <;>
      rcases joinAll_cases hReordered hKeeping' with
        ⟨result', hRun', hWF', hJoin'⟩ | ⟨hRun', hNot'⟩
    · rw [hRun, hRun']
      exact
        .some (.of_interchangeable hWF hWF'
          (hJoin.interchangeable (hJoin'.of_mem_iff hMem)))
    · exact
        absurd
          (hPairs.mpr (hJoin.pairwiseReconcilable hKeeping))
          hNot'
    · exact
        absurd
          (hPairs.mp (hJoin'.pairwiseReconcilable hKeeping'))
          hNot
    · rw [hRun, hRun']
      exact .none

/- Two lists may be joined in either order. -/
theorem commonSupertype_rel_swap
    (hps : WellFormed ps)
    (hqs : WellFormed qs) :
    Option.Rel SameCalls
      ((params ps).commonSupertype (params qs))
      ((params qs).commonSupertype (params ps)) := by
  rcases commonSupertype_params_swap hps hqs with
    ⟨ls, rs, hJoin, hSwap, hAgree⟩ | ⟨hJoin, hSwap⟩
  · rw [hJoin, hSwap]
    exact .some hAgree.calls
  · rw [hJoin, hSwap]
    exact .none

/-
  Joining lists of one type in two orders fails in both, or
  the results bind the same calls, if there are at most two
  lists or the lists keep the names of their slots.
-/
theorem joinAll_perm
    (hDeclared : ∀ ps ∈ lists, Declarable ps)
    (hTyped : ∀ ps ∈ lists, OfType ty ps)
    (hOrder : lists.length ≤ 2 ∨ KeepsNames lists)
    (hPerm : lists.Perm reordered) :
    Option.Rel SameCalls (joinAll (lists.map params))
      (joinAll (reordered.map params)) := by
  rcases hOrder with hFew | hKeeps
  · match lists, hFew with
    | [], _ =>
        cases hPerm.nil_eq
        exact .some fun args => Iff.rfl
    | [ps], _ =>
        cases List.singleton_perm.mp hPerm
        exact .some fun args => Iff.rfl
    | [ps, qs], _ =>
        have hPair (ps qs : List Parameter) :
            joinAll ([ps, qs].map params) =
              (params ps).commonSupertype (params qs) := by
          simp [joinAll]
        have hps := hDeclared ps (by simp)
        have hqs := hDeclared qs (by simp)
        rcases List.pair_perm.mp hPerm with rfl | rfl
        · cases joinAll ([ps, qs].map params) with
          | none => exact .none
          | some s => exact .some fun args => Iff.rfl
        · rw [hPair, hPair]
          exact
            commonSupertype_rel_swap hps.toWellFormed
              hqs.toWellFormed
  · exact
      joinAll_rel_of_keeping ⟨hDeclared, hTyped, hKeeps⟩ hPerm

/-
  Two lists name a slot alike that the third one lacks, and
  the third one goes first.
-/
theorem joinAll_perm_rotated :
    let first : List Parameter :=
      [⟨some "x", .positionalOrKeyword, .int, false⟩,
        ⟨some "y", .positionalOrKeyword, .int, true⟩]
    let second : List Parameter :=
      [⟨some "x", .positionalOrKeyword, .int, false⟩,
        ⟨some "y", .positionalOrKeyword, .int, false⟩]
    let third : List Parameter :=
      [⟨some "x", .positionalOrKeyword, .int, false⟩,
        ⟨none, .varKeyword, .int, false⟩]
    (∀ ps ∈ [first, second, third], Declarable ps) ∧
      (∀ ps ∈ [first, second, third], OfType .int ps) ∧
      KeepsNames [first, second, third] ∧
      [first, second, third].Perm [third, first, second] ∧
      Option.Rel SameCalls
        (joinAll ([first, second, third].map params))
        (joinAll ([third, first, second].map params)) := by
  intro first second third
  have hDeclared :
      ∀ ps ∈ [first, second, third], Declarable ps := by
    decide
  have hTyped :
      ∀ ps ∈ [first, second, third], OfType .int ps := by
    simp [OfType, first, second, third]
  have hKeeps : KeepsNames [first, second, third] := by
    decide
  have hPerm :
      ([first, second] ++ [third]).Perm
        ([third] ++ [first, second]) :=
    List.perm_append_comm
  exact
    ⟨hDeclared, hTyped, hKeeps, hPerm,
      joinAll_perm hDeclared hTyped (Or.inr hKeeps) hPerm⟩

/-
  Two lists name their second slots differently, so their
  join takes positions only. Joined with the third list in
  between, there is no second slot to seal the first one.
-/
theorem joinAll_seals_in_one_order :
    let first : List Parameter :=
      [⟨some "x", .positionalOrKeyword, .int, false⟩,
        ⟨some "y", .positionalOrKeyword, .int, true⟩]
    let second : List Parameter :=
      [⟨some "x", .positionalOrKeyword, .int, false⟩,
        ⟨some "z", .positionalOrKeyword, .int, true⟩]
    let third : List Parameter :=
      [⟨some "x", .positionalOrKeyword, .int, false⟩]
    (∀ ps ∈ [first, second, third], Declarable ps) ∧
      (∀ ps ∈ [first, second, third], OfType .int ps) ∧
      [first, second, third].Perm [first, third, second] ∧
      joinAll ([first, second, third].map params) =
        some (params [⟨none, .positionalOnly, .int, false⟩]) ∧
      joinAll ([first, third, second].map params) =
        some (params third) ∧
      ¬ Option.Rel SameCalls
        (joinAll ([first, second, third].map params))
        (joinAll ([first, third, second].map params)) := by
  intro first second third
  let sealed : List Parameter :=
    [⟨none, .positionalOnly, .int, false⟩]
  let byName : CallArgs := { keywords := [("x", .int)] }
  have hSealed :
      joinAll ([first, second, third].map params) =
        some (params sealed) := rfl
  have hNamed :
      joinAll ([first, third, second].map params) =
        some (params third) := rfl
  have hRefused :
      (params sealed).bind byName =
        .error (.unexpectedKeyword "x") := rfl
  have hBound :
      ∃ bound, (params third).bind byName = .ok bound :=
    ⟨_, rfl⟩
  refine
    ⟨by decide, ?_, .cons _ (.swap _ _ _), hSealed, hNamed, ?_⟩
  · simp [OfType, first, second, third]
  · rw [hSealed, hNamed]
    rintro ⟨hSame⟩
    rcases (hSame byName).mpr hBound with ⟨bound, hOk⟩
    rw [hRefused] at hOk
    cases hOk

end Signature

end SigCheck
