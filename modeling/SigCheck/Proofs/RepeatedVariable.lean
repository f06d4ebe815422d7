import SigCheck.Proofs.BindingRule
import SigCheck.Proofs.Solution
import SigCheck.Proofs.Transitivity
import SigCheck.Proofs.UnionSubtyping

/-
  Arguments that share one type variable.

  The variable is solved to the union of the argument types,
  and each argument is then checked against that union. The
  check may fail for an argument that is a union itself, or
  where `Any` inside the types makes the pruning of the union
  drop the only member that took an argument.

  Key definitions include:
    * `Ty.solution`
    * `Ty.Orderly`
    * `Ty.Covers`

  Correctness is proven by:
    * `Candidates.find?_foldl_addType`
    * `Ty.covers_solution`
    * `inferCall_eq_of_repeated`
    * `inferCall_repeatedVar`
-/

------------------------------------------------------------
-- The Solution of a Variable
------------------------------------------------------------

namespace SigCheck

namespace Ty

/-
  What the candidates of a type variable are joined to, in
  their order. `Any` is the default of a variable without
  candidates.
-/
def solution : List Ty → Ty
  | [] => .any
  | t :: ts => ts.foldl (fun s t => unionOf [s, t]) t

end Ty

namespace Candidates

/- Further candidates are joined to what is known. -/
theorem foldl_addOwn_some
    (known : Ty)
    (ts : List Ty) :
    ts.foldl addOwn (some known) =
      some (ts.foldl (fun s t => Ty.unionOf [s, t]) known) := by
  induction ts generalizing known with
  | nil => rfl
  | cons t ts ih => exact ih (Ty.unionOf [known, t])

/- The candidates of one variable give its solution. -/
theorem find?_foldl_addType
    (name : String)
    (ts : List Ty) :
    (((ts.map (name, ·)).foldl addType ∅).find?
        name).getD .any =
      Ty.solution ts := by
  have hOwn :
      ((ts.map (name, ·)).filter (·.1 == name)).map (·.2) =
        ts := by
    simp [List.filter_map, Function.comp_def]
  rw [find?_foldl_addType_filter, hOwn, Table.find?_empty]
  cases ts with
  | nil => rfl
  | cons t ts =>
      rw [List.foldl_cons, addOwn, foldl_addOwn_some]
      rfl

end Candidates

theorem Candidates.append_def (a b : Candidates) :
    a ++ b = ⟨a.types ++ b.types, a.specs ++ b.specs⟩ :=
  rfl

variable {rigid : RigidVars} {var : String}

/- An argument for a free variable is its candidate. -/
theorem Ty.collect_typeVar
    (hFree : var ∉ rigid.types)
    (source : ArgSource)
    (a : Ty) :
    Ty.collect rigid source (.typeVar var) a =
      if a.isAny then {} else ⟨[(var, a)], []⟩ := by
  cases a <;> simp [Ty.collect, Ty.isAny, hFree]

/- Arguments for one variable are all of its candidates. -/
theorem foldl_collect_typeVar
    (hFree : var ∉ rigid.types)
    {bound : List BoundArg}
    (hParams : ∀ b ∈ bound, b.param.ty = .typeVar var)
    (found : Candidates) :
    bound.foldl
        (fun found arg =>
          found
            ++ Ty.collect rigid arg.source arg.param.ty
              arg.arg)
        found =
      ⟨found.types
          ++ ((bound.map (·.arg)).filter (!·.isAny)).map
            (var, ·),
        found.specs⟩ := by
  induction bound generalizing found with
  | nil => simp
  | cons b bound ih =>
      rcases List.forall_mem_cons.mp hParams with
        ⟨hb, hRest⟩
      rw [List.foldl_cons, ih hRest, hb,
        Ty.collect_typeVar hFree, List.map_cons]
      cases hAny : b.arg.isAny with
      | true =>
          rw [List.filter_cons_of_neg (by simp [hAny])]
          simp [Candidates.append_def]
      | false =>
          rw [List.filter_cons_of_pos (by simp [hAny])]
          simp [Candidates.append_def]

end SigCheck

------------------------------------------------------------
-- Calls by Position
------------------------------------------------------------

namespace SigCheck

namespace Binding

variable {ps : List Parameter}

theorem positionalSlots_of_isPositional
    (hKinds : ∀ p ∈ ps, p.kind.isPositional = true) :
    positionalSlots ps = slots ps :=
  List.filter_eq_self.mpr fun slot hSlot =>
    hKinds slot.2 (mem_of_mem_slots hSlot)

/- Each position of a positional list has its own place. -/
theorem placePositional?_of_isPositional
    (hKinds : ∀ p ∈ ps, p.kind.isPositional = true)
    {index : Nat}
    (h : index < ps.length) :
    placePositional? ps index = some (index, ps[index]) := by
  rw [placePositional?,
    positionalSlots_of_isPositional hKinds]
  simp [slots, h]

theorem placePositionals_of_isPositional
    (hKinds : ∀ p ∈ ps, p.kind.isPositional = true)
    (total first : Nat)
    {args : List Ty}
    (hRoom : first + args.length ≤ ps.length) :
    ∃ bound,
      placePositionals ps total first args = .ok bound ∧
        bound.map (·.arg) = args := by
  induction args generalizing first with
  | nil => exact ⟨[], rfl, rfl⟩
  | cons arg args ih =>
      rw [List.length_cons] at hRoom
      rcases ih (first + 1) (by omega) with
        ⟨rest, hRest, hArgs⟩
      refine
        ⟨⟨ps[first], ps[first].label first, arg,
          .positional first⟩ :: rest, ?_, ?_⟩
      · rw [placePositionals,
          placePositional?_of_isPositional hKinds (by omega)]
        simp only [hRest]
        rfl
      · rw [List.map_cons, hArgs]

/- A positional list takes one argument for each place. -/
theorem bindParams_of_isPositional
    (hKinds : ∀ p ∈ ps, p.kind.isPositional = true)
    {args : List Ty}
    (hLength : args.length = ps.length) :
    ∃ bound,
      bindParams ps { positional := args } = .ok bound ∧
        bound.map (·.arg) = args := by
  have hRoom : 0 + args.length ≤ ps.length := by omega
  rcases placePositionals_of_isPositional hKinds args.length
    0 hRoom with ⟨bound, hBound, hArgs⟩
  refine ⟨bound, ?_, hArgs⟩
  rw [bindParams_eq_ok_iff_passes]
  refine ⟨bound, [], _, hBound, rfl, ?_, by simp⟩
  -- Every place is among those that the positions fill.
  rw [missing_eq_nil_iff ⟨rfl, rfl⟩]
  intro place p hSlot _
  have hAll : (slots ps).take args.length = slots ps := by
    rw [List.take_of_length_le]
    simp [slots, hLength]
  rw [positionalSlots_of_isPositional hKinds, hAll]
  exact
    List.mem_map.mpr ⟨(place, p), mem_slots.mpr hSlot, rfl⟩

end Binding

end SigCheck

------------------------------------------------------------
-- Alternatives of a Union
------------------------------------------------------------

namespace SigCheck

namespace Ty

/-
  The types are alternatives among which two comparisons
  always compose.
-/
structure Orderly (ts : List Ty) : Prop where
  alternative : ∀ t ∈ ts, t.isAlternative = true
  trans :
    ∀ a ∈ ts, ∀ b ∈ ts, ∀ c ∈ ts,
      a.isSubtype b = true → b.isSubtype c = true →
        a.isSubtype c = true

/- Definite alternatives are orderly. -/
theorem Orderly.of_isDefinite
    {ts : List Ty}
    (h :
      ∀ t ∈ ts,
        t.isAlternative = true ∧ t.isDefinite = true) :
    Orderly ts :=
  ⟨fun t ht => (h t ht).1,
    fun _ _ b hb _ _ => isSubtype_trans (h b hb).2⟩

/-
  The members are among some alternatives, and one of them
  is above each alternative seen so far.
-/
structure Covers
    (all seen members : List Ty) : Prop where
  subset : members ⊆ all
  above :
    ∀ t ∈ seen, ∃ m ∈ members, t.isSubtype m = true

section Covers

variable {all seen members ts : List Ty} {s t : Ty}

/- A new member covers itself and what it drops. -/
theorem Covers.add
    (hOrder : Orderly all)
    (hSeen : seen ⊆ all)
    (h : Covers all seen members)
    (ht : t ∈ all) :
    Covers all (seen ++ [t]) (addMember members t) := by
  unfold addMember
  split
  · rename_i hCovered
    rcases List.any_eq_true.mp hCovered with ⟨m, hm, hLe⟩
    refine
      ⟨h.subset, List.forall_mem_append.mpr ⟨h.above, ?_⟩⟩
    exact List.forall_mem_singleton.mpr ⟨m, hm, hLe⟩
  · refine ⟨?_, List.forall_mem_append.mpr ⟨?_, ?_⟩⟩
    · refine
        List.append_subset.mpr
          ⟨fun m hm => h.subset (List.mem_of_mem_filter hm), ?_⟩
      exact List.cons_subset.mpr ⟨ht, List.nil_subset all⟩
    · intro u hu
      rcases h.above u hu with ⟨m, hm, hLe⟩
      cases hDropped : m.isSubtype t with
      | true =>
          refine ⟨t, by simp, ?_⟩
          exact
            hOrder.trans u (hSeen hu) m (h.subset hm) t ht hLe
              hDropped
      | false =>
          refine ⟨m, List.mem_append_left _ ?_, hLe⟩
          exact List.mem_filter.mpr ⟨hm, by simp [hDropped]⟩
    · exact
        List.forall_mem_singleton.mpr
          ⟨t, by simp, isSubtype_refl t⟩

/- So do several new members. -/
theorem Covers.addAll
    (hOrder : Orderly all)
    (hSeen : seen ⊆ all)
    (h : Covers all seen members)
    (hts : ts ⊆ all) :
    Covers all (seen ++ ts) (ts.foldl addMember members) := by
  induction ts generalizing seen members with
  | nil => simpa using h
  | cons t ts ih =>
      rcases List.cons_subset.mp hts with ⟨ht, hRest⟩
      have hStep := h.add hOrder hSeen ht
      have hMore : seen ++ [t] ⊆ all :=
        List.append_subset.mpr
          ⟨hSeen, List.cons_subset.mpr ⟨ht, by simp⟩⟩
      have hAll := ih hMore hStep hRest
      rwa [List.append_assoc, List.singleton_append] at hAll

/- A list of alternatives comes back from its union. -/
theorem flatten_ofMembers
    (h : ∀ m ∈ members, m.isAlternative = true) :
    (ofMembers members).flatten = members := by
  match members with
  | [] => rfl
  | [m] =>
      have hm := h m (by simp)
      cases m <;> first | rfl | cases hm
  | _ :: _ :: _ => rfl

/- The union of two types covers what they cover. -/
theorem Covers.union
    (hOrder : Orderly all)
    (hSeen : seen ⊆ all)
    (hs : Covers all seen s.flatten)
    (ht : t.flatten ⊆ all) :
    Covers all (seen ++ t.flatten)
      (unionOf [s, t]).flatten := by
  have hBoth : s.flatten ++ t.flatten ⊆ all :=
    List.append_subset.mpr ⟨hs.subset, ht⟩
  have hNew :
      Covers all (s.flatten ++ t.flatten)
        ((s.flatten ++ t.flatten).foldl addMember []) := by
    have hEmpty : Covers all [] [] := ⟨by simp, by simp⟩
    exact hEmpty.addAll hOrder (by simp) hBoth
  have hAny : (s.flatten ++ t.flatten).any isAny = false := by
    refine List.any_eq_false.mpr fun m hm hIsAny => ?_
    have hAlternative := hOrder.alternative m (hBoth hm)
    rw [isAny_iff.mp hIsAny] at hAlternative
    cases hAlternative
  have hUnion :
      (unionOf [s, t]).flatten =
        (s.flatten ++ t.flatten).foldl addMember [] := by
    rw [unionOf, List.flatMap_cons, List.flatMap_cons,
      List.flatMap_nil, List.append_nil, hAny]
    exact
      flatten_ofMembers fun m hm =>
        hOrder.alternative m (hNew.subset hm)
  rw [hUnion]
  refine
    ⟨hNew.subset, List.forall_mem_append.mpr ⟨?_, ?_⟩⟩
  · intro u hu
    rcases hs.above u hu with ⟨v, hv, hLe⟩
    have hLeft := List.mem_append_left t.flatten hv
    rcases hNew.above v hLeft with ⟨m, hm, hLe'⟩
    refine ⟨m, hm, ?_⟩
    exact
      hOrder.trans u (hSeen hu) v (hs.subset hv) m
        (hNew.subset hm) hLe hLe'
  · intro u hu
    exact hNew.above u (List.mem_append_right _ hu)

/- So does the union of any number of types. -/
theorem Covers.unions
    (hOrder : Orderly all)
    (hSeen : seen ⊆ all)
    (hs : Covers all seen s.flatten)
    (hts : ts.flatMap flatten ⊆ all) :
    Covers all (seen ++ ts.flatMap flatten)
      (ts.foldl (fun s t => unionOf [s, t]) s).flatten := by
  induction ts generalizing seen s with
  | nil => simpa using hs
  | cons t ts ih =>
      rw [List.flatMap_cons] at hts ⊢
      rcases List.append_subset.mp hts with ⟨ht, hRest⟩
      have hStep := hs.union hOrder hSeen ht
      have hMore : seen ++ t.flatten ⊆ all :=
        List.append_subset.mpr ⟨hSeen, ht⟩
      rw [← List.append_assoc]
      exact ih hMore hStep hRest

/- The solution covers the alternatives of all candidates. -/
theorem covers_solution
    (hOrder : Orderly (ts.flatMap flatten))
    (hNonempty : ts ≠ []) :
    Covers (ts.flatMap flatten) (ts.flatMap flatten)
      (solution ts).flatten := by
  cases ts with
  | nil => exact absurd rfl hNonempty
  | cons t ts =>
      rw [List.flatMap_cons] at hOrder ⊢
      have hFirst :
          Covers (t.flatten ++ ts.flatMap flatten) t.flatten
            t.flatten :=
        ⟨by simp, fun u hu => ⟨u, hu, isSubtype_refl u⟩⟩
      exact hFirst.unions hOrder (by simp) (by simp)

end Covers

end Ty

end SigCheck

------------------------------------------------------------
-- Checking against the Solution
------------------------------------------------------------

namespace SigCheck

namespace Ty

variable {a m s : Ty} {members : List Ty}

/- What an alternative takes, its union takes. -/
theorem isSubtype_of_mem_flatten
    (hm : m ∈ s.flatten)
    (h : a.isSubtype m = true) : a.isSubtype s = true := by
  cases s with
  | union members => exact isSubtype_union_of_mem hm h
  | never => cases hm
  | _ =>
      rw [List.mem_singleton.mp hm] at h
      exact h

/-
  A union of alternatives is below a union of alternatives
  exactly if the two are the same, or one alternative takes
  all of its members.
-/
theorem union_isSubtype_iff_takesEach
    (hs : ∀ c ∈ s.flatten, c.isAlternative = true)
    (hMembers : ∀ t ∈ members, t.isAlternative = true)
    (hNonempty : members ≠ []) :
    (union members).isSubtype s = true ↔
      s = .union members ∨
        ∃ c ∈ s.flatten, c.TakesEach members := by
  constructor
  · intro h
    rcases exists_offered_of_union_isSubtype h with
      ⟨c, hOffers, hc⟩
    cases hOffers with
    | self =>
        rcases hc with rfl | ⟨hNone, hTakes⟩
        · exact Or.inl rfl
        · refine Or.inr ⟨s, ?_, hTakes⟩
          cases s with
          | union bs => exact absurd rfl (hNone bs)
          | never =>
              rcases List.exists_mem_of_ne_nil _ hNonempty
                with ⟨t, ht⟩
              have hBelow := hTakes t ht
              rw [not_isSubtype_never (hMembers t ht)]
                at hBelow
              cases hBelow
          | _ => exact List.mem_singleton_self _
    | member hMem hOffers =>
        have hNone :=
          ne_union_of_isAlternative (hs _ hMem)
        cases hOffers with
        | member _ _ => exact absurd rfl (hNone _)
        | self =>
            rcases hc with hSame | ⟨-, hTakes⟩
            · exact absurd hSame (hNone members)
            · exact Or.inr ⟨_, hMem, hTakes⟩
  · rintro (rfl | ⟨c, hc, hTakes⟩)
    · exact isSubtype_refl _
    · refine isSubtype_of_mem_flatten hc ?_
      exact
        (union_isSubtype_iff_forall
          (ne_union_of_isAlternative (hs c hc))).mpr hTakes

/- A union without members is below any alternatives. -/
theorem union_nil_isSubtype
    (hs : ∀ c ∈ s.flatten, c.isAlternative = true) :
    (union []).isSubtype s = true := by
  have hBelow (c : Ty) (hc : ∀ bs, c ≠ .union bs) :
      (union []).isSubtype c = true :=
    (union_isSubtype_iff_forall hc).mpr (by simp)
  by_cases hUnion : ∃ bs, s = .union bs
  · rcases hUnion with ⟨bs, rfl⟩
    cases bs with
    | nil => exact isSubtype_refl _
    | cons c bs =>
        have hc : c ∈ (union (c :: bs)).flatten :=
          List.mem_cons_self
        exact
          isSubtype_of_mem_flatten hc
            (hBelow c (ne_union_of_isAlternative (hs c hc)))
  · exact hBelow s (not_exists.mp hUnion)

/-
  Every candidate that is no union is below the solution. A
  union is so if the solution keeps it, or one alternative
  takes all of its members.
-/
theorem isSubtype_solution_iff
    {ts : List Ty}
    (hOrder : Orderly (ts.flatMap flatten)) :
    (∀ t ∈ ts, t.isSubtype (solution ts) = true) ↔
      ∀ members, .union members ∈ ts → members ≠ [] →
        solution ts = .union members ∨
          ∃ c ∈ (solution ts).flatten,
            c.TakesEach members := by
  by_cases hEmpty : ts = []
  · subst hEmpty
    simp
  have hCovers := covers_solution hOrder hEmpty
  have hSolution :
      ∀ c ∈ (solution ts).flatten, c.isAlternative = true :=
    fun c hc => hOrder.alternative c (hCovers.subset hc)
  have hFlat {t u : Ty} (ht : t ∈ ts) (hu : u ∈ t.flatten) :
      u ∈ ts.flatMap flatten :=
    List.mem_flatMap.mpr ⟨t, ht, hu⟩
  have hMembers {members : List Ty}
      (ht : .union members ∈ ts) :
      ∀ u ∈ members, u.isAlternative = true :=
    fun u hu =>
      hOrder.alternative u (hFlat (t := .union members) ht hu)
  constructor
  · intro h members ht hNonempty
    exact
      (union_isSubtype_iff_takesEach hSolution (hMembers ht)
        hNonempty).mp (h _ ht)
  · intro h t ht
    cases t with
    | any => exact any_isSubtype _
    | never => exact never_isSubtype _
    | union members =>
        by_cases hNonempty : members = []
        · subst hNonempty
          exact union_nil_isSubtype hSolution
        · exact
            (union_isSubtype_iff_takesEach hSolution
              (hMembers ht) hNonempty).mpr
              (h members ht hNonempty)
    | _ =>
        -- Some alternative of the solution is above it.
        rcases
          hCovers.above _ (hFlat ht (List.mem_singleton_self _))
          with ⟨c, hc, hLe⟩
        exact isSubtype_of_mem_flatten hc hLe

end Ty

end SigCheck

------------------------------------------------------------
-- Calls with One Variable
------------------------------------------------------------

namespace SigCheck

section Call

variable {rigid : RigidVars} {var : String}
variable {ps : List Parameter} {args : List Ty}

/- A solved type variable is replaced by its solution. -/
theorem Ty.substitute_typeVar
    {subst : Substitution} {ty : Ty}
    (h : subst.types.find? var = some ty) :
    (Ty.typeVar var).substitute subst = ty := by
  rw [Ty.substitute, Substitution.isEmpty,
    Table.isEmpty_eq_false h]
  simp [Ty.replaceVars, h]

/-
  A call of parameters that share one free variable gives its
  solution, and checks each argument against that.
-/
theorem inferCall_eq_of_repeated
    (hFree : var ∉ rigid.types)
    (hParams :
      ∀ p ∈ ps,
        p.kind.isPositional = true ∧ p.ty = .typeVar var)
    (hLength : args.length = ps.length)
    (options : InferOptions)
    (callee : String) :
    let s := Ty.solution (args.filter (!·.isAny))
    let outcome :=
      (Ty.callable (.params ps) (.typeVar var)).inferCall
        options rigid callee { positional := args }
    outcome.ret = s ∧
      ∃ bound : List BoundArg,
        bound.map (·.arg) = args ∧
          outcome.issues =
            if options.checkTypes then
              bound.flatMap (·.check s)
            else [] := by
  intro s outcome
  rcases
    Binding.bindParams_of_isPositional
      (fun p hp => (hParams p hp).1) hLength with
    ⟨bound, hBound, hArgs⟩
  have hTypes : ∀ b ∈ bound, b.param.ty = .typeVar var :=
    fun b hb =>
      (hParams b.param
        (Binding.param_mem_of_bindParams hBound b hb)).2
  have hCandidates := foldl_collect_typeVar hFree hTypes {}
  rw [hArgs] at hCandidates
  -- A variable without candidates is solved by default.
  have hFull (found : Substitution) :
      found.types =
          ((args.filter (!·.isAny)).map (var, ·)).foldl
            Candidates.addType ∅ →
        (Ty.typeVar var).substitute
            (found.withDefaults rigid
              (.callable (.params ps) (.typeVar var))) =
          s := by
    intro hFound
    apply Ty.substitute_typeVar
    rw [Substitution.find?_types_withDefaults, hFound,
      if_pos ⟨by simp [Ty.mentions], hFree⟩]
    rw [Option.or_some, Candidates.find?_foldl_addType]
  simp only [outcome, Ty.inferCall, bindCall, hBound,
    hCandidates, tailIssues]
  refine ⟨hFull _ (by simp [Candidates.reconcile]), bound,
    hArgs, ?_⟩
  have hCheck (found : Substitution) (hFound) :
      (bound.flatMap fun b =>
          b.check
            (b.param.ty.substitute
              (found.withDefaults rigid
                (.callable (.params ps) (.typeVar var))))) =
        bound.flatMap (·.check s) :=
    List.flatMap_congr fun b hb => by
      rw [hTypes b hb, hFull found hFound]
  rw [hCheck _ (by simp [Candidates.reconcile])]
  simp [Candidates.reconcile]

/- An argument without an issue is below what is expected. -/
theorem BoundArg.check_eq_nil_iff
    {b : BoundArg} {expected : Ty} :
    b.check expected = [] ↔
      b.arg.isSubtype expected = true := by
  unfold check
  split <;> simp_all

/-
  Arguments for parameters that share one free variable. The
  call gives the solution of the variable, and has no issue
  exactly if each argument is below it. If the alternatives
  of the arguments are orderly, only unions can fail: those
  that the solution does not keep and that no alternative of
  it takes as a whole.
-/
theorem inferCall_repeatedVar
    (hFree : var ∉ rigid.types)
    (hParams :
      ∀ p ∈ ps,
        p.kind.isPositional = true ∧ p.ty = .typeVar var)
    (hLength : args.length = ps.length)
    (options : InferOptions)
    (callee : String) :
    let candidates := args.filter (!·.isAny)
    let s := Ty.solution candidates
    let outcome :=
      (Ty.callable (.params ps) (.typeVar var)).inferCall
        options rigid callee { positional := args }
    outcome.ret = s ∧
      (options.checkTypes = false → outcome.issues = []) ∧
      (options.checkTypes = true →
        (outcome.issues = [] ↔
          ∀ a ∈ args, a.isSubtype s = true) ∧
        (Ty.Orderly (candidates.flatMap Ty.flatten) →
          (outcome.issues = [] ↔
            ∀ members, .union members ∈ args →
              members ≠ [] →
                s = .union members ∨
                  ∃ c ∈ s.flatten, c.TakesEach members))) := by
  intro candidates s outcome
  rcases inferCall_eq_of_repeated hFree hParams hLength
    options callee with ⟨hRet, bound, hArgs, hIssues⟩
  refine ⟨hRet, ?unchecked, ?checked⟩
  case unchecked =>
    intro hOff
    rw [hIssues, hOff]
    rfl
  case checked =>
    intro hOn
    have hEach :
        outcome.issues = [] ↔
          ∀ a ∈ args, a.isSubtype s = true := by
      have hMap :
          (∀ a ∈ bound.map (·.arg), a.isSubtype s = true) ↔
            ∀ b ∈ bound, b.arg.isSubtype s = true :=
        List.forall_mem_map
      rw [hArgs] at hMap
      rw [hIssues, if_pos hOn, List.flatMap_eq_nil_iff, hMap]
      simp only [BoundArg.check_eq_nil_iff]
      rfl
    refine ⟨hEach, fun hOrder => hEach.trans ?_⟩
    -- `Any` is below every type.
    have hCandidates :
        (∀ a ∈ args, a.isSubtype s = true) ↔
          ∀ a ∈ candidates, a.isSubtype s = true := by
      refine ⟨fun h a ha => h a (List.mem_of_mem_filter ha),
        fun h a ha => ?_⟩
      cases hAny : a.isAny with
      | true =>
          rw [Ty.isAny_iff.mp hAny]
          exact Ty.any_isSubtype s
      | false =>
          exact h a (List.mem_filter.mpr ⟨ha, by simp [hAny]⟩)
    have hUnion (members : List Ty) :
        .union members ∈ candidates ↔
          .union members ∈ args := by
      simp [candidates, Ty.isAny]
    rw [hCandidates, Ty.isSubtype_solution_iff hOrder]
    simp only [hUnion, s]

/-
  One alternative takes the union that comes first, and the
  solution forgets it. The last argument says nothing.
-/
theorem inferCall_repeatedVar_swallowed :
    let ps : List Parameter :=
      [.named "x" .positionalOrKeyword (.typeVar "T"),
        .named "y" .positionalOnly (.typeVar "T"),
        .named "z" .positionalOrKeyword (.typeVar "T")]
    let args : List Ty :=
      [.union [.bool, .int], .float, .any]
    let outcome :=
      (Ty.callable (.params ps) (.typeVar "T")).inferCall {}
        {} "f" { positional := args }
    outcome.ret = .float ∧ outcome.issues = [] := by
  intro ps args outcome
  have hFree : "T" ∉ ({} : RigidVars).types := by decide
  have hParams :
      ∀ p ∈ ps,
        p.kind.isPositional = true ∧ p.ty = .typeVar "T" := by
    decide
  have hLength : args.length = ps.length := rfl
  have hOrder :
      Ty.Orderly
        ((args.filter (!·.isAny)).flatMap Ty.flatten) :=
    .of_isDefinite (by decide)
  have hCall :=
    inferCall_repeatedVar hFree hParams hLength {} "f"
  refine ⟨hCall.1, ((hCall.2.2 rfl).2 hOrder).mpr ?_⟩
  intro members hMem _
  have hMembers : members = [.bool, .int] := by
    simpa [args] using hMem
  subst hMembers
  refine Or.inr ⟨.float, by decide, ?_⟩
  unfold Ty.TakesEach
  decide

/-
  The union of all three alternatives does not take the union
  of two of them, which the call was solved by.
-/
theorem inferCall_repeatedVar_rejects_union :
    let ps : List Parameter :=
      [.named "x" .positionalOrKeyword (.typeVar "T"),
        .named "y" .positionalOrKeyword (.typeVar "T")]
    let args : List Ty := [.union [.int, .str], .bytes]
    let outcome :=
      (Ty.callable (.params ps) (.typeVar "T")).inferCall {}
        {} "f" { positional := args }
    outcome.ret = .union [.int, .str, .bytes] ∧
      outcome.issues =
        [⟨.wrongType "x" (.union [.int, .str, .bytes])
            (.union [.int, .str]),
          .arg (.positional 0)⟩] := by
  decide

/-
  Without unions, `Any` inside the types does the same: the
  first tuple takes the second and is dropped for the third,
  which does not.
-/
example :
    let first := Ty.tuple [.any, .bool]
    let second := Ty.tuple [.str, .bool]
    let third := Ty.tuple [.int, .int]
    let s := Ty.solution [first, second, third]
    s = third ∧ second.isSubtype s = false := by
  decide

end Call

end SigCheck
