import SigCheck.Proofs.TraitCalls

/-
  Types all of whose parameter lists may be declared.

  Every operation on types builds lists in a way of its own:
  joining merges slots and sorts out keywords, stripping and
  dropping a receiver cut lists off, and solving puts a list
  behind leading parameters. None of them leaves a list that
  no definition could declare.

  Key definitions include:
    * `Parameter.IsPlainPosition`
    * `Trait.formed`
    * `Ty.IsFormed`, `Signature.IsFormed`

  Correctness is proven by:
    * `ParamList.Declarable.behind`
    * `JoinParts.Joins.declarable`
    * `Trait.formed_stable`
    * `Signature.IsFormed.preserved`
-/

namespace SigCheck

------------------------------------------------------------
-- Lists behind Others
------------------------------------------------------------

/-
  The parameter is a position that has no name and must be
  filled.
-/
structure Parameter.IsPlainPosition
    (p : Parameter) : Prop where
  unnamed : p.name = none
  positional : p.kind = .positionalOnly
  required : p.hasDefault = false

instance (p : Parameter) : Decidable p.IsPlainPosition :=
  decidable_of_iff
    (p.name = none ∧ p.kind = .positionalOnly ∧
      p.hasDefault = false)
    ⟨fun ⟨hu, hp, hr⟩ => ⟨hu, hp, hr⟩,
      fun ⟨hu, hp, hr⟩ => ⟨hu, hp, hr⟩⟩

namespace ParamList

/- All parameters are positions without names. -/
def ArePlainPositions (ps : List Parameter) : Prop :=
  ∀ p ∈ ps, p.IsPlainPosition

instance (ps : List Parameter) :
    Decidable (ArePlainPositions ps) :=
  inferInstanceAs (Decidable (∀ p ∈ ps, p.IsPlainPosition))

variable {lead ps qs : List Parameter}

/- Positions in front keep a list such that it may stand. -/
theorem Declarable.behind
    (hLead : ArePlainPositions lead)
    (h : Declarable ps) : Declarable (lead ++ ps) := by
  have hAll (p : Parameter) (hp : p ∈ lead) :
      p.kind.rank = 0 ∧ p.kind.isVariadic = false ∧
        p.kind.isKeyword = false := by
    rw [(hLead p hp).positional]
    exact ⟨rfl, rfl, rfl⟩
  -- Each rule on two parameters holds if the first is plain.
  have hPairs
      {apart : Parameter → Parameter → Prop}
      (hFront : ∀ p ∈ lead, ∀ q, apart p q)
      (hRest : ps.Pairwise apart) :
      (lead ++ ps).Pairwise apart :=
    List.pairwise_append.mpr
      ⟨List.pairwise_of_forall_mem_list fun p hp q _ =>
          hFront p hp q,
        hRest, fun p hp q _ => hFront p hp q⟩
  refine
    ⟨⟨hPairs ?_ h.ordered, hPairs ?_ h.single, ?_,
      hPairs ?_ h.distinct⟩, hPairs ?_ h.defaultsLast, ?_⟩
  · intro p hp q
    rw [(hAll p hp).1]
    exact Nat.zero_le _
  · intro p hp q _
    exact (hAll p hp).2.1
  · intro p hp hKey
    rcases List.mem_append.mp hp with hp | hp
    · rw [(hAll p hp).2.2] at hKey
      cases hKey
    · exact h.named p hp hKey
  · intro p hp q hKey
    rw [(hAll p hp).2.2] at hKey
    cases hKey
  · intro p hp q _ _ hOptional
    rw [(hLead p hp).required] at hOptional
    cases hOptional
  · intro p hp hVariadic
    rcases List.mem_append.mp hp with hp | hp
    · exact (hLead p hp).required
    · exact h.plainVariadics p hp hVariadic

/- What follows the first parameter may be declared, too. -/
theorem Declarable.tail
    {p : Parameter}
    (h : Declarable (p :: ps)) : Declarable ps where
  ordered := (List.pairwise_cons.mp h.ordered).2
  single := (List.pairwise_cons.mp h.single).2
  named q hq := h.named q (List.mem_cons_of_mem _ hq)
  distinct := (List.pairwise_cons.mp h.distinct).2
  defaultsLast := (List.pairwise_cons.mp h.defaultsLast).2
  plainVariadics q hq :=
    h.plainVariadics q (List.mem_cons_of_mem _ hq)

end ParamList

------------------------------------------------------------
-- Joined Lists
------------------------------------------------------------

/- No required slot is left behind an optional one. -/
theorem pairwise_requireLead (ps : List Parameter) :
    (requireLead ps).Pairwise fun p q =>
      p.hasDefault = true → q.hasDefault = true := by
  induction ps with
  | nil => exact .nil
  | cons p ps ih =>
      refine List.pairwise_cons.mpr ⟨?_, ih⟩
      intro q hq hOptional
      have hRest : (requireLead ps).all (·.hasDefault) = true := by
        rw [all_hasDefault_requireLead]
        exact (Bool.and_eq_true_iff.mp hOptional).2
      exact List.all_eq_true.mp hRest q hq

/- A variadic parameter of a join is that of one side. -/
theorem blank_of_variadicBy
    {p q : Option Parameter} {list : List Parameter}
    {s : Parameter}
    (h : variadicBy Ty.meet p q = some list)
    (hs : s ∈ list) : ∃ p' ∈ p, s.blank = p'.blank := by
  unfold variadicBy at h
  split at h
  · rename_i p' q'
    rcases Option.map_eq_some_iff.mp h with ⟨ty, -, rfl⟩
    rw [List.mem_singleton.mp hs]
    exact ⟨p', rfl, rfl⟩
  · cases h
    cases hs

namespace JoinParts

open ParamList

variable {parts : JoinParts} {ps qs : List Parameter}

/- A join of lists that may be declared may be declared. -/
theorem Joins.declarable
    (hps : Declarable ps)
    (hqs : Declarable qs)
    (h : parts.Joins ps qs) : Declarable parts.list := by
  have hJoined := h.isJoined hps.toWellFormed hqs.toWellFormed
  refine ⟨hJoined.toWellFormed, ?_, ?_⟩
  · have hSlots :
        (positionalSection parts.list).Pairwise fun p q =>
          p.hasDefault = true → q.hasDefault = true := by
      rw [← hJoined.normal]
      exact pairwise_requireLead _
    exact
      (List.pairwise_filter.mp hSlots).imp
        fun hLast hp hq => hLast hp hq
  · intro s hs hVariadic
    have hSide (kind : ParamKind) (hKind : kind.isVariadic = true)
        {list : List Parameter}
        (hBy :
          variadicBy Ty.meet (firstOfKind kind ps)
            (firstOfKind kind qs) = some list)
        (hMem : s ∈ list) : s.hasDefault = false := by
      rcases blank_of_variadicBy hBy hMem with ⟨p, hp, hBlank⟩
      rw [(Parameter.blank_eq_iff.mp hBlank).2.2]
      apply hps.plainVariadics p (List.mem_of_find?_eq_some hp)
      have hFound := List.find?_some hp
      rw [beq_iff_eq] at hFound
      rwa [hFound]
    have hSorted := h.isSorted
    simp only [list, List.mem_append] at hs
    rcases hs with ((hs | hs) | hs) | hs
    · rw [ParamKind.isVariadic_of_isPositional
        (hSorted.isPositional hs)] at hVariadic
      cases hVariadic
    · exact hSide .varPositional rfl h.star hs
    · rw [hSorted.keywords s hs] at hVariadic
      cases hVariadic
    · exact hSide .varKeyword rfl h.others hs

end JoinParts

/- Merged leading parameters are positions without names. -/
theorem arePlainPositions_of_mergeLead
    {ps qs lead : List Parameter}
    (hps : ParamList.ArePlainPositions ps)
    (hqs : ParamList.ArePlainPositions qs)
    (h : mergeLeadBy Ty.meet ps qs = some lead) :
    ParamList.ArePlainPositions lead := by
  induction ps generalizing qs lead with
  | nil =>
      cases qs with
      | nil =>
          cases h
          exact hps
      | cons q qs => cases h
  | cons p ps ih =>
      cases qs with
      | nil => cases h
      | cons q qs =>
          rcases mergeLeadBy_cons_eq_some_iff.mp h with
            ⟨slot, rest, hSlot, hRest, rfl⟩
          rw [ParamList.ArePlainPositions,
            List.forall_mem_cons] at hps hqs ⊢
          refine ⟨⟨rfl, rfl, ?_⟩, ih hps.2 hqs.2 hRest⟩
          rcases Option.map_eq_some_iff.mp hSlot with
            ⟨ty, -, rfl⟩
          split <;> simp [Parameter.anonymize, hps.1.required]

------------------------------------------------------------
-- Formed Types
------------------------------------------------------------

/-
  Parameter lists may be declared, and the parameters in
  front of a variable are positions without names.
-/
def Trait.formed : Trait where
  params := ParamList.Declarable
  lead := ParamList.ArePlainPositions

/- Every signature within the type is in order. -/
def Ty.IsFormed (t : Ty) : Prop :=
  t.Has .formed

/- The signature and every one within it are in order. -/
def Signature.IsFormed (sig : Signature) : Prop :=
  sig.Has .formed

/- Variables are solved to what is in order. -/
def Substitution.IsFormed (subst : Substitution) : Prop :=
  subst.Has .formed

/- The arguments that a call spells out are in order. -/
def CallArgs.IsFormed (args : CallArgs) : Prop :=
  args.Has .formed

/- Operations on types keep their parameter lists in order. -/
theorem Trait.formed_stable : Trait.formed.Stable where
  members _ _ := trivial
  paramsOf hBlank h :=
    ParamList.Declarable.of_blank h
      (forall₂_of_map_eq hBlank fun _ _ _ _ hSame => hSame)
  leadOf hBlank h q hq := by
    rcases exists_left_of_forall₂
        (forall₂_of_map_eq hBlank
          fun _ _ _ _ hSame => hSame) hq with
      ⟨p, hp, hpq⟩
    rcases Parameter.blank_eq_iff.mp hpq with
      ⟨hName, hKind, hOptional⟩
    have hPlain := h p hp
    exact
      ⟨hName ▸ hPlain.unnamed, hKind ▸ hPlain.positional,
        hOptional ▸ hPlain.required⟩
  behind hLead h := h.behind hLead
  behindSpec hLead hInner :=
    List.forall_mem_append.mpr ⟨hLead, hInner⟩
  variadics := by
    have hList :
        ParamList.Declarable
          [.named "args" .varPositional .any,
            .named "kwargs" .varKeyword .any] := by
      decide
    exact
      ⟨hList, ⟨fun _ _ => trivial, trivial⟩,
        ⟨fun _ _ => trivial, trivial⟩, trivial⟩
  tail h := h.tail
  leadTail h := (List.forall_mem_cons.mp h).2
  join hps hqs hParts := hParts.declarable hps hqs
  mergeLead := arePlainPositions_of_mergeLead

/-
  What the operations give has only parameter lists in
  order, at every depth, if what they are given has. A
  common supertype and what is left behind other parameters
  need not exist; the other operations always give a result.
-/
theorem Signature.IsFormed.preserved
    {s t : Signature} {ty : Ty}
    {subst : Substitution} {args : CallArgs}
    (hs : s.IsFormed)
    (ht : t.IsFormed)
    (hTy : ty.IsFormed)
    (hSubst : subst.IsFormed)
    (hArgs : args.IsFormed) :
    (∀ u, s.commonSupertype t = some u → u.IsFormed) ∧
      (∀ lead rest, stripLead lead s = some rest →
        rest.IsFormed) ∧
      (ty.substitute subst).IsFormed ∧
      (s.substitute subst).IsFormed ∧
      ty.dropReceiver.IsFormed ∧
      s.dropReceiver.IsFormed ∧
      ∀ options rigid callee,
        let outcome := ty.inferCall options rigid callee args
        outcome.ret.IsFormed ∧ outcome.solved.IsFormed := by
  have hStable := Trait.formed_stable
  refine ⟨?_, ?_, ?_, ?_, ?_, ?_, ?_⟩
  · exact fun u => hStable.commonSupertype hs ht
  · exact fun lead rest => hStable.stripLead hs
  · exact hStable.substitute hSubst hTy
  · exact hStable.substituteSignature hSubst hs
  · exact hStable.dropReceiver hTy
  · exact hStable.dropReceiverSignature hs
  · exact hStable.inferCall hTy hArgs

/-
  Two definitions that name their second parameter
  differently share calls by position only. A call of a
  value that takes either gives back its first argument.
-/
theorem Signature.isFormed_twoNames :
    let s := Signature.params
      [.named "a" .positionalOrKeyword (.typeVar "T"),
        .named "b" .positionalOrKeyword .int]
    let t := Signature.params
      [.named "a" .positionalOrKeyword (.typeVar "T"),
        .named "c" .positionalOrKeyword .int]
    let u := Signature.params
      [.anonymous (.typeVar "T"), .anonymous .int]
    let outcome :=
      (Ty.callable s (.typeVar "T")).inferCall {} {} "f"
        { positional := [.callable u .int, .int] }
    s.commonSupertype t = some u ∧ u.IsFormed ∧
      outcome.ret = .callable u .int ∧
      outcome.ret.IsFormed ∧ outcome.solved.IsFormed := by
  intro s t u outcome
  have hList (name : String)
      (h : ParamList.Declarable
        [.named "a" .positionalOrKeyword (.typeVar "T"),
          .named name .positionalOrKeyword .int]) :
      (Signature.params
        [.named "a" .positionalOrKeyword (.typeVar "T"),
          .named name .positionalOrKeyword .int]).IsFormed :=
    ⟨h, ⟨fun _ _ => trivial, trivial⟩,
      ⟨fun _ _ => trivial, trivial⟩, trivial⟩
  have hs : s.IsFormed := hList "b" (by decide)
  have ht : t.IsFormed := hList "c" (by decide)
  have hJoin : s.commonSupertype t = some u := by
    decide +kernel
  have hNone : Substitution.IsFormed {} :=
    Substitution.has_empty
  have hEmpty : CallArgs.IsFormed {} :=
    ⟨by simp, by simp⟩
  have hTy : Ty.IsFormed (.callable s (.typeVar "T")) :=
    ⟨hs, trivial⟩
  have hu : u.IsFormed :=
    (Signature.IsFormed.preserved hs ht hTy hNone hEmpty).1 u
      hJoin
  have hArgs :
      CallArgs.IsFormed
        { positional := [.callable u .int, .int] } := by
    refine ⟨?_, by simp⟩
    simp only [List.forall_mem_cons]
    exact ⟨⟨hu, trivial⟩, trivial, by simp⟩
  rcases Signature.IsFormed.preserved hs ht hTy hNone hArgs with
    ⟨-, -, -, -, -, -, hCall⟩
  exact
    ⟨hJoin, hu, by decide +kernel, hCall {} {} "f"⟩

end SigCheck
