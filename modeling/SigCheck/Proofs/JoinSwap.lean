import SigCheck.Proofs.JoinView
import SigCheck.Proofs.SameShape

/-
  Joining two signatures in either order.

  Two types may each be narrower than the other, so that the
  order decides which of them a parameter of the join has.
  It decides nothing else: both joins exist or neither does,
  their slots have the same kinds, names and defaults, and
  so have their keyword-only parameters.

  Key definitions include:
    * `Signature.SameCalls`
    * `Signature.HasWellFormedList`
    * `Signature.ListsAgree`, `Signature.Agrees`

  Correctness is proven by:
    * `LeadMerge.ofLists_swap`
    * `JoinParts.Joins.exists_swap`
    * `Signature.commonSupertype_swap`
-/

------------------------------------------------------------
-- Slots
------------------------------------------------------------

namespace SigCheck

variable {p q slot : Parameter} {ps qs : List Parameter}

/- Comparable types are comparable in either order. -/
theorem Ty.exists_meet_swap
    {a b c : Ty}
    (h : a.meet b = some c) : ∃ d, b.meet a = some d := by
  unfold meet meetBy at h ⊢
  split_ifs at h ⊢ <;> simp_all

/- Merging in the other order changes the type at most. -/
theorem mergeBy_swap
    (h : p.mergeBy Ty.meet q = some slot) :
    ∃ slot', q.mergeBy Ty.meet p = some slot' ∧
      slot'.blank = slot.blank := by
  rcases Option.map_eq_some_iff.mp h with ⟨ty, hMeet, rfl⟩
  rcases Ty.exists_meet_swap hMeet with ⟨ty', hSwap⟩
  refine ⟨_, Option.map_eq_some_iff.mpr ⟨ty', hSwap, rfl⟩, ?_⟩
  rw [Parameter.blank_eq_iff, Bool.and_comm q.hasDefault]
  by_cases hName : p.name = q.name
  · rw [hName, Bool.and_comm (q.kind == .positionalOrKeyword)]
    split <;> exact ⟨rfl, rfl, rfl⟩
  · simp [hName, Ne.symm hName]

/-
  Merging sections in the other order changes types at most.
  When one side runs out, the star parameter of that side
  takes what the other one has left in either order.
-/
theorem LeadMerge.ofLists_swap
    {leftStar rightStar : Option Parameter} {m : LeadMerge}
    (h :
      ofLists Ty.meet leftStar rightStar ps qs = some m) :
    ∃ m',
      ofLists Ty.meet rightStar leftStar qs ps = some m' ∧
        m'.merged.map Parameter.blank =
          m.merged.map Parameter.blank := by
  induction ps, qs, m, h using ofLists_induction with
  | left qs taken hTaken =>
      cases qs with
      | nil =>
          refine ⟨⟨[], [], []⟩, ?_, ?_⟩
          · cases rightStar <;> rfl
          · cases leftStar <;> cases hTaken <;> rfl
      | cons q qs =>
          exact
            ⟨_, Option.map_eq_some_iff.mpr
              ⟨taken, hTaken, rfl⟩, rfl⟩
  | right p ps taken hTaken =>
      exact
        ⟨_, Option.map_eq_some_iff.mpr
          ⟨taken, hTaken, rfl⟩, rfl⟩
  | cons p ps q qs slot rest hSlot _ ih =>
      rcases mergeBy_swap hSlot with ⟨slot', hSlot', hBlank⟩
      rcases ih with ⟨rest', hMerge', hRest'⟩
      refine
        ⟨rest'.cons slot',
          ofLists_cons_eq_some_iff.mpr
            ⟨slot', rest', hSlot', hMerge', rfl⟩, ?_⟩
      simp [cons, hBlank, hRest']

/- The slots of two uses of one variable, in either order. -/
theorem mergeLeadBy_swap
    {lead : List Parameter}
    (h : mergeLeadBy Ty.meet ps qs = some lead) :
    ∃ lead', mergeLeadBy Ty.meet qs ps = some lead' ∧
      lead'.map Parameter.blank =
        lead.map Parameter.blank := by
  induction ps generalizing qs lead with
  | nil =>
      cases qs with
      | nil => exact ⟨lead, h, rfl⟩
      | cons q qs => cases h
  | cons p ps ih =>
      cases qs with
      | nil => cases h
      | cons q qs =>
          rcases mergeLeadBy_cons_eq_some_iff.mp h with
            ⟨slot, rest, hSlot, hMerge, rfl⟩
          rcases mergeBy_swap hSlot with
            ⟨slot', hSlot', hBlank⟩
          rcases ih hMerge with ⟨rest', hMerge', hRest'⟩
          have hDefault :
              slot'.hasDefault = slot.hasDefault :=
            (Parameter.blank_eq_iff.mp hBlank).2.2
          refine ⟨slot'.anonymize :: rest', ?_, ?_⟩
          · simp [mergeLeadBy, hSlot', hMerge']
          · simp [Parameter.anonymize, Parameter.blank,
              hDefault, hRest']

/- Normalizing does not look at types. -/
theorem map_blank_normalizeLead (ps : List Parameter) :
    (normalizeLead ps).map Parameter.blank =
      normalizeLead (ps.map Parameter.blank) := by
  have hSeal (ps : List Parameter) :
      (sealLead ps).map Parameter.blank =
        sealLead (ps.map Parameter.blank) := by
    induction ps with
    | nil => rfl
    | cons p ps ih =>
        simp only [sealLead, List.map_cons, ih, List.any_map]
        congr 1
        split
        · rw [if_pos ‹_›]
          rfl
        · rw [if_neg ‹_›]
  have hRequire (ps : List Parameter) :
      (requireLead ps).map Parameter.blank =
        requireLead (ps.map Parameter.blank) := by
    induction ps with
    | nil => rfl
    | cons p ps ih =>
        simp only [requireLead, List.map_cons, ih,
          List.all_map]
        rfl
  rw [normalizeLead, hRequire, hSeal]
  rfl

------------------------------------------------------------
-- Variadic Parameters and Keywords
------------------------------------------------------------

/- Variadic parameters are joined in either order. -/
theorem exists_variadicBy_swap
    {v w : Option Parameter} {list : List Parameter}
    (h : variadicBy Ty.meet v w = some list) :
    ∃ u : Option Parameter,
      variadicBy Ty.meet w v = some u.toList := by
  cases v with
  | none => exact ⟨none, by cases w <;> rfl⟩
  | some p =>
      cases w with
      | none => exact ⟨none, rfl⟩
      | some q =>
          rcases Option.map_eq_some_iff.mp h with
            ⟨ty, hMeet, -⟩
          rcases Ty.exists_meet_swap hMeet with ⟨ty', hSwap⟩
          exact
            ⟨some { q with ty := ty' },
              Option.map_eq_some_iff.mpr ⟨ty', hSwap, rfl⟩⟩

/- A keyword is merged in either order, or left out. -/
theorem keywordSlotBy_swap
    {left right : KeywordSide} {filled : Nat} {name : String}
    {kept : Option Parameter}
    (h :
      keywordSlotBy Ty.meet filled left right name =
        some kept) :
    ∃ kept',
      keywordSlotBy Ty.meet filled right left name =
          some kept' ∧
        kept'.map Parameter.blank =
          kept.map Parameter.blank := by
  unfold keywordSlotBy at h ⊢
  rw [Bool.or_comm (right.requires name)]
  cases hLeft : left.accepts? filled name <;>
    cases hRight : right.accepts? filled name <;>
    simp only [hLeft, hRight] at h ⊢
  case some.some a b =>
    rcases Option.map_eq_some_iff.mp h with ⟨ty, hMeet, rfl⟩
    rcases Ty.exists_meet_swap hMeet with ⟨ty', hSwap⟩
    exact
      ⟨_, Option.map_eq_some_iff.mpr ⟨ty', hSwap, rfl⟩, rfl⟩
  all_goals exact ⟨kept, h, rfl⟩

/- Both orders look at the same names. -/
theorem mem_keywordNames_swap
    {filled : Nat} {name : String} :
    name ∈
        keywordNames (ParamList.keywordSide filled qs)
          (ParamList.keywordSide filled ps) ↔
      name ∈
        keywordNames (ParamList.keywordSide filled ps)
          (ParamList.keywordSide filled qs) := by
  rw [mem_keywordNames_iff, mem_keywordNames_iff, or_comm]

end SigCheck

------------------------------------------------------------
-- Lists
------------------------------------------------------------

namespace SigCheck

open ParamList

namespace JoinParts

variable {parts swapped : JoinParts} {ps qs : List Parameter}

/- Two lists that have a join have one in either order. -/
theorem Joins.exists_swap
    (h : parts.Joins ps qs) :
    ∃ swapped : JoinParts, swapped.Joins qs ps := by
  rcases LeadMerge.ofLists_swap h.lead with
    ⟨lead, hLead, hBlank⟩
  rcases exists_variadicBy_swap h.star with ⟨star, hStar⟩
  rcases exists_variadicBy_swap h.others with
    ⟨others, hOthers⟩
  have hFilled : lead.merged.length = parts.filled := by
    simpa [filled] using congrArg List.length hBlank
  have hSlots :
      ∀ name ∈
          keywordNames (keywordSide parts.filled qs)
            (keywordSide parts.filled ps),
        ∃ slot,
          keywordSlotBy Ty.meet parts.filled
              (keywordSide parts.filled qs)
              (keywordSide parts.filled ps) name =
            some slot := by
    intro name hName
    rcases exists_right_of_forall₂ h.named
      (mem_keywordNames_swap.mp hName) with
      ⟨slot, -, hSlot⟩
    rcases keywordSlotBy_swap hSlot with ⟨slot', hSwap, -⟩
    exact ⟨slot', hSwap⟩
  rcases exists_forall₂_of_forall_mem hSlots with
    ⟨named, hNamed⟩
  refine ⟨⟨lead, star, named, others⟩, ?_⟩
  exact {
    lead := hLead
    star := hStar
    leftFillable := by
      simpa only [filled, hFilled] using h.rightFillable
    rightFillable := by
      simpa only [filled, hFilled] using h.leftFillable
    named := by
      simpa only [filled, hFilled] using hNamed
    others := hOthers }

/- The slots of both joins differ in their types at most. -/
theorem Joins.slots_swap
    (h : parts.Joins ps qs)
    (h' : swapped.Joins qs ps) :
    (positionalSection swapped.list).map Parameter.blank =
      (positionalSection parts.list).map Parameter.blank := by
  rcases LeadMerge.ofLists_swap h.lead with
    ⟨lead, hLead, hBlank⟩
  cases h'.lead.symm.trans hLead
  rw [h'.isSorted.positionalSection_list,
    h.isSorted.positionalSection_list,
    map_blank_normalizeLead, map_blank_normalizeLead, hBlank]

/- What one join keeps of the keywords, the other keeps. -/
theorem Joins.exists_keyword_swap
    (h : parts.Joins ps qs)
    (h' : swapped.Joins qs ps)
    {p : Parameter}
    (hp : p ∈ parts.keywords) :
    ∃ p' ∈ swapped.keywords, p'.blank = p.blank := by
  have hFilled : swapped.filled = parts.filled := by
    rw [filled_eq_sharedSlots h, filled_eq_sharedSlots h',
      sharedSlots_comm]
  rcases exists_left_of_forall₂ h.named
    (mem_keywords.mp hp) with ⟨name, hName, hSlot⟩
  rcases keywordSlotBy_swap hSlot with ⟨kept, hSwap, hBlank⟩
  rcases Option.map_eq_some_iff.mp hBlank with
    ⟨p', rfl, hSame⟩
  have hNamed := h'.named
  rw [hFilled] at hNamed
  rcases exists_right_of_forall₂ hNamed
    (mem_keywordNames_swap.mpr hName) with
    ⟨kept', hMem, hSlot'⟩
  cases hSlot'.symm.trans hSwap
  exact ⟨p', mem_keywords.mpr hMem, hSame⟩

/- Both joins have the same keyword-only parameters. -/
theorem Joins.mem_keywords_swap
    (h : parts.Joins ps qs)
    (h' : swapped.Joins qs ps)
    (p : Parameter) :
    p ∈ (swapped.list.filter (·.kind == .keywordOnly)).map
          Parameter.blank ↔
      p ∈ (parts.list.filter (·.kind == .keywordOnly)).map
          Parameter.blank := by
  rw [h'.isSorted.keywordOnly_list, h.isSorted.keywordOnly_list]
  simp only [List.mem_map]
  constructor
  · rintro ⟨q, hq, rfl⟩
    exact h'.exists_keyword_swap h hq
  · rintro ⟨q, hq, rfl⟩
    exact h.exists_keyword_swap h' hq

end JoinParts

end SigCheck

------------------------------------------------------------
-- Signatures
------------------------------------------------------------

namespace SigCheck

open ParamList

namespace Signature

/- The two signatures bind the same calls. -/
def SameCalls (s t : Signature) : Prop :=
  ∀ args : CallArgs,
    (∃ bound, s.bind args = .ok bound) ↔
      ∃ bound, t.bind args = .ok bound

/- If the signature is a list, then that is well-formed. -/
def HasWellFormedList : Signature → Prop
  | .params ps => WellFormed ps
  | _ => True

/-
  Two lists that callers cannot tell apart. They bind the
  same calls, unpackings included. The parameters of their
  slots and their keyword-only parameters differ in types
  and in the order of keywords at most.
-/
structure ListsAgree (ps qs : List Parameter) : Prop where
  calls : SameCalls (.params ps) (.params qs)
  slots :
    (positionalSection ps).map Parameter.blank =
      (positionalSection qs).map Parameter.blank
  keywords : ∀ p,
    p ∈ (ps.filter (·.kind == .keywordOnly)).map
          Parameter.blank ↔
      p ∈ (qs.filter (·.kind == .keywordOnly)).map
          Parameter.blank

/- Two signatures that callers cannot tell apart. -/
inductive Agrees : Signature → Signature → Prop where
  | params {ps qs : List Parameter}
      (h : ListsAgree ps qs) :
      Agrees (.params ps) (.params qs)
  | spec {ps qs : List Parameter} (var : String)
      (lead :
        ps.map Parameter.blank = qs.map Parameter.blank) :
      Agrees (.spec ps var) (.spec qs var)
  | gradual : Agrees .gradual .gradual

variable {s t : Signature} {ps qs : List Parameter}

/- Nobody can tell a signature from itself. -/
theorem Agrees.refl (s : Signature) : Agrees s s := by
  cases s with
  | params ps =>
      exact .params ⟨fun _ => Iff.rfl, rfl, fun _ => Iff.rfl⟩
  | spec lead var => exact .spec var rfl
  | gradual => exact .gradual

/- Interchangeable lists bind the same calls. -/
theorem SameCalls.of_interchangeable
    (hps : WellFormed ps)
    (hqs : WellFormed qs)
    (h : Interchangeable ps qs) :
    SameCalls (params ps) (params qs) :=
  fun args => h.bind_iff hps hqs args

/- Two lists may be joined in either order. -/
theorem commonSupertype_params_swap
    (hps : WellFormed ps)
    (hqs : WellFormed qs) :
    (∃ ls rs : List Parameter,
        (params ps).commonSupertype (params qs) =
            some (params ls) ∧
          (params qs).commonSupertype (params ps) =
            some (params rs) ∧
            ListsAgree ls rs) ∨
      (params ps).commonSupertype (params qs) = none ∧
        (params qs).commonSupertype (params ps) = none := by
  by_cases hExists : ∃ parts : JoinParts, parts.Joins ps qs
  · rcases hExists with ⟨parts, hParts⟩
    rcases hParts.exists_swap with ⟨swapped, hSwapped⟩
    have hCalls :
        SameCalls (params parts.list) (params swapped.list) :=
      .of_interchangeable
        (hParts.isJoined hps hqs).toWellFormed
        (hSwapped.isJoined hqs hps).toWellFormed
        (hParts.interchangeable_swap hps hqs hSwapped)
    exact
      Or.inl
        ⟨parts.list, swapped.list,
          commonSupertype_params_eq_some_iff.mpr
            ⟨parts, hParts, rfl⟩,
          commonSupertype_params_eq_some_iff.mpr
            ⟨swapped, hSwapped, rfl⟩,
          hCalls, hSwapped.slots_swap hParts,
          hSwapped.mem_keywords_swap hParts⟩
  · have hNone : ¬ ∃ parts : JoinParts, parts.Joins qs ps :=
      fun ⟨parts, hParts⟩ => hExists hParts.exists_swap
    exact
      Or.inr
        ⟨commonSupertype_params_eq_none_iff.mpr hExists,
          commonSupertype_params_eq_none_iff.mpr hNone⟩

/- Two uses of variables may be joined in either order. -/
theorem commonSupertype_spec_swap (v w : String) :
    Option.Rel Agrees
      ((spec ps v).commonSupertype (spec qs w))
      ((spec qs w).commonSupertype (spec ps v)) := by
  by_cases hVar : v = w
  · subst hVar
    simp only [commonSupertype, commonBy, beq_self_eq_true,
      if_true]
    cases hMerge : mergeLeadBy Ty.meet ps qs with
    | some lead =>
        rcases mergeLeadBy_swap hMerge with
          ⟨lead', hSwap, hBlank⟩
        rw [hSwap]
        exact .some (.spec v hBlank.symm)
    | none =>
        cases hSwap : mergeLeadBy Ty.meet qs ps with
        | none => exact .none
        | some lead' =>
            rcases mergeLeadBy_swap hSwap with ⟨lead, hSome, -⟩
            cases hMerge.symm.trans hSome
  · have hLeft : (v == w) = false := beq_false_of_ne hVar
    have hRight : (w == v) = false :=
      beq_false_of_ne (Ne.symm hVar)
    simp only [commonSupertype, commonBy, hLeft, hRight,
      Bool.false_eq_true, if_false]
    exact .none

/-
  Joining two signatures in either order fails in both, or
  gives signatures that callers cannot tell apart.
-/
theorem commonSupertype_swap
    (hs : s.HasWellFormedList)
    (ht : t.HasWellFormedList) :
    Option.Rel Agrees (s.commonSupertype t)
      (t.commonSupertype s) := by
  cases s with
  | gradual => cases t <;> exact .some (.refl _)
  | params ps =>
      cases t with
      | gradual => exact .some (.refl _)
      | params qs =>
          rcases commonSupertype_params_swap hs ht with
            ⟨ls, rs, hJoin, hSwap, hAgree⟩ | ⟨hJoin, hSwap⟩
          · rw [hJoin, hSwap]
            exact .some (.params hAgree)
          · rw [hJoin, hSwap]
            exact .none
      | spec lead var => exact .none
  | spec lead var =>
      cases t with
      | gradual => exact .some (.refl _)
      | params qs => exact .none
      | spec lead' var' =>
          exact commonSupertype_spec_swap var var'

/-
  Lists of anything and lists of integers are each narrower
  than the other, so that the joins differ in the type of
  `x`. Callers do not see that.
-/
theorem commonSupertype_swap_lists :
    let s : Signature :=
      .params
        [⟨some "x", .positionalOrKeyword,
            .list .any, false⟩,
          ⟨some "k", .keywordOnly, .bool, true⟩]
    let t : Signature :=
      .params
        [⟨some "x", .positionalOrKeyword,
            .list .int, false⟩,
          ⟨some "others", .varKeyword, .int, false⟩]
    s.HasWellFormedList ∧ t.HasWellFormedList ∧
      s.commonSupertype t ≠ t.commonSupertype s ∧
      Option.Rel Agrees (s.commonSupertype t)
        (t.commonSupertype s) := by
  intro s t
  have hs : s.HasWellFormedList := by
    change WellFormed _
    decide
  have ht : t.HasWellFormedList := by
    change WellFormed _
    decide
  refine ⟨hs, ht, ?_, commonSupertype_swap hs ht⟩
  decide +kernel

end Signature

end SigCheck
