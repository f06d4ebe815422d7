import SigCheck.Proofs.Acceptance
import SigCheck.Proofs.Join

/-
  Which calls of a join are calls of its sides.

  A call of the join is a call of each side unless one of
  its keywords names a parameter of the side that the join
  has lost: the join then collects the keyword, and the side
  gives it to a slot that a position has filled. Whether
  there is such a name is all that soundness depends on.

  Key definitions include:
    * `ParamList.Readmits`
    * `ParamList.fullCall`

  Correctness is proven by:
    * `Covers.exists_receiver`
    * `Covers.accepts`
    * `Signature.commonSupertype_sound_iff`
-/

------------------------------------------------------------
-- Receivers
------------------------------------------------------------

namespace SigCheck

open ParamList

namespace Covers

variable {join ps : List Parameter}

/- What the join receives at a position, the side receives. -/
theorem exists_receiver_positional
    (h : Covers join ps)
    {index : Nat} {p : Parameter}
    (hReceiver :
      receiver? join (.positional index) = some p) :
    ∃ q, receiver? ps (.positional index) = some q ∧
      Ty.Narrows p.ty q.ty := by
  rcases h.lead with ⟨rest, hLead⟩
  rcases Option.or_eq_some_iff.mp hReceiver with
    hSlot | ⟨hPast, hStar⟩
  · rcases hLead.getElem? hSlot with
      ⟨q, hq, hFits⟩ | ⟨hNone, s, hs, hFits⟩
    · exact ⟨q, by simp [receiver?, hq], hFits.ty⟩
    · exact ⟨s, by simp [receiver?, hNone, hs], hFits.ty⟩
  · rcases h.star p hStar with ⟨q, hq, hTy⟩
    have hLength := hLead.length_le (by simp [hStar])
    have hNone : (positionalSection ps)[index]? = none :=
      List.getElem?_eq_none
        (Nat.le_trans hLength
          (List.getElem?_eq_none_iff.mp hPast))
    exact ⟨q, by simp [receiver?, hNone, hq], hTy⟩

/- What the join receives by its name, the side receives. -/
theorem exists_receiver_named
    (hJoin : WellFormed join)
    (hps : WellFormed ps)
    (h : Covers join ps)
    {name : String} {p : Parameter}
    (hReceiver : keywordParam? name join = some p) :
    ∃ q, receiver? ps (.keyword name) = some q ∧
      Ty.Narrows p.ty q.ty := by
  rcases hJoin.keywordParam?_eq_some_iff.mp hReceiver with
    ⟨hp, hKey, hName⟩
  cases hPos : p.kind.isPositional with
  | true =>
      have hKind := ParamKind.eq_positionalOrKeyword hPos hKey
      rcases exists_index_of_isPositional hp hPos with
        ⟨index, hIndex⟩
      rcases h.exists_slot_of_named hIndex hKind with
        ⟨q, hq, hFits⟩
      rcases hFits.named hKind with ⟨hqKind, hqName⟩
      have hNamed : keywordParam? name ps = some q :=
        hps.keywordParam?_eq_some_iff.mpr
          ⟨(mem_of_getElem?_positionalSection hq).1,
            by rw [hqKind]; rfl, hqName.trans hName⟩
      exact ⟨q, by simp [receiver?, hNamed], hFits.ty⟩
  | false =>
      have hKind := ParamKind.eq_keywordOnly hPos hKey
      rcases (h.keywordFits hp hKind hName).ty with
        ⟨ty, hAccepts, hTy⟩
      rcases hps.accepts?_eq_some_iff.mp hAccepts with
        ⟨q, hPast, hqName, rfl⟩ | ⟨hNot, q, hq, rfl⟩
      · rcases isKeyword_of_mem_keywordsPast hPast with
          ⟨hqMem, hqKey⟩
        have hNamed : keywordParam? name ps = some q :=
          hps.keywordParam?_eq_some_iff.mpr
            ⟨hqMem, hqKey, hqName⟩
        exact ⟨q, by simp [receiver?, hNamed], hTy⟩
      · have hNone : keywordParam? name ps = none :=
          keywordParam?_eq_none_iff.mpr hNot
        exact ⟨q, by simp [receiver?, hNone, hq], hTy⟩

/-
  The side receives whatever the join receives, in a
  parameter that is no narrower, unless the join collects it
  with other keywords.
-/
theorem exists_receiver
    (hJoin : WellFormed join)
    (hps : WellFormed ps)
    (h : Covers join ps)
    {source : ArgSource} {p : Parameter}
    (hReceiver : receiver? join source = some p) :
    ∃ q, receiver? ps source = some q ∧
      ((∃ name, source = .keyword name ∧
          p.kind = .varKeyword) ∨
        Ty.Narrows p.ty q.ty) := by
  cases source with
  | positional index =>
      rcases h.exists_receiver_positional hReceiver with
        ⟨q, hq, hTy⟩
      exact ⟨q, hq, Or.inr hTy⟩
  | keyword name =>
      rcases Option.or_eq_some_iff.mp hReceiver with
        hNamed | ⟨-, hOthers⟩
      · rcases h.exists_receiver_named hJoin hps hNamed with
          ⟨q, hq, hTy⟩
        exact ⟨q, hq, Or.inr hTy⟩
      · have hKind : p.kind = .varKeyword := by
          simpa using List.find?_some hOthers
        rcases h.others p hOthers with ⟨q, hq, -⟩
        have hSome :
            (receiver? ps (.keyword name)).isSome = true := by
          simp [receiver?, hq]
        rcases Option.isSome_iff_exists.mp hSome with ⟨r, hr⟩
        exact ⟨r, hr, Or.inl ⟨name, rfl, hKind⟩⟩

end Covers

end SigCheck

------------------------------------------------------------
-- Accepted Calls
------------------------------------------------------------

namespace SigCheck

open ParamList

namespace Covers

variable {join ps : List Parameter} {args : CallArgs}

section Accepted

variable (hps : WellFormed ps)
variable (h : Covers join ps)
variable (hAccepts : Accepts join args)

include h hAccepts

/- A slot that a position fills is merged with the join. -/
theorem index_lt_of_filled
    {index : Nat} {p : Parameter}
    (hSection : (positionalSection ps)[index]? = some p)
    (hFilled : index < args.positional.length) :
    index < (positionalSection join).length := by
  by_contra hNot
  have hNone : (positionalSection join)[index]? = none :=
    List.getElem?_eq_none (by omega)
  have hSome := hAccepts.isSome_positional hFilled
  rw [receiver?, hNone, Option.none_or] at hSome
  rcases h.lead with ⟨rest, hLead⟩
  have hLength := hLead.length_le hSome
  have hLt := (List.getElem?_eq_some_iff.mp hSection).1
  omega

include hps

/-
  A keyword of the join does not name a slot of the side
  that a position fills.
-/
theorem unfilled
    {index : Nat} {p : Parameter} {keyword : String × Ty}
    (hSection : (positionalSection ps)[index]? = some p)
    (hFilled : index < args.positional.length)
    (hKind : p.kind = .positionalOrKeyword)
    (hKeyword : keyword ∈ args.keywords)
    (hJoin : HasKeyword join keyword.1) :
    p.name ≠ some keyword.1 := by
  intro hName
  have hKey : p.kind.isKeyword = true := by
    rw [hKind]
    rfl
  rcases hJoin with ⟨r, hr, hrKey, hrName⟩
  -- In the join the name is that of the same slot, or of a
  -- keyword-only parameter, which a used name cannot be.
  cases hPos : r.kind.isPositional with
  | true =>
      have hrKind :=
        ParamKind.eq_positionalOrKeyword hPos hrKey
      rcases exists_index_of_isPositional hr hPos with
        ⟨place, hPlace⟩
      rcases h.exists_slot_of_named hPlace hrKind with
        ⟨q, hq, hFits⟩
      rcases hFits.named hrKind with ⟨hqKind, hqName⟩
      have hSame : index = place :=
        hps.index_eq_of_name hSection hq hKey
          (by rw [hqKind]; rfl)
          (hName.trans (hqName.trans hrName).symm)
      exact
        hAccepts.unfilled place r hPlace (hSame ▸ hFilled)
          hrKind keyword hKeyword hrName
  | false =>
      have hrKind := ParamKind.eq_keywordOnly hPos hrKey
      have hFits := h.keywordFits hr hrKind hrName
      have hConsumed :=
        isConsumed_iff.mpr
          ⟨index, p, h.index_lt_of_filled hAccepts hSection
            hFilled, hSection, hKind, hName⟩
      rw [hFits.isConsumed_eq_false] at hConsumed
      cases hConsumed

/-
  What the side needs past the merged slots, a keyword
  supplies.
-/
theorem supplied_past
    {p : Parameter}
    (hPast :
      p ∈ keywordsPast (positionalSection join).length ps)
    (hRequired : p.isRequired = true) :
    ∃ keyword ∈ args.keywords, p.name = some keyword.1 := by
  rcases isKeyword_of_mem_keywordsPast hPast with ⟨hp, hKey⟩
  rcases hps.exists_name hp hKey with ⟨name, hName⟩
  have hRequires :=
    hps.requires_iff.mpr ⟨p, hPast, hName, hRequired⟩
  rcases h.required name hRequires with
    ⟨r, hr, hrKind, hrName⟩
  have hFits := h.keywordFits hr hrKind hrName
  rcases hAccepts.keywordOnly r hr hrKind
    (hFits.required hRequires) with
    ⟨keyword, hKeyword, hSame⟩
  exact
    ⟨keyword, hKeyword, hName.trans (hrName.symm.trans hSame)⟩

/- A required slot that no position fills has a keyword. -/
theorem supplied_positional
    {index : Nat} {p : Parameter}
    (hSection : (positionalSection ps)[index]? = some p)
    (hUnfilled : args.positional.length ≤ index)
    (hRequired : p.isRequired = true) :
    p.kind = .positionalOrKeyword ∧
      ∃ keyword ∈ args.keywords,
        p.name = some keyword.1 := by
  -- A merged slot is required with the side; past them the
  -- join has a required keyword of the name.
  rcases Nat.lt_or_ge index (positionalSection join).length
    with hLt | hPast
  · rcases h.lead with ⟨rest, hLead⟩
    have hSlot := List.getElem?_eq_getElem hLt
    rcases hLead.getElem? hSlot with
      ⟨q, hq, hFits⟩ | ⟨hNone, -⟩
    · cases hSection.symm.trans hq
      have hPos := (mem_of_getElem?_positionalSection hSlot).2
      have hSlotRequired :
          (positionalSection join)[index].isRequired =
            true := by
        have hOptional := mt hFits.optional
        simp only [Parameter.isRequired, Bool.and_eq_true,
          Bool.not_eq_true'] at hRequired ⊢
        rw [hRequired.1] at hOptional
        exact
          ⟨by simpa using hOptional,
            ParamKind.isVariadic_of_isPositional hPos⟩
      rcases hAccepts.positional index _ hSlot hUnfilled
        hSlotRequired with
        ⟨hKind, keyword, hKeyword, hName⟩
      rcases hFits.named hKind with ⟨hpKind, hpName⟩
      exact
        ⟨hpKind, keyword, hKeyword, hpName.trans hName⟩
    · cases hSection.symm.trans hNone
  · have hKind :=
      fillable_iff.mp h.fillable index p hSection hPast
        hRequired
    exact
      ⟨hKind, h.supplied_past hps hAccepts
        (mem_keywordsPast_iff.mpr
          (Or.inl ⟨index, hPast, hSection, hKind⟩))
        hRequired⟩

/-
  A call that the join accepts the side accepts, if the join
  has the keywords of the side that the call uses.
-/
theorem accepts
    (hJoin : WellFormed join)
    (hNames :
      ∀ keyword ∈ args.keywords,
        HasKeyword ps keyword.1 →
          HasKeyword join keyword.1) :
    Accepts ps args where
  received := by
    intro entry hEntry
    rcases Option.isSome_iff_exists.mp
      (hAccepts.received entry hEntry) with ⟨p, hp⟩
    rcases h.exists_receiver hJoin hps hp with ⟨q, hq, -⟩
    rw [hq]
    rfl
  apart := by
    refine hAccepts.apart.imp_of_mem ?_
    intro k l hk _ hApart hSame hKey
    exact hApart hSame (hNames k hk hKey)
  unfilled := by
    intro index p hSection hFilled hKind keyword hKeyword
      hName
    have hp := mem_of_getElem?_positionalSection hSection
    have hHas : HasKeyword ps keyword.1 :=
      ⟨p, hp.1, by rw [hKind]; rfl, hName⟩
    exact
      h.unfilled hps hAccepts hSection hFilled hKind hKeyword
        (hNames keyword hKeyword hHas) hName
  positional _ _ hSection hUnfilled hRequired :=
    h.supplied_positional hps hAccepts hSection hUnfilled
      hRequired
  keywordOnly p hp hKind hRequired :=
    h.supplied_past hps hAccepts
      (mem_keywordsPast_iff.mpr (Or.inr ⟨hp, hKind⟩))
      hRequired

end Accepted

end Covers

end SigCheck

------------------------------------------------------------
-- Readmitted Names
------------------------------------------------------------

namespace SigCheck

namespace ParamList

/-
  The join collects other keywords, and it has lost a name
  under which a keyword reaches a parameter of the side: the
  name is taken again, as one of the others.
-/
def Readmits (join ps : List Parameter) : Prop :=
  (firstOfKind .varKeyword join).isSome = true ∧
    ∃ name, HasKeyword ps name ∧ ¬ HasKeyword join name

/-
  A call that fills every positional slot and every keyword,
  and gives one more keyword.
-/
def fullCall
    (ps : List Parameter)
    (name : String) : CallArgs where
  positional :=
    (positionalSection ps).map (·.ty)
  keywords :=
    (name, .any)
      :: ps.filterMap fun p =>
        if p.kind == .keywordOnly then
          p.name.map fun own => (own, p.ty)
        else none

variable {ps : List Parameter} {name : String}

/- The full call unpacks nothing. -/
theorem fullCall_isPlain : (fullCall ps name).IsPlain :=
  ⟨rfl, rfl⟩

/- The keywords of the full call. -/
theorem mem_fullCall_keywords
    {keyword : String × Ty}
    (h : keyword ∈ (fullCall ps name).keywords) :
    keyword.1 = name ∨
      ∃ p ∈ ps, p.kind = .keywordOnly ∧
        p.name = some keyword.1 := by
  rcases List.mem_cons.mp h with rfl | hRest
  · exact Or.inl rfl
  · rcases List.mem_filterMap.mp hRest with ⟨p, hp, hSlot⟩
    split at hSlot
    · rename_i hKind
      rcases Option.map_eq_some_iff.mp hSlot with
        ⟨own, hOwn, rfl⟩
      exact Or.inr ⟨p, hp, by simpa using hKind, hOwn⟩
    · cases hSlot

/- The full call names every keyword-only parameter. -/
theorem exists_fullCall_keyword
    (hWF : WellFormed ps)
    {p : Parameter}
    (hp : p ∈ ps)
    (hKind : p.kind = .keywordOnly) :
    ∃ keyword ∈ (fullCall ps name).keywords,
      p.name = some keyword.1 := by
  have hKey : p.kind.isKeyword = true := by
    rw [hKind]
    rfl
  rcases hWF.exists_name hp hKey with ⟨own, hOwn⟩
  refine
    ⟨(own, p.ty), List.mem_cons_of_mem _
      (List.mem_filterMap.mpr ⟨p, hp, ?_⟩), hOwn⟩
  simp [hKind, hOwn]

/- No two keywords of the full call are alike. -/
theorem fullCall_apart
    (hWF : WellFormed ps)
    (hName : ¬ HasKeyword ps name) :
    (fullCall ps name).keywords.Pairwise fun k l =>
      k.1 = l.1 → ¬ HasKeyword ps k.1 := by
  refine List.pairwise_cons.mpr ⟨fun _ _ _ => hName, ?_⟩
  rw [List.pairwise_filterMap]
  refine hWF.distinct.imp ?_
  intro p q hNe k hk l hl hSame
  split at hk
  · rename_i hpKind
    split at hl
    · rename_i hqKind
      rw [beq_iff_eq] at hpKind hqKind
      rcases Option.map_eq_some_iff.mp hk with
        ⟨own, hOwn, rfl⟩
      rcases Option.map_eq_some_iff.mp hl with
        ⟨own', hOwn', rfl⟩
      cases hSame
      exact
        absurd (hOwn.trans hOwn'.symm)
          (hNe (by rw [hpKind]; rfl) (by rw [hqKind]; rfl))
    · cases hl
  · cases hk

/- A list that collects other keywords accepts its full call. -/
theorem accepts_fullCall
    (hWF : WellFormed ps)
    (hOthers : (firstOfKind .varKeyword ps).isSome = true)
    (hName : ¬ HasKeyword ps name) :
    Accepts ps (fullCall ps name) where
  received := by
    refine received_iff.mpr ⟨?_, ?_⟩
    · intro index hLt
      simp only [fullCall, List.length_map] at hLt
      simp [receiver?, List.getElem?_eq_getElem hLt]
    · intro keyword _
      simp [receiver?, hOthers]
  apart := fullCall_apart hWF hName
  unfilled := by
    intro index p hSection _ hKind keyword hKeyword hpName
    have hp := mem_of_getElem?_positionalSection hSection
    have hKey : p.kind.isKeyword = true := by
      rw [hKind]
      rfl
    rcases mem_fullCall_keywords hKeyword with
      hLost | ⟨q, hq, hqKind, hqName⟩
    · exact hName ⟨p, hp.1, hKey, hLost ▸ hpName⟩
    · have hSame :=
        hWF.eq_of_name hp.1 hq hKey (by rw [hqKind]; rfl)
          (hpName.trans hqName.symm)
      rw [hSame, hqKind] at hKind
      cases hKind
  positional := by
    intro index p hSection hPast
    have hLt := (List.getElem?_eq_some_iff.mp hSection).1
    simp only [fullCall, List.length_map] at hPast
    omega
  keywordOnly _ hp hKind _ :=
    exists_fullCall_keyword hWF hp hKind

/- A side with the extra name in a merged slot refuses it. -/
theorem not_accepts_fullCall
    {join : List Parameter}
    (hConsumed :
      isConsumed (positionalSection ps)
          (positionalSection join).length name =
        true) :
    ¬ Accepts ps (fullCall join name) := by
  intro hAccepts
  rcases isConsumed_iff.mp hConsumed with
    ⟨index, p, hLt, hIndex, hKind, hName⟩
  exact
    hAccepts.unfilled index p hIndex (by simpa [fullCall])
      hKind (name, .any) (List.mem_cons_self ..) hName

end ParamList

end SigCheck

------------------------------------------------------------
-- Soundness
------------------------------------------------------------

namespace SigCheck

open ParamList

/-
  Without readmitted names an accepted call uses no name
  that the join has lost.
-/
theorem ParamList.Accepts.hasKeyword_of_not_readmits
    {join ps : List Parameter} {args : CallArgs}
    (hAccepts : Accepts join args)
    (hNot : ¬ Readmits join ps)
    {keyword : String × Ty}
    (hKeyword : keyword ∈ args.keywords)
    (hName : HasKeyword ps keyword.1) :
    HasKeyword join keyword.1 := by
  by_contra hLost
  have hSome := hAccepts.isSome_keyword hKeyword
  rw [receiver?, keywordParam?_eq_none_iff.mpr hLost,
    Option.none_or] at hSome
  exact hNot ⟨hSome, keyword.1, hName, hLost⟩

/-
  A lost name that the join collects makes its full call one
  that a side refuses.
-/
theorem JoinParts.Joins.refused_fullCall
    {parts : JoinParts} {ps qs : List Parameter}
    (h : parts.Joins ps qs)
    {name : String}
    (hOthers :
      (firstOfKind .varKeyword parts.list).isSome = true)
    (hName : HasKeyword ps name ∨ HasKeyword qs name)
    (hLost : ¬ HasKeyword parts.list name) :
    ¬ Accepts ps (fullCall parts.list name) ∨
      ¬ Accepts qs (fullCall parts.list name) := by
  have hLength := h.isSorted.length_positionalSection_list
  have hConsumed := h.isConsumed_of_lost hOthers hName hLost
  rw [← hLength] at hConsumed
  exact
    hConsumed.imp not_accepts_fullCall not_accepts_fullCall

/- Where both sides accept all calls, no name is readmitted. -/
theorem JoinParts.Joins.hasKeyword_of_sound
    {parts : JoinParts} {ps qs : List Parameter}
    (hps : WellFormed ps)
    (hqs : WellFormed qs)
    (h : parts.Joins ps qs)
    (hSound :
      ∀ args : CallArgs, args.IsPlain →
        Accepts parts.list args →
          Accepts ps args ∧ Accepts qs args)
    {name : String}
    (hOthers :
      (firstOfKind .varKeyword parts.list).isSome = true)
    (hName : HasKeyword ps name ∨ HasKeyword qs name) :
    HasKeyword parts.list name := by
  by_contra hLost
  have hWF := (h.isJoined hps hqs).toWellFormed
  rcases hSound _ fullCall_isPlain
    (accepts_fullCall hWF hOthers hLost) with
    ⟨hLeft, hRight⟩
  rcases h.refused_fullCall hOthers hName hLost with
    hNot | hNot
  · exact hNot hLeft
  · exact hNot hRight

namespace Signature

/- A common supertype of two lists is a join of theirs. -/
theorem commonSupertype_params_eq_some_iff
    {ps qs join : List Parameter} :
    (params ps).commonSupertype (params qs) =
        some (params join) ↔
      ∃ parts : JoinParts,
        parts.Joins ps qs ∧ join = parts.list := by
  rw [← commonParamsBy_eq_some_iff]
  simp [commonSupertype, commonBy]

/-
  The common supertype of two lists is sound exactly if it
  readmits no lost name of either list. A call of it that
  unpacks nothing is then a call of both.
-/
theorem commonSupertype_sound_iff
    {ps qs join : List Parameter}
    (hps : WellFormed ps)
    (hqs : WellFormed qs)
    (hJoin :
      (params ps).commonSupertype (params qs) =
        some (params join)) :
    (∀ args : CallArgs, args.IsPlain →
      (∃ bound, (params join).bind args = .ok bound) →
        (∃ bound, (params ps).bind args = .ok bound) ∧
          ∃ bound, (params qs).bind args = .ok bound) ↔
      ¬ Readmits join ps ∧ ¬ Readmits join qs := by
  rcases commonSupertype_params_eq_some_iff.mp hJoin with
    ⟨parts, hParts, rfl⟩
  have hWF := (hParts.isJoined hps hqs).toWellFormed
  rcases hParts.covers hps hqs with ⟨hLeft, hRight⟩
  constructor
  · intro hSound
    have hAll :
        ∀ args : CallArgs, args.IsPlain →
          Accepts parts.list args →
            Accepts ps args ∧ Accepts qs args := by
      intro args hPlain hAccepts
      have hBound :=
        (exists_bound_iff_accepts hWF hPlain).mpr hAccepts
      exact
        (hSound args hPlain hBound).imp
          (exists_bound_iff_accepts hps hPlain).mp
          (exists_bound_iff_accepts hqs hPlain).mp
    constructor
    · rintro ⟨hOthers, name, hName, hLost⟩
      exact
        hLost (hParts.hasKeyword_of_sound hps hqs hAll
          hOthers (Or.inl hName))
    · rintro ⟨hOthers, name, hName, hLost⟩
      exact
        hLost (hParts.hasKeyword_of_sound hps hqs hAll
          hOthers (Or.inr hName))
  · rintro ⟨hLeftNot, hRightNot⟩ args hPlain hBound
    have hAccepts :=
      (exists_bound_iff_accepts hWF hPlain).mp hBound
    constructor
    · apply (exists_bound_iff_accepts hps hPlain).mpr
      exact
        hLeft.accepts hps hAccepts hWF fun _ =>
          hAccepts.hasKeyword_of_not_readmits hLeftNot
    · apply (exists_bound_iff_accepts hqs hPlain).mpr
      exact
        hRight.accepts hqs hAccepts hWF fun _ =>
          hAccepts.hasKeyword_of_not_readmits hRightNot

/- One list lacks the flag, which its other keywords take. -/
theorem commonSupertype_sound_iff_flag :
    let ps : List Parameter :=
      [⟨some "x", .positionalOrKeyword, .int, false⟩,
        ⟨some "flag", .keywordOnly, .bool, true⟩,
        ⟨some "more", .varKeyword, .int, false⟩]
    let qs : List Parameter :=
      [⟨some "x", .positionalOrKeyword, .int, false⟩,
        ⟨some "more", .varKeyword, .int, false⟩]
    WellFormed ps ∧ WellFormed qs ∧
      (params ps).commonSupertype (params qs) =
        some (params ps) ∧
      ∀ args : CallArgs, args.IsPlain →
        (∃ bound, (params ps).bind args = .ok bound) →
          (∃ bound, (params ps).bind args = .ok bound) ∧
            ∃ bound, (params qs).bind args = .ok bound := by
  intro ps qs
  have hps : WellFormed ps := by decide
  have hqs : WellFormed qs := by decide
  have hJoin :
      (params ps).commonSupertype (params qs) =
        some (params ps) := rfl
  refine
    ⟨hps, hqs, hJoin,
      (commonSupertype_sound_iff hps hqs hJoin).mpr ⟨?_, ?_⟩⟩
  · rintro ⟨-, name, hName, hLost⟩
    exact hLost hName
  · rintro ⟨-, name, ⟨q, hq, hKey, hName⟩, hLost⟩
    refine hLost ⟨q, ?_, hKey, hName⟩
    simp only [ps, qs, List.mem_cons] at hq ⊢
    tauto

/-
  The join drops the name of its slot, as the lists do not
  agree on one, but collects the same keyword.
-/
theorem commonSupertype_readmits_name :
    let ps : List Parameter :=
      [⟨some "x", .positionalOrKeyword, .int, false⟩,
        ⟨some "more", .varKeyword, .int, false⟩]
    let qs : List Parameter :=
      [⟨some "y", .positionalOrKeyword, .int, false⟩,
        ⟨some "more", .varKeyword, .int, false⟩]
    let join : List Parameter :=
      [⟨none, .positionalOnly, .int, false⟩,
        ⟨some "more", .varKeyword, .int, false⟩]
    let args : CallArgs :=
      { positional := [.int], keywords := [("x", .int)] }
    Declarable ps ∧ Declarable qs ∧
      (params ps).commonSupertype (params qs) =
        some (params join) ∧
      args.IsPlain ∧
      (∃ bound, (params join).bind args = .ok bound) ∧
      (params ps).bind args = .error (.multipleValues "x") := by
  intro ps qs join args
  exact
    ⟨by decide, by decide, rfl, ⟨rfl, rfl⟩, ⟨_, rfl⟩, rfl⟩

end Signature

end SigCheck
