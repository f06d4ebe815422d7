import SigCheck.Proofs.Compatibility

/-
  Joining a join with one of its sides again.

  The slots and the kept keywords of the join fit the side,
  so merging them with it changes nothing. A name that the
  side has beyond them is left out again, unless the join
  collects it with other keywords. Whether there is such a
  name decides if the side is compatible with the join.

  Key definitions include:
    * `ParamList.ReadmitsPast`

  Correctness is proven by:
    * `Covers.commonParamsBy_eq`
    * `Signature.isCompatibleWith_commonSupertype_iff`
-/

------------------------------------------------------------
-- Parts That Stay
------------------------------------------------------------

namespace SigCheck

/- Joining a variadic parameter with one that it fits. -/
theorem variadicBy_self
    {v w : Option Parameter}
    (h :
      ∀ s, v = some s →
        ∃ q, w = some q ∧ Ty.Narrows s.ty q.ty) :
    variadicBy Ty.meet v w = some v.toList := by
  cases v with
  | none => rfl
  | some s =>
      rcases h s rfl with ⟨q, rfl, hTy⟩
      have hMeet : s.ty.meet q.ty = some s.ty := hTy
      rcases s with ⟨name, kind, ty, optional⟩
      simp [variadicBy, hMeet]

/- Merging a keyword with a side that it fits. -/
theorem keywordSlotBy_self
    {left right : KeywordSide}
    {filled : Nat} {name : String} {p : Parameter}
    (hKind : p.kind = .keywordOnly)
    (hName : p.name = some name)
    (hAccepts : left.accepts? filled name = some p.ty)
    (hRequires : left.requires name = p.isRequired)
    (hFits : KeywordFits right filled name p) :
    keywordSlotBy Ty.meet filled left right name =
      some (some p) := by
  rcases hFits.ty with ⟨ty, hRight, hTy⟩
  have hMeet : p.ty.meet ty = some p.ty := hTy
  have hEither :
      (left.requires name || right.requires name) =
        p.isRequired := by
    rw [hRequires]
    cases hNeeds : right.requires name with
    | false => exact Bool.or_false _
    | true => rw [hFits.required hNeeds]; rfl
  have hDefault : (!p.isRequired) = p.hasDefault := by
    simp [Parameter.isRequired, hKind, ParamKind.isVariadic]
  unfold keywordSlotBy
  rw [hEither, hAccepts, hRight]
  simp only [hMeet, Option.map_some, hDefault]
  rcases p with ⟨pName, kind, pTy, optional⟩
  subst hKind hName
  rfl

/- A name that the left side cannot take is left out. -/
theorem keywordSlotBy_refused
    {left right : KeywordSide}
    {filled : Nat} {name : String}
    (hAccepts : left.accepts? filled name = none)
    (hLeft : left.requires name = false)
    (hRight : right.requires name = false) :
    keywordSlotBy Ty.meet filled left right name =
      some none := by
  simp [keywordSlotBy, hAccepts, hLeft, hRight]

/-
  Looking up the keyword names of two sides among the
  candidates of the first gives those candidates back.
-/
theorem filterMap_keywordNames
    (left right : KeywordSide)
    (hNames : (left.candidates.filterMap (·.name)).Nodup)
    (hFound :
      ∀ p ∈ left.candidates, ∃ name, p.name = some name ∧
        named? name left.candidates = some p) :
    (keywordNames left right).filterMap
        (named? · left.candidates) =
      left.candidates := by
  have hOwn :
      (left.candidates.filterMap (·.name)).filterMap
          (named? · left.candidates) =
        left.candidates := by
    rw [List.filterMap_filterMap]
    conv => rhs; rw [← List.filterMap_some (l := left.candidates)]
    apply List.filterMap_congr
    intro p hp
    rcases hFound p hp with ⟨name, hName, hNamed⟩
    rw [hName]
    exact hNamed
  unfold keywordNames
  rw [List.filterMap_append, List.eraseDups_append,
    eraseDups_eq_self hNames, List.filterMap_append, hOwn]
  -- The names that only the second side has find nothing.
  rw [List.append_right_eq_self, List.filterMap_eq_nil_iff]
  intro name hName
  rw [List.mem_eraseDups, List.removeAll,
    List.mem_filter] at hName
  cases hNamed : named? name left.candidates with
  | none => rfl
  | some p =>
      have hp := List.mem_of_find?_eq_some hNamed
      have hpName : p.name = some name := by
        simpa using List.find?_some hNamed
      have hOld : name ∈ left.candidates.filterMap (·.name) :=
        List.mem_filterMap.mpr ⟨p, hp, hpName⟩
      simp [hOld] at hName

end SigCheck

------------------------------------------------------------
-- Keywords That Stay
------------------------------------------------------------

namespace SigCheck

open ParamList

namespace ParamList

/-
  The join collects other keywords, and it has lost a name
  that a keyword reaches in the side past the slots that the
  two share.
-/
def ReadmitsPast (join ps : List Parameter) : Prop :=
  (firstOfKind .varKeyword join).isSome = true ∧
    ∃ name,
      HasKeywordPast (positionalSection join).length ps
          name ∧
        ¬ HasKeyword join name

variable {join : List Parameter}

/- Past all slots a keyword reaches keyword-only parameters. -/
theorem keywordsPast_length :
    keywordsPast (positionalSection join).length join =
      join.filter (·.kind == .keywordOnly) := by
  simp [keywordsPast]

/- The names past all slots are distinct. -/
theorem WellFormed.nodup_keywordsPast
    (hWF : WellFormed join) :
    ((keywordsPast (positionalSection join).length
      join).filterMap (·.name)).Nodup := by
  rw [keywordsPast_length]
  unfold List.Nodup
  rw [List.pairwise_filterMap]
  refine
    (hWF.distinct.sublist List.filter_sublist).imp_of_mem ?_
  intro p q hp hq hNe own hOwn own' hOwn' hSame
  have hpKind := (List.mem_filter.mp hp).2
  have hqKind := (List.mem_filter.mp hq).2
  rw [beq_iff_eq] at hpKind hqKind
  exact
    hNe (by rw [hpKind]; rfl) (by rw [hqKind]; rfl)
      (hOwn.trans (hSame ▸ hOwn'.symm))

/- A parameter past all slots is a keyword-only one. -/
theorem mem_keywordsPast_length
    {p : Parameter} :
    p ∈ keywordsPast (positionalSection join).length join ↔
      p ∈ join ∧ p.kind = .keywordOnly := by
  rw [keywordsPast_length, List.mem_filter, beq_iff_eq]

end ParamList

namespace Covers

variable {join ps : List Parameter}
variable (hJoin : WellFormed join)
variable (h : Covers join ps)

include hJoin h

/- A keyword of the join stays as it is. -/
theorem keywordSlotBy_kept
    {name : String} {p : Parameter}
    (hPast :
      p ∈ keywordsPast (positionalSection join).length join)
    (hName : p.name = some name) :
    keywordSlotBy Ty.meet (positionalSection join).length
        (keywordSide (positionalSection join).length join)
        (keywordSide (positionalSection join).length ps)
        name =
      some (some p) := by
  rcases mem_keywordsPast_length.mp hPast with ⟨hp, hKind⟩
  have hKey := (isKeyword_of_mem_keywordsPast hPast).2
  have hFits := h.keywordFits hp hKind hName
  refine keywordSlotBy_self hKind hName ?_ ?_ hFits
  · exact
      hJoin.accepts?_eq_some_iff.mpr
        (Or.inl ⟨p, hPast, hName, rfl⟩)
  · rw [Bool.eq_iff_iff, hJoin.requires_iff]
    constructor
    · rintro ⟨q, hq, hqName, hRequired⟩
      rcases isKeyword_of_mem_keywordsPast hq with
        ⟨hqMem, hqKey⟩
      have hSame :=
        hJoin.eq_of_name hp hqMem hKey hqKey
          (hName.trans hqName.symm)
      rw [hSame]
      exact hRequired
    · exact fun hRequired => ⟨p, hPast, hName, hRequired⟩

/- A keyword that the join has lost is left out again. -/
theorem keywordSlotBy_lost
    (hNot : ¬ ReadmitsPast join ps)
    {name : String}
    (hPast :
      HasKeywordPast (positionalSection join).length ps name)
    (hLost :
      ¬ HasKeywordPast (positionalSection join).length join
        name) :
    keywordSlotBy Ty.meet (positionalSection join).length
        (keywordSide (positionalSection join).length join)
        (keywordSide (positionalSection join).length ps)
        name =
      some none := by
  apply keywordSlotBy_refused
  · rw [Option.eq_none_iff_forall_ne_some]
    intro ty hTy
    rcases hJoin.accepts?_eq_some_iff.mp hTy with
      ⟨p, hp, hpName, -⟩ | ⟨hNone, s, hs, -⟩
    · exact hLost ⟨p, hp, hpName⟩
    · exact hNot ⟨by rw [hs]; rfl, name, hPast, hNone⟩
  · rw [← Bool.not_eq_true]
    intro hRequires
    rcases hJoin.requires_iff.mp hRequires with
      ⟨p, hp, hpName, -⟩
    exact hLost ⟨p, hp, hpName⟩
  · rw [← Bool.not_eq_true]
    intro hRequires
    rcases h.required name hRequires with
      ⟨p, hp, hKind, hName⟩
    exact
      hLost
        ⟨p, mem_keywordsPast_length.mpr ⟨hp, hKind⟩, hName⟩

/-
  Each name is merged into the keyword of the join that has
  it, if there is one.
-/
theorem keywordSlotBy_eq
    (hNot : ¬ ReadmitsPast join ps)
    {name : String}
    (hName :
      name ∈ keywordNames
        (keywordSide (positionalSection join).length join)
        (keywordSide (positionalSection join).length ps)) :
    keywordSlotBy Ty.meet (positionalSection join).length
        (keywordSide (positionalSection join).length join)
        (keywordSide (positionalSection join).length ps)
        name =
      some
        (named? name
          (keywordsPast (positionalSection join).length
            join)) := by
  cases hNamed :
      named? name
        (keywordsPast (positionalSection join).length
          join) with
  | some p =>
      rcases hJoin.named?_keywordsPast_eq_some_iff.mp hNamed
        with ⟨hp, hpName⟩
      exact h.keywordSlotBy_kept hJoin hp hpName
  | none =>
      have hLost :
          ¬ HasKeywordPast (positionalSection join).length
            join name := by
        rintro ⟨p, hp, hpName⟩
        have hFound :=
          hJoin.named?_keywordsPast_eq_some_iff.mpr
            ⟨hp, hpName⟩
        cases hNamed.symm.trans hFound
      rcases mem_keywordNames_iff.mp hName with hOwn | hPast
      · exact absurd hOwn hLost
      · exact h.keywordSlotBy_lost hJoin hNot hPast hLost

end Covers

end SigCheck

------------------------------------------------------------
-- Joining Again
------------------------------------------------------------

namespace SigCheck

open ParamList

namespace JoinParts

/- The parts of joining a join with one of its sides. -/
def again (join ps rest : List Parameter) : JoinParts where
  lead := ⟨positionalSection join, [], rest⟩
  star := firstOfKind .varPositional join
  named :=
    (keywordNames
      (keywordSide (positionalSection join).length join)
      (keywordSide (positionalSection join).length ps)).map
      (named? ·
        (keywordsPast (positionalSection join).length join))
  others := firstOfKind .varKeyword join

variable {join ps rest : List Parameter}

/- Its keywords are those of the join. -/
theorem keywords_again
    (hJoin : WellFormed join) :
    (again join ps rest).keywords =
      join.filter (·.kind == .keywordOnly) := by
  have hFound :=
    filterMap_keywordNames
      (keywordSide (positionalSection join).length join)
      (keywordSide (positionalSection join).length ps)
      hJoin.nodup_keywordsPast (by
        intro p hp
        rcases isKeyword_of_mem_keywordsPast hp with
          ⟨hMem, hKey⟩
        rcases hJoin.exists_name hMem hKey with
          ⟨name, hName⟩
        exact
          ⟨name, hName,
            hJoin.named?_keywordsPast_eq_some_iff.mpr
              ⟨hp, hName⟩⟩)
  rw [← keywordsPast_length]
  refine Eq.trans ?_ hFound
  simp [keywords, again, List.filterMap_map, keywordSide]

/- They make up the join. -/
theorem list_again
    (hJoin : IsJoined join) :
    (again join ps rest).list = join := by
  unfold list
  rw [keywords_again hJoin.toWellFormed]
  simp only [again, hJoin.normal]
  exact hJoin.sections.symm

end JoinParts

namespace Covers

variable {join ps : List Parameter}

/-
  Joining a join with one of its sides gives it back, if it
  does not take a lost name of the side past the slots.
-/
theorem commonParamsBy_eq
    (hJoin : IsJoined join)
    (h : Covers join ps)
    (hNot : ¬ ReadmitsPast join ps) :
    commonParamsBy Ty.meet join ps = some join := by
  rcases h.lead with ⟨rest, hLead⟩
  refine
    commonParamsBy_eq_some_iff.mpr
      ⟨.again join ps rest, ⟨?_, ?_, ?_, h.fillable, ?_, ?_⟩,
        (JoinParts.list_again hJoin).symm⟩
  · exact hLead.ofLists_self hJoin.merged id
  · exact variadicBy_self h.star
  · intro p hp
    simp [JoinParts.filled, JoinParts.again] at hp
  · refine List.forall₂_map_right_iff.mpr
      (List.forall₂_same.mpr ?_)
    exact fun name hName =>
      h.keywordSlotBy_eq hJoin.toWellFormed hNot hName
  · exact variadicBy_self h.others

/-
  A name that the join takes past the slots of a side makes
  joining the two again add a keyword for it.
-/
theorem hasKeyword_of_rejoin
    (hps : WellFormed ps)
    {again : List Parameter}
    (hAgain :
      commonParamsBy Ty.meet join ps = some again)
    (hLength :
      (positionalSection again).length =
        (positionalSection join).length)
    (hOthers : (firstOfKind .varKeyword again).isSome = true)
    {name : String}
    (hPast :
      HasKeywordPast (positionalSection join).length ps
        name) :
    HasKeyword join name ∨ HasKeyword again name := by
  rcases commonParamsBy_eq_some_iff.mp hAgain with
    ⟨parts, hParts, rfl⟩
  rw [hParts.isSorted.length_positionalSection_list]
    at hLength
  rw [← hLength] at hPast
  by_contra hNot
  rw [not_or] at hNot
  have hKeyword : HasKeyword ps name :=
    (hasKeyword_iff parts.filled).mpr (Or.inr hPast)
  rcases hParts.isConsumed_of_lost hOthers
    (Or.inr hKeyword) hNot.2 with hConsumed | hConsumed
  · exact
      hNot.1 ((hasKeyword_iff parts.filled).mpr
        (Or.inl hConsumed))
  · rcases hPast with ⟨p, hp, hName⟩
    rw [hps.isConsumed_eq_false hp hName] at hConsumed
    cases hConsumed

/- A list takes no lost name of a compatible one. -/
theorem not_readmits
    (hps : WellFormed ps)
    (h :
      (Signature.params ps).isCompatibleWith (.params join) =
        true) : ¬ ReadmitsPast join ps := by
  rintro ⟨hOthers, name, hPast, hLost⟩
  rcases Signature.isCompatibleWith_params_iff.mp h with
    ⟨again, hAgain, hAlike⟩
  rcases hasKeyword_of_rejoin hps hAgain
    (positionalSection_alike hAlike).length_eq
    (isSome_firstOfKind_alike hAlike hOthers) hPast with
    hHas | hHas
  · exact hLost hHas
  · exact hLost (hasKeyword_of_alike (alike_symm hAlike) hHas)

/-
  A side is compatible with its join exactly if the join
  takes no lost name of it past the slots.
-/
theorem isCompatibleWith_iff
    (hJoin : IsJoined join)
    (hps : WellFormed ps)
    (h : Covers join ps) :
    (Signature.params ps).isCompatibleWith (.params join) =
        true ↔
      ¬ ReadmitsPast join ps := by
  refine ⟨not_readmits hps, fun hNot => ?_⟩
  refine
    Signature.isCompatibleWith_params_iff.mpr
      ⟨join, h.commonParamsBy_eq hJoin hNot, ?_⟩
  exact List.forall₂_same.mpr fun p _ => .refl p

end Covers

namespace Signature

/-
  Each of two lists is compatible with their common
  supertype exactly if that takes no lost name of the list
  past the slots that the two share.
-/
theorem isCompatibleWith_commonSupertype_iff
    {ps qs join : List Parameter}
    (hps : WellFormed ps)
    (hqs : WellFormed qs)
    (hJoin :
      (params ps).commonSupertype (params qs) =
        some (params join)) :
    ((params ps).isCompatibleWith (params join) = true ↔
        ¬ ReadmitsPast join ps) ∧
      ((params qs).isCompatibleWith (params join) = true ↔
        ¬ ReadmitsPast join qs) := by
  rcases commonSupertype_params_eq_some_iff.mp hJoin with
    ⟨parts, hParts, rfl⟩
  have hJoined := hParts.isJoined hps hqs
  rcases hParts.covers hps hqs with ⟨hLeft, hRight⟩
  exact
    ⟨hLeft.isCompatibleWith_iff hJoined hps,
      hRight.isCompatibleWith_iff hJoined hqs⟩

/-
  Two lists take a name at a slot and by keyword only. The
  first stays compatible with what both have in common.
-/
theorem isCompatibleWith_commonSupertype_iff_slot :
    let ps : List Parameter :=
      [⟨some "x", .positionalOrKeyword, .int, false⟩,
        ⟨some "more", .varKeyword, .int, false⟩]
    let qs : List Parameter :=
      [⟨none, .positionalOnly, .int, false⟩,
        ⟨some "x", .keywordOnly, .int, true⟩,
        ⟨some "more", .varKeyword, .int, false⟩]
    let join : List Parameter :=
      [⟨none, .positionalOnly, .int, false⟩,
        ⟨some "more", .varKeyword, .int, false⟩]
    WellFormed ps ∧ WellFormed qs ∧
      (params ps).commonSupertype (params qs) =
        some (params join) ∧
      (params ps).isCompatibleWith (params join) = true := by
  intro ps qs join
  have hps : WellFormed ps := by decide
  have hqs : WellFormed qs := by decide
  have hJoin :
      (params ps).commonSupertype (params qs) =
        some (params join) := rfl
  refine
    ⟨hps, hqs, hJoin,
      (isCompatibleWith_commonSupertype_iff hps hqs
        hJoin).1.mpr ?_⟩
  rintro ⟨-, name, ⟨p, hp, -⟩, -⟩
  have hNone :
      keywordsPast (positionalSection join).length ps = [] :=
    rfl
  rw [hNone] at hp
  cases hp

/-
  The join collects the keyword that the second list takes
  by name, so joining the two again adds it.
-/
theorem commonSupertype_not_compatible :
    let ps : List Parameter :=
      [⟨some "x", .positionalOrKeyword, .int, false⟩,
        ⟨some "more", .varKeyword, .int, false⟩]
    let qs : List Parameter :=
      [⟨none, .positionalOnly, .int, false⟩,
        ⟨some "x", .keywordOnly, .int, true⟩,
        ⟨some "more", .varKeyword, .int, false⟩]
    let join : List Parameter :=
      [⟨none, .positionalOnly, .int, false⟩,
        ⟨some "more", .varKeyword, .int, false⟩]
    Declarable ps ∧ Declarable qs ∧
      (params ps).commonSupertype (params qs) =
        some (params join) ∧
      (params qs).isCompatibleWith (params join) = false := by
  intro ps qs join
  exact ⟨by decide, by decide, rfl, rfl⟩

end Signature

end SigCheck
