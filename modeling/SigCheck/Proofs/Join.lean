import SigCheck.Proofs.KeywordMerge
import SigCheck.Proofs.LeadMerge

/-
  The parts of a join of two parameter lists, and what the
  join means for each of the two.

  `JoinParts.Joins` says how the parts come about. What is
  used of it afterwards is one-sided: `Covers` says that one
  list can do with what callers of the join give, and
  `IsJoined` that a list has the form that joining leaves.

  Key definitions include:
    * `JoinParts`, `JoinParts.Joins`
    * `Covers`
    * `IsJoined`

  Main statements:
    * `commonParamsBy_eq_some_iff`
    * `JoinParts.Joins.covers`
    * `JoinParts.Joins.isJoined`
    * `JoinParts.Joins.isConsumed_of_lost`
-/

------------------------------------------------------------
-- Parts
------------------------------------------------------------

namespace SigCheck

/-
  The parts of a join: the merged slots with what either
  side has left, the variadic parameters, and what became of
  each keyword.
-/
structure JoinParts where
  lead : LeadMerge
  star : Option Parameter
  named : List (Option Parameter)
  others : Option Parameter

namespace JoinParts

/- The number of merged slots. -/
def filled (parts : JoinParts) : Nat :=
  parts.lead.merged.length

/- The keyword-only parameters. -/
def keywords (parts : JoinParts) : List Parameter :=
  parts.named.filterMap id

/- The parameter list that the parts make up. -/
def list (parts : JoinParts) : List Parameter :=
  normalizeLead parts.lead.merged ++ parts.star.toList
    ++ parts.keywords ++ parts.others.toList

open ParamList

/- The parts come from joining the two lists. -/
structure Joins
    (parts : JoinParts)
    (ps qs : List Parameter) : Prop where
  lead :
    LeadMerge.ofLists Ty.meet
        (firstOfKind .varPositional ps)
        (firstOfKind .varPositional qs)
        (positionalSection ps) (positionalSection qs) =
      some parts.lead
  star :
    variadicBy Ty.meet (firstOfKind .varPositional ps)
        (firstOfKind .varPositional qs) =
      some parts.star.toList
  leftFillable : Fillable parts.filled ps
  rightFillable : Fillable parts.filled qs
  named :
    List.Forall₂
      (fun name slot =>
        keywordSlotBy Ty.meet parts.filled
            (keywordSide parts.filled ps)
            (keywordSide parts.filled qs) name =
          some slot)
      (keywordNames (keywordSide parts.filled ps)
        (keywordSide parts.filled qs))
      parts.named
  others :
    variadicBy Ty.meet (firstOfKind .varKeyword ps)
        (firstOfKind .varKeyword qs) =
      some parts.others.toList

end JoinParts

/- A join has one variadic parameter of a kind at most. -/
theorem exists_toList_of_variadicBy
    {p q : Option Parameter} {list : List Parameter}
    (h : variadicBy Ty.meet p q = some list) :
    ∃ v : Option Parameter, list = v.toList := by
  unfold variadicBy at h
  split at h
  · rcases Option.map_eq_some_iff.mp h with ⟨ty, -, rfl⟩
    exact ⟨some _, rfl⟩
  · cases h
    exact ⟨none, rfl⟩

/- It takes what both sides take with theirs. -/
theorem variadicBy_fits
    {p q : Option Parameter} {list : List Parameter}
    {s : Parameter}
    (h : variadicBy Ty.meet p q = some list)
    (hs : s ∈ list) :
    (∃ p', p = some p' ∧ s.kind = p'.kind ∧
      Ty.Narrows s.ty p'.ty) ∧
      ∃ q', q = some q' ∧ Ty.Narrows s.ty q'.ty := by
  unfold variadicBy at h
  split at h
  · rename_i p' q'
    rcases Option.map_eq_some_iff.mp h with
      ⟨ty, hMeet, rfl⟩
    rcases Ty.narrows_of_meet hMeet with ⟨hLeft, hRight⟩
    rw [List.mem_singleton] at hs
    subst hs
    exact ⟨⟨p', rfl, rfl, hLeft⟩, ⟨q', rfl, hRight⟩⟩
  · cases h
    cases hs

/- It is of the kind of the first side. -/
theorem kind_of_variadicBy
    {kind : ParamKind} {ps list : List Parameter}
    {q : Option Parameter}
    (h :
      variadicBy Ty.meet (firstOfKind kind ps) q =
        some list) :
    ∀ p ∈ list, p.kind = kind := by
  intro p hp
  rcases variadicBy_fits h hp with
    ⟨⟨p', hp', hKind, -⟩, -⟩
  rw [hKind]
  simpa using List.find?_some hp'

/- The slots that merging leaves over on both sides. -/
theorem LeadMerge.rests_eq
    {leftStar rightStar : Option Parameter}
    {ps qs : List Parameter} {m : LeadMerge}
    (h :
      ofLists Ty.meet leftStar rightStar ps qs = some m) :
    m.leftRest = ps.drop m.merged.length ∧
      m.rightRest = qs.drop m.merged.length := by
  rcases ofLists_fits h with ⟨hLeft, hRight, -⟩
  exact ⟨hLeft.rest_eq, hRight.rest_eq⟩

/- A join is made up of its parts. -/
theorem commonParamsBy_eq_some_iff
    {ps qs join : List Parameter} :
    commonParamsBy Ty.meet ps qs = some join ↔
      ∃ parts : JoinParts,
        parts.Joins ps qs ∧ join = parts.list := by
  unfold commonParamsBy
  simp only [Option.bind_eq_bind, Option.bind_eq_some_iff,
    Option.pure_def, Option.some.injEq]
  constructor
  · rintro ⟨lead, hLead, star, hStar, leftNamed, hLeft,
      rightNamed, hRight, named, hNamed, others, hOthers,
      rfl⟩
    -- What merging leaves over are the slots past the merged.
    rcases LeadMerge.rests_eq hLead with
      ⟨hLeftRest, hRightRest⟩
    rw [hLeftRest,
      ParamList.keywordCandidates_eq_some_iff] at hLeft
    rw [hRightRest,
      ParamList.keywordCandidates_eq_some_iff] at hRight
    rcases hLeft with ⟨hLeftFillable, rfl⟩
    rcases hRight with ⟨hRightFillable, rfl⟩
    rcases exists_toList_of_variadicBy hStar with
      ⟨star, rfl⟩
    rcases exists_toList_of_variadicBy hOthers with
      ⟨others, rfl⟩
    exact
      ⟨⟨lead, star, named, others⟩,
        ⟨hLead, hStar, hLeftFillable, hRightFillable,
          mapM_eq_some_iff_forall₂.mp hNamed, hOthers⟩, rfl⟩
  · rintro ⟨parts, h, rfl⟩
    rcases LeadMerge.rests_eq h.lead with
      ⟨hLeftRest, hRightRest⟩
    refine
      ⟨parts.lead, h.lead, parts.star.toList, h.star,
        ParamList.keywordsPast parts.filled ps, ?_,
        ParamList.keywordsPast parts.filled qs, ?_,
        parts.named, mapM_eq_some_iff_forall₂.mpr h.named,
        parts.others.toList, h.others, rfl⟩
    · rw [hLeftRest,
        ParamList.keywordCandidates_eq_some_iff]
      exact ⟨h.leftFillable, rfl⟩
    · rw [hRightRest,
        ParamList.keywordCandidates_eq_some_iff]
      exact ⟨h.rightFillable, rfl⟩

end SigCheck

------------------------------------------------------------
-- Sections
------------------------------------------------------------

namespace SigCheck

namespace JoinParts

variable {parts : JoinParts}

/- Each part holds parameters of its own kinds. -/
structure IsSorted (parts : JoinParts) : Prop where
  merged : ∀ p ∈ parts.lead.merged, IsMergedSlot p
  star :
    ∀ p ∈ parts.star.toList, p.kind = .varPositional
  keywords : ∀ p ∈ parts.keywords, p.kind = .keywordOnly
  others : ∀ p ∈ parts.others.toList, p.kind = .varKeyword

/- A member of a part of the keywords. -/
theorem mem_keywords {p : Parameter} :
    p ∈ parts.keywords ↔ some p ∈ parts.named := by
  simp [keywords]

/- Joined parts are sorted. -/
theorem Joins.isSorted
    {ps qs : List Parameter}
    (h : parts.Joins ps qs) : IsSorted parts where
  merged := (LeadMerge.ofLists_fits h.lead).2.2
  star := kind_of_variadicBy h.star
  keywords := by
    intro p hp
    rcases exists_left_of_forall₂ h.named
      (mem_keywords.mp hp) with ⟨name, -, hSlot⟩
    exact (keywordSlotBy_fits hSlot).1
  others := kind_of_variadicBy h.others

/- A test that all members answer alike. -/
theorem filter_eq_of_forall
    {α : Type} {test : α → Bool} {xs : List α} {b : Bool}
    (h : ∀ x ∈ xs, test x = b) :
    xs.filter test = if b then xs else [] := by
  cases b with
  | true => exact List.filter_eq_self.mpr h
  | false =>
      refine List.filter_eq_nil_iff.mpr fun x hx => ?_
      simp [h x hx]

namespace IsSorted

variable (h : IsSorted parts)

include h

/- Merged slots are positional. -/
theorem isPositional
    {p : Parameter}
    (hp : p ∈ normalizeLead parts.lead.merged) :
    p.kind.isPositional = true := by
  rcases isMergedSlot_of_mem_normalizeLead h.merged p hp
    with hKind | ⟨hKind, -⟩ <;> rw [hKind] <;> rfl

/- A test on kinds keeps whole parts. -/
theorem filter_list
    (test : ParamKind → Bool)
    (hLead :
      test .positionalOnly = test .positionalOrKeyword) :
    parts.list.filter (fun p => test p.kind) =
      (if test .positionalOnly then
          normalizeLead parts.lead.merged
        else []) ++
        (if test .varPositional then parts.star.toList
          else []) ++
          (if test .keywordOnly then parts.keywords
            else []) ++
            if test .varKeyword then parts.others.toList
            else [] := by
  have hMerged :
      ∀ p ∈ normalizeLead parts.lead.merged,
        test p.kind = test .positionalOnly := by
    intro p hp
    rcases isMergedSlot_of_mem_normalizeLead h.merged p hp
      with hKind | ⟨hKind, -⟩
    · rw [hKind, hLead]
    · rw [hKind]
  have hStar :
      ∀ p ∈ parts.star.toList,
        test p.kind = test .varPositional :=
    fun p hp => by rw [h.star p hp]
  have hKeywords :
      ∀ p ∈ parts.keywords,
        test p.kind = test .keywordOnly :=
    fun p hp => by rw [h.keywords p hp]
  have hOthers :
      ∀ p ∈ parts.others.toList,
        test p.kind = test .varKeyword :=
    fun p hp => by rw [h.others p hp]
  unfold list
  rw [List.filter_append, List.filter_append,
    List.filter_append, filter_eq_of_forall hMerged,
    filter_eq_of_forall hStar,
    filter_eq_of_forall hKeywords,
    filter_eq_of_forall hOthers]

theorem positionalSection_list :
    positionalSection parts.list =
      normalizeLead parts.lead.merged := by
  have hFilter := h.filter_list (·.isPositional) rfl
  rw [positionalSection, hFilter]
  simp [ParamKind.isPositional]

theorem length_positionalSection_list :
    (positionalSection parts.list).length = parts.filled := by
  rw [h.positionalSection_list, length_normalizeLead]
  rfl

theorem keywordOnly_list :
    parts.list.filter (·.kind == .keywordOnly) =
      parts.keywords := by
  simpa using h.filter_list (· == .keywordOnly) rfl

theorem firstOfKind_varPositional_list :
    firstOfKind .varPositional parts.list = parts.star := by
  have hFilter := h.filter_list (· == .varPositional) rfl
  rw [firstOfKind, ← List.head?_filter, hFilter]
  simp [Option.head?_toList]

theorem firstOfKind_varKeyword_list :
    firstOfKind .varKeyword parts.list = parts.others := by
  have hFilter := h.filter_list (· == .varKeyword) rfl
  rw [firstOfKind, ← List.head?_filter, hFilter]
  simp [Option.head?_toList]

/- The keyword-only parameters are the kept keywords. -/
theorem mem_list_keywordOnly {p : Parameter} :
    p ∈ parts.list ∧ p.kind = .keywordOnly ↔
      p ∈ parts.keywords := by
  rw [← h.keywordOnly_list, List.mem_filter, beq_iff_eq]

end IsSorted

end JoinParts

end SigCheck

------------------------------------------------------------
-- Covering
------------------------------------------------------------

namespace SigCheck

open ParamList

/-
  The second list can do with what callers give the first.
  Its slots take the positions of the first, and past them
  it needs only what the first needs by keyword.
-/
structure Covers (join ps : List Parameter) : Prop where
  lead :
    ∃ rest,
      LeadFits (firstOfKind .varPositional ps)
        ((firstOfKind .varPositional join).isSome = true)
        (positionalSection ps) rest (positionalSection join)
  fillable : Fillable (positionalSection join).length ps
  star :
    ∀ s, firstOfKind .varPositional join = some s →
      ∃ q, firstOfKind .varPositional ps = some q ∧
        Ty.Narrows s.ty q.ty
  keywords :
    ∀ p ∈ join, p.kind = .keywordOnly →
      ∃ name, p.name = some name ∧
        KeywordFits
          (keywordSide (positionalSection join).length ps)
          (positionalSection join).length name p
  required :
    ∀ name,
      (keywordSide (positionalSection join).length
          ps).requires name = true →
        ∃ p ∈ join, p.kind = .keywordOnly ∧
          p.name = some name
  others :
    ∀ s, firstOfKind .varKeyword join = some s →
      ∃ q, firstOfKind .varKeyword ps = some q ∧
        Ty.Narrows s.ty q.ty

namespace JoinParts

variable {parts : JoinParts} {ps qs : List Parameter}

/- A kept keyword fits both sides. -/
theorem Joins.keywordFits
    (h : parts.Joins ps qs)
    {p : Parameter}
    (hp : p ∈ parts.keywords) :
    ∃ name, p.name = some name ∧
      KeywordFits (keywordSide parts.filled ps)
        parts.filled name p ∧
        KeywordFits (keywordSide parts.filled qs)
          parts.filled name p := by
  rcases exists_left_of_forall₂ h.named
    (mem_keywords.mp hp) with ⟨name, -, hSlot⟩
  exact ⟨name, (keywordSlotBy_fits hSlot).2⟩

/-
  A name that either side reaches past the merged slots is
  kept, or left out where neither side needs it and one
  cannot take it.
-/
theorem Joins.kept_or_refused
    (h : parts.Joins ps qs)
    {name : String}
    (hName :
      HasKeywordPast parts.filled ps name ∨
        HasKeywordPast parts.filled qs name) :
    (∃ p ∈ parts.keywords, p.name = some name) ∨
      ((keywordSide parts.filled ps).requires name = false ∧
        (keywordSide parts.filled qs).requires name =
          false ∧
          ((keywordSide parts.filled ps).accepts?
              parts.filled name = none ∨
            (keywordSide parts.filled qs).accepts?
              parts.filled name = none)) := by
  rcases exists_right_of_forall₂ h.named
    (mem_keywordNames_iff.mpr hName) with
    ⟨slot, hMem, hSlot⟩
  rcases keywordSlotBy_eq_some hSlot with
    ⟨p, rfl, -, hpName, -⟩ | ⟨-, hRefused⟩
  · exact Or.inl ⟨p, mem_keywords.mpr hMem, hpName⟩
  · exact Or.inr hRefused

/- A name that either side needs is kept. -/
theorem Joins.kept_of_requires
    (hps : WellFormed ps)
    (hqs : WellFormed qs)
    (h : parts.Joins ps qs)
    {name : String}
    (hRequires :
      (keywordSide parts.filled ps).requires name = true ∨
        (keywordSide parts.filled qs).requires name =
          true) :
    ∃ p ∈ parts.keywords, p.name = some name := by
  have hPast := hRequires.imp hps.requires_iff.mp
    hqs.requires_iff.mp
  have hName :
      HasKeywordPast parts.filled ps name ∨
        HasKeywordPast parts.filled qs name :=
    hPast.imp
      (fun ⟨p, hp, hpName, _⟩ => ⟨p, hp, hpName⟩)
      (fun ⟨q, hq, hqName, _⟩ => ⟨q, hq, hqName⟩)
  rcases h.kept_or_refused hName with
    hKept | ⟨hLeft, hRight, -⟩
  · exact hKept
  · rw [hLeft, hRight] at hRequires
    rcases hRequires with hFalse | hFalse <;> cases hFalse

/- Parts that fit one side make up a list that covers it. -/
theorem IsSorted.covers
    (hSorted : IsSorted parts)
    {rest : List Parameter}
    (hLead :
      LeadFits (firstOfKind .varPositional ps)
        (parts.star.isSome = true) (positionalSection ps)
        rest parts.lead.merged)
    (hFillable : Fillable parts.filled ps)
    (hStar :
      ∀ s ∈ parts.star.toList,
        ∃ q, firstOfKind .varPositional ps = some q ∧
          Ty.Narrows s.ty q.ty)
    (hKeywords :
      ∀ p ∈ parts.keywords, ∃ name, p.name = some name ∧
        KeywordFits (keywordSide parts.filled ps)
          parts.filled name p)
    (hRequired :
      ∀ name,
        (keywordSide parts.filled ps).requires name =
            true →
          ∃ p ∈ parts.keywords, p.name = some name)
    (hOthers :
      ∀ s ∈ parts.others.toList,
        ∃ q, firstOfKind .varKeyword ps = some q ∧
          Ty.Narrows s.ty q.ty) :
    Covers parts.list ps where
  lead := by
    rw [hSorted.positionalSection_list,
      hSorted.firstOfKind_varPositional_list]
    exact ⟨rest, hLead.weaken normalizeLead_weakens⟩
  fillable := by
    rw [hSorted.length_positionalSection_list]
    exact hFillable
  star := by
    rw [hSorted.firstOfKind_varPositional_list]
    exact fun s hs => hStar s (by simp [hs])
  keywords := by
    rw [hSorted.length_positionalSection_list]
    exact fun p hp hKind =>
      hKeywords p
        (hSorted.mem_list_keywordOnly.mp ⟨hp, hKind⟩)
  required := by
    rw [hSorted.length_positionalSection_list]
    intro name hRequires
    rcases hRequired name hRequires with ⟨p, hp, hName⟩
    rcases hSorted.mem_list_keywordOnly.mpr hp with
      ⟨hMem, hKind⟩
    exact ⟨p, hMem, hKind, hName⟩
  others := by
    rw [hSorted.firstOfKind_varKeyword_list]
    exact fun s hs => hOthers s (by simp [hs])

/- A join covers both of its sides. -/
theorem Joins.covers
    (hps : WellFormed ps)
    (hqs : WellFormed qs)
    (h : parts.Joins ps qs) :
    Covers parts.list ps ∧ Covers parts.list qs := by
  rcases LeadMerge.ofLists_fits h.lead with
    ⟨hLeft, hRight, -⟩
  have hStars :
      parts.star.isSome = true →
        (firstOfKind .varPositional ps).isSome = true ∧
          (firstOfKind .varPositional qs).isSome = true := by
    intro hSome
    rcases Option.isSome_iff_exists.mp hSome with ⟨s, hs⟩
    rcases variadicBy_fits h.star (s := s) (by simp [hs])
      with ⟨⟨p, hp, -⟩, ⟨q, hq, -⟩⟩
    simp [hp, hq]
  refine
    ⟨h.isSorted.covers
        (hLeft.mono fun hSome => (hStars hSome).2)
        h.leftFillable ?_ ?_ ?_ ?_,
      h.isSorted.covers
        (hRight.mono fun hSome => (hStars hSome).1)
        h.rightFillable ?_ ?_ ?_ ?_⟩
  · intro s hs
    rcases (variadicBy_fits h.star hs).1 with
      ⟨p, hp, -, hTy⟩
    exact ⟨p, hp, hTy⟩
  · intro p hp
    rcases h.keywordFits hp with ⟨name, hName, hFits, -⟩
    exact ⟨name, hName, hFits⟩
  · exact fun name hRequires =>
      h.kept_of_requires hps hqs (Or.inl hRequires)
  · intro s hs
    rcases (variadicBy_fits h.others hs).1 with
      ⟨p, hp, -, hTy⟩
    exact ⟨p, hp, hTy⟩
  · exact fun s hs => (variadicBy_fits h.star hs).2
  · intro p hp
    rcases h.keywordFits hp with ⟨name, hName, -, hFits⟩
    exact ⟨name, hName, hFits⟩
  · exact fun name hRequires =>
      h.kept_of_requires hps hqs (Or.inr hRequires)
  · exact fun s hs => (variadicBy_fits h.others hs).2

/- A side that takes other keywords refuses used names only. -/
theorem isConsumed_of_accepts?_eq_none
    {filled : Nat} {name : String}
    (hOthers : (firstOfKind .varKeyword ps).isSome = true)
    (h :
      (keywordSide filled ps).accepts? filled name =
        none) :
    isConsumed (positionalSection ps) filled name =
      true := by
  rcases Option.isSome_iff_exists.mp hOthers with ⟨q, hq⟩
  unfold KeywordSide.accepts? keywordSide at h
  split at h
  · assumption
  · rw [Option.map_eq_none_iff, Option.or_eq_none_iff] at h
    cases hq.symm.trans h.2

/-
  Where the join takes other keywords, a name of either side
  that it lacks names one of the merged slots of a side.
-/
theorem Joins.isConsumed_of_lost
    (h : parts.Joins ps qs)
    {name : String}
    (hOthers :
      (firstOfKind .varKeyword parts.list).isSome = true)
    (hName : HasKeyword ps name ∨ HasKeyword qs name)
    (hLost : ¬ HasKeyword parts.list name) :
    isConsumed (positionalSection ps) parts.filled name =
        true ∨
      isConsumed (positionalSection qs) parts.filled name =
        true := by
  rw [h.isSorted.firstOfKind_varKeyword_list] at hOthers
  rcases Option.isSome_iff_exists.mp hOthers with ⟨s, hs⟩
  rcases variadicBy_fits h.others (s := s) (by simp [hs])
    with ⟨⟨p, hp, -⟩, ⟨q, hq, -⟩⟩
  rw [hasKeyword_iff parts.filled,
    hasKeyword_iff parts.filled] at hName
  have hPast :
      HasKeywordPast parts.filled ps name ∨
          HasKeywordPast parts.filled qs name →
        isConsumed (positionalSection ps) parts.filled name =
            true ∨
          isConsumed (positionalSection qs) parts.filled
              name = true := by
    intro hPast
    rcases h.kept_or_refused hPast with
      ⟨r, hr, hrName⟩ | ⟨-, -, hRefused⟩
    · rcases h.isSorted.mem_list_keywordOnly.mpr hr with
        ⟨hMem, hKind⟩
      exact
        absurd ⟨r, hMem, by rw [hKind]; rfl, hrName⟩ hLost
    · exact
        hRefused.imp
          (isConsumed_of_accepts?_eq_none (by simp [hp]))
          (isConsumed_of_accepts?_eq_none (by simp [hq]))
  -- A name among the merged slots of its side is used there.
  rcases hName with (hUsed | hLeft) | (hUsed | hRight)
  · exact Or.inl hUsed
  · exact hPast (Or.inl hLeft)
  · exact Or.inr hUsed
  · exact hPast (Or.inr hRight)

end JoinParts

end SigCheck

------------------------------------------------------------
-- The Form of a Join
------------------------------------------------------------

namespace SigCheck

open ParamList

/-
  A list of the form that joining leaves: well-formed, with
  normalized merged slots, and made up of its sections.
-/
structure IsJoined (list : List Parameter) : Prop
    extends WellFormed list where
  merged : ∀ p ∈ positionalSection list, IsMergedSlot p
  normal :
    normalizeLead (positionalSection list) =
      positionalSection list
  sections :
    list =
      positionalSection list
        ++ (firstOfKind .varPositional list).toList
        ++ list.filter (·.kind == .keywordOnly)
        ++ (firstOfKind .varKeyword list).toList

/- A named slot of a join is one of each side it covers. -/
theorem Covers.exists_slot_of_named
    {join ps : List Parameter}
    (h : Covers join ps)
    {index : Nat} {slot : Parameter}
    (hSlot : (positionalSection join)[index]? = some slot)
    (hKind : slot.kind = .positionalOrKeyword) :
    ∃ p, (positionalSection ps)[index]? = some p ∧
      SlotFits slot p := by
  rcases h.lead with ⟨rest, hLead⟩
  rcases hLead.getElem? hSlot with hFits | ⟨-, s, -, hStar⟩
  · exact hFits
  · cases hKind.symm.trans hStar.kind

/- A keyword-only parameter of a join fits what it covers. -/
theorem Covers.keywordFits
    {join ps : List Parameter}
    (h : Covers join ps)
    {p : Parameter} {name : String}
    (hp : p ∈ join)
    (hKind : p.kind = .keywordOnly)
    (hName : p.name = some name) :
    KeywordFits
      (keywordSide (positionalSection join).length ps)
      (positionalSection join).length name p := by
  rcases h.keywords p hp hKind with ⟨own, hOwn, hFits⟩
  cases hOwn.symm.trans hName
  exact hFits

/- A keyword that fits names none of the first slots. -/
theorem KeywordFits.isConsumed_eq_false
    {ps : List Parameter} {filled : Nat} {name : String}
    {p : Parameter}
    (h : KeywordFits (keywordSide filled ps) filled name p) :
    isConsumed (positionalSection ps) filled name =
      false := by
  rcases h.ty with ⟨ty, hAccepts, -⟩
  rw [← Bool.not_eq_true]
  intro hConsumed
  unfold KeywordSide.accepts? keywordSide at hAccepts
  rw [if_pos hConsumed] at hAccepts
  cases hAccepts

namespace JoinParts

variable {parts : JoinParts} {ps qs : List Parameter}

/- Members are apart when they are so within their parts. -/
theorem IsSorted.pairwise_list
    (h : IsSorted parts)
    {apart : Parameter → Parameter → Prop}
    (hLead :
      (normalizeLead parts.lead.merged).Pairwise apart)
    (hKeywords : parts.keywords.Pairwise apart)
    (hApart :
      ∀ p ∈ parts.list, ∀ q ∈ parts.list,
        p.kind.rank < q.kind.rank → 2 ≤ q.kind.rank →
          apart p q) :
    parts.list.Pairwise apart := by
  have hOne :
      ∀ v : Option Parameter, v.toList.Pairwise apart := by
    intro v
    cases v <;> simp
  have hRank :
      ∀ p ∈ normalizeLead parts.lead.merged,
        p.kind.rank ≤ 1 := by
    intro p hp
    rcases isMergedSlot_of_mem_normalizeLead h.merged p hp
      with hKind | ⟨hKind, -⟩ <;> simp [hKind, ParamKind.rank]
  have hStar :
      ∀ p ∈ parts.star.toList, p.kind.rank = 2 :=
    fun p hp => by rw [h.star p hp]; rfl
  have hKeyword :
      ∀ p ∈ parts.keywords, p.kind.rank = 3 :=
    fun p hp => by rw [h.keywords p hp]; rfl
  have hOthers :
      ∀ p ∈ parts.others.toList, p.kind.rank = 4 :=
    fun p hp => by rw [h.others p hp]; rfl
  unfold list at hApart ⊢
  simp only [List.pairwise_append, List.mem_append] at hApart ⊢
  refine
    ⟨⟨⟨hLead, hOne _, ?_⟩, hKeywords, ?_⟩, hOne _, ?_⟩
  · intro p hp q hq
    have hpRank := hRank p hp
    have hqRank := hStar q hq
    exact
      hApart p (Or.inl (Or.inl (Or.inl hp))) q
        (Or.inl (Or.inl (Or.inr hq))) (by omega) (by omega)
  · intro p hp q hq
    have hpRank : p.kind.rank ≤ 2 := by
      rcases hp with hp | hp
      · exact Nat.le_succ_of_le (hRank p hp)
      · exact Nat.le_of_eq (hStar p hp)
    have hqRank := hKeyword q hq
    exact
      hApart p (Or.inl (Or.inl hp)) q
        (Or.inl (Or.inr hq)) (by omega) (by omega)
  · intro p hp q hq
    have hpRank : p.kind.rank ≤ 3 := by
      rcases hp with (hp | hp) | hp
      · exact Nat.le_trans (hRank p hp) (by decide)
      · exact Nat.le_succ_of_le (Nat.le_of_eq (hStar p hp))
      · exact Nat.le_of_eq (hKeyword p hp)
    have hqRank := hOthers q hq
    exact
      hApart p (Or.inl hp) q (Or.inr hq) (by omega)
        (by omega)

/- Names of slots that are named come from a side. -/
theorem IsSorted.lead_distinct
    (hps : WellFormed ps)
    (h : IsSorted parts)
    (hCovers : Covers parts.list ps) :
    (normalizeLead parts.lead.merged).Pairwise fun p q =>
      p.kind.isKeyword = true →
        q.kind.isKeyword = true → p.name ≠ q.name := by
  rw [← h.positionalSection_list]
  -- Two slots of one name would be two slots of the side.
  apply List.pairwise_iff_getElem.mpr
  intro i j hi hj hLt hpKey hqKey hName
  have hSlot :
      ∀ k : Nat, ∀ hk :
        k < (positionalSection parts.list).length,
        (positionalSection parts.list)[k].kind.isKeyword =
            true →
          ∃ p, (positionalSection ps)[k]? = some p ∧
            p.kind.isKeyword = true ∧
              p.name =
                (positionalSection parts.list)[k].name := by
    intro k hk hKey
    have hGet := List.getElem?_eq_getElem hk
    have hKind :=
      ParamKind.eq_positionalOrKeyword
        (mem_of_getElem?_positionalSection hGet).2 hKey
    rcases hCovers.exists_slot_of_named hGet hKind with
      ⟨p, hp, hFits⟩
    rcases hFits.named hKind with ⟨hpKind, hpName⟩
    exact ⟨p, hp, by rw [hpKind]; rfl, hpName⟩
  rcases hSlot i hi hpKey with ⟨p, hp, hpKey', hpName⟩
  rcases hSlot j hj hqKey with ⟨q, hq, hqKey', hqName⟩
  have hSame :=
    hps.index_eq_of_name hp hq hpKey' hqKey'
      (hpName.trans (hName.trans hqName.symm))
  omega

/- The kept keywords have names of their own. -/
theorem Joins.keywords_distinct
    (h : parts.Joins ps qs) :
    parts.keywords.Pairwise fun p q =>
      p.name ≠ q.name := by
  unfold keywords
  rw [List.pairwise_filterMap]
  refine
    pairwise_right_of_forall₂ h.named (nodup_eraseDups _) ?_
  intro name slot name' slot' hSlot hSlot' hNe p hp q hq
  rw [id_eq] at hp hq
  subst hp hq
  have hpName := (keywordSlotBy_fits hSlot).2.1
  have hqName := (keywordSlotBy_fits hSlot').2.1
  rw [hpName, hqName]
  exact fun hSame => hNe (Option.some.inj hSame)

/- Named slots and kept keywords have different names. -/
theorem Joins.name_ne_of_slot
    (hCovers : Covers parts.list ps)
    (h : parts.Joins ps qs)
    {p q : Parameter}
    (hp : p ∈ normalizeLead parts.lead.merged)
    (hKind : p.kind = .positionalOrKeyword)
    (hq : q ∈ parts.keywords) : p.name ≠ q.name := by
  intro hSame
  rw [← h.isSorted.positionalSection_list] at hp
  rcases List.mem_iff_getElem?.mp hp with ⟨index, hIndex⟩
  have hLt := (List.getElem?_eq_some_iff.mp hIndex).1
  rw [h.isSorted.length_positionalSection_list] at hLt
  rcases hCovers.exists_slot_of_named hIndex hKind with
    ⟨slot, hSlot, hFits⟩
  rcases hFits.named hKind with ⟨hSlotKind, hSlotName⟩
  rcases h.keywordFits hq with ⟨name, hName, hKeyword, -⟩
  have hConsumed :=
    isConsumed_iff.mpr
      ⟨index, slot, hLt, hSlot, hSlotKind,
        hSlotName.trans (hSame.trans hName)⟩
  rw [hKeyword.isConsumed_eq_false] at hConsumed
  cases hConsumed

/- The kinds of a join stand in order. -/
theorem IsSorted.list_ordered
    (h : IsSorted parts) :
    parts.list.Pairwise fun p q =>
      p.kind.rank ≤ q.kind.rank := by
  refine
    h.pairwise_list (normalizeLead_ordered h.merged) ?_
      fun p _ q _ hLt _ => Nat.le_of_lt hLt
  apply List.pairwise_of_forall_mem_list
  intro p hp q hq
  exact
    Nat.le_of_eq (by rw [h.keywords p hp, h.keywords q hq])

/- No variadic kind stands twice in a join. -/
theorem IsSorted.list_single
    (h : IsSorted parts) :
    parts.list.Pairwise fun p q =>
      p.kind = q.kind → p.kind.isVariadic = false := by
  refine h.pairwise_list ?_ ?_ ?_
  · apply List.pairwise_of_forall_mem_list
    intro p hp q _ _
    exact
      ParamKind.isVariadic_of_isPositional
        (h.isPositional hp)
  · apply List.pairwise_of_forall_mem_list
    intro p hp q _ _
    rw [h.keywords p hp]
    rfl
  · intro p _ q _ hLt _ hSame
    rw [hSame] at hLt
    exact absurd hLt (Nat.lt_irrefl _)

/- Parameters of a join that a keyword reaches have names. -/
theorem Joins.list_named
    (hps : WellFormed ps)
    (hCovers : Covers parts.list ps)
    (h : parts.Joins ps qs)
    {p : Parameter}
    (hp : p ∈ parts.list)
    (hKey : p.kind.isKeyword = true) :
    p.name.isSome = true := by
  cases hPos : p.kind.isPositional with
  | true =>
      have hKind := ParamKind.eq_positionalOrKeyword hPos hKey
      rcases exists_index_of_isPositional hp hPos with
        ⟨index, hIndex⟩
      rcases hCovers.exists_slot_of_named hIndex hKind with
        ⟨slot, hSlot, hFits⟩
      rcases hFits.named hKind with ⟨hSlotKind, hName⟩
      rw [← hName]
      exact
        hps.named slot
          (mem_of_getElem?_positionalSection hSlot).1
          (by rw [hSlotKind]; rfl)
  | false =>
      have hKind := ParamKind.eq_keywordOnly hPos hKey
      have hKept :=
        h.isSorted.mem_list_keywordOnly.mp ⟨hp, hKind⟩
      rcases h.keywordFits hKept with ⟨name, hName, -⟩
      rw [hName]
      rfl

/- A keyword reaches one parameter of a join at most. -/
theorem Joins.list_distinct
    (hps : WellFormed ps)
    (hCovers : Covers parts.list ps)
    (h : parts.Joins ps qs) :
    parts.list.Pairwise fun p q =>
      p.kind.isKeyword = true →
        q.kind.isKeyword = true → p.name ≠ q.name := by
  refine
    h.isSorted.pairwise_list
      (h.isSorted.lead_distinct hps hCovers)
      (h.keywords_distinct.imp fun hNe _ _ => hNe) ?_
  intro p hp q hq hLt hRank hpKey hqKey
  have hqKind : q.kind = .keywordOnly := by
    cases hKind : q.kind <;>
      simp_all [ParamKind.rank, ParamKind.isKeyword]
  have hpKind : p.kind = .positionalOrKeyword := by
    cases hKind : p.kind <;>
      simp_all [ParamKind.rank, ParamKind.isKeyword]
  have hLead : p ∈ positionalSection parts.list :=
    List.mem_filter.mpr ⟨hp, by rw [hpKind]; rfl⟩
  rw [h.isSorted.positionalSection_list] at hLead
  exact
    h.name_ne_of_slot hCovers hLead hpKind
      (h.isSorted.mem_list_keywordOnly.mp ⟨hq, hqKind⟩)

/- A join has the form that joining leaves. -/
theorem Joins.isJoined
    (hps : WellFormed ps)
    (hqs : WellFormed qs)
    (h : parts.Joins ps qs) : IsJoined parts.list where
  ordered := h.isSorted.list_ordered
  single := h.isSorted.list_single
  named _ := h.list_named hps (h.covers hps hqs).1
  distinct := h.list_distinct hps (h.covers hps hqs).1
  merged := by
    rw [h.isSorted.positionalSection_list]
    exact isMergedSlot_of_mem_normalizeLead h.isSorted.merged
  normal := by
    rw [h.isSorted.positionalSection_list,
      normalizeLead_idem]
  sections := by
    rw [h.isSorted.positionalSection_list,
      h.isSorted.firstOfKind_varPositional_list,
      h.isSorted.keywordOnly_list,
      h.isSorted.firstOfKind_varKeyword_list]
    rfl

end JoinParts

end SigCheck
