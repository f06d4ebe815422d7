import SigCheck.Proofs.CallView
import SigCheck.Proofs.JoinFailure

/-
  What callers see of a join of two parameter lists.

  Each view of the join is an expression in the views of its
  two sides that does not depend on which side comes first.
  So the order of two lists does not matter.

  Key definitions include:
    * `MergedFrom`
    * `ParamList.AdmitsKeywordPast`

  Correctness is proven by:
    * `LeadMerge.mergedFrom`
    * `JoinParts.Joins.hasSlot_iff`
    * `JoinParts.Joins.namesSlot_iff`
    * `JoinParts.Joins.needsSlot_iff`
    * `JoinParts.Joins.keywordOnly_iff`
    * `JoinParts.Joins.interchangeable_swap`
-/

------------------------------------------------------------
-- Merged Slots
------------------------------------------------------------

namespace SigCheck

/-
  A merged slot is optional where all slots at its index are,
  and named where both sides have a slot of that name.
-/
structure MergedFrom
    (slot : Parameter)
    (p q : Option Parameter) : Prop where
  optional :
    slot.hasDefault = true ↔
      (∀ x ∈ p, x.hasDefault = true) ∧
        ∀ y ∈ q, y.hasDefault = true
  named :
    slot.kind = .positionalOrKeyword ↔
      ∃ x ∈ p, ∃ y ∈ q,
        x.kind = .positionalOrKeyword ∧
          y.kind = .positionalOrKeyword ∧ x.name = y.name
  name :
    slot.kind = .positionalOrKeyword →
      ∃ x ∈ p, x.name = slot.name

variable {p q slot : Parameter}

theorem mergedFrom_mergeBy
    (h : p.mergeBy Ty.meet q = some slot) :
    MergedFrom slot (some p) (some q) := by
  rcases Option.map_eq_some_iff.mp h with ⟨ty, -, rfl⟩
  split
  · rename_i hSame
    simp only [Bool.and_eq_true, beq_iff_eq] at hSame
    constructor <;> simp [hSame.1.1, hSame.1.2, hSame.2]
  · rename_i hOther
    simp only [Bool.and_eq_true, beq_iff_eq] at hOther
    constructor <;> simp_all [and_assoc]

theorem mergedFrom_absorbBy
    {star : Parameter}
    (h : p.absorbBy Ty.meet star = some slot) :
    MergedFrom slot (some p) none ∧
      MergedFrom slot none (some p) := by
  rcases Option.map_eq_some_iff.mp h with ⟨ty, -, rfl⟩
  constructor <;> constructor <;>
    simp [Parameter.anonymize]

namespace LeadMerge

variable {ps qs : List Parameter} {index : Nat}

/- Absorbed slots come from the slots of one side. -/
theorem mergedFrom_absorb
    {star : Option Parameter}
    {taken : List Parameter × List Parameter}
    (h : absorb Ty.meet star ps = some taken)
    (hSlot : taken.1[index]? = some slot) :
    MergedFrom slot ps[index]? none ∧
      MergedFrom slot none ps[index]? := by
  cases star with
  | none =>
      cases h
      simp at hSlot
  | some s =>
      rcases absorb_some_eq_some_iff.mp h with
        ⟨slots, hAll, rfl⟩
      clear h
      induction hAll generalizing index with
      | nil => simp at hSlot
      | cons hFirst _ ih =>
          cases index with
          | zero =>
              cases hSlot
              exact mergedFrom_absorbBy hFirst
          | succ index => exact ih hSlot

/- Each merged slot comes from the slots at its index. -/
theorem mergedFrom
    {leftStar rightStar : Option Parameter} {m : LeadMerge}
    (h :
      ofLists Ty.meet leftStar rightStar ps qs = some m)
    (hSlot : m.merged[index]? = some slot) :
    MergedFrom slot ps[index]? qs[index]? := by
  induction ps, qs, m, h using ofLists_induction
    generalizing index with
  | left qs taken hTaken =>
      exact (mergedFrom_absorb hTaken hSlot).2
  | right p ps taken hTaken =>
      exact (mergedFrom_absorb hTaken hSlot).1
  | cons p ps q qs first rest hFirst _ ih =>
      cases index with
      | zero =>
          cases hSlot
          exact mergedFrom_mergeBy hFirst
      | succ index => exact ih hSlot

end LeadMerge

end SigCheck

------------------------------------------------------------
-- Normalized Slots
------------------------------------------------------------

namespace SigCheck

variable {ps : List Parameter}

theorem getElem?_sealLead (index : Nat) :
    (sealLead ps)[index]? =
      ps[index]?.map fun p =>
        if (ps.drop (index + 1)).any
            (·.kind == .positionalOnly) then
          p.anonymize
        else p := by
  induction ps generalizing index with
  | nil => rfl
  | cons p ps ih =>
      cases index with
      | zero => rfl
      | succ index => exact ih index

theorem getElem?_requireLead (index : Nat) :
    (requireLead ps)[index]? =
      ps[index]?.map fun p =>
        { p with
          hasDefault :=
            p.hasDefault
              && (ps.drop (index + 1)).all
                (·.hasDefault) } := by
  induction ps generalizing index with
  | nil => rfl
  | cons p ps ih =>
      cases index with
      | zero => rfl
      | succ index => exact ih index

theorem drop_sealLead (count : Nat) :
    (sealLead ps).drop count = sealLead (ps.drop count) := by
  induction ps generalizing count with
  | nil => simp [sealLead]
  | cons p ps ih =>
      cases count with
      | zero => rfl
      | succ count => exact ih count

/- What normalizing makes of the slot at an index. -/
theorem getElem?_normalizeLead (index : Nat) :
    (normalizeLead ps)[index]? =
      ps[index]?.map fun p =>
        let sealed :=
          if (ps.drop (index + 1)).any
              (·.kind == .positionalOnly) then
            p.anonymize
          else p
        { sealed with
          hasDefault :=
            p.hasDefault
              && (ps.drop (index + 1)).all
                (·.hasDefault) } := by
  rw [normalizeLead, getElem?_requireLead,
    getElem?_sealLead, Option.map_map, drop_sealLead,
    all_hasDefault_sealLead]
  congr 1
  funext p
  dsimp only [Function.comp_apply]
  split <;> rfl

/- A slot is needed if one at or behind its index was. -/
theorem needs_normalizeLead_iff {index : Nat} :
    (∃ p, (normalizeLead ps)[index]? = some p ∧
        p.hasDefault = false) ↔
      ∃ (place : Nat) (p : Parameter), index ≤ place ∧
        ps[place]? = some p ∧ p.hasDefault = false := by
  rw [getElem?_normalizeLead]
  constructor
  · rintro ⟨_, hSlot, hDefault⟩
    rcases Option.map_eq_some_iff.mp hSlot with
      ⟨p, hIndex, rfl⟩
    rcases Bool.and_eq_false_iff.mp hDefault with
      hOwn | hLater
    · exact ⟨index, p, Nat.le_refl _, hIndex, hOwn⟩
    · rcases List.all_eq_false.mp hLater with ⟨q, hq, hNot⟩
      rcases mem_drop_iff_getElem?.mp hq with
        ⟨place, hLt, hPlace⟩
      exact ⟨place, q, by omega, hPlace, by simpa using hNot⟩
  · rintro ⟨place, q, hLe, hPlace, hDefault⟩
    have hLt := (List.getElem?_eq_some_iff.mp hPlace).1
    have hIndex :=
      List.getElem?_eq_getElem (Nat.lt_of_le_of_lt hLe hLt)
    refine ⟨_, Option.map_eq_some_iff.mpr ⟨_, hIndex, rfl⟩, ?_⟩
    rcases Nat.eq_or_lt_of_le hLe with rfl | hLater
    · cases hIndex.symm.trans hPlace
      exact Bool.and_eq_false_iff.mpr (Or.inl hDefault)
    · refine Bool.and_eq_false_iff.mpr (Or.inr ?_)
      refine List.all_eq_false.mpr ⟨q, ?_, by simp [hDefault]⟩
      exact mem_drop_iff_getElem?.mpr ⟨place, hLater, hPlace⟩

/- A slot keeps its name if all behind it have one. -/
theorem names_normalizeLead_iff
    (hMerged : ∀ p ∈ ps, IsMergedSlot p)
    {index : Nat} {name : String} :
    (∃ p, (normalizeLead ps)[index]? = some p ∧
        p.kind = .positionalOrKeyword ∧
          p.name = some name) ↔
      (∃ p, ps[index]? = some p ∧ p.name = some name) ∧
        ∀ (place : Nat) (p : Parameter), index ≤ place →
          ps[place]? = some p →
            p.kind = .positionalOrKeyword := by
  have hLater :
      (ps.drop (index + 1)).any (·.kind == .positionalOnly) =
          false ↔
        ∀ (place : Nat) (p : Parameter), index < place →
          ps[place]? = some p →
            p.kind = .positionalOrKeyword := by
    rw [List.any_eq_false]
    constructor
    · intro hNone place p hLt hPlace
      have hMem : p ∈ ps.drop (index + 1) :=
        mem_drop_iff_getElem?.mpr ⟨place, hLt, hPlace⟩
      rcases hMerged p (List.mem_of_getElem? hPlace) with
        hKind | ⟨hKind, -⟩
      · exact hKind
      · exact absurd (by simp [hKind]) (hNone p hMem)
    · intro hAll p hp
      rcases mem_drop_iff_getElem?.mp hp with
        ⟨place, hLt, hPlace⟩
      rw [hAll place p hLt hPlace]
      decide
  rw [getElem?_normalizeLead]
  constructor
  · rintro ⟨_, hSlot, hKind, hName⟩
    rcases Option.map_eq_some_iff.mp hSlot with
      ⟨p, hIndex, rfl⟩
    cases hSealed :
        (ps.drop (index + 1)).any
          (·.kind == .positionalOnly) with
    | true =>
        rw [hSealed] at hKind
        cases hKind
    | false =>
        rw [hSealed] at hKind hName
        refine ⟨⟨p, hIndex, hName⟩, ?_⟩
        intro place q hLe hPlace
        rcases Nat.eq_or_lt_of_le hLe with rfl | hLt
        · cases hIndex.symm.trans hPlace
          exact hKind
        · exact hLater.mp hSealed place q hLt hPlace
  · rintro ⟨⟨p, hIndex, hName⟩, hAll⟩
    have hSealed :=
      hLater.mpr fun place q hLt =>
        hAll place q (Nat.le_of_lt hLt)
    refine
      ⟨_, Option.map_eq_some_iff.mpr ⟨p, hIndex, rfl⟩, ?_, ?_⟩
    · rw [hSealed]
      exact hAll index p (Nat.le_refl _) hIndex
    · rw [hSealed]
      exact hName

end SigCheck

------------------------------------------------------------
-- Views of a Join
------------------------------------------------------------

namespace SigCheck

open ParamList

/- A position below the shared slots is one of a side. -/
theorem ParamList.lt_sharedSlots_iff
    {ps qs : List Parameter} {index : Nat} :
    index < sharedSlots ps qs ↔
      AdmitsPosition ps index ∧ AdmitsPosition qs index ∧
        (HasSlot ps index ∨ HasSlot qs index) := by
  unfold sharedSlots AdmitsPosition HasSlot HasStar
  dsimp only
  split_ifs <;> simp_all <;> omega

namespace JoinParts

variable {parts : JoinParts} {ps qs : List Parameter}
variable {index : Nat} {name : String}

/- One variadic parameter stays if both sides have one. -/
theorem isSome_of_variadicBy
    {p q v : Option Parameter}
    (h : variadicBy Ty.meet p q = some v.toList) :
    v.isSome = true ↔ p.isSome = true ∧ q.isSome = true := by
  cases p with
  | none => cases v <;> simp_all [variadicBy]
  | some p =>
      cases q with
      | none => cases v <;> simp_all [variadicBy]
      | some q =>
          rcases Option.map_eq_some_iff.mp h with
            ⟨ty, -, hList⟩
          cases v <;> simp_all

/- The join has the slots that both sides can fill. -/
theorem Joins.hasSlot_iff
    (h : parts.Joins ps qs) :
    HasSlot parts.list index ↔
      AdmitsPosition ps index ∧ AdmitsPosition qs index ∧
        (HasSlot ps index ∨ HasSlot qs index) := by
  rw [HasSlot, h.isSorted.length_positionalSection_list,
    filled_eq_sharedSlots h, lt_sharedSlots_iff]

theorem Joins.hasStar_iff
    (h : parts.Joins ps qs) :
    HasStar parts.list ↔ HasStar ps ∧ HasStar qs := by
  rw [HasStar, h.isSorted.firstOfKind_varPositional_list]
  exact isSome_of_variadicBy h.star

theorem Joins.hasOthers_iff
    (h : parts.Joins ps qs) :
    HasOthers parts.list ↔ HasOthers ps ∧ HasOthers qs := by
  rw [HasOthers, h.isSorted.firstOfKind_varKeyword_list]
  exact isSome_of_variadicBy h.others

/- A merged slot is needed where a side needs it. -/
theorem Joins.merged_needs_iff
    (h : parts.Joins ps qs)
    {m : Parameter}
    (hSlot : parts.lead.merged[index]? = some m) :
    m.hasDefault = false ↔
      NeedsSlot ps index ∨ NeedsSlot qs index := by
  have hFrom := LeadMerge.mergedFrom h.lead hSlot
  rw [← Bool.not_eq_true, hFrom.optional, not_and_or]
  simp [NeedsSlot]

/- A merged slot is named where both sides name it alike. -/
theorem Joins.merged_names_iff
    (h : parts.Joins ps qs)
    {m : Parameter}
    (hSlot : parts.lead.merged[index]? = some m) :
    m.kind = .positionalOrKeyword ∧ m.name = some name ↔
      NamesSlot ps index name ∧ NamesSlot qs index name := by
  have hFrom := LeadMerge.mergedFrom h.lead hSlot
  constructor
  · rintro ⟨hKind, hName⟩
    rcases hFrom.named.mp hKind with
      ⟨x, hx, y, hy, hxKind, hyKind, hSame⟩
    rcases hFrom.name hKind with ⟨x', hx', hxName⟩
    cases hx.symm.trans hx'
    exact
      ⟨⟨x, hx, hxKind, hxName.trans hName⟩,
        ⟨y, hy, hyKind,
          hSame.symm.trans (hxName.trans hName)⟩⟩
  · rintro ⟨⟨x, hx, hxKind, hxName⟩, ⟨y, hy, hyKind, hyName⟩⟩
    have hKind :=
      hFrom.named.mpr
        ⟨x, hx, y, hy, hxKind, hyKind,
          hxName.trans hyName.symm⟩
    rcases hFrom.name hKind with ⟨x', hx', hSame⟩
    cases hx.symm.trans hx'
    exact ⟨hKind, hSame.symm.trans hxName⟩

/- A merged slot that keywords reach has a name. -/
theorem Joins.merged_named_iff
    (hps : WellFormed ps)
    (h : parts.Joins ps qs)
    {m : Parameter}
    (hSlot : parts.lead.merged[index]? = some m) :
    m.kind = .positionalOrKeyword ↔
      ∃ name, NamesSlot ps index name ∧
        NamesSlot qs index name := by
  constructor
  · intro hKind
    have hFrom := LeadMerge.mergedFrom h.lead hSlot
    rcases hFrom.named.mp hKind with
      ⟨x, hx, y, hy, hxKind, -, -⟩
    rcases hFrom.name hKind with ⟨x', hx', hSame⟩
    cases hx.symm.trans hx'
    rcases hps.exists_name
      (mem_of_getElem?_positionalSection hx).1
      (by rw [hxKind]; rfl) with ⟨name, hName⟩
    exact
      ⟨name,
        (h.merged_names_iff hSlot).mp
          ⟨hKind, hSame.symm.trans hName⟩⟩
  · rintro ⟨name, hNames⟩
    exact ((h.merged_names_iff hSlot).mpr hNames).1

/- The merged slots stand at the slots of the join. -/
theorem Joins.exists_merged_iff
    (h : parts.Joins ps qs) :
    (∃ m, parts.lead.merged[index]? = some m) ↔
      HasSlot parts.list index := by
  rw [HasSlot, h.isSorted.length_positionalSection_list]
  simp [filled, List.getElem?_eq_some_iff]

/-
  The join needs a slot that a side needs, and any before
  one.
-/
theorem Joins.needsSlot_iff
    (h : parts.Joins ps qs) :
    NeedsSlot parts.list index ↔
      ∃ place, index ≤ place ∧ HasSlot parts.list place ∧
        (NeedsSlot ps place ∨ NeedsSlot qs place) := by
  rw [NeedsSlot, h.isSorted.positionalSection_list,
    needs_normalizeLead_iff]
  refine exists_congr fun place => ?_
  constructor
  · rintro ⟨m, hLe, hSlot, hDefault⟩
    exact
      ⟨hLe, h.exists_merged_iff.mp ⟨m, hSlot⟩,
        (h.merged_needs_iff hSlot).mp hDefault⟩
  · rintro ⟨hLe, hHas, hNeeds⟩
    rcases h.exists_merged_iff.mpr hHas with ⟨m, hSlot⟩
    exact
      ⟨m, hLe, hSlot, (h.merged_needs_iff hSlot).mpr hNeeds⟩

/-
  The join names a slot that both sides name alike, if they
  do so for all slots of the join behind it.
-/
theorem Joins.namesSlot_iff
    (hps : WellFormed ps)
    (h : parts.Joins ps qs) :
    NamesSlot parts.list index name ↔
      (NamesSlot ps index name ∧ NamesSlot qs index name) ∧
        ∀ place, index ≤ place → HasSlot parts.list place →
          ∃ other, NamesSlot ps place other ∧
            NamesSlot qs place other := by
  rw [NamesSlot, h.isSorted.positionalSection_list,
    names_normalizeLead_iff h.isSorted.merged]
  constructor
  · rintro ⟨⟨m, hSlot, hName⟩, hAll⟩
    have hKind := hAll index m (Nat.le_refl _) hSlot
    refine
      ⟨(h.merged_names_iff hSlot).mp ⟨hKind, hName⟩, ?_⟩
    intro place hLe hHas
    rcases h.exists_merged_iff.mpr hHas with ⟨m', hSlot'⟩
    exact
      (h.merged_named_iff hps hSlot').mp
        (hAll place m' hLe hSlot')
  · rintro ⟨hNames, hAll⟩
    have hHas : HasSlot parts.list index :=
      h.hasSlot_iff.mpr
        ⟨Or.inl hNames.1.hasSlot, Or.inl hNames.2.hasSlot,
          Or.inl hNames.1.hasSlot⟩
    rcases h.exists_merged_iff.mpr hHas with ⟨m, hSlot⟩
    refine
      ⟨⟨m, hSlot, ((h.merged_names_iff hSlot).mpr hNames).2⟩,
        ?_⟩
    intro place m' hLe hSlot'
    exact
      (h.merged_named_iff hps hSlot').mpr
        (hAll place hLe (h.exists_merged_iff.mp ⟨m', hSlot'⟩))

/-
  A kept keyword has the meet of what both sides take under
  its name, and is optional unless a side requires it.
-/
theorem keywordSlotBy_kept_iff
    {left right : KeywordSide} {filled : Nat}
    {p : Parameter}
    (h :
      keywordSlotBy Ty.meet filled left right name =
        some (some p)) :
    (∃ a b, left.accepts? filled name = some a ∧
        right.accepts? filled name = some b ∧
          a.meet b = some p.ty) ∧
      (p.hasDefault = false ↔
        left.requires name = true ∨
          right.requires name = true) := by
  unfold keywordSlotBy at h
  dsimp only at h
  split at h
  · rename_i a b hLeft hRight
    rcases Option.map_eq_some_iff.mp h with
      ⟨ty, hMeet, hSlot⟩
    cases hSlot
    refine ⟨⟨a, b, hLeft, hRight, hMeet⟩, ?_⟩
    cases left.requires name <;> simp
  · split at h <;> simp at h

/- A keyword-only parameter of the join, as it was merged. -/
theorem Joins.exists_keywordSlot
    (h : parts.Joins ps qs)
    {p : Parameter}
    (hp : p ∈ parts.list)
    (hKind : p.kind = .keywordOnly)
    (hName : p.name = some name) :
    name ∈
        keywordNames (keywordSide parts.filled ps)
          (keywordSide parts.filled qs) ∧
      keywordSlotBy Ty.meet parts.filled
          (keywordSide parts.filled ps)
          (keywordSide parts.filled qs) name =
        some (some p) := by
  have hKept :=
    h.isSorted.mem_list_keywordOnly.mp ⟨hp, hKind⟩
  rcases exists_left_of_forall₂ h.named
    (mem_keywords.mp hKept) with ⟨own, hMem, hSlot⟩
  have hOwn := (keywordSlotBy_fits hSlot).2.1
  cases hOwn.symm.trans hName
  exact ⟨hMem, hSlot⟩

end JoinParts

/-
  With so many slots filled by position, the list takes a
  keyword of this name.
-/
def ParamList.AdmitsKeywordPast
    (count : Nat)
    (ps : List Parameter)
    (name : String) : Prop :=
  ∃ ty,
    (keywordSide count ps).accepts? count name = some ty

namespace JoinParts

variable {parts : JoinParts} {ps qs : List Parameter}
variable {name : String}

/- The join keeps the names of a side that both sides take. -/
theorem Joins.keywordOnly_iff
    (h : parts.Joins ps qs) :
    HasKeywordOnly parts.list name ↔
      (HasKeywordPast parts.filled ps name ∨
          HasKeywordPast parts.filled qs name) ∧
        AdmitsKeywordPast parts.filled ps name ∧
          AdmitsKeywordPast parts.filled qs name := by
  constructor
  · rintro ⟨p, hp, hKind, hName⟩
    rcases h.exists_keywordSlot hp hKind hName with
      ⟨hMem, hSlot⟩
    rcases keywordSlotBy_fits hSlot with
      ⟨-, -, ⟨⟨a, ha, -⟩, -⟩, ⟨⟨b, hb, -⟩, -⟩⟩
    exact ⟨mem_keywordNames_iff.mp hMem, ⟨a, ha⟩, ⟨b, hb⟩⟩
  · rintro ⟨hName, ⟨a, ha⟩, ⟨b, hb⟩⟩
    rcases h.kept_or_refused hName with
      ⟨p, hp, hpName⟩ | ⟨-, -, hNone | hNone⟩
    · rcases h.isSorted.mem_list_keywordOnly.mpr hp with
        ⟨hMem, hKind⟩
      exact ⟨p, hMem, hKind, hpName⟩
    · cases hNone.symm.trans ha
    · cases hNone.symm.trans hb

/- The join needs a kept name that a side needs. -/
theorem Joins.needsKeyword_iff
    (h : parts.Joins ps qs) :
    NeedsKeyword parts.list name ↔
      HasKeywordOnly parts.list name ∧
        ((keywordSide parts.filled ps).requires name = true ∨
          (keywordSide parts.filled qs).requires name =
            true) := by
  constructor
  · rintro ⟨p, hp, hKind, hName, hDefault⟩
    have hSlot := (h.exists_keywordSlot hp hKind hName).2
    exact
      ⟨⟨p, hp, hKind, hName⟩,
        (keywordSlotBy_kept_iff hSlot).2.mp hDefault⟩
  · rintro ⟨⟨p, hp, hKind, hName⟩, hRequires⟩
    have hSlot := (h.exists_keywordSlot hp hKind hName).2
    exact
      ⟨p, hp, hKind, hName,
        (keywordSlotBy_kept_iff hSlot).2.mpr hRequires⟩

/- Callers see the same join whichever side comes first. -/
theorem Joins.interchangeable_swap
    {swapped : JoinParts}
    (hps : WellFormed ps)
    (hqs : WellFormed qs)
    (h : parts.Joins ps qs)
    (h' : swapped.Joins qs ps) :
    Interchangeable parts.list swapped.list := by
  have hFilled : parts.filled = swapped.filled := by
    rw [filled_eq_sharedSlots h, filled_eq_sharedSlots h',
      sharedSlots_comm]
  have hSlots (index : Nat) :
      HasSlot parts.list index ↔ HasSlot swapped.list index := by
    rw [h.hasSlot_iff, h'.hasSlot_iff]
    tauto
  have hKeywords (name : String) :
      HasKeywordOnly parts.list name ↔
        HasKeywordOnly swapped.list name := by
    rw [h.keywordOnly_iff, h'.keywordOnly_iff, hFilled]
    tauto
  constructor
  case hasSlot => exact hSlots
  case namesSlot =>
    intro index name
    simp only [h.namesSlot_iff hps, h'.namesSlot_iff hqs,
      hSlots, and_comm]
  case needsSlot =>
    intro index
    simp only [h.needsSlot_iff, h'.needsSlot_iff, hSlots,
      or_comm]
  case hasStar =>
    rw [h.hasStar_iff, h'.hasStar_iff, and_comm]
  case hasOthers =>
    rw [h.hasOthers_iff, h'.hasOthers_iff, and_comm]
  case keywordOnly => exact hKeywords
  case needsKeyword =>
    intro name
    simp only [h.needsKeyword_iff, h'.needsKeyword_iff,
      hKeywords, hFilled, or_comm]

end JoinParts

end SigCheck

------------------------------------------------------------
-- Joins of One Type
------------------------------------------------------------

namespace SigCheck

open ParamList

variable {ty : Ty} {ps qs : List Parameter}

/- A meet of the type with itself is the type. -/
theorem eq_of_meet
    {a b meet : Ty}
    (ha : a = ty)
    (hb : b = ty)
    (h : a.meet b = some meet) : meet = ty := by
  rw [ha, hb, meet_self] at h
  exact (Option.some.inj h).symm

theorem LeadMerge.ofType_absorb
    {star : Option Parameter}
    {taken : List Parameter × List Parameter}
    (hps : OfType ty ps)
    (hStar : OfType ty star.toList)
    (h : absorb Ty.meet star ps = some taken) :
    OfType ty taken.1 := by
  cases star with
  | none =>
      cases h
      exact nofun
  | some s =>
      rcases LeadMerge.absorb_some_eq_some_iff.mp h with
        ⟨slots, hSlots, rfl⟩
      intro slot hSlot
      rcases exists_left_of_forall₂ hSlots hSlot with
        ⟨p, hp, hAbsorb⟩
      rcases Option.map_eq_some_iff.mp hAbsorb with
        ⟨meet, hMeet, rfl⟩
      exact eq_of_meet (hps p hp) (hStar s (by simp)) hMeet

/- Merged slots have the type of the merged sections. -/
theorem LeadMerge.ofType_merged
    {leftStar rightStar : Option Parameter} {m : LeadMerge}
    (hps : OfType ty ps)
    (hqs : OfType ty qs)
    (hLeft : OfType ty leftStar.toList)
    (hRight : OfType ty rightStar.toList)
    (h :
      ofLists Ty.meet leftStar rightStar ps qs = some m) :
    OfType ty m.merged := by
  induction ps, qs, m, h using ofLists_induction with
  | left qs taken hTaken =>
      exact ofType_absorb hqs hLeft hTaken
  | right p ps taken hTaken =>
      exact ofType_absorb hps hRight hTaken
  | cons p ps q qs slot rest hSlot _ ih =>
      rcases List.forall_mem_cons.mp hps with ⟨hp, hps⟩
      rcases List.forall_mem_cons.mp hqs with ⟨hq, hqs⟩
      refine List.forall_mem_cons.mpr ⟨?_, ih hps hqs⟩
      rcases Option.map_eq_some_iff.mp hSlot with
        ⟨meet, hMeet, rfl⟩
      have hTy := eq_of_meet hp hq hMeet
      split <;> exact hTy

theorem ofType_variadicBy
    {p q : Option Parameter} {list : List Parameter}
    (hp : OfType ty p.toList)
    (hq : OfType ty q.toList)
    (h : variadicBy Ty.meet p q = some list) :
    OfType ty list := by
  unfold variadicBy at h
  split at h
  · rename_i x y
    rcases Option.map_eq_some_iff.mp h with
      ⟨meet, hMeet, rfl⟩
    refine List.forall_mem_singleton.mpr ?_
    exact eq_of_meet (hp x (by simp)) (hq y (by simp)) hMeet
  · cases h
    exact nofun

/- A join of lists of one type is of that type. -/
theorem JoinParts.Joins.ofType
    {parts : JoinParts}
    (hpsWF : WellFormed ps)
    (hqsWF : WellFormed qs)
    (hps : OfType ty ps)
    (hqs : OfType ty qs)
    (h : parts.Joins ps qs) : OfType ty parts.list := by
  have hFirst (kind : ParamKind) {xs : List Parameter}
      (hxs : OfType ty xs) :
      OfType ty (firstOfKind kind xs).toList :=
    fun p hp => hxs p (toList_firstOfKind_subset kind xs hp)
  have hSection {xs : List Parameter} (hxs : OfType ty xs) :
      OfType ty (positionalSection xs) :=
    fun p hp => hxs p (List.mem_of_mem_filter hp)
  have hMerged :=
    LeadMerge.ofType_merged (hSection hps) (hSection hqs)
      (hFirst .varPositional hps) (hFirst .varPositional hqs)
      h.lead
  have hKeywords : OfType ty parts.keywords := by
    intro p hp
    rcases exists_left_of_forall₂ h.named
      (mem_keywords.mp hp) with ⟨name, -, hSlot⟩
    rcases (keywordSlotBy_kept_iff hSlot).1 with
      ⟨a, b, ha, hb, hMeet⟩
    exact
      eq_of_meet (eq_of_accepts? hpsWF hps ha)
        (eq_of_accepts? hqsWF hqs hb) hMeet
  unfold list
  refine
    List.forall_mem_append.mpr
      ⟨List.forall_mem_append.mpr
        ⟨List.forall_mem_append.mpr ⟨?_, ?_⟩, hKeywords⟩, ?_⟩
  · intro p hp
    rcases exists_right_of_forall₂ normalizeLead_weakens hp
      with ⟨m, hm, hWeakens⟩
    exact hWeakens.ty.trans (hMerged m hm)
  · exact
      ofType_variadicBy (hFirst _ hps) (hFirst _ hqs) h.star
  · exact
      ofType_variadicBy (hFirst _ hps) (hFirst _ hqs) h.others

end SigCheck
