import SigCheck.Proofs.JoinView

/-
  Parameter lists that keep the names of their slots.

  A join forgets names of slots that a list joined later
  could still need. Nothing that matters is forgotten where
  the lists agree on the name of each position that some of
  them lack, and those that take other keywords share the
  names of their slots with no keyword elsewhere. Such lists
  are reconcilable all at once exactly if any two of them
  are.

  Key definitions include:
    * `ParamList.NeedsKeywordPast`
    * `ParamList.SharedPosition`, `ParamList.CountsSlots`
    * `ParamList.KeepsNames`
    * `ParamList.ReconcilableAll`

  Correctness is proven by:
    * `ParamList.hasKeywordPast_iff_views`
    * `ParamList.admitsKeywordPast_iff`
    * `ParamList.fillable_iff_named`
    * `ParamList.KeepsNames.reconcilableAll_iff`
-/

------------------------------------------------------------
-- Named and Needed Slots
------------------------------------------------------------

namespace SigCheck

namespace ParamList

variable {ps : List Parameter}
variable {index place : Nat} {name : String}

/- Parameters of a list that stand apart do so as slots. -/
theorem apart_of_lt
    {apart : Parameter → Parameter → Prop}
    (h : ps.Pairwise apart)
    {p q : Parameter}
    (hp : (positionalSection ps)[index]? = some p)
    (hq : (positionalSection ps)[place]? = some q)
    (hLt : index < place) : apart p q := by
  have hSection : (positionalSection ps).Pairwise apart :=
    h.sublist List.filter_sublist
  rcases List.getElem?_eq_some_iff.mp hp with ⟨hpLt, rfl⟩
  rcases List.getElem?_eq_some_iff.mp hq with ⟨hqLt, rfl⟩
  exact
    List.pairwise_iff_getElem.mp hSection index place hpLt
      hqLt hLt

/- Behind a named slot all slots are named. -/
theorem NamesSlot.later
    (hWF : WellFormed ps)
    (h : NamesSlot ps index name)
    (hLe : index ≤ place)
    (hHas : HasSlot ps place) :
    ∃ other, NamesSlot ps place other := by
  rcases Nat.eq_or_lt_of_le hLe with rfl | hLt
  · exact ⟨name, h⟩
  · rcases h with ⟨p, hp, hpKind, -⟩
    have hq := List.getElem?_eq_getElem hHas
    rcases mem_of_getElem?_positionalSection hq with
      ⟨hqMem, hqPos⟩
    have hRank := apart_of_lt hWF.ordered hp hq hLt
    have hqKind :
        (positionalSection ps)[place].kind =
          .positionalOrKeyword := by
      cases hKind : (positionalSection ps)[place].kind <;>
        simp_all [ParamKind.rank, ParamKind.isPositional]
    rcases hWF.exists_name hqMem (by rw [hqKind]; rfl) with
      ⟨other, hOther⟩
    exact ⟨other, _, hq, hqKind, hOther⟩

/- A name belongs to one slot. -/
theorem NamesSlot.index_eq
    (hWF : WellFormed ps)
    (h : NamesSlot ps index name)
    (h' : NamesSlot ps place name) : index = place := by
  rcases h with ⟨p, hp, hpKind, hpName⟩
  rcases h' with ⟨q, hq, hqKind, hqName⟩
  exact
    hWF.index_eq_of_name hp hq (by rw [hpKind]; rfl)
      (by rw [hqKind]; rfl) (hpName.trans hqName.symm)

/- The name of a slot is no keyword-only name. -/
theorem NamesSlot.not_keywordOnly
    (hWF : WellFormed ps)
    (h : NamesSlot ps index name) :
    ¬ HasKeywordOnly ps name := by
  rcases h with ⟨p, hp, hpKind, hpName⟩
  rintro ⟨q, hq, hqKind, hqName⟩
  have hSame : p = q :=
    hWF.eq_of_name (mem_of_getElem?_positionalSection hp).1 hq
      (by rw [hpKind]; rfl) (by rw [hqKind]; rfl)
      (hpName.trans hqName.symm)
  rw [hSame, hqKind] at hpKind
  cases hpKind

theorem NamesSlot.hasKeyword
    (h : NamesSlot ps index name) : HasKeyword ps name :=
  hasKeyword_iff_views.mpr (Or.inr ⟨index, h⟩)

/- Before a needed slot all slots are needed. -/
theorem NeedsSlot.before
    (hDeclarable : Declarable ps)
    (h : NeedsSlot ps place)
    (hLe : index ≤ place) : NeedsSlot ps index := by
  rcases Nat.eq_or_lt_of_le hLe with rfl | hLt
  · exact h
  · have hHas : HasSlot ps index :=
      Nat.lt_trans hLt h.hasSlot
    rcases h with ⟨q, hq, hDefault⟩
    have hp := List.getElem?_eq_getElem hHas
    refine ⟨_, hp, ?_⟩
    rw [← Bool.not_eq_true] at hDefault ⊢
    intro hOptional
    exact
      hDefault
        (apart_of_lt hDeclarable.defaultsLast hp hq hLt
          (mem_of_getElem?_positionalSection hp).2
          (mem_of_getElem?_positionalSection hq).2 hOptional)

end ParamList

end SigCheck

------------------------------------------------------------
-- Views Past a Position
------------------------------------------------------------

namespace SigCheck

namespace ParamList

variable {ps : List Parameter} {count : Nat} {name : String}

/-
  With so many slots filled by position, a keyword of this
  name must be passed.
-/
def NeedsKeywordPast
    (count : Nat)
    (ps : List Parameter)
    (name : String) : Prop :=
  NeedsKeyword ps name ∨
    ∃ index, count ≤ index ∧ NamesSlot ps index name ∧
      NeedsSlot ps index

/- Past the first slots, keywords reach slots by their name. -/
theorem hasKeywordPast_iff_views :
    HasKeywordPast count ps name ↔
      HasKeywordOnly ps name ∨
        ∃ index, count ≤ index ∧ NamesSlot ps index name := by
  constructor
  · rintro ⟨p, hPast, hName⟩
    rcases mem_keywordsPast_iff.mp hPast with
      ⟨index, hLe, hIndex, hKind⟩ | ⟨hp, hKind⟩
    · exact Or.inr ⟨index, hLe, p, hIndex, hKind, hName⟩
    · exact Or.inl ⟨p, hp, hKind, hName⟩
  · rintro (⟨p, hp, hKind, hName⟩ |
      ⟨index, hLe, p, hIndex, hKind, hName⟩)
    · exact
        ⟨p, mem_keywordsPast_iff.mpr (Or.inr ⟨hp, hKind⟩),
          hName⟩
    · exact
        ⟨p,
          mem_keywordsPast_iff.mpr
            (Or.inl ⟨index, hLe, hIndex, hKind⟩),
          hName⟩

theorem NeedsKeywordPast.hasKeywordPast
    (h : NeedsKeywordPast count ps name) :
    HasKeywordPast count ps name := by
  rw [hasKeywordPast_iff_views]
  rcases h with hNeeds | ⟨index, hLe, hNames, -⟩
  · exact Or.inl hNeeds.hasKeywordOnly
  · exact Or.inr ⟨index, hLe, hNames⟩

/- A list takes the keywords it has, and maybe all others. -/
theorem admitsKeywordPast_iff
    (hWF : WellFormed ps) :
    AdmitsKeywordPast count ps name ↔
      HasKeywordPast count ps name ∨
        HasOthers ps ∧ ¬ HasKeyword ps name := by
  simp only [AdmitsKeywordPast, hWF.accepts?_eq_some_iff]
  rw [HasOthers, Option.isSome_iff_exists]
  constructor
  · rintro ⟨ty, ⟨q, hq, hName, -⟩ | ⟨hNot, q, hq, -⟩⟩
    · exact Or.inl ⟨q, hq, hName⟩
    · exact Or.inr ⟨⟨q, hq⟩, hNot⟩
  · rintro (⟨q, hq, hName⟩ | ⟨⟨q, hq⟩, hNot⟩)
    · exact ⟨q.ty, Or.inl ⟨q, hq, hName, rfl⟩⟩
    · exact ⟨q.ty, Or.inr ⟨hNot, q, hq, rfl⟩⟩

theorem requires_iff_needsKeywordPast
    (hWF : WellFormed ps) :
    (keywordSide count ps).requires name = true ↔
      NeedsKeywordPast count ps name := by
  have hRequired {p : Parameter}
      (hVariadic : p.kind.isVariadic = false) :
      p.isRequired = true ↔ p.hasDefault = false := by
    simp [Parameter.isRequired, hVariadic]
  rw [hWF.requires_iff]
  constructor
  · rintro ⟨p, hPast, hName, hNeeds⟩
    rcases mem_keywordsPast_iff.mp hPast with
      ⟨index, hLe, hIndex, hKind⟩ | ⟨hp, hKind⟩
    · rw [hRequired (by rw [hKind]; rfl)] at hNeeds
      exact
        Or.inr
          ⟨index, hLe, ⟨p, hIndex, hKind, hName⟩, p, hIndex,
            hNeeds⟩
    · rw [hRequired (by rw [hKind]; rfl)] at hNeeds
      exact Or.inl ⟨p, hp, hKind, hName, hNeeds⟩
  · rintro (⟨p, hp, hKind, hName, hNeeds⟩ |
      ⟨index, hLe, ⟨p, hIndex, hKind, hName⟩, q, hSame,
        hNeeds⟩)
    · exact
        ⟨p, mem_keywordsPast_iff.mpr (Or.inr ⟨hp, hKind⟩),
          hName, (hRequired (by rw [hKind]; rfl)).mpr hNeeds⟩
    · cases hIndex.symm.trans hSame
      exact
        ⟨p,
          mem_keywordsPast_iff.mpr
            (Or.inl ⟨index, hLe, hIndex, hKind⟩),
          hName, (hRequired (by rw [hKind]; rfl)).mpr hNeeds⟩

/- What a list needs past the first slots must have a name. -/
theorem fillable_iff_named
    (hWF : WellFormed ps) :
    Fillable count ps ↔
      ∀ index, count ≤ index → NeedsSlot ps index →
        ∃ name, NamesSlot ps index name := by
  constructor
  · rintro hFillable index hLe ⟨p, hIndex, hDefault⟩
    rcases mem_of_getElem?_positionalSection hIndex with
      ⟨hp, hPos⟩
    have hKind :=
      fillable_iff.mp hFillable index p hIndex hLe
        ((isRequired_of_isPositional hPos).mpr hDefault)
    rcases hWF.exists_name hp (by rw [hKind]; rfl) with
      ⟨name, hName⟩
    exact ⟨name, p, hIndex, hKind, hName⟩
  · intro hNamed
    refine fillable_iff.mpr ?_
    intro index p hIndex hLe hRequired
    have hPos := (mem_of_getElem?_positionalSection hIndex).2
    rw [isRequired_of_isPositional hPos] at hRequired
    rcases hNamed index hLe ⟨p, hIndex, hRequired⟩ with
      ⟨name, q, hSame, hOwn, -⟩
    cases hIndex.symm.trans hSame
    exact hOwn

end ParamList

end SigCheck

------------------------------------------------------------
-- Lists That Keep Their Names
------------------------------------------------------------

namespace SigCheck

namespace ParamList

/- All of the lists have the position. -/
def SharedPosition
    (lists : List (List Parameter))
    (index : Nat) : Prop :=
  ∀ ps ∈ lists, AdmitsPosition ps index

/-
  Unless all lists have the position of a named slot, those
  that do name it alike. The names of the slots of a list
  with other keywords are not keyword-only anywhere, and
  stand at no other position that some list lacks.
-/
structure KeepsNames
    (lists : List (List Parameter)) : Prop where
  positions :
    ∀ ps ∈ lists, ∀ index name, NamesSlot ps index name →
      SharedPosition lists index ∨
        ∀ qs ∈ lists, AdmitsPosition qs index →
          NamesSlot qs index name
  keywords :
    ∀ ps ∈ lists, HasOthers ps →
      ∀ index name, NamesSlot ps index name →
        ∀ qs ∈ lists, ¬ HasKeywordOnly qs name ∧
          ∀ place, NamesSlot qs place name →
            place = index ∨ SharedPosition lists place

section Decidable

variable {ps : List Parameter}

/- Named slots are found among the positional parameters. -/
theorem forall_namesSlot_iff
    {claim : Nat → String → Prop} :
    (∀ index name, NamesSlot ps index name →
        claim index name) ↔
      ∀ index < (positionalSection ps).length,
        ∀ p ∈ (positionalSection ps)[index]?,
          p.kind = .positionalOrKeyword →
            ∀ name ∈ p.name, claim index name := by
  constructor
  · intro h index _ p hIndex hKind name hName
    exact h index name ⟨p, hIndex, hKind, hName⟩
  · rintro h index name ⟨p, hIndex, hKind, hName⟩
    have hLt := (List.getElem?_eq_some_iff.mp hIndex).1
    exact h index hLt p hIndex hKind name hName

instance
    (claim : Nat → String → Prop)
    [∀ index name, Decidable (claim index name)] :
    Decidable
      (∀ index name, NamesSlot ps index name →
        claim index name) :=
  decidable_of_iff _ forall_namesSlot_iff.symm

instance
    (name : String)
    (claim : Nat → Prop)
    [∀ index, Decidable (claim index)] :
    Decidable
      (∀ index, NamesSlot ps index name → claim index) :=
  decidable_of_iff
    (∀ index other, NamesSlot ps index other →
      other = name → claim index)
    ⟨fun h index hNames => h index name hNames rfl,
      fun h index _ hNames hName =>
        h index (hName ▸ hNames)⟩

instance
    (index : Nat)
    (name : String) : Decidable (NamesSlot ps index name) :=
  decidable_of_iff
    (∃ p ∈ (positionalSection ps)[index]?,
      p.kind = .positionalOrKeyword ∧ p.name = some name)
    Iff.rfl

instance : Decidable (HasOthers ps) :=
  inferInstanceAs (Decidable (_ = true))

instance (name : String) :
    Decidable (HasKeywordOnly ps name) :=
  inferInstanceAs (Decidable (∃ p ∈ ps, _))

instance (index : Nat) :
    Decidable (AdmitsPosition ps index) :=
  inferInstanceAs (Decidable (_ < _ ∨ _ = true))

instance
    (lists : List (List Parameter))
    (index : Nat) : Decidable (SharedPosition lists index) :=
  inferInstanceAs (Decidable (∀ ps ∈ lists, _))

instance (lists : List (List Parameter)) :
    Decidable (KeepsNames lists) :=
  decidable_of_iff
    ((∀ ps ∈ lists, ∀ index name, NamesSlot ps index name →
        SharedPosition lists index ∨
          ∀ qs ∈ lists, AdmitsPosition qs index →
            NamesSlot qs index name) ∧
      ∀ ps ∈ lists, HasOthers ps →
        ∀ index name, NamesSlot ps index name →
          ∀ qs ∈ lists, ¬ HasKeywordOnly qs name ∧
            ∀ place, NamesSlot qs place name →
              place = index ∨ SharedPosition lists place)
    ⟨fun ⟨hPositions, hKeywords⟩ => ⟨hPositions, hKeywords⟩,
      fun h => ⟨h.positions, h.keywords⟩⟩

end Decidable

variable {lists others : List (List Parameter)}
variable {ps qs : List Parameter} {index : Nat}

theorem SharedPosition.of_subset
    (h : SharedPosition lists index)
    (hSubset : others ⊆ lists) :
    SharedPosition others index :=
  fun ps hps => h ps (hSubset hps)

/- Some of the lists keep their names as all of them do. -/
theorem KeepsNames.of_subset
    (h : KeepsNames lists)
    (hSubset : others ⊆ lists) : KeepsNames others where
  positions ps hps index name hNames :=
    (h.positions ps (hSubset hps) index name hNames).imp
      (·.of_subset hSubset)
      (fun hAlike qs hqs => hAlike qs (hSubset hqs))
  keywords ps hps hOthers index name hNames qs hqs := by
    rcases h.keywords ps (hSubset hps) hOthers index name
      hNames qs (hSubset hqs) with ⟨hNot, hPlace⟩
    exact
      ⟨hNot, fun place hOther =>
        (hPlace place hOther).imp_right (·.of_subset hSubset)⟩

end ParamList

end SigCheck

------------------------------------------------------------
-- Many Reconcilable Lists
------------------------------------------------------------

namespace SigCheck

namespace ParamList

/- So many positions have a slot and are had by all lists. -/
def CountsSlots
    (lists : List (List Parameter))
    (count : Nat) : Prop :=
  ∀ index, index < count ↔
    SharedPosition lists index ∧ ∃ ps ∈ lists, HasSlot ps index

/-
  With so many slots passed by position, what a list needs
  past them has a name, and all take a keyword of that name.
-/
structure ReconcilableAll
    (count : Nat)
    (lists : List (List Parameter)) : Prop where
  fillable : ∀ ps ∈ lists, Fillable count ps
  taken :
    ∀ ps ∈ lists, ∀ name, NeedsKeywordPast count ps name →
      ∀ qs ∈ lists, AdmitsKeywordPast count qs name

variable {lists : List (List Parameter)}
variable {ps qs : List Parameter}
variable {count index : Nat} {name : String}

/- Reconciling two lists, in terms of their views. -/
theorem reconcilable_iff
    (hps : WellFormed ps)
    (hqs : WellFormed qs) :
    Reconcilable count ps qs ↔
      Fillable count ps ∧ Fillable count qs ∧
        ∀ name,
          NeedsKeywordPast count ps name ∨
              NeedsKeywordPast count qs name →
            AdmitsKeywordPast count ps name ∧
              AdmitsKeywordPast count qs name := by
  simp only [← requires_iff_needsKeywordPast hps,
    ← requires_iff_needsKeywordPast hqs]
  exact
    ⟨fun h => ⟨h.leftFillable, h.rightFillable, h.taken⟩,
      fun ⟨hLeft, hRight, hTaken⟩ => ⟨hLeft, hRight, hTaken⟩⟩

namespace CountsSlots

variable (hCount : CountsSlots lists count)

include hCount

/- Some list lacks the position of a slot past the count. -/
theorem not_shared
    (hps : ps ∈ lists)
    (hHas : HasSlot ps index)
    (hLe : count ≤ index) : ¬ SharedPosition lists index := by
  intro hShared
  have := (hCount index).mpr ⟨hShared, ps, hps, hHas⟩
  omega

/- Slots past those that two lists share are past the count. -/
theorem le_of_sharedSlots_le
    (hps : ps ∈ lists)
    (hqs : qs ∈ lists)
    (hHas : HasSlot ps index)
    (hLe : sharedSlots ps qs ≤ index) : count ≤ index := by
  by_contra hLt
  rw [Nat.not_le] at hLt
  have hShared := ((hCount index).mp hLt).1
  have :=
    lt_sharedSlots_iff.mpr
      ⟨hShared ps hps, hShared qs hqs, Or.inl hHas⟩
  omega

end CountsSlots

/- Behind the slots that two lists share, one of them ends. -/
theorem sharedSlots_le_of_not_admits
    (hNot : ¬ AdmitsPosition qs index) :
    sharedSlots ps qs ≤ index := by
  by_contra hLt
  rw [Nat.not_le] at hLt
  exact hNot (lt_sharedSlots_iff.mp hLt).2.1

namespace KeepsNames

variable (hKeeps : KeepsNames lists)
variable (hCount : CountsSlots lists count)
variable (hWF : ∀ ps ∈ lists, WellFormed ps)

include hKeeps hCount

/-
  A name past the count stands at the same position in all
  lists that have the position.
-/
theorem names_of_admits
    (hps : ps ∈ lists)
    (hqs : qs ∈ lists)
    (hLe : count ≤ index)
    (hNames : NamesSlot ps index name)
    (hAdmits : AdmitsPosition qs index) :
    NamesSlot qs index name :=
  (hKeeps.positions ps hps index name hNames).resolve_left
    (hCount.not_shared hps hNames.hasSlot hLe) qs hqs hAdmits

include hWF

/- A needed keyword that all lists take, any two take. -/
theorem admits_of_all
    (hps : ps ∈ lists)
    (hqs : qs ∈ lists)
    (hNeeds : NeedsKeywordPast (sharedSlots ps qs) ps name)
    (hAdmits : AdmitsKeywordPast count qs name) :
    AdmitsKeywordPast (sharedSlots ps qs) qs name := by
  rw [admitsKeywordPast_iff (hWF qs hqs)] at hAdmits ⊢
  refine hAdmits.imp_left fun hHas => ?_
  rw [hasKeywordPast_iff_views] at hHas ⊢
  refine hHas.imp_right ?_
  rintro ⟨index, hLe, hNames⟩
  refine ⟨index, ?_, hNames⟩
  -- At a slot that both share, the other list would have the
  -- name too, and nowhere else.
  by_contra hLt
  rw [Nat.not_le] at hLt
  have hOwn :=
    hKeeps.names_of_admits hCount hqs hps hLe hNames
      (lt_sharedSlots_iff.mp hLt).1
  rcases hNeeds with hOnly | ⟨place, hPast, hPlace, -⟩
  · exact
      hOwn.not_keywordOnly (hWF ps hps) hOnly.hasKeywordOnly
  · have := hOwn.index_eq (hWF ps hps) hPlace
    omega

/- A needed keyword that any two lists take, all take. -/
theorem admits_of_pair
    (hps : ps ∈ lists)
    (hqs : qs ∈ lists)
    (hNeeds : NeedsKeywordPast count ps name)
    (hPair :
      NeedsKeywordPast (sharedSlots ps qs) ps name →
        AdmitsKeywordPast (sharedSlots ps qs) qs name) :
    AdmitsKeywordPast count qs name := by
  rw [admitsKeywordPast_iff (hWF qs hqs)] at hPair ⊢
  have hWeaken
      (h : NeedsKeywordPast (sharedSlots ps qs) ps name) :
      HasKeywordPast count qs name ∨
        HasOthers qs ∧ ¬ HasKeyword qs name := by
    refine (hPair h).imp_left fun hHas => ?_
    rw [hasKeywordPast_iff_views] at hHas ⊢
    refine hHas.imp_right ?_
    rintro ⟨index, hLe, hNames⟩
    rw [sharedSlots_comm] at hLe
    exact
      ⟨index,
        hCount.le_of_sharedSlots_le hqs hps hNames.hasSlot hLe,
        hNames⟩
  rcases hNeeds with hOnly | ⟨index, hLe, hNames, hNeeds⟩
  · exact hWeaken (Or.inl hOnly)
  · by_cases hAdmits : AdmitsPosition qs index
    · left
      exact
        hasKeywordPast_iff_views.mpr
          (Or.inr ⟨index, hLe,
            hKeeps.names_of_admits hCount hps hqs hLe hNames
              hAdmits⟩)
    · exact
        hWeaken
          (Or.inr ⟨index, sharedSlots_le_of_not_admits hAdmits,
            hNames, hNeeds⟩)

/-
  Lists that keep their names are reconcilable all at once
  exactly if any two of them are.
-/
theorem reconcilableAll_iff :
    ReconcilableAll count lists ↔
      ∀ ps ∈ lists, ∀ qs ∈ lists,
        Reconcilable (sharedSlots ps qs) ps qs := by
  constructor
  · intro h ps hps qs hqs
    have hFillable {ps qs : List Parameter}
        (hps : ps ∈ lists)
        (hqs : qs ∈ lists) :
        Fillable (sharedSlots ps qs) ps := by
      have hOwn := h.fillable ps hps
      rw [fillable_iff_named (hWF ps hps)] at hOwn ⊢
      intro index hLe hNeeds
      exact
        hOwn index
          (hCount.le_of_sharedSlots_le hps hqs hNeeds.hasSlot
            hLe) hNeeds
    have hTaken {ps qs : List Parameter}
        (hps : ps ∈ lists)
        (hqs : qs ∈ lists)
        (name : String)
        (hNeeds :
          NeedsKeywordPast (sharedSlots ps qs) ps name) :
        AdmitsKeywordPast (sharedSlots ps qs) ps name ∧
          AdmitsKeywordPast (sharedSlots ps qs) qs name := by
      refine
        ⟨(admitsKeywordPast_iff (hWF ps hps)).mpr
          (Or.inl hNeeds.hasKeywordPast), ?_⟩
      have hAll : NeedsKeywordPast count ps name := by
        refine hNeeds.imp_right ?_
        rintro ⟨index, hLe, hNames, hSlot⟩
        exact
          ⟨index,
            hCount.le_of_sharedSlots_le hps hqs
              hNames.hasSlot hLe,
            hNames, hSlot⟩
      exact
        hKeeps.admits_of_all hCount hWF hps hqs hNeeds
          (h.taken ps hps name hAll qs hqs)
    have hSame := sharedSlots_comm ps qs
    rw [reconcilable_iff (hWF ps hps) (hWF qs hqs)]
    refine ⟨hFillable hps hqs, ?_, ?_⟩
    · rw [hSame]
      exact hFillable hqs hps
    · rintro name (hNeeds | hNeeds)
      · exact hTaken hps hqs name hNeeds
      · rw [hSame] at hNeeds ⊢
        exact (hTaken hqs hps name hNeeds).symm
  · intro h
    constructor
    · intro ps hps
      rw [fillable_iff_named (hWF ps hps)]
      intro index hLe hNeeds
      have hNot := hCount.not_shared hps hNeeds.hasSlot hLe
      simp only [SharedPosition, not_forall] at hNot
      rcases hNot with ⟨qs, hqs, hNot⟩
      have hOwn := (h ps hps qs hqs).leftFillable
      rw [fillable_iff_named (hWF ps hps)] at hOwn
      exact
        hOwn index (sharedSlots_le_of_not_admits hNot) hNeeds
    · intro ps hps name hNeeds qs hqs
      have hPair := h ps hps qs hqs
      rw [reconcilable_iff (hWF ps hps) (hWF qs hqs)] at hPair
      exact
        hKeeps.admits_of_pair hCount hWF hps hqs hNeeds
          fun hOwn => (hPair.2.2 name (Or.inl hOwn)).2

end KeepsNames

end ParamList

end SigCheck
