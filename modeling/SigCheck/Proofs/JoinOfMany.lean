import SigCheck.Proofs.NameKeeping

/-
  What callers see of a join of many parameter lists.

  Where the lists keep the names of their slots, each view
  of the join of all of them is an expression in their views
  that does not depend on their order. Joining in one more
  list keeps it so, and succeeds exactly if that list and
  all before it are reconcilable.

  Key definitions include:
    * `ParamList.JoinOf`

  Correctness is proven by:
    * `ParamList.JoinOf.interchangeable`
    * `ParamList.JoinOf.reconcilableAll`
    * `ParamList.JoinOf.reconcilable_iff_all`
    * `ParamList.JoinOf.add`
-/

------------------------------------------------------------
-- Joins of Many Lists
------------------------------------------------------------

namespace SigCheck

namespace ParamList

/- The number of slots of a list. -/
def slotCount (ps : List Parameter) : Nat :=
  (positionalSection ps).length

/-
  What callers see of a join of all of the lists. Nothing in
  it depends on the order of the lists.
-/
structure JoinOf
    (lists : List (List Parameter))
    (join : List Parameter) : Prop where
  hasSlot : CountsSlots lists (slotCount join)
  namesSlot :
    ∀ index name, NamesSlot join index name ↔
      (∀ ps ∈ lists, NamesSlot ps index name) ∧
        ∀ place, index ≤ place → HasSlot join place →
          ∃ other, ∀ ps ∈ lists, NamesSlot ps place other
  needsSlot :
    ∀ index, NeedsSlot join index ↔
      HasSlot join index ∧ ∃ ps ∈ lists, NeedsSlot ps index
  hasStar : HasStar join ↔ ∀ ps ∈ lists, HasStar ps
  hasOthers : HasOthers join ↔ ∀ ps ∈ lists, HasOthers ps
  keywordOnly :
    ∀ name, HasKeywordOnly join name ↔
      (∀ ps ∈ lists,
          AdmitsKeywordPast (slotCount join) ps name) ∧
        ∃ ps ∈ lists, HasKeywordPast (slotCount join) ps name
  needsKeyword :
    ∀ name, NeedsKeyword join name ↔
      ∃ ps ∈ lists, NeedsKeywordPast (slotCount join) ps name
  fillable : ∀ ps ∈ lists, Fillable (slotCount join) ps

namespace JoinOf

variable {lists others : List (List Parameter)}
variable {join join' ps qs : List Parameter}
variable {index count : Nat} {name : String}

/- A list is the join of itself. -/
theorem single
    (hWF : WellFormed ps) : JoinOf [ps] ps := by
  have hPast (index : Nat) (name : String)
      (hLe : slotCount ps ≤ index) :
      ¬ NamesSlot ps index name := by
    intro hNames
    exact Nat.not_lt.mpr hLe hNames.hasSlot
  constructor <;> try intros
  case hasSlot =>
    intro index
    simp only [SharedPosition, List.mem_singleton, forall_eq,
      exists_eq_left]
    exact (and_iff_right_of_imp Or.inl).symm
  case namesSlot =>
    simp only [List.mem_singleton, forall_eq]
    refine (and_iff_left_of_imp ?_).symm
    intro hNames place hLe hHas
    exact hNames.later hWF hLe hHas
  case needsSlot =>
    simp only [List.mem_singleton, exists_eq_left]
    exact (and_iff_right_of_imp NeedsSlot.hasSlot).symm
  case hasStar => simp
  case hasOthers => simp
  case keywordOnly name =>
    simp only [List.mem_singleton, forall_eq, exists_eq_left,
      admitsKeywordPast_iff hWF]
    rw [and_iff_right_of_imp Or.inl, hasKeywordPast_iff_views]
    refine (or_iff_left ?_).symm
    rintro ⟨index, hLe, hNames⟩
    exact hPast index name hLe hNames
  case needsKeyword name =>
    simp only [List.mem_singleton, exists_eq_left]
    refine (or_iff_left ?_).symm
    rintro ⟨index, hLe, hNames, -⟩
    exact hPast index name hLe hNames
  case fillable ps' hMem =>
    cases List.mem_singleton.mp hMem
    rw [fillable_iff_named hWF]
    intro index hLe hNeeds
    exact absurd hNeeds.hasSlot (Nat.not_lt.mpr hLe)

theorem of_mem_iff
    (h : JoinOf lists join)
    (hMem : ∀ ps, ps ∈ lists ↔ ps ∈ others) :
    JoinOf others join := by
  constructor
  case hasSlot =>
    simpa only [CountsSlots, SharedPosition, hMem] using
      h.hasSlot
  case namesSlot => simpa only [hMem] using h.namesSlot
  case needsSlot => simpa only [hMem] using h.needsSlot
  case hasStar => simpa only [hMem] using h.hasStar
  case hasOthers => simpa only [hMem] using h.hasOthers
  case keywordOnly => simpa only [hMem] using h.keywordOnly
  case needsKeyword => simpa only [hMem] using h.needsKeyword
  case fillable =>
    exact fun ps hps => h.fillable ps ((hMem ps).mpr hps)

theorem hasSlot_iff
    (h : JoinOf lists join) :
    HasSlot join index ↔
      SharedPosition lists index ∧
        ∃ ps ∈ lists, HasSlot ps index :=
  h.hasSlot index

/- Joins of the same lists look the same to callers. -/
theorem interchangeable
    (h : JoinOf lists join)
    (h' : JoinOf lists join') :
    Interchangeable join join' := by
  have hSlots (index : Nat) :
      HasSlot join index ↔ HasSlot join' index :=
    h.hasSlot_iff.trans h'.hasSlot_iff.symm
  have hCount : slotCount join = slotCount join' :=
    Nat.le_antisymm
      (Nat.le_of_not_lt fun hLt =>
        Nat.lt_irrefl _ ((hSlots _).mp hLt))
      (Nat.le_of_not_lt fun hLt =>
        Nat.lt_irrefl _ ((hSlots _).mpr hLt))
  constructor
  case hasSlot => exact hSlots
  case namesSlot =>
    intro index name
    simp only [h.namesSlot, h'.namesSlot, hSlots]
  case needsSlot =>
    intro index
    simp only [h.needsSlot, h'.needsSlot, hSlots]
  case hasStar => rw [h.hasStar, h'.hasStar]
  case hasOthers => rw [h.hasOthers, h'.hasOthers]
  case keywordOnly =>
    intro name
    rw [h.keywordOnly, h'.keywordOnly, hCount]
  case needsKeyword =>
    intro name
    rw [h.needsKeyword, h'.needsKeyword, hCount]

/- The join has the positions that all lists have. -/
theorem admitsPosition_iff
    (h : JoinOf lists join) :
    AdmitsPosition join index ↔
      SharedPosition lists index := by
  constructor
  · rintro (hSlot | hStar)
    · exact (h.hasSlot_iff.mp hSlot).1
    · exact fun ps hps => Or.inr (h.hasStar.mp hStar ps hps)
  · intro hAll
    by_cases hSlot : ∃ ps ∈ lists, HasSlot ps index
    · exact Or.inl (h.hasSlot_iff.mpr ⟨hAll, hSlot⟩)
    · refine Or.inr (h.hasStar.mpr fun ps hps => ?_)
      exact
        (hAll ps hps).resolve_left fun hHas =>
          hSlot ⟨ps, hps, hHas⟩

/- A slot that the join names is one that some list names. -/
theorem exists_names
    (h : JoinOf lists join)
    (hNames : NamesSlot join index name) :
    ∃ ps ∈ lists, NamesSlot ps index name := by
  rcases (h.hasSlot_iff.mp hNames.hasSlot).2 with
    ⟨ps, hps, -⟩
  exact
    ⟨ps, hps, ((h.namesSlot index name).mp hNames).1 ps hps⟩

/- Lists that have a join are reconcilable at its slots. -/
theorem reconcilableAll
    (h : JoinOf lists join) :
    ReconcilableAll (slotCount join) lists where
  fillable := h.fillable
  taken ps hps name hNeeds := by
    have hOnly :=
      ((h.needsKeyword name).mpr
        ⟨ps, hps, hNeeds⟩).hasKeywordOnly
    exact ((h.keywordOnly name).mp hOnly).1

/- Before a slot that the join needs all slots are needed. -/
theorem needsSlot_before
    (hDeclared : ∀ ps ∈ lists, Declarable ps)
    (h : JoinOf lists join)
    {place : Nat}
    (hNeeds : NeedsSlot join place)
    (hLe : index ≤ place) : NeedsSlot join index := by
  rcases (h.needsSlot place).mp hNeeds with
    ⟨hHas, ps, hps, hOwn⟩
  exact
    (h.needsSlot index).mpr
      ⟨Nat.lt_of_le_of_lt hLe hHas, ps, hps,
        hOwn.before (hDeclared ps hps) hLe⟩

/- The slots that the join shares with one more list. -/
theorem countsSlots_cons
    (h : JoinOf lists join) :
    CountsSlots (qs :: lists) (sharedSlots join qs) := by
  intro index
  rw [lt_sharedSlots_iff, h.admitsPosition_iff,
    h.hasSlot_iff, SharedPosition, SharedPosition,
    List.forall_mem_cons, List.exists_mem_cons_iff]
  constructor
  · rintro ⟨hAll, hqs, hSlot⟩
    exact ⟨⟨hqs, hAll⟩, (hSlot.imp_left And.right).symm⟩
  · rintro ⟨⟨hqs, hAll⟩, hSlot⟩
    exact ⟨hAll, hqs, hSlot.symm.imp_left (And.intro hAll)⟩

end JoinOf

end ParamList

end SigCheck

------------------------------------------------------------
-- One More List
------------------------------------------------------------

namespace SigCheck

namespace ParamList

namespace JoinOf

variable {lists : List (List Parameter)}
variable {join ps qs : List Parameter}
variable {index : Nat} {name : String}
variable (hKeeps : KeepsNames (qs :: lists))
variable (hWF : ∀ ps ∈ qs :: lists, WellFormed ps)
variable (h : JoinOf lists join)

include h

/- Slots past those of the join are past the shared ones. -/
theorem le_of_slotCount_le
    (hps : ps ∈ lists)
    (hHas : HasSlot ps index)
    (hLe : slotCount join ≤ index) :
    sharedSlots join qs ≤ index := by
  by_contra hLt
  rw [Nat.not_le] at hLt
  have hShared := (h.countsSlots_cons index).mp hLt
  have hJoin : HasSlot join index :=
    h.hasSlot_iff.mpr
      ⟨hShared.1.of_subset (List.subset_cons_self _ _), ps,
        hps, hHas⟩
  exact Nat.not_lt.mpr hLe hJoin

/- A keyword past the slots of the join is one past fewer. -/
theorem hasKeywordPast_of_slotCount
    (hps : ps ∈ lists)
    (hHas : HasKeywordPast (slotCount join) ps name) :
    HasKeywordPast (sharedSlots join qs) ps name := by
  rw [hasKeywordPast_iff_views] at hHas ⊢
  refine hHas.imp_right ?_
  rintro ⟨index, hLe, hNames⟩
  exact
    ⟨index, h.le_of_slotCount_le hps hNames.hasSlot hLe,
      hNames⟩

include hKeeps

/-
  A slot of the join that one more list lacks has one name in
  all lists of the join.
-/
theorem names_all
    (hps : ps ∈ lists)
    (hLe : sharedSlots join qs ≤ index)
    (hHas : HasSlot join index)
    (hNames : NamesSlot ps index name) :
    ∀ rs ∈ lists, NamesSlot rs index name :=
  fun rs hrs =>
    hKeeps.names_of_admits h.countsSlots_cons
      (List.mem_cons_of_mem _ hps) (List.mem_cons_of_mem _ hrs)
      hLe hNames ((h.hasSlot_iff.mp hHas).1 rs hrs)

/-
  A list with other keywords has no shared slot of a name
  that some list has as a keyword.
-/
theorem le_of_hasOthers
    (hps : ps ∈ lists)
    (hOthers : HasOthers ps)
    (hNames : NamesSlot ps index name)
    (hSome :
      ∃ rs ∈ qs :: lists,
        HasKeywordPast (sharedSlots join qs) rs name) :
    sharedSlots join qs ≤ index := by
  rcases hSome with ⟨rs, hrs, hPast⟩
  rcases hKeeps.keywords ps (List.mem_cons_of_mem _ hps)
    hOthers index name hNames rs hrs with ⟨hNot, hPlace⟩
  rcases hasKeywordPast_iff_views.mp hPast with
    hOnly | ⟨place, hLe, hOther⟩
  · exact absurd hOnly hNot
  · rcases hPlace place hOther with rfl | hShared
    · exact hLe
    · exact
        absurd hShared
          (h.countsSlots_cons.not_shared hrs hOther.hasSlot hLe)

include hWF

/- Behind such a slot, the same holds for the next ones. -/
theorem exists_names_all
    (hps : ps ∈ lists)
    (hLe : sharedSlots join qs ≤ index)
    (hNames : NamesSlot ps index name)
    (hHas : HasSlot join index) :
    ∀ place, index ≤ place → HasSlot join place →
      ∃ other, ∀ rs ∈ lists, NamesSlot rs place other := by
  intro place hLater hPlace
  rcases (h.hasSlot_iff.mp hPlace).2 with ⟨rs, hrs, hOwn⟩
  have hSame :=
    h.names_all hKeeps hps hLe hHas hNames rs hrs
  rcases hSame.later (hWF rs (List.mem_cons_of_mem _ hrs))
    hLater hOwn with ⟨other, hOther⟩
  exact
    ⟨other,
      h.names_all hKeeps hrs (Nat.le_trans hLe hLater) hPlace
        hOther⟩

/- So the join itself has the name. -/
theorem names_of_names
    (hps : ps ∈ lists)
    (hLe : sharedSlots join qs ≤ index)
    (hNames : NamesSlot ps index name)
    (hHas : HasSlot join index) :
    NamesSlot join index name :=
  (h.namesSlot index name).mpr
    ⟨h.names_all hKeeps hps hLe hHas hNames,
      h.exists_names_all hKeeps hWF hps hLe hNames hHas⟩

/- The join is fillable past shared slots as its lists are. -/
theorem fillable_iff_all
    (hJoinWF : WellFormed join) :
    Fillable (sharedSlots join qs) join ↔
      ∀ ps ∈ lists, Fillable (sharedSlots join qs) ps := by
  rw [fillable_iff_named hJoinWF]
  constructor
  · intro hNamed ps hps
    have hpsWF := hWF ps (List.mem_cons_of_mem _ hps)
    have hPast := h.fillable ps hps
    rw [fillable_iff_named hpsWF] at hPast ⊢
    intro index hLe hNeeds
    by_cases hHas : HasSlot join index
    · rcases hNamed index hLe
        ((h.needsSlot index).mpr
          ⟨hHas, ps, hps, hNeeds⟩) with ⟨name, hNames⟩
      exact
        ⟨name, ((h.namesSlot index name).mp hNames).1 ps hps⟩
    · exact hPast index (Nat.not_lt.mp hHas) hNeeds
  · intro hAll index hLe hNeeds
    rcases (h.needsSlot index).mp hNeeds with
      ⟨hHas, ps, hps, hOwn⟩
    have hFillable := hAll ps hps
    rw [fillable_iff_named
      (hWF ps (List.mem_cons_of_mem _ hps))] at hFillable
    rcases hFillable index hLe hOwn with ⟨name, hNames⟩
    exact
      ⟨name,
        h.names_of_names hKeeps hWF hps hLe hNames hHas⟩

variable (name)

/- The join needs the keywords that one of its lists needs. -/
theorem needsKeywordPast_iff :
    NeedsKeywordPast (sharedSlots join qs) join name ↔
      ∃ ps ∈ lists,
        NeedsKeywordPast (sharedSlots join qs) ps name := by
  constructor
  · rintro (hNeeds | ⟨index, hLe, hNames, hNeeds⟩)
    · rcases (h.needsKeyword name).mp hNeeds with
        ⟨ps, hps, hOwn⟩
      refine ⟨ps, hps, hOwn.imp_right ?_⟩
      rintro ⟨index, hLe, hNames, hSlot⟩
      exact
        ⟨index, h.le_of_slotCount_le hps hNames.hasSlot hLe,
          hNames, hSlot⟩
    · rcases (h.needsSlot index).mp hNeeds with
        ⟨-, ps, hps, hOwn⟩
      exact
        ⟨ps, hps,
          Or.inr
            ⟨index, hLe,
              ((h.namesSlot index name).mp hNames).1 ps hps,
              hOwn⟩⟩
  · rintro ⟨ps, hps, hOnly | ⟨index, hLe, hNames, hNeeds⟩⟩
    · exact
        Or.inl
          ((h.needsKeyword name).mpr ⟨ps, hps, Or.inl hOnly⟩)
    · by_cases hHas : HasSlot join index
      · exact
          Or.inr
            ⟨index, hLe,
              h.names_of_names hKeeps hWF hps hLe hNames hHas,
              (h.needsSlot index).mpr ⟨hHas, ps, hps, hNeeds⟩⟩
      · exact
          Or.inl
            ((h.needsKeyword name).mpr
              ⟨ps, hps,
                Or.inr
                  ⟨index, Nat.not_lt.mp hHas, hNames, hNeeds⟩⟩)

/- The join has the keywords of its lists that all take. -/
theorem hasKeywordPast_iff :
    HasKeywordPast (sharedSlots join qs) join name ↔
      (∀ ps ∈ lists,
          AdmitsKeywordPast (sharedSlots join qs) ps name) ∧
        ∃ ps ∈ lists,
          HasKeywordPast (sharedSlots join qs) ps name := by
  have hAdmits {ps : List Parameter} (hps : ps ∈ lists)
      (count : Nat) :
      AdmitsKeywordPast count ps name ↔
        HasKeywordPast count ps name ∨
          HasOthers ps ∧ ¬ HasKeyword ps name :=
    admitsKeywordPast_iff (hWF ps (List.mem_cons_of_mem _ hps))
  constructor
  · intro hHas
    rcases hasKeywordPast_iff_views.mp hHas with
      hOnly | ⟨index, hLe, hNames⟩
    · rcases (h.keywordOnly name).mp hOnly with
        ⟨hAll, ps, hps, hOwn⟩
      refine
        ⟨fun rs hrs => ?_, ps, hps,
          h.hasKeywordPast_of_slotCount hps hOwn⟩
      have hTakes := hAll rs hrs
      rw [hAdmits hrs] at hTakes ⊢
      exact
        hTakes.imp_left (h.hasKeywordPast_of_slotCount hrs)
    · have hOwn (ps : List Parameter) (hps : ps ∈ lists) :
          HasKeywordPast (sharedSlots join qs) ps name :=
        hasKeywordPast_iff_views.mpr
          (Or.inr ⟨index, hLe,
            ((h.namesSlot index name).mp hNames).1 ps hps⟩)
      rcases h.exists_names hNames with ⟨ps, hps, -⟩
      exact
        ⟨fun rs hrs =>
            (hAdmits hrs _).mpr (Or.inl (hOwn rs hrs)),
          ps, hps, hOwn ps hps⟩
  · rintro ⟨hAll, ps, hps, hOwn⟩
    -- Either the join has a slot of this name that one more
    -- list lacks, or the name stands past the slots of the
    -- join already.
    by_cases hSlot :
        ∃ rs ∈ lists, ∃ index, sharedSlots join qs ≤ index ∧
          HasSlot join index ∧ NamesSlot rs index name
    · rcases hSlot with ⟨rs, hrs, index, hLe, hHas, hNames⟩
      exact
        hasKeywordPast_iff_views.mpr
          (Or.inr ⟨index, hLe,
            h.names_of_names hKeeps hWF hrs hLe hNames hHas⟩)
    · have hPast {rs : List Parameter} (hrs : rs ∈ lists)
          (hHas :
            HasKeywordPast (sharedSlots join qs) rs name) :
          HasKeywordPast (slotCount join) rs name := by
        rw [hasKeywordPast_iff_views] at hHas ⊢
        refine hHas.imp_right ?_
        rintro ⟨index, hLe, hNames⟩
        refine ⟨index, Nat.not_lt.mp fun hHas => ?_, hNames⟩
        exact hSlot ⟨rs, hrs, index, hLe, hHas, hNames⟩
      refine hasKeywordPast_iff_views.mpr (Or.inl ?_)
      refine
        (h.keywordOnly name).mpr
          ⟨fun rs hrs => ?_, ps, hps, hPast hps hOwn⟩
      have hTakes := hAll rs hrs
      rw [hAdmits hrs] at hTakes ⊢
      exact hTakes.imp_left (hPast hrs)

/-
  Of the keywords that some list has, the join takes those
  that all of its lists take: a list with other keywords has
  no slot of such a name.
-/
theorem admitsKeywordPast_iff_all
    (hJoinWF : WellFormed join)
    (hSome :
      ∃ rs ∈ qs :: lists,
        HasKeywordPast (sharedSlots join qs) rs name) :
    AdmitsKeywordPast (sharedSlots join qs) join name ↔
      ∀ ps ∈ lists,
        AdmitsKeywordPast (sharedSlots join qs) ps name := by
  have hHas := h.hasKeywordPast_iff name hKeeps hWF
  rw [admitsKeywordPast_iff hJoinWF]
  constructor
  · rintro (hJoin | ⟨hOthers, -⟩) ps hps
    · exact (hHas.mp hJoin).1 ps hps
    · have hMem := List.mem_cons_of_mem qs hps
      have hOwn := h.hasOthers.mp hOthers ps hps
      rw [admitsKeywordPast_iff (hWF ps hMem)]
      by_cases hKeyword : HasKeyword ps name
      · left
        rw [hasKeywordPast_iff_views]
        refine
          (hasKeyword_iff_views.mp hKeyword).imp_right ?_
        rintro ⟨index, hNames⟩
        exact
          ⟨index,
            h.le_of_hasOthers hKeeps hps hOwn hNames hSome,
            hNames⟩
      · exact Or.inr ⟨hOwn, hKeyword⟩
  · intro hAll
    by_cases hOwn :
        ∃ ps ∈ lists,
          HasKeywordPast (sharedSlots join qs) ps name
    · exact Or.inl (hHas.mpr ⟨hAll, hOwn⟩)
    · have hRest (ps : List Parameter) (hps : ps ∈ lists) :
          HasOthers ps ∧ ¬ HasKeyword ps name := by
        have hTakes := hAll ps hps
        rw [admitsKeywordPast_iff
          (hWF ps (List.mem_cons_of_mem _ hps))] at hTakes
        exact
          hTakes.resolve_left fun hPast =>
            hOwn ⟨ps, hps, hPast⟩
      refine
        Or.inr
          ⟨h.hasOthers.mpr fun ps hps => (hRest ps hps).1, ?_⟩
      intro hKeyword
      rcases hasKeyword_iff_views.mp hKeyword with
        hOnly | ⟨index, hNames⟩
      · rcases ((h.keywordOnly name).mp hOnly).2 with
          ⟨ps, hps, hPast⟩
        exact
          hOwn
            ⟨ps, hps, h.hasKeywordPast_of_slotCount hps hPast⟩
      · rcases h.exists_names hNames with ⟨ps, hps, hName⟩
        exact (hRest ps hps).2 hName.hasKeyword

/-
  One more list is reconcilable with the join exactly if it
  is with all of its lists.
-/
theorem reconcilable_iff_all
    (hJoinWF : WellFormed join) :
    Reconcilable (sharedSlots join qs) join qs ↔
      ReconcilableAll (sharedSlots join qs) (qs :: lists) := by
  have hNeeds (name : String) :=
    h.needsKeywordPast_iff name hKeeps hWF
  have hAdmits (name : String) :=
    h.admitsKeywordPast_iff_all name hKeeps hWF
      hJoinWF
  rw [reconcilable_iff hJoinWF (hWF qs List.mem_cons_self),
    h.fillable_iff_all hKeeps hWF hJoinWF]
  constructor
  · rintro ⟨hAll, hqs, hTaken⟩
    refine ⟨List.forall_mem_cons.mpr ⟨hqs, hAll⟩, ?_⟩
    intro ps hps name hOwn
    have hOne :
        NeedsKeywordPast (sharedSlots join qs) join name ∨
          NeedsKeywordPast (sharedSlots join qs) qs name := by
      rw [hNeeds]
      rcases List.mem_cons.mp hps with rfl | hps
      · exact Or.inr hOwn
      · exact Or.inl ⟨ps, hps, hOwn⟩
    have hBoth := hTaken name hOne
    rw [hAdmits name ⟨ps, hps, hOwn.hasKeywordPast⟩] at hBoth
    exact List.forall_mem_cons.mpr ⟨hBoth.2, hBoth.1⟩
  · intro hAll
    rcases List.forall_mem_cons.mp hAll.fillable with
      ⟨hqs, hLists⟩
    refine ⟨hLists, hqs, ?_⟩
    intro name hOwn
    rw [hNeeds] at hOwn
    have hOne :
        ∃ ps ∈ qs :: lists,
          NeedsKeywordPast (sharedSlots join qs) ps name :=
      (List.exists_mem_cons_iff ..).mpr hOwn.symm
    rcases hOne with ⟨ps, hps, hOne⟩
    rw [hAdmits name ⟨ps, hps, hOne.hasKeywordPast⟩]
    rcases List.forall_mem_cons.mp
      (hAll.taken ps hps name hOne) with ⟨hqsTakes, hTakes⟩
    exact ⟨hTakes, hqsTakes⟩

end JoinOf

end ParamList

end SigCheck

------------------------------------------------------------
-- Joining In One More List
------------------------------------------------------------

namespace SigCheck

namespace ParamList

namespace JoinOf

variable {lists : List (List Parameter)}
variable {join qs : List Parameter} {parts : JoinParts}
variable {index : Nat} {name : String}

theorem slotCount_joins
    {ps : List Parameter}
    (hParts : parts.Joins ps qs) :
    slotCount parts.list = sharedSlots ps qs := by
  rw [slotCount, hParts.isSorted.length_positionalSection_list,
    filled_eq_sharedSlots hParts]

/- The slots that the new join needs. -/
theorem add_needsSlot_iff
    (hDeclared : ∀ ps ∈ qs :: lists, Declarable ps)
    (h : JoinOf lists join)
    (hParts : parts.Joins join qs) :
    NeedsSlot parts.list index ↔
      HasSlot parts.list index ∧
        ∃ ps ∈ qs :: lists, NeedsSlot ps index := by
  rcases List.forall_mem_cons.mp hDeclared with ⟨hqs, hLists⟩
  have hEither :
      (NeedsSlot join index ∨ NeedsSlot qs index) ∧
          HasSlot parts.list index ↔
        HasSlot parts.list index ∧
          ∃ ps ∈ qs :: lists, NeedsSlot ps index := by
    rw [List.exists_mem_cons_iff, and_comm]
    refine and_congr_right fun hHas => ?_
    constructor
    · rintro (hNeeds | hNeeds)
      · exact Or.inr ((h.needsSlot index).mp hNeeds).2
      · exact Or.inl hNeeds
    · rintro (hNeeds | ⟨ps, hps, hNeeds⟩)
      · exact Or.inr hNeeds
      · have hShared :=
          h.admitsPosition_iff.mp
            (hParts.hasSlot_iff.mp hHas).1
        have hJoin : HasSlot join index :=
          h.hasSlot_iff.mpr ⟨hShared, ps, hps, hNeeds.hasSlot⟩
        exact
          Or.inl
            ((h.needsSlot index).mpr ⟨hJoin, ps, hps, hNeeds⟩)
  rw [← hEither, hParts.needsSlot_iff]
  constructor
  · rintro ⟨place, hLe, hHas, hNeeds⟩
    refine
      ⟨hNeeds.imp ?_ ?_, Nat.lt_of_le_of_lt hLe hHas⟩
    · exact fun hNeeds => h.needsSlot_before hLists hNeeds hLe
    · exact fun hNeeds => hNeeds.before hqs hLe
  · rintro ⟨hNeeds, hHas⟩
    exact ⟨index, Nat.le_refl _, hHas, hNeeds⟩

section Kept

variable (hKeeps : KeepsNames (qs :: lists))
variable (hWF : ∀ ps ∈ qs :: lists, WellFormed ps)
variable (hJoinWF : WellFormed join)
variable (h : JoinOf lists join)
variable (hParts : parts.Joins join qs)

include hKeeps hWF h hParts

/-
  Where all lists name the slots from some position on, so
  does the join of all but one of them.
-/
theorem names_of_add
    (hNames : ∀ ps ∈ lists, NamesSlot ps index name)
    (hRest :
      ∀ place, index ≤ place → HasSlot parts.list place →
        ∃ other, ∀ ps ∈ qs :: lists,
          NamesSlot ps place other) :
    NamesSlot join index name := by
  refine (h.namesSlot index name).mpr ⟨hNames, ?_⟩
  intro place hLe hHas
  by_cases hPlace : HasSlot parts.list place
  · rcases hRest place hLe hPlace with ⟨other, hAll⟩
    exact
      ⟨other,
        fun ps hps => hAll ps (List.mem_cons_of_mem _ hps)⟩
  · -- One more list lacks the position, so the others agree
    -- on its name.
    have hPast : sharedSlots join qs ≤ place := by
      rw [← slotCount_joins hParts]
      exact Nat.not_lt.mp hPlace
    rcases (h.hasSlot_iff.mp hHas).2 with ⟨ps, hps, hOwn⟩
    rcases (hNames ps hps).later
      (hWF ps (List.mem_cons_of_mem _ hps)) hLe hOwn with
      ⟨other, hOther⟩
    exact ⟨other, h.names_all hKeeps hps hPast hHas hOther⟩

include hJoinWF

/- The slots that the new join names. -/
theorem add_namesSlot_iff :
    NamesSlot parts.list index name ↔
      (∀ ps ∈ qs :: lists, NamesSlot ps index name) ∧
        ∀ place, index ≤ place → HasSlot parts.list place →
          ∃ other, ∀ ps ∈ qs :: lists,
            NamesSlot ps place other := by
  have hAll {place : Nat} {other : String}
      (hJoin : NamesSlot join place other)
      (hqs : NamesSlot qs place other) :
      ∀ ps ∈ qs :: lists, NamesSlot ps place other :=
    List.forall_mem_cons.mpr
      ⟨hqs, ((h.namesSlot place other).mp hJoin).1⟩
  rw [hParts.namesSlot_iff hJoinWF]
  constructor
  · rintro ⟨⟨hJoin, hqs⟩, hRest⟩
    refine ⟨hAll hJoin hqs, ?_⟩
    intro place hLe hHas
    rcases hRest place hLe hHas with ⟨other, hJoin', hqs'⟩
    exact ⟨other, hAll hJoin' hqs'⟩
  · rintro ⟨hNames, hRest⟩
    rcases List.forall_mem_cons.mp hNames with ⟨hqs, hLists⟩
    refine
      ⟨⟨h.names_of_add hKeeps hWF hParts hLists hRest, hqs⟩,
        ?_⟩
    intro place hLe hHas
    rcases hRest place hLe hHas with ⟨other, hOther⟩
    rcases List.forall_mem_cons.mp hOther with
      ⟨hqs', hLists'⟩
    refine
      ⟨other,
        h.names_of_add hKeeps hWF hParts hLists' ?_, hqs'⟩
    exact fun later hLater =>
      hRest later (Nat.le_trans hLe hLater)

/- The keyword-only names of the new join. -/
theorem add_keywordOnly_iff :
    HasKeywordOnly parts.list name ↔
      (∀ ps ∈ qs :: lists,
          AdmitsKeywordPast (slotCount parts.list) ps name) ∧
        ∃ ps ∈ qs :: lists,
          HasKeywordPast (slotCount parts.list) ps name := by
  have hHas := h.hasKeywordPast_iff name hKeeps hWF
  have hAdmits (hSome) :=
    h.admitsKeywordPast_iff_all name hKeeps hWF
      hJoinWF hSome
  rw [hParts.keywordOnly_iff, slotCount_joins hParts,
    filled_eq_sharedSlots hParts, List.forall_mem_cons]
  constructor
  · rintro ⟨hOne, hJoin, hqs⟩
    have hSome :
        ∃ ps ∈ qs :: lists,
          HasKeywordPast (sharedSlots join qs) ps name := by
      rw [List.exists_mem_cons_iff]
      exact (hOne.imp_left fun hOne => (hHas.mp hOne).2).symm
    exact ⟨⟨hqs, (hAdmits hSome).mp hJoin⟩, hSome⟩
  · rintro ⟨⟨hqs, hAll⟩, hSome⟩
    refine ⟨?_, (hAdmits hSome).mpr hAll, hqs⟩
    rcases (List.exists_mem_cons_iff ..).mp hSome with
      hOne | hOne
    · exact Or.inr hOne
    · exact Or.inl (hHas.mpr ⟨hAll, hOne⟩)

/- The keywords that the new join needs. -/
theorem add_needsKeyword_iff :
    NeedsKeyword parts.list name ↔
      ∃ ps ∈ qs :: lists,
        NeedsKeywordPast (slotCount parts.list) ps name := by
  have hqsWF := hWF qs List.mem_cons_self
  have hAll :
      ReconcilableAll (sharedSlots join qs) (qs :: lists) := by
    rw [← h.reconcilable_iff_all hKeeps hWF hJoinWF,
      ← filled_eq_sharedSlots hParts]
    exact reconcilable_of_joins hJoinWF hqsWF hParts
  have hEither :
      (∃ ps ∈ lists,
          NeedsKeywordPast (sharedSlots join qs) ps name) ∨
          NeedsKeywordPast (sharedSlots join qs) qs name ↔
        ∃ ps ∈ qs :: lists,
          NeedsKeywordPast (sharedSlots join qs) ps name := by
    rw [List.exists_mem_cons_iff, or_comm]
  rw [hParts.needsKeyword_iff,
    h.add_keywordOnly_iff hKeeps hWF hJoinWF hParts,
    slotCount_joins hParts, filled_eq_sharedSlots hParts,
    requires_iff_needsKeywordPast hJoinWF,
    requires_iff_needsKeywordPast hqsWF,
    h.needsKeywordPast_iff name hKeeps hWF, hEither]
  refine and_iff_right_of_imp ?_
  rintro ⟨ps, hps, hNeeds⟩
  exact
    ⟨hAll.taken ps hps name hNeeds, ps, hps,
      hNeeds.hasKeywordPast⟩

end Kept

/- Joining in one more list gives the join of all of them. -/
theorem add
    (hDeclared : ∀ ps ∈ qs :: lists, Declarable ps)
    (hKeeps : KeepsNames (qs :: lists))
    (hJoinWF : WellFormed join)
    (h : JoinOf lists join)
    (hParts : parts.Joins join qs) :
    JoinOf (qs :: lists) parts.list := by
  have hWF (ps : List Parameter) (hps : ps ∈ qs :: lists) :
      WellFormed ps := (hDeclared ps hps).toWellFormed
  constructor
  case hasSlot =>
    rw [slotCount_joins hParts]
    exact h.countsSlots_cons
  case namesSlot =>
    intro index name
    exact h.add_namesSlot_iff hKeeps hWF hJoinWF hParts
  case needsSlot =>
    intro index
    exact h.add_needsSlot_iff hDeclared hParts
  case hasStar =>
    rw [hParts.hasStar_iff, h.hasStar, List.forall_mem_cons,
      and_comm]
  case hasOthers =>
    rw [hParts.hasOthers_iff, h.hasOthers,
      List.forall_mem_cons, and_comm]
  case keywordOnly =>
    intro name
    exact h.add_keywordOnly_iff hKeeps hWF hJoinWF hParts
  case needsKeyword =>
    intro name
    exact h.add_needsKeyword_iff hKeeps hWF hJoinWF hParts
  case fillable =>
    have hLeft := hParts.leftFillable
    rw [filled_eq_sharedSlots hParts,
      h.fillable_iff_all hKeeps hWF hJoinWF] at hLeft
    rw [slotCount_joins hParts]
    refine List.forall_mem_cons.mpr ⟨?_, hLeft⟩
    rw [← filled_eq_sharedSlots hParts]
    exact hParts.rightFillable

end JoinOf

end ParamList

end SigCheck
