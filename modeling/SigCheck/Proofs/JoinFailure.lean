import SigCheck.Proofs.JoinSoundness
import SigCheck.Proofs.SubtypeRules

/-
  When joining two parameter lists of one type fails.

  Joining passes every slot that the two lists share by
  position. It fails exactly if no call does so and satisfies
  both. A call that passes fewer slots by position may still
  satisfy both: then it names by keyword what one list needs
  and the other has among the shared slots.

  Key definitions include:
    * `ParamList.sharedSlots`
    * `ParamList.Reconcilable`
    * `ParamList.neededCall`
    * `Signature.ShareCall`

  Correctness is proven by:
    * `ParamList.exists_joins_iff_reconcilable`
    * `ParamList.exists_accepts_iff_reconcilable`
    * `Signature.commonSupertype_eq_none_iff`
-/

------------------------------------------------------------
-- Shared Slots
------------------------------------------------------------

namespace SigCheck

namespace ParamList

/-
  The number of slots that joining passes by position: as
  many as the shorter section has, or as the longer one has
  if the star parameter of the other takes the rest.
-/
def sharedSlots (ps qs : List Parameter) : Nat :=
  let left := (positionalSection ps).length
  let right := (positionalSection qs).length
  if left ≤ right then
    if (firstOfKind .varPositional ps).isSome then right
    else left
  else
    if (firstOfKind .varPositional qs).isSome then left
    else right

theorem sharedSlots_comm (ps qs : List Parameter) :
    sharedSlots ps qs = sharedSlots qs ps := by
  unfold sharedSlots
  dsimp only
  split_ifs <;> omega

variable {ps qs : List Parameter}

/- A shared slot is one of the list, or its star takes it. -/
theorem sharedSlots_le
    (hStar : firstOfKind .varPositional ps = none) :
    sharedSlots ps qs ≤ (positionalSection ps).length := by
  unfold sharedSlots
  simp only [hStar, Option.isSome_none, Bool.false_eq_true,
    if_false]
  split
  · exact Nat.le_refl _
  · split <;> omega

/- Past the shared slots of one list the other has nothing. -/
theorem length_le_sharedSlots
    (h : sharedSlots ps qs < (positionalSection ps).length) :
    (positionalSection qs).length ≤ sharedSlots ps qs ∧
      firstOfKind .varPositional qs = none := by
  unfold sharedSlots at h ⊢
  simp only at h ⊢
  split at h
  · split at h <;> omega
  · split at h
    · omega
    · rename_i hStar
      rw [Bool.not_eq_true, Option.isSome_eq_false_iff,
        Option.isNone_iff_eq_none] at hStar
      rw [if_neg ‹_›, hStar]
      exact ⟨Nat.le_refl _, rfl⟩

/- Absorbed slots are all of them, or none. -/
theorem length_of_absorb
    {star : Option Parameter}
    {taken : List Parameter × List Parameter}
    (h : LeadMerge.absorb Ty.meet star ps = some taken) :
    taken.1.length =
      if star.isSome then ps.length else 0 := by
  cases star with
  | none =>
      cases h
      rfl
  | some s =>
      rcases LeadMerge.absorb_some_eq_some_iff.mp h with
        ⟨slots, hSlots, rfl⟩
      exact hSlots.length_eq.symm

/- The merged slots of two sections, counted. -/
theorem length_of_ofLists
    {leftStar rightStar : Option Parameter} {m : LeadMerge}
    (h :
      LeadMerge.ofLists Ty.meet leftStar rightStar ps qs =
        some m) :
    m.merged.length =
      if ps.length ≤ qs.length then
        if leftStar.isSome then qs.length else ps.length
      else
        if rightStar.isSome then ps.length
        else qs.length := by
  induction ps, qs, m, h using LeadMerge.ofLists_induction with
  | left qs taken hTaken =>
      simpa using length_of_absorb hTaken
  | right p ps taken hTaken =>
      simpa using length_of_absorb hTaken
  | cons p ps q qs slot rest _ _ hLength =>
      simp only [LeadMerge.cons, List.length_cons,
        Nat.add_le_add_iff_right, hLength]
      split <;> split <;> rfl

/- Joining merges the shared slots. -/
theorem filled_eq_sharedSlots
    {parts : JoinParts}
    (h : parts.Joins ps qs) :
    parts.filled = sharedSlots ps qs :=
  length_of_ofLists h.lead

end ParamList

end SigCheck

------------------------------------------------------------
-- Reconcilable Lists
------------------------------------------------------------

namespace SigCheck

namespace ParamList

/-
  With so many slots passed by position, each list can still
  be satisfied: what it needs past them has a name, and both
  lists take a keyword of that name.
-/
structure Reconcilable
    (count : Nat)
    (ps qs : List Parameter) : Prop where
  leftFillable : Fillable count ps
  rightFillable : Fillable count qs
  taken :
    ∀ name,
      (keywordSide count ps).requires name = true ∨
          (keywordSide count qs).requires name = true →
        (∃ ty,
          (keywordSide count ps).accepts? count name =
            some ty) ∧
          ∃ ty,
            (keywordSide count qs).accepts? count name =
              some ty

variable {count : Nat} {ps qs : List Parameter}

/- Joined lists are reconcilable at the merged slots. -/
theorem reconcilable_of_joins
    (hps : WellFormed ps)
    (hqs : WellFormed qs)
    {parts : JoinParts}
    (h : parts.Joins ps qs) :
    Reconcilable parts.filled ps qs := by
  refine ⟨h.leftFillable, h.rightFillable, ?_⟩
  intro name hName
  rcases h.kept_of_requires hps hqs hName with
    ⟨p, hp, hpName⟩
  rcases h.keywordFits hp with
    ⟨own, hOwn, hLeft, hRight⟩
  cases hOwn.symm.trans hpName
  rcases hLeft.ty with ⟨a, ha, -⟩
  rcases hRight.ty with ⟨b, hb, -⟩
  exact ⟨⟨a, ha⟩, ⟨b, hb⟩⟩

end ParamList

end SigCheck

------------------------------------------------------------
-- Lists of One Type
------------------------------------------------------------

namespace SigCheck

namespace ParamList

/- All parameters of the list have the type. -/
def OfType (ty : Ty) (ps : List Parameter) : Prop :=
  ∀ p ∈ ps, p.ty = ty

variable {ty : Ty} {ps qs : List Parameter}

/- A type is its own meet. -/
theorem meet_self (ty : Ty) : ty.meet ty = some ty :=
  Ty.narrows_refl ty

/- Absorbing slots of the type of the star succeeds. -/
theorem exists_absorb
    {star : Option Parameter}
    (hps : OfType ty ps)
    (hStar : OfType ty star.toList) :
    ∃ taken,
      LeadMerge.absorb Ty.meet star ps = some taken := by
  cases star with
  | none => exact ⟨_, rfl⟩
  | some s =>
      have hSlot :
          ∀ p ∈ ps, ∃ slot,
            p.absorbBy Ty.meet s = some slot := by
        intro p hp
        rw [Parameter.absorbBy, hps p hp,
          hStar s (by simp), meet_self]
        exact ⟨_, rfl⟩
      rcases exists_forall₂_of_forall_mem hSlot with
        ⟨slots, hSlots⟩
      rw [LeadMerge.absorb,
        mapM_eq_some_iff_forall₂.mpr hSlots]
      exact ⟨_, rfl⟩

/- Merging sections of one type succeeds. -/
theorem exists_ofLists
    {leftStar rightStar : Option Parameter}
    (hps : OfType ty ps)
    (hqs : OfType ty qs)
    (hLeft : OfType ty leftStar.toList)
    (hRight : OfType ty rightStar.toList) :
    ∃ m,
      LeadMerge.ofLists Ty.meet leftStar rightStar ps qs =
        some m := by
  induction ps generalizing qs with
  | nil =>
      rcases exists_absorb hqs hLeft with ⟨taken, hTaken⟩
      rw [LeadMerge.ofLists, hTaken]
      exact ⟨_, rfl⟩
  | cons p ps ih =>
      cases qs with
      | nil =>
          rcases exists_absorb hps hRight with
            ⟨taken, hTaken⟩
          rw [LeadMerge.ofLists, hTaken]
          exacts [⟨_, rfl⟩, by simp]
      | cons q qs =>
          rcases List.forall_mem_cons.mp hps with ⟨hp, hps⟩
          rcases List.forall_mem_cons.mp hqs with ⟨hq, hqs⟩
          rcases ih hps hqs with ⟨m, hMerge⟩
          rw [LeadMerge.ofLists, hMerge, Parameter.mergeBy,
            hp, hq, meet_self]
          exact ⟨_, rfl⟩

/- So does joining variadic parameters of one type. -/
theorem exists_variadicBy
    {p q : Option Parameter}
    (hp : OfType ty p.toList)
    (hq : OfType ty q.toList) :
    ∃ v : Option Parameter,
      variadicBy Ty.meet p q = some v.toList := by
  cases p with
  | none => exact ⟨none, rfl⟩
  | some p =>
      cases q with
      | none => exact ⟨none, rfl⟩
      | some q =>
          rw [variadicBy, hp p (by simp), hq q (by simp),
            meet_self]
          exact ⟨some _, rfl⟩

section Sides

variable {count : Nat}

/- Keyword-reachable parameters have the type of the list. -/
theorem eq_of_accepts?
    (hWF : WellFormed ps)
    (hps : OfType ty ps)
    {name : String} {own : Ty}
    (h :
      (keywordSide count ps).accepts? count name =
        some own) : own = ty := by
  rcases hWF.accepts?_eq_some_iff.mp h with
    ⟨p, hPast, -, rfl⟩ | ⟨-, p, hp, rfl⟩
  · exact hps p (isKeyword_of_mem_keywordsPast hPast).1
  · exact hps p (List.mem_of_find?_eq_some hp)

/- Merging keywords of one type succeeds if both take them. -/
theorem exists_keywordSlotBy
    (hpsWF : WellFormed ps)
    (hqsWF : WellFormed qs)
    (hps : OfType ty ps)
    (hqs : OfType ty qs)
    (h : Reconcilable count ps qs)
    (name : String) :
    ∃ slot,
      keywordSlotBy Ty.meet count (keywordSide count ps)
          (keywordSide count qs) name =
        some slot := by
  have hOptional :
      ((keywordSide count ps).accepts? count name = none ∨
          (keywordSide count qs).accepts? count name =
            none) →
        (keywordSide count ps).requires name = false ∧
          (keywordSide count qs).requires name = false := by
    intro hNone
    simp only [← Bool.not_eq_true, ← not_or]
    intro hRequires
    rcases h.taken name hRequires with ⟨⟨a, ha⟩, ⟨b, hb⟩⟩
    rcases hNone with hNone | hNone
    · cases hNone.symm.trans ha
    · cases hNone.symm.trans hb
  unfold keywordSlotBy
  cases hLeft :
      (keywordSide count ps).accepts? count name with
  | none =>
      rcases hOptional (Or.inl hLeft) with ⟨hl, hr⟩
      exact ⟨none, by simp [hl, hr]⟩
  | some a =>
      cases hRight :
          (keywordSide count qs).accepts? count name with
      | none =>
          rcases hOptional (Or.inr hRight) with ⟨hl, hr⟩
          exact ⟨none, by simp [hl, hr]⟩
      | some b =>
          simp only [eq_of_accepts? hpsWF hps hLeft,
            eq_of_accepts? hqsWF hqs hRight, meet_self,
            Option.map_some]
          exact ⟨some _, rfl⟩

end Sides

/-
  Lists of one type have a join exactly if they are
  reconcilable at the shared slots.
-/
theorem exists_joins_iff_reconcilable
    (hpsWF : WellFormed ps)
    (hqsWF : WellFormed qs)
    (hps : OfType ty ps)
    (hqs : OfType ty qs) :
    (∃ parts : JoinParts, parts.Joins ps qs) ↔
      Reconcilable (sharedSlots ps qs) ps qs := by
  constructor
  · rintro ⟨parts, h⟩
    rw [← filled_eq_sharedSlots h]
    exact reconcilable_of_joins hpsWF hqsWF h
  · intro h
    have hFirst (kind : ParamKind) {xs : List Parameter}
        (hxs : OfType ty xs) :
        OfType ty (firstOfKind kind xs).toList :=
      fun p hp => hxs p (toList_firstOfKind_subset kind xs hp)
    have hSection {xs : List Parameter}
        (hxs : OfType ty xs) :
        OfType ty (positionalSection xs) :=
      fun p hp => hxs p (List.mem_of_mem_filter hp)
    rcases exists_ofLists (hSection hps) (hSection hqs)
      (hFirst .varPositional hps)
      (hFirst .varPositional hqs) with
      ⟨lead, hLead⟩
    have hFilled : lead.merged.length = sharedSlots ps qs :=
      length_of_ofLists hLead
    rw [← hFilled] at h
    rcases exists_variadicBy (hFirst .varPositional hps)
      (hFirst .varPositional hqs) with
      ⟨star, hStar⟩
    rcases exists_variadicBy (hFirst .varKeyword hps)
      (hFirst .varKeyword hqs) with
      ⟨others, hOthers⟩
    have hSlot :
        ∀ name ∈
          keywordNames
            (keywordSide lead.merged.length ps)
            (keywordSide lead.merged.length qs),
          ∃ slot,
            keywordSlotBy Ty.meet lead.merged.length
                (keywordSide lead.merged.length ps)
                (keywordSide lead.merged.length qs) name =
              some slot :=
      fun name _ =>
        exists_keywordSlotBy hpsWF hqsWF hps hqs h name
    rcases exists_forall₂_of_forall_mem hSlot with
      ⟨named, hNamed⟩
    exact
      ⟨⟨lead, star, named, others⟩, hLead, hStar,
        h.leftFillable, h.rightFillable, hNamed, hOthers⟩

end ParamList

end SigCheck

------------------------------------------------------------
-- Shared Calls
------------------------------------------------------------

namespace SigCheck

namespace ParamList

variable {ps qs : List Parameter} {args : CallArgs}

section Accepted

variable {count : Nat}
variable (hAccepts : Accepts ps args)
variable
    (hLeast :
      ∀ (index : Nat) (p : Parameter),
        (positionalSection ps)[index]? = some p →
          count ≤ index → args.positional.length ≤ index)

include hAccepts hLeast

/-
  A call that fills no slot past the first ones leaves only
  slots to fill that have a name.
-/
theorem Accepts.fillable : Fillable count ps := by
  refine fillable_iff.mpr ?_
  intro index p hIndex hLe hRequired
  have hPast := hLeast index p hIndex hLe
  exact (hAccepts.positional index p hIndex hPast hRequired).1

/- Such a call gives every keyword that the list needs. -/
theorem Accepts.exists_required
    (hWF : WellFormed ps)
    {name : String}
    (hRequires : (keywordSide count ps).requires name = true) :
    ∃ keyword ∈ args.keywords, keyword.1 = name := by
  rcases hWF.requires_iff.mp hRequires with
    ⟨p, hPast, hName, hRequired⟩
  have hGiven :
      ∃ keyword ∈ args.keywords, p.name = some keyword.1 := by
    rcases mem_keywordsPast_iff.mp hPast with
      ⟨index, hLe, hIndex, -⟩ | ⟨hp, hKind⟩
    · exact
        (hAccepts.positional index p hIndex
          (hLeast index p hIndex hLe) hRequired).2
    · exact hAccepts.keywordOnly p hp hKind hRequired
  rcases hGiven with ⟨keyword, hKeyword, hSame⟩
  exact
    ⟨keyword, hKeyword,
      Option.some.inj (hSame.symm.trans hName)⟩

omit hLeast in
/- The list takes each keyword past the filled slots. -/
theorem Accepts.exists_accepts?
    (hWF : WellFormed ps)
    (hCount : count ≤ args.positional.length)
    {keyword : String × Ty}
    (hKeyword : keyword ∈ args.keywords) :
    ∃ ty,
      (keywordSide count ps).accepts? count keyword.1 =
        some ty := by
  by_cases hHas : HasKeyword ps keyword.1
  · rcases (hasKeyword_iff count).mp hHas with
      hConsumed | ⟨p, hPast, hName⟩
    · rcases isConsumed_iff.mp hConsumed with
        ⟨index, p, hLt, hIndex, hKind, hName⟩
      exact
        absurd hName
          (hAccepts.unfilled index p hIndex
            (Nat.lt_of_lt_of_le hLt hCount) hKind keyword
            hKeyword)
    · exact
        ⟨p.ty, hWF.accepts?_eq_some_iff.mpr
          (Or.inl ⟨p, hPast, hName, rfl⟩)⟩
  · have hSome := hAccepts.isSome_keyword hKeyword
    rw [receiver?, keywordParam?_eq_none_iff.mpr hHas,
      Option.none_or] at hSome
    rcases Option.isSome_iff_exists.mp hSome with ⟨p, hp⟩
    exact
      ⟨p.ty, hWF.accepts?_eq_some_iff.mpr
        (Or.inr ⟨hHas, p, hp, rfl⟩)⟩

end Accepted

/-
  Positions past the shared slots reach no slot: the other
  list would refuse them.
-/
theorem length_le_of_accepts
    (hqs : Accepts qs args)
    {index : Nat} {p : Parameter}
    (hIndex : (positionalSection ps)[index]? = some p)
    (hPast :
      min args.positional.length (sharedSlots ps qs) ≤
        index) :
    args.positional.length ≤ index := by
  by_contra hFilled
  have hLt := (List.getElem?_eq_some_iff.mp hIndex).1
  rcases length_le_sharedSlots
    (show sharedSlots ps qs < _ by omega) with
    ⟨hShort, hStar⟩
  have hSome :=
    hqs.isSome_positional
      (show sharedSlots ps qs < _ by omega)
  rw [receiver?, hStar, Option.or_none,
    List.getElem?_eq_none hShort] at hSome
  cases hSome

/-
  Lists that accept one call are reconcilable at the shared
  slots that it passes by position.
-/
theorem reconcilable_of_accepts
    (hpsWF : WellFormed ps)
    (hqsWF : WellFormed qs)
    (hps : Accepts ps args)
    (hqs : Accepts qs args) :
    Reconcilable
      (min args.positional.length (sharedSlots ps qs))
      ps qs := by
  have hLeft :
      ∀ (index : Nat) (p : Parameter),
        (positionalSection ps)[index]? = some p →
          min args.positional.length (sharedSlots ps qs) ≤
              index →
            args.positional.length ≤ index :=
    fun _ _ => length_le_of_accepts hqs
  have hRight :
      ∀ (index : Nat) (p : Parameter),
        (positionalSection qs)[index]? = some p →
          min args.positional.length (sharedSlots ps qs) ≤
              index →
            args.positional.length ≤ index := by
    rw [sharedSlots_comm]
    exact fun _ _ => length_le_of_accepts hps
  refine
    ⟨hps.fillable hLeft, hqs.fillable hRight,
      fun name hName => ?_⟩
  have hGiven :
      ∃ keyword ∈ args.keywords, keyword.1 = name :=
    hName.elim (hps.exists_required hLeft hpsWF)
      (hqs.exists_required hRight hqsWF)
  rcases hGiven with ⟨keyword, hKeyword, rfl⟩
  exact
    ⟨hps.exists_accepts? hpsWF (Nat.min_le_left ..) hKeyword,
      hqs.exists_accepts? hqsWF (Nat.min_le_left ..)
        hKeyword⟩

/- The keywords that one of the lists needs past the slots. -/
def neededNames
    (count : Nat)
    (ps qs : List Parameter) : List String :=
  let left := keywordSide count ps
  let right := keywordSide count qs
  (keywordNames left right).filter fun name =>
    left.requires name || right.requires name

/- The call that passes so many slots and what is needed. -/
def neededCall
    (count : Nat)
    (ps qs : List Parameter) : CallArgs where
  positional := List.replicate count .any
  keywords :=
    (neededNames count ps qs).map fun name => (name, .any)

variable {count : Nat}

theorem neededCall_isPlain :
    (neededCall count ps qs).IsPlain :=
  ⟨rfl, rfl⟩

@[simp]
theorem length_neededCall_positional :
    (neededCall count ps qs).positional.length = count := by
  simp [neededCall]

/- The needed names are those that a list requires. -/
theorem mem_neededNames_iff
    (hpsWF : WellFormed ps)
    (hqsWF : WellFormed qs)
    {name : String} :
    name ∈ neededNames count ps qs ↔
      (keywordSide count ps).requires name = true ∨
        (keywordSide count qs).requires name = true := by
  unfold neededNames
  rw [List.mem_filter, Bool.or_eq_true,
    and_iff_right_iff_imp, mem_keywordNames_iff]
  apply Or.imp
  · intro hRequires
    rcases hpsWF.requires_iff.mp hRequires with
      ⟨p, hPast, hName, -⟩
    exact ⟨p, hPast, hName⟩
  · intro hRequires
    rcases hqsWF.requires_iff.mp hRequires with
      ⟨p, hPast, hName, -⟩
    exact ⟨p, hPast, hName⟩

/- No keyword of the needed call is repeated. -/
theorem nodup_neededNames : (neededNames count ps qs).Nodup :=
  (nodup_eraseDups _).filter _

/- Each keyword of the needed call is a needed name. -/
theorem mem_neededCall_keywords
    {keyword : String × Ty}
    (h : keyword ∈ (neededCall count ps qs).keywords) :
    keyword.1 ∈ neededNames count ps qs := by
  rcases List.mem_map.mp h with ⟨name, hName, rfl⟩
  exact hName

/- Each needed name is a keyword of the needed call. -/
theorem exists_neededCall_keyword
    {name : String}
    (h : name ∈ neededNames count ps qs) :
    ∃ keyword ∈ (neededCall count ps qs).keywords,
      keyword.1 = name :=
  ⟨(name, .any), List.mem_map_of_mem h, rfl⟩

/- Keywords that a list takes go to one of its parameters. -/
theorem isSome_receiver?_of_accepts?
    (hWF : WellFormed ps)
    {name : String} {ty : Ty}
    (h :
      (keywordSide count ps).accepts? count name = some ty) :
    (receiver? ps (.keyword name)).isSome = true := by
  rw [receiver?, Option.isSome_or, Bool.or_eq_true]
  rcases hWF.accepts?_eq_some_iff.mp h with
    ⟨p, hPast, hName, -⟩ | ⟨-, p, hp, -⟩
  · rcases isKeyword_of_mem_keywordsPast hPast with
      ⟨hp, hKey⟩
    rw [hWF.keywordParam?_eq_some_iff.mpr ⟨hp, hKey, hName⟩]
    exact Or.inl rfl
  · rw [hp]
    exact Or.inr rfl

/- Shared slots take as many arguments by position. -/
theorem isSome_receiver?_of_lt_sharedSlots
    {index : Nat}
    (h : index < sharedSlots ps qs) :
    (receiver? ps (.positional index)).isSome = true := by
  rw [receiver?, Option.isSome_or, Bool.or_eq_true]
  cases hStar : firstOfKind .varPositional ps with
  | some star => exact Or.inr rfl
  | none =>
      have hLt :=
        Nat.lt_of_lt_of_le h (sharedSlots_le hStar)
      rw [List.getElem?_eq_getElem hLt]
      exact Or.inl rfl

/-
  A list accepts a call whose positions all have a receiver,
  whose keywords differ and are taken past the filled slots,
  and that leaves out nothing it needs.
-/
theorem accepts_of_taken
    (hWF : WellFormed ps)
    (hLength : args.positional.length = count)
    (hFillable : Fillable count ps)
    (hReceived :
      ∀ index < count,
        (receiver? ps (.positional index)).isSome = true)
    (hApart :
      args.keywords.Pairwise fun k l => k.1 ≠ l.1)
    (hTaken :
      ∀ keyword ∈ args.keywords, ∃ ty,
        (keywordSide count ps).accepts? count keyword.1 =
          some ty)
    (hGiven :
      ∀ name, (keywordSide count ps).requires name = true →
        ∃ keyword ∈ args.keywords, keyword.1 = name) :
    Accepts ps args := by
  subst hLength
  have hSupplied :
      ∀ p ∈ keywordsPast args.positional.length ps,
        p.isRequired = true →
          ∃ keyword ∈ args.keywords,
            p.name = some keyword.1 := by
    intro p hPast hRequired
    rcases isKeyword_of_mem_keywordsPast hPast with
      ⟨hp, hKey⟩
    rcases hWF.exists_name hp hKey with ⟨name, hName⟩
    rcases hGiven name (hWF.requires_iff.mpr
      ⟨p, hPast, hName, hRequired⟩) with
      ⟨keyword, hKeyword, rfl⟩
    exact ⟨keyword, hKeyword, hName⟩
  constructor
  case received =>
    refine received_iff.mpr ⟨hReceived, ?_⟩
    intro keyword hKeyword
    rcases hTaken keyword hKeyword with ⟨ty, hTy⟩
    exact isSome_receiver?_of_accepts? hWF hTy
  case apart =>
    exact hApart.imp fun hNe hSame => absurd hSame hNe
  case unfilled =>
    intro index p hIndex hLt hKind keyword hKeyword hName
    have hConsumed :=
      isConsumed_iff.mpr
        ⟨index, p, hLt, hIndex, hKind, hName⟩
    rcases hTaken keyword hKeyword with ⟨ty, hTy⟩
    rcases hWF.accepts?_eq_some_iff.mp hTy with
      ⟨q, hPast, hqName, -⟩ | ⟨hNot, -⟩
    · rw [hWF.isConsumed_eq_false hPast hqName] at hConsumed
      cases hConsumed
    · exact hNot ((hasKeyword_iff _).mpr (Or.inl hConsumed))
  case positional =>
    intro index p hIndex hPast hRequired
    have hKind :=
      fillable_iff.mp hFillable index p hIndex hPast hRequired
    exact
      ⟨hKind, hSupplied p
        (mem_keywordsPast_iff.mpr
          (Or.inl ⟨index, hPast, hIndex, hKind⟩))
        hRequired⟩
  case keywordOnly =>
    intro p hp hKind hRequired
    exact
      hSupplied p
        (mem_keywordsPast_iff.mpr (Or.inr ⟨hp, hKind⟩))
        hRequired

/-
  A list accepts the needed call of two lists if it takes
  the needed names and they are all that it needs.
-/
theorem accepts_neededCall
    {ls rs : List Parameter}
    (hWF : WellFormed ps)
    (hFillable : Fillable count ps)
    (hCount : count ≤ sharedSlots ps qs)
    (hTaken :
      ∀ name ∈ neededNames count ls rs, ∃ ty,
        (keywordSide count ps).accepts? count name =
          some ty)
    (hGiven :
      ∀ name, (keywordSide count ps).requires name = true →
        name ∈ neededNames count ls rs) :
    Accepts ps (neededCall count ls rs) := by
  refine
    accepts_of_taken hWF length_neededCall_positional
      hFillable ?_ (List.pairwise_map.mpr nodup_neededNames)
      ?_ ?_
  · intro index hIndex
    exact
      isSome_receiver?_of_lt_sharedSlots
        (Nat.lt_of_lt_of_le hIndex hCount)
  · intro keyword hKeyword
    exact hTaken keyword.1 (mem_neededCall_keywords hKeyword)
  · intro name hName
    exact exists_neededCall_keyword (hGiven name hName)

/-
  Lists that are reconcilable at some of the shared slots
  both accept what the two need past them.
-/
theorem Reconcilable.accepts_neededCall
    (hpsWF : WellFormed ps)
    (hqsWF : WellFormed qs)
    (hCount : count ≤ sharedSlots ps qs)
    (h : Reconcilable count ps qs) :
    Accepts ps (neededCall count ps qs) ∧
      Accepts qs (neededCall count ps qs) := by
  have hNeeded {name : String} :
      name ∈ neededNames count ps qs ↔
        (keywordSide count ps).requires name = true ∨
          (keywordSide count qs).requires name = true :=
    mem_neededNames_iff hpsWF hqsWF
  have hCount' : count ≤ sharedSlots qs ps := by
    rwa [sharedSlots_comm]
  constructor
  · exact
      ParamList.accepts_neededCall hpsWF h.leftFillable
        hCount
        (fun name hName =>
          (h.taken name (hNeeded.mp hName)).1)
        (fun name hName => hNeeded.mpr (Or.inl hName))
  · exact
      ParamList.accepts_neededCall hqsWF h.rightFillable
        hCount'
        (fun name hName =>
          (h.taken name (hNeeded.mp hName)).2)
        (fun name hName => hNeeded.mpr (Or.inr hName))

/-
  Two lists accept a call in common that passes so many
  slots exactly if they are reconcilable at as many.
-/
theorem exists_accepts_iff_reconcilable
    (hpsWF : WellFormed ps)
    (hqsWF : WellFormed qs)
    {least : Nat}
    (hLeast : least ≤ sharedSlots ps qs) :
    (∃ args : CallArgs, args.IsPlain ∧
      least ≤ args.positional.length ∧
        Accepts ps args ∧ Accepts qs args) ↔
      ∃ count, least ≤ count ∧
        count ≤ sharedSlots ps qs ∧
          Reconcilable count ps qs := by
  constructor
  · rintro ⟨args, -, hPassed, hps, hqs⟩
    exact
      ⟨_, Nat.le_min.mpr ⟨hPassed, hLeast⟩,
        Nat.min_le_right ..,
        reconcilable_of_accepts hpsWF hqsWF hps hqs⟩
  · rintro ⟨count, hPassed, hCount, h⟩
    exact
      ⟨neededCall count ps qs, neededCall_isPlain,
        by rwa [length_neededCall_positional],
        h.accepts_neededCall hpsWF hqsWF hCount⟩

end ParamList

end SigCheck

------------------------------------------------------------
-- Failure
------------------------------------------------------------

namespace SigCheck

namespace Signature

open ParamList

/-
  Some call without unpackings that passes at least so many
  arguments by position binds to both signatures.
-/
def ShareCall
    (least : Nat)
    (s t : Signature) : Prop :=
  ∃ args : CallArgs, args.IsPlain ∧
    least ≤ args.positional.length ∧
      (∃ bound, s.bind args = .ok bound) ∧
        ∃ bound, t.bind args = .ok bound

variable {ty : Ty} {ps qs : List Parameter}

/- Shared calls are those of reconcilable lists. -/
theorem shareCall_iff_reconcilable
    (hpsWF : WellFormed ps)
    (hqsWF : WellFormed qs)
    {least : Nat}
    (hLeast : least ≤ sharedSlots ps qs) :
    ShareCall least (params ps) (params qs) ↔
      ∃ count, least ≤ count ∧
        count ≤ sharedSlots ps qs ∧
          Reconcilable count ps qs := by
  rw [← exists_accepts_iff_reconcilable hpsWF hqsWF hLeast]
  refine exists_congr fun args => ?_
  refine and_congr_right fun hPlain => and_congr_right' ?_
  exact
    and_congr (exists_bound_iff_accepts hpsWF hPlain)
      (exists_bound_iff_accepts hqsWF hPlain)

/- Two lists have no common supertype if they have no join. -/
theorem commonSupertype_params_eq_none_iff :
    (params ps).commonSupertype (params qs) = none ↔
      ¬ ∃ parts : JoinParts, parts.Joins ps qs := by
  have hParams :
      (params ps).commonSupertype (params qs) = none ↔
        commonParamsBy Ty.meet ps qs = none := by
    simp [commonSupertype, commonBy]
  rw [hParams, Option.eq_none_iff_forall_not_mem]
  constructor
  · rintro hNone ⟨parts, h⟩
    exact
      hNone parts.list
        (commonParamsBy_eq_some_iff.mpr ⟨parts, h, rfl⟩)
  · rintro hNone join hJoin
    rcases commonParamsBy_eq_some_iff.mp hJoin with
      ⟨parts, h, -⟩
    exact hNone ⟨parts, h⟩

/-
  Joining two lists of one type fails exactly if no call
  that passes all shared slots by position satisfies both.
  Then they still have a call in common exactly if they are
  reconcilable at fewer slots.
-/
theorem commonSupertype_eq_none_iff
    (hpsWF : WellFormed ps)
    (hqsWF : WellFormed qs)
    (hps : OfType ty ps)
    (hqs : OfType ty qs) :
    ((params ps).commonSupertype (params qs) = none ↔
      ¬ ShareCall (sharedSlots ps qs) (params ps)
        (params qs)) ∧
      ((params ps).commonSupertype (params qs) = none →
        (ShareCall 0 (params ps) (params qs) ↔
          ∃ count < sharedSlots ps qs,
            Reconcilable count ps qs)) := by
  have hNone :
      (params ps).commonSupertype (params qs) = none ↔
        ¬ Reconcilable (sharedSlots ps qs) ps qs := by
    rw [commonSupertype_params_eq_none_iff,
      exists_joins_iff_reconcilable hpsWF hqsWF hps hqs]
  constructor
  · rw [hNone,
      shareCall_iff_reconcilable hpsWF hqsWF
        (Nat.le_refl _)]
    refine not_congr ⟨fun h => ⟨_, ?_, ?_, h⟩, ?_⟩
    · exact Nat.le_refl _
    · exact Nat.le_refl _
    · rintro ⟨count, hLe, hGe, h⟩
      cases Nat.le_antisymm hLe hGe
      exact h
  · intro hFails
    rw [shareCall_iff_reconcilable hpsWF hqsWF
      (Nat.zero_le _)]
    constructor
    · rintro ⟨count, -, hCount, h⟩
      refine ⟨count, Nat.lt_of_le_of_ne hCount ?_, h⟩
      rintro rfl
      exact hNone.mp hFails h
    · rintro ⟨count, hCount, h⟩
      exact ⟨count, Nat.zero_le _, Nat.le_of_lt hCount, h⟩

/- Two keyword-only names leave no shared slot to give up. -/
theorem commonSupertype_eq_none_iff_keywords :
    let ps : List Parameter :=
      [⟨some "x", .keywordOnly, .int, false⟩]
    let qs : List Parameter :=
      [⟨some "y", .keywordOnly, .int, false⟩]
    WellFormed ps ∧ WellFormed qs ∧
      OfType .int ps ∧ OfType .int qs ∧
      (params ps).commonSupertype (params qs) = none ∧
      ¬ ShareCall 0 (params ps) (params qs) := by
  intro ps qs
  have hpsWF : WellFormed ps := by decide
  have hqsWF : WellFormed qs := by decide
  have hps : OfType .int ps := by simp [OfType, ps]
  have hqs : OfType .int qs := by simp [OfType, qs]
  have hFails :
      (params ps).commonSupertype (params qs) = none := rfl
  have hShared :=
    (commonSupertype_eq_none_iff hpsWF hqsWF hps hqs).2
      hFails
  refine ⟨hpsWF, hqsWF, hps, hqs, hFails, fun hCall => ?_⟩
  rcases hShared.mp hCall with ⟨count, hCount, -⟩
  exact absurd hCount (Nat.not_lt_zero count)

/-
  Each list takes the other's slot by keyword, so they have
  a call in common that gives both names, but the join
  passes the two slots by position and has no `x` left.
-/
theorem commonSupertype_none_with_shared_call :
    let ps : List Parameter :=
      [⟨some "x", .positionalOrKeyword, .int, false⟩,
        ⟨some "kwargs", .varKeyword, .int, false⟩]
    let qs : List Parameter :=
      [⟨some "y", .positionalOrKeyword, .int, false⟩,
        ⟨some "x", .keywordOnly, .int, false⟩]
    let args : CallArgs :=
      { keywords := [("x", .int), ("y", .int)] }
    Declarable ps ∧ Declarable qs ∧
      OfType .int ps ∧ OfType .int qs ∧
      (params ps).commonSupertype (params qs) = none ∧
      args.IsPlain ∧
      (∃ bound, (params ps).bind args = .ok bound) ∧
      ∃ bound, (params qs).bind args = .ok bound := by
  intro ps qs args
  refine
    ⟨by decide, by decide, ?_, ?_, rfl, ⟨rfl, rfl⟩,
      ⟨_, rfl⟩, ⟨_, rfl⟩⟩
  · simp [OfType, ps]
  · simp [OfType, qs]

end Signature

end SigCheck
