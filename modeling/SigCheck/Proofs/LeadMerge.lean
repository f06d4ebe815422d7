import SigCheck.Proofs.Meet
import SigCheck.Proofs.ParamList

/-
  What merging two positional sections means for each of the
  two.

  A merged slot fits the slot of a side at its index, or the
  star parameter of that side once its slots run out; what
  the other side cannot take is left over. Normalizing the
  merged slots only weakens them.

  Key definitions include:
    * `SlotFits`, `StarFits`
    * `LeadFits`
    * `IsMergedSlot`
    * `Weakens`

  Main statements:
    * `LeadMerge.ofLists_fits`
    * `normalizeLead_weakens`, `normalizeLead_idem`
    * `LeadFits.ofLists_self`
-/

------------------------------------------------------------
-- Fitting Slots
------------------------------------------------------------

namespace SigCheck

/-
  What a caller may give a merged slot, the slot of one side
  takes: it is optional and named wherever the merged slot
  is.
-/
structure SlotFits (slot p : Parameter) : Prop where
  ty : Ty.Narrows slot.ty p.ty
  optional : slot.hasDefault = true → p.hasDefault = true
  named :
    slot.kind = .positionalOrKeyword →
      p.kind = .positionalOrKeyword ∧ p.name = slot.name

theorem SlotFits.refl (p : Parameter) : SlotFits p p :=
  ⟨Ty.narrows_refl p.ty, id, fun h => ⟨h, rfl⟩⟩

/- A merged slot that the star parameter of a side takes. -/
structure StarFits (slot star : Parameter) : Prop where
  ty : Ty.Narrows slot.ty star.ty
  kind : slot.kind = .positionalOnly

/- A merged slot is named, or positional-only without name. -/
def IsMergedSlot (slot : Parameter) : Prop :=
  slot.kind = .positionalOrKeyword ∨
    slot.kind = .positionalOnly ∧ slot.name = none

/-
  Merged slots against the slots and the star parameter of
  one side, with the slots of that side that are left over.
  None is left over where positions overflow.
-/
inductive LeadFits
    (star : Option Parameter)
    (overflow : Prop) :
    List Parameter → List Parameter → List Parameter → Prop
  | merge
      {p slot : Parameter}
      {slots rest merged : List Parameter} :
      SlotFits slot p →
        LeadFits star overflow slots rest merged →
          LeadFits star overflow (p :: slots) rest
            (slot :: merged)
  | absorb
      {s slot : Parameter}
      {merged : List Parameter} :
      star = some s → StarFits slot s →
        LeadFits star overflow [] [] merged →
          LeadFits star overflow [] [] (slot :: merged)
  | stop
      {rest : List Parameter} :
      (overflow → rest = []) →
        LeadFits star overflow rest rest []

end SigCheck

------------------------------------------------------------
-- Merging
------------------------------------------------------------

namespace SigCheck

variable {p q slot : Parameter}

/- A merged slot fits both of its sides. -/
theorem mergeBy_fits
    (h : p.mergeBy Ty.meet q = some slot) :
    SlotFits slot p ∧ SlotFits slot q ∧
      IsMergedSlot slot := by
  rcases Option.map_eq_some_iff.mp h with ⟨ty, hMeet, hSlot⟩
  have hTy := Ty.narrows_of_meet hMeet
  split at hSlot
  · rename_i hSame
    simp only [Bool.and_eq_true, beq_iff_eq] at hSame
    subst hSlot
    refine ⟨⟨hTy.1, ?_, ?_⟩, ⟨hTy.2, ?_, ?_⟩, Or.inl rfl⟩
    · exact fun hBoth => (Bool.and_eq_true_iff.mp hBoth).1
    · exact fun _ => ⟨hSame.1.1, rfl⟩
    · exact fun hBoth => (Bool.and_eq_true_iff.mp hBoth).2
    · exact fun _ => ⟨hSame.1.2, hSame.2.symm⟩
  · subst hSlot
    refine
      ⟨⟨hTy.1, ?_, nofun⟩, ⟨hTy.2, ?_, nofun⟩,
        Or.inr ⟨rfl, rfl⟩⟩
    · exact fun hBoth => (Bool.and_eq_true_iff.mp hBoth).1
    · exact fun hBoth => (Bool.and_eq_true_iff.mp hBoth).2

/- A slot that a star parameter takes fits both sides. -/
theorem absorbBy_fits
    {star : Parameter}
    (h : p.absorbBy Ty.meet star = some slot) :
    SlotFits slot p ∧ StarFits slot star ∧
      IsMergedSlot slot := by
  rcases Option.map_eq_some_iff.mp h with ⟨ty, hMeet, rfl⟩
  have hTy := Ty.narrows_of_meet hMeet
  exact
    ⟨⟨hTy.1, id, nofun⟩, ⟨hTy.2, rfl⟩, Or.inr ⟨rfl, rfl⟩⟩

variable {ps qs slots rest : List Parameter}
variable {meet : Ty → Ty → Option Ty}

/- Two uses of one variable merge slot by slot. -/
theorem mergeLeadBy_cons_eq_some_iff :
    mergeLeadBy meet (p :: ps) (q :: qs) = some slots ↔
      ∃ slot rest,
        p.mergeBy meet q = some slot ∧
          mergeLeadBy meet ps qs = some rest ∧
          slot.anonymize :: rest = slots := by
  simp [mergeLeadBy, Option.bind_eq_some_iff]

namespace LeadMerge

/- Two first slots are merged, and whatever follows them. -/
theorem ofLists_cons_eq_some_iff
    {leftStar rightStar : Option Parameter}
    {m : LeadMerge} :
    ofLists meet leftStar rightStar (p :: ps) (q :: qs) =
        some m ↔
      ∃ slot rest,
        p.mergeBy meet q = some slot ∧
          ofLists meet leftStar rightStar ps qs = some rest ∧
          rest.cons slot = m := by
  simp [ofLists, Option.bind_eq_some_iff]

/-
  Induction over a merge: two first slots are merged until
  one side runs out, whose star parameter takes the rest.
-/
theorem ofLists_induction
    {leftStar rightStar : Option Parameter}
    {motive :
      (ps qs : List Parameter) → (m : LeadMerge) →
        ofLists meet leftStar rightStar ps qs = some m →
          Prop}
    (left :
      ∀ qs taken (h : absorb meet leftStar qs = some taken),
        motive [] qs ⟨taken.1, [], taken.2⟩
          (Option.map_eq_some_iff.mpr ⟨taken, h, rfl⟩))
    (right :
      ∀ p ps taken
        (h : absorb meet rightStar (p :: ps) = some taken),
        motive (p :: ps) [] ⟨taken.1, taken.2, []⟩
          (Option.map_eq_some_iff.mpr ⟨taken, h, rfl⟩))
    (cons :
      ∀ p ps q qs slot rest
        (hSlot : p.mergeBy meet q = some slot)
        (hRest :
          ofLists meet leftStar rightStar ps qs = some rest),
        motive ps qs rest hRest →
          motive (p :: ps) (q :: qs) (rest.cons slot)
            (ofLists_cons_eq_some_iff.mpr
              ⟨slot, rest, hSlot, hRest, rfl⟩))
    (ps qs : List Parameter)
    (m : LeadMerge)
    (h : ofLists meet leftStar rightStar ps qs = some m) :
    motive ps qs m h := by
  induction ps generalizing qs m with
  | nil =>
      rcases Option.map_eq_some_iff.mp h with
        ⟨taken, hTaken, rfl⟩
      exact left qs taken hTaken
  | cons p ps ih =>
      cases qs with
      | nil =>
          rcases Option.map_eq_some_iff.mp h with
            ⟨taken, hTaken, rfl⟩
          exact right p ps taken hTaken
      | cons q qs =>
          rcases ofLists_cons_eq_some_iff.mp h with
            ⟨slot, rest, hSlot, hRest, rfl⟩
          exact
            cons p ps q qs slot rest hSlot hRest
              (ih qs rest hRest)

/- A star parameter takes all of the slots, or merging fails. -/
theorem absorb_some_eq_some_iff
    {star : Parameter}
    {taken : List Parameter × List Parameter} :
    absorb meet (some star) ps = some taken ↔
      ∃ slots,
        List.Forall₂
            (fun p slot => p.absorbBy meet star = some slot)
            ps slots ∧
          (slots, []) = taken := by
  simp [absorb, Option.bind_eq_some_iff,
    mapM_eq_some_iff_forall₂]

/- Slots of one side that the other takes with its star. -/
theorem absorb_fits
    {star otherStar : Option Parameter}
    {overflow : Prop}
    (h :
      absorb Ty.meet star qs = some (slots, rest)) :
    LeadFits star overflow [] [] slots ∧
      LeadFits otherStar (star.isSome = true) qs rest
        slots ∧
      ∀ slot ∈ slots, IsMergedSlot slot := by
  cases star with
  | none =>
      cases h
      exact ⟨.stop fun _ => rfl, .stop nofun, by simp⟩
  | some s =>
      rcases absorb_some_eq_some_iff.mp h with
        ⟨taken, hAll, hTaken⟩
      cases hTaken
      clear h
      induction hAll with
      | nil =>
          exact
            ⟨.stop fun _ => rfl, .stop fun _ => rfl, by simp⟩
      | cons hSlot _ ih =>
          rcases absorbBy_fits hSlot with
            ⟨hSlotFits, hStar, hMerged⟩
          rcases ih with ⟨hLeft, hRight, hAll⟩
          exact
            ⟨.absorb rfl hStar hLeft,
              .merge hSlotFits hRight,
              List.forall_mem_cons.mpr ⟨hMerged, hAll⟩⟩

/- Merged sections fit both sides. -/
theorem ofLists_fits
    {leftStar rightStar : Option Parameter}
    {m : LeadMerge}
    (h :
      ofLists Ty.meet leftStar rightStar ps qs = some m) :
    LeadFits leftStar (rightStar.isSome = true) ps
        m.leftRest m.merged ∧
      LeadFits rightStar (leftStar.isSome = true) qs
        m.rightRest m.merged ∧
      ∀ slot ∈ m.merged, IsMergedSlot slot := by
  induction ps, qs, m, h using ofLists_induction with
  | left qs taken hTaken => exact absorb_fits hTaken
  | right p ps taken hTaken =>
      rcases absorb_fits hTaken with ⟨hRight, hLeft, hAll⟩
      exact ⟨hLeft, hRight, hAll⟩
  | cons p ps q qs slot rest hSlot hRest ih =>
      rcases mergeBy_fits hSlot with
        ⟨hLeftSlot, hRightSlot, hMerged⟩
      rcases ih with ⟨hLeft, hRight, hAll⟩
      exact
        ⟨.merge hLeftSlot hLeft, .merge hRightSlot hRight,
          List.forall_mem_cons.mpr ⟨hMerged, hAll⟩⟩

end LeadMerge

end SigCheck

------------------------------------------------------------
-- Normalizing
------------------------------------------------------------

namespace SigCheck

/-
  The slot asks callers for no less than the one it came
  from: it may have lost its default, and its name with its
  keyword.
-/
structure Weakens (slot source : Parameter) : Prop where
  ty : slot.ty = source.ty
  optional :
    slot.hasDefault = true → source.hasDefault = true
  named :
    slot.kind = .positionalOrKeyword →
      source.kind = .positionalOrKeyword ∧
        source.name = slot.name
  only :
    source.kind = .positionalOnly →
      slot.kind = .positionalOnly

namespace Weakens

variable {p q r : Parameter}

theorem refl (p : Parameter) : Weakens p p :=
  ⟨rfl, id, fun h => ⟨h, rfl⟩, id⟩

theorem trans
    (h : Weakens p q)
    (h' : Weakens q r) : Weakens p r := by
  refine
    ⟨h.ty.trans h'.ty, fun hp => h'.optional (h.optional hp),
      ?_, fun hr => h.only (h'.only hr)⟩
  intro hKind
  rcases h.named hKind with ⟨hq, hName⟩
  rcases h'.named hq with ⟨hr, hName'⟩
  exact ⟨hr, hName'.trans hName⟩

/- What fits a slot fits the weaker one. -/
theorem slotFits
    (h : Weakens p q)
    (hFits : SlotFits q r) : SlotFits p r := by
  refine
    ⟨h.ty ▸ hFits.ty,
      fun hp => hFits.optional (h.optional hp), ?_⟩
  intro hKind
  rcases h.named hKind with ⟨hq, hName⟩
  rcases hFits.named hq with ⟨hr, hName'⟩
  exact ⟨hr, hName'.trans hName⟩

theorem starFits
    (h : Weakens p q)
    (hFits : StarFits q r) : StarFits p r :=
  ⟨h.ty ▸ hFits.ty, h.only hFits.kind⟩

end Weakens

theorem anonymize_weakens (p : Parameter) :
    Weakens p.anonymize p :=
  ⟨rfl, id, nofun, fun _ => rfl⟩

variable {ps : List Parameter}

theorem sealLead_weakens :
    List.Forall₂ Weakens (sealLead ps) ps := by
  induction ps with
  | nil => exact .nil
  | cons p ps ih =>
      refine .cons ?_ ih
      split
      · exact anonymize_weakens p
      · exact Weakens.refl p

theorem requireLead_weakens :
    List.Forall₂ Weakens (requireLead ps) ps := by
  induction ps with
  | nil => exact .nil
  | cons p ps ih =>
      refine .cons ⟨rfl, ?_, fun h => ⟨h, rfl⟩, id⟩ ih
      exact fun h => (Bool.and_eq_true_iff.mp h).1

/- Normalizing weakens slot by slot. -/
theorem normalizeLead_weakens :
    List.Forall₂ Weakens (normalizeLead ps) ps := by
  have hTrans :
      ∀ {xs ys zs : List Parameter},
        List.Forall₂ Weakens xs ys →
          List.Forall₂ Weakens ys zs →
            List.Forall₂ Weakens xs zs := by
    intro xs ys zs hxy
    induction hxy generalizing zs with
    | nil => exact id
    | cons h _ ih =>
        intro hyz
        cases hyz with
        | cons h' hRest => exact .cons (h.trans h') (ih hRest)
  exact hTrans requireLead_weakens sealLead_weakens

/- Normalized slots are merged slots. -/
theorem isMergedSlot_of_mem_normalizeLead
    (hMerged : ∀ p ∈ ps, IsMergedSlot p) :
    ∀ p ∈ normalizeLead ps, IsMergedSlot p := by
  have hSealed : ∀ p ∈ sealLead ps, IsMergedSlot p := by
    induction ps with
    | nil => simp [sealLead]
    | cons p ps ih =>
        rcases List.forall_mem_cons.mp hMerged with ⟨hp, hps⟩
        refine List.forall_mem_cons.mpr ⟨?_, ih hps⟩
        split
        · exact Or.inr ⟨rfl, rfl⟩
        · exact hp
  unfold normalizeLead
  generalize sealLead ps = qs at hSealed ⊢
  induction qs with
  | nil => simp [requireLead]
  | cons q qs ih =>
      rcases List.forall_mem_cons.mp hSealed with ⟨hq, hqs⟩
      exact List.forall_mem_cons.mpr ⟨hq, ih hqs⟩

@[simp] theorem length_normalizeLead :
    (normalizeLead ps).length = ps.length :=
  normalizeLead_weakens.length_eq

/- Sealing looks at kinds, which requiring leaves alone. -/
theorem any_kind_requireLead (kind : ParamKind) :
    (requireLead ps).any (·.kind == kind) =
      ps.any (·.kind == kind) := by
  induction ps with
  | nil => rfl
  | cons p ps ih => simp [requireLead, ih]

/- Requiring looks at defaults, which sealing leaves alone. -/
theorem all_hasDefault_sealLead :
    (sealLead ps).all (·.hasDefault) =
      ps.all (·.hasDefault) := by
  induction ps with
  | nil => rfl
  | cons p ps ih =>
      simp only [sealLead, List.all_cons, ih]
      split <;> rfl

theorem sealLead_requireLead :
    sealLead (requireLead ps) =
      requireLead (sealLead ps) := by
  induction ps with
  | nil => rfl
  | cons p ps ih =>
      simp only [sealLead, requireLead,
        any_kind_requireLead, all_hasDefault_sealLead, ih]
      split <;> rfl

theorem any_positionalOnly_sealLead :
    (sealLead ps).any (·.kind == .positionalOnly) =
      ps.any (·.kind == .positionalOnly) := by
  induction ps with
  | nil => rfl
  | cons p ps ih =>
      simp only [sealLead, List.any_cons, ih]
      split
      · rename_i hAny
        rw [hAny, Bool.or_true, Bool.or_true]
      · rfl

theorem all_hasDefault_requireLead :
    (requireLead ps).all (·.hasDefault) =
      ps.all (·.hasDefault) := by
  induction ps with
  | nil => rfl
  | cons p ps ih =>
      simp only [requireLead, List.all_cons, ih]
      cases p.hasDefault <;> cases ps.all (·.hasDefault) <;>
        rfl

theorem sealLead_idem :
    sealLead (sealLead ps) = sealLead ps := by
  induction ps with
  | nil => rfl
  | cons p ps ih =>
      simp only [sealLead, any_positionalOnly_sealLead, ih]
      split <;> rfl

theorem requireLead_idem :
    requireLead (requireLead ps) = requireLead ps := by
  induction ps with
  | nil => rfl
  | cons p ps ih =>
      simp only [requireLead, all_hasDefault_requireLead, ih]
      cases p.hasDefault <;> cases ps.all (·.hasDefault) <;>
        rfl

/- Normalized slots stay as they are. -/
theorem normalizeLead_idem :
    normalizeLead (normalizeLead ps) = normalizeLead ps := by
  unfold normalizeLead
  rw [sealLead_requireLead, sealLead_idem, requireLead_idem]

/- Without positional-only slots nothing is sealed. -/
theorem sealLead_eq_self
    (h : ps.any (·.kind == .positionalOnly) = false) :
    sealLead ps = ps := by
  induction ps with
  | nil => rfl
  | cons p ps ih =>
      simp only [List.any_cons, Bool.or_eq_false_iff] at h
      simp [sealLead, h.2, ih h.2]

/- Sealed slots stand in the order of their kinds. -/
theorem sealLead_ordered
    (hMerged : ∀ p ∈ ps, IsMergedSlot p) :
    (sealLead ps).Pairwise fun p q =>
      p.kind.rank ≤ q.kind.rank := by
  induction ps with
  | nil => exact .nil
  | cons p ps ih =>
      have hRest : ∀ q ∈ ps, IsMergedSlot q :=
        fun q hq => hMerged q (List.mem_cons_of_mem _ hq)
      refine List.pairwise_cons.mpr ⟨?_, ih hRest⟩
      intro q hq
      cases hAny : ps.any (·.kind == .positionalOnly) with
      | true => simp [Parameter.anonymize, ParamKind.rank]
      | false =>
          rw [sealLead_eq_self hAny] at hq
          have hKind : q.kind = .positionalOrKeyword := by
            rcases hRest q hq with hKind | ⟨hOnly, -⟩
            · exact hKind
            · have hNone := List.any_eq_false.mp hAny q hq
              simp [hOnly] at hNone
          rcases hMerged p (by simp) with hp | ⟨hp, -⟩ <;>
            simp [hKind, hp, ParamKind.rank]

/- Normalized slots stand in the order of their kinds. -/
theorem normalizeLead_ordered
    (hMerged : ∀ p ∈ ps, IsMergedSlot p) :
    (normalizeLead ps).Pairwise fun p q =>
      p.kind.rank ≤ q.kind.rank := by
  have hKinds :
      ∀ qs : List Parameter,
        (requireLead qs).map (·.kind) = qs.map (·.kind) := by
    intro qs
    induction qs with
    | nil => rfl
    | cons q qs ih => simp [requireLead, ih]
  have hSealed :
      ((sealLead ps).map (·.kind)).Pairwise fun k l =>
        k.rank ≤ l.rank :=
    List.pairwise_map.mpr (sealLead_ordered hMerged)
  rw [← hKinds] at hSealed
  exact (List.pairwise_map (f := fun p : Parameter => p.kind)
    (R := fun k l => k.rank ≤ l.rank)).mp hSealed

end SigCheck

------------------------------------------------------------
-- Fitting Sections
------------------------------------------------------------

namespace SigCheck

namespace LeadFits

variable {star : Option Parameter}
variable {overflow : Prop}
variable {slots rest merged : List Parameter}

/- A weaker condition leaves no less over. -/
theorem mono
    {overflow' : Prop}
    (h : LeadFits star overflow slots rest merged)
    (hMono : overflow' → overflow) :
    LeadFits star overflow' slots rest merged := by
  induction h with
  | merge hSlot _ ih => exact .merge hSlot ih
  | absorb hStar hSlot _ ih => exact .absorb hStar hSlot ih
  | stop hRest => exact .stop fun h => hRest (hMono h)

/- Weaker slots fit as well. -/
theorem weaken
    (h : LeadFits star overflow slots rest merged)
    {weaker : List Parameter}
    (hWeaker : List.Forall₂ Weakens weaker merged) :
    LeadFits star overflow slots rest weaker := by
  induction h generalizing weaker with
  | merge hSlot _ ih =>
      cases hWeaker with
      | cons h hRest =>
          exact .merge (h.slotFits hSlot) (ih hRest)
  | absorb hStar hSlot _ ih =>
      cases hWeaker with
      | cons h hRest =>
          exact .absorb hStar (h.starFits hSlot) (ih hRest)
  | stop hRest =>
      cases hWeaker
      exact .stop hRest

/- What is left over comes behind the merged slots. -/
theorem rest_eq
    (h : LeadFits star overflow slots rest merged) :
    rest = slots.drop merged.length := by
  induction h with
  | merge _ _ ih => exact ih
  | absorb _ _ _ _ => simp
  | stop _ => rfl

/- Where positions overflow, no slot is behind the merged. -/
theorem length_le
    (h : LeadFits star overflow slots rest merged)
    (hOverflow : overflow) :
    slots.length ≤ merged.length := by
  induction h with
  | merge _ _ ih => simpa using ih
  | absorb _ _ _ _ => simp
  | stop hRest => simp [hRest hOverflow]

/- A merged slot fits what stands at its index. -/
theorem getElem?
    (h : LeadFits star overflow slots rest merged)
    {index : Nat} {slot : Parameter}
    (hSlot : merged[index]? = some slot) :
    (∃ p, slots[index]? = some p ∧ SlotFits slot p) ∨
      (slots[index]? = none ∧
        ∃ s, star = some s ∧ StarFits slot s) := by
  induction h generalizing index with
  | @merge p slot' _ _ _ hFits _ ih =>
      cases index with
      | zero =>
          cases hSlot
          exact Or.inl ⟨p, rfl, hFits⟩
      | succ index => exact ih (by simpa using hSlot)
  | @absorb s slot' _ hStar hFits _ ih =>
      cases index with
      | zero =>
          cases hSlot
          exact Or.inr ⟨rfl, s, hStar, hFits⟩
      | succ index =>
          rw [List.getElem?_cons_succ] at hSlot
          simpa using ih hSlot
  | stop _ => simp at hSlot

/- Slots that only the star parameter takes. -/
theorem star_of_no_slots
    (h : LeadFits star overflow slots rest merged)
    (hSlots : slots = []) :
    merged = [] ∨ ∃ s, star = some s ∧
      ∀ slot ∈ merged, StarFits slot s := by
  induction h with
  | merge _ _ _ => cases hSlots
  | @absorb s slot merged hStar hFits _ ih =>
      refine Or.inr ⟨s, hStar, ?_⟩
      rcases ih rfl with rfl | ⟨s', hStar', hAll⟩
      · simpa using hFits
      · cases hStar.symm.trans hStar'
        exact List.forall_mem_cons.mpr ⟨hFits, hAll⟩
  | stop _ => exact Or.inl rfl

/- Merging a slot with the one it fits changes nothing. -/
theorem mergeBy_self
    {slot p : Parameter}
    (hFits : SlotFits slot p)
    (hMerged : IsMergedSlot slot) :
    slot.mergeBy Ty.meet p = some slot := by
  have hTy : slot.ty.meet p.ty = some slot.ty := hFits.ty
  have hDefault :
      (slot.hasDefault && p.hasDefault) =
        slot.hasDefault := by
    cases hOptional : slot.hasDefault with
    | false => rfl
    | true => rw [hFits.optional hOptional]; rfl
  unfold Parameter.mergeBy
  rw [hTy, hDefault]
  rcases slot with ⟨name, kind, ty, optional⟩
  rcases hMerged with hKind | ⟨hKind, hName⟩
  · rcases hFits.named hKind with ⟨hSame, hSameName⟩
    subst hKind
    simp [hSame, hSameName]
  · subst hKind hName
    rfl

/- Nor does absorbing a slot that a star parameter takes. -/
theorem absorbBy_self
    {slot star : Parameter}
    (hFits : StarFits slot star)
    (hMerged : IsMergedSlot slot) :
    slot.absorbBy Ty.meet star = some slot := by
  have hTy : slot.ty.meet star.ty = some slot.ty := hFits.ty
  have hKind := hFits.kind
  unfold Parameter.absorbBy
  rw [hTy]
  rcases slot with ⟨name, kind, ty, optional⟩
  rcases hMerged with hNamed | ⟨-, hName⟩
  · cases hKind.symm.trans hNamed
  · subst hKind hName
    rfl

/- Nor does absorbing slots one by one. -/
theorem absorb_self
    {s : Parameter}
    (hFits : ∀ slot ∈ merged, StarFits slot s)
    (hMerged : ∀ slot ∈ merged, IsMergedSlot slot) :
    LeadMerge.absorb Ty.meet (some s) merged =
      some (merged, []) := by
  have hAll :
      merged.mapM (fun slot => slot.absorbBy Ty.meet s) =
        some merged := by
    rw [mapM_eq_some_iff_forall₂, List.forall₂_same]
    exact fun slot hSlot =>
      absorbBy_self (hFits slot hSlot) (hMerged slot hSlot)
  simp only [LeadMerge.absorb, hAll]
  rfl

/- Merging fitting slots with their side changes nothing. -/
theorem ofLists_self
    (h : LeadFits star overflow slots rest merged)
    (hMerged : ∀ slot ∈ merged, IsMergedSlot slot)
    {own : Option Parameter}
    (hOwn : own.isSome = true → overflow) :
    LeadMerge.ofLists Ty.meet own star merged slots =
      some ⟨merged, [], rest⟩ := by
  induction h with
  | merge hFits _ ih =>
      rcases List.forall_mem_cons.mp hMerged with
        ⟨hSlot, hRest⟩
      unfold LeadMerge.ofLists
      rw [mergeBy_self hFits hSlot, ih hRest]
      rfl
  | @absorb s slot merged hStar hFits hAbsorb _ =>
      have hAll : ∀ t ∈ slot :: merged, StarFits t s := by
        rcases (absorb hStar hFits hAbsorb).star_of_no_slots
          rfl with hNil | ⟨s', hStar', hAll⟩
        · cases hNil
        · cases hStar.symm.trans hStar'
          exact hAll
      unfold LeadMerge.ofLists
      rw [hStar, absorb_self hAll hMerged]
      rfl
  | @stop rest hRest =>
      unfold LeadMerge.ofLists
      -- A star of its own would absorb what is left over.
      cases own with
      | none => rfl
      | some s =>
          rw [hRest (hOwn rfl)]
          rfl

end LeadFits

end SigCheck
