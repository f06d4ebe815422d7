import SigCheck.Proofs.KeywordMerge
import SigCheck.Proofs.LeadMerge

/-
  Subtyping is a fixed point of its rules.

  Subtyping applies its rules as often as the sizes of the
  two types allow. A rule compares only types strictly inside
  the two that it is applied to, so a greater bound gives the
  same answer, and the bound can be forgotten.

  Key definitions include:
    * `Signature.parameters`
    * `MeetsAgree`

  Main statements:
    * `commonParamsBy_congr`
    * `Ty.subtypeStep_congr`
    * `Ty.isSubtype_eq`
-/

------------------------------------------------------------
-- Joins over Agreeing Meets
------------------------------------------------------------

namespace SigCheck

/-
  Two meets agree on the types of the parameters of two
  lists, whichever list comes first.
-/
def MeetsAgree
    (meet meet' : Ty → Ty → Option Ty)
    (ps qs : List Parameter) : Prop :=
  ∀ p ∈ ps, ∀ q ∈ qs,
    meet p.ty q.ty = meet' p.ty q.ty ∧
      meet q.ty p.ty = meet' q.ty p.ty

namespace MeetsAgree

variable {meet meet' : Ty → Ty → Option Ty}
variable {ps qs ps' qs' : List Parameter}

theorem symm
    (h : MeetsAgree meet meet' ps qs) :
    MeetsAgree meet meet' qs ps :=
  fun q hq p hp => (h p hp q hq).symm

/- Meets that agree on two lists agree on parts of them. -/
theorem mono
    (h : MeetsAgree meet meet' ps qs)
    (hps : ps' ⊆ ps)
    (hqs : qs' ⊆ qs) : MeetsAgree meet meet' ps' qs' :=
  fun p hp q hq => h p (hps hp) q (hqs hq)

end MeetsAgree

section Congruence

variable {meet meet' : Ty → Ty → Option Ty}
variable {ps qs : List Parameter}

theorem mergeBy_congr
    {p q : Parameter}
    (h : meet p.ty q.ty = meet' p.ty q.ty) :
    p.mergeBy meet q = p.mergeBy meet' q := by
  rw [Parameter.mergeBy, h]
  rfl

/- Absorbing slots takes their meets with the star. -/
theorem LeadMerge.absorb_congr
    {star : Option Parameter}
    (h : MeetsAgree meet meet' ps star.toList) :
    absorb meet star ps = absorb meet' star ps := by
  cases star with
  | none => rfl
  | some s =>
      have hAll :
          ps.mapM (fun p => p.absorbBy meet s) =
            ps.mapM fun p => p.absorbBy meet' s := by
        induction ps with
        | nil => rfl
        | cons p ps ih =>
            have hHead := (h p (by simp) s (by simp)).1
            have hTail :=
              h.mono (List.subset_cons_self p ps)
                (List.Subset.refl _)
            rw [List.mapM_cons, List.mapM_cons, ih hTail,
              Parameter.absorbBy, hHead]
            rfl
      simp only [absorb, hAll]

/- Merging two sections takes the meets of their types. -/
theorem LeadMerge.ofLists_congr
    {leftStar rightStar : Option Parameter}
    (hSlots : MeetsAgree meet meet' ps qs)
    (hLeft : MeetsAgree meet meet' qs leftStar.toList)
    (hRight : MeetsAgree meet meet' ps rightStar.toList) :
    ofLists meet leftStar rightStar ps qs =
      ofLists meet' leftStar rightStar ps qs := by
  induction ps generalizing qs with
  | nil =>
      unfold ofLists
      rw [absorb_congr hLeft]
  | cons p ps ih =>
      cases qs with
      | nil =>
          unfold ofLists
          rw [absorb_congr hRight]
      | cons q qs =>
          have hps := List.subset_cons_self p ps
          have hqs := List.subset_cons_self q qs
          have hRefl {xs : List Parameter} : xs ⊆ xs :=
            List.Subset.refl xs
          have hSlot :=
            mergeBy_congr (hSlots p (by simp) q (by simp)).1
          unfold ofLists
          rw [hSlot, ih (hSlots.mono hps hqs)
            (hLeft.mono hqs hRefl) (hRight.mono hps hRefl)]

theorem variadicBy_congr
    {p q : Option Parameter}
    (h : MeetsAgree meet meet' p.toList q.toList) :
    variadicBy meet p q = variadicBy meet' p q := by
  unfold variadicBy
  split
  · rename_i p q
    rw [(h p (by simp) q (by simp)).1]
  · rfl

/- What a side takes under a name is the type of one of it. -/
theorem KeywordSide.exists_of_accepts?
    {side : KeywordSide} {filled : Nat} {name : String}
    {ty : Ty}
    (h : side.accepts? filled name = some ty) :
    ∃ p ∈ side.candidates ++ side.others.toList,
      p.ty = ty := by
  unfold accepts? at h
  split at h
  · cases h
  · rcases Option.map_eq_some_iff.mp h with ⟨p, hp, hTy⟩
    refine ⟨p, List.mem_append.mpr ?_, hTy⟩
    rcases Option.or_eq_some_iff.mp hp with
      hNamed | ⟨-, hOthers⟩
    · exact Or.inl (List.mem_of_find?_eq_some hNamed)
    · exact Or.inr (by simp [hOthers])

/- Merging keywords takes the meets of the two sides. -/
theorem keywordSlotBy_congr
    {left right : KeywordSide} {filled : Nat}
    {name : String}
    (h :
      MeetsAgree meet meet'
        (left.candidates ++ left.others.toList)
        (right.candidates ++ right.others.toList)) :
    keywordSlotBy meet filled left right name =
      keywordSlotBy meet' filled left right name := by
  unfold keywordSlotBy
  cases hLeft : left.accepts? filled name with
  | none => rfl
  | some a =>
      cases hRight : right.accepts? filled name with
      | none => rfl
      | some b =>
          rcases KeywordSide.exists_of_accepts? hLeft with
            ⟨p, hp, rfl⟩
          rcases KeywordSide.exists_of_accepts? hRight with
            ⟨q, hq, rfl⟩
          simp only [(h p hp q hq).1]

/- The first of a kind is one of the list. -/
theorem toList_firstOfKind_subset
    (kind : ParamKind)
    (ps : List Parameter) :
    (firstOfKind kind ps).toList ⊆ ps := by
  intro p hp
  exact List.mem_of_find?_eq_some (Option.mem_toList.mp hp)

/- What merging leaves over are slots of the two sections. -/
theorem LeadMerge.rests_subset
    {leftStar rightStar : Option Parameter}
    {m : LeadMerge}
    (h : ofLists meet leftStar rightStar ps qs = some m) :
    m.leftRest ⊆ ps ∧ m.rightRest ⊆ qs := by
  have hAbsorb :
      ∀ {star : Option Parameter}
        {xs : List Parameter}
        {taken : List Parameter × List Parameter},
        absorb meet star xs = some taken →
          taken.2 ⊆ xs := by
    intro star xs taken hTaken
    cases star with
    | none =>
        cases hTaken
        exact List.Subset.refl xs
    | some s =>
        rcases absorb_some_eq_some_iff.mp hTaken with
          ⟨slots, -, rfl⟩
        exact List.nil_subset xs
  induction ps, qs, m, h using ofLists_induction with
  | left qs taken hTaken =>
      exact ⟨List.nil_subset [], hAbsorb hTaken⟩
  | right p ps taken hTaken =>
      exact ⟨hAbsorb hTaken, List.nil_subset []⟩
  | cons p ps q qs slot rest _ _ ih =>
      exact
        ih.imp (List.subset_cons_of_subset p)
          (List.subset_cons_of_subset q)

/- Candidates for keywords are parameters of the list. -/
theorem keywordCandidates_subset
    {rest named : List Parameter}
    (h : keywordCandidates ps rest = some named)
    (hRest : rest ⊆ ps) : named ⊆ ps := by
  unfold keywordCandidates at h
  split at h
  · cases h
  · cases h
    exact
      List.append_subset.mpr
        ⟨List.Subset.trans (List.filter_subset_self _) hRest,
          List.filter_subset_self _⟩

/- Joining takes the meets of types of the two lists. -/
theorem commonParamsBy_congr
    (h : MeetsAgree meet meet' ps qs) :
    commonParamsBy meet ps qs =
      commonParamsBy meet' ps qs := by
  have hSection (xs : List Parameter) :
      positionalSection xs ⊆ xs :=
    List.filter_subset_self xs
  have hFirst := toList_firstOfKind_subset
  have hLead :=
    LeadMerge.ofLists_congr
      (h.mono (hSection ps) (hSection qs))
      (h.symm.mono (hSection qs) (hFirst .varPositional ps))
      (h.mono (hSection ps) (hFirst .varPositional qs))
  have hVariadic (kind : ParamKind) :=
    variadicBy_congr
      (h.mono (hFirst kind ps) (hFirst kind qs))
  unfold commonParamsBy
  simp only [Option.bind_eq_bind, hLead, hVariadic]
  refine Option.bind_congr fun lead hMerge => ?_
  refine Option.bind_congr fun star _ => ?_
  refine Option.bind_congr fun leftNamed hLeft => ?_
  refine Option.bind_congr fun rightNamed hRight => ?_
  rcases LeadMerge.rests_subset hMerge with
    ⟨hLeftRest, hRightRest⟩
  -- Both sides take arguments of types of their lists only.
  have hSides :=
    h.mono
      (List.append_subset.mpr
        ⟨keywordCandidates_subset hLeft
            (List.Subset.trans hLeftRest (hSection ps)),
          hFirst .varKeyword ps⟩)
      (List.append_subset.mpr
        ⟨keywordCandidates_subset hRight
            (List.Subset.trans hRightRest (hSection qs)),
          hFirst .varKeyword qs⟩)
  congr 2
  funext name
  exact keywordSlotBy_congr hSides

/- So does merging leading parameters. -/
theorem mergeLeadBy_congr
    (h : MeetsAgree meet meet' ps qs) :
    mergeLeadBy meet ps qs = mergeLeadBy meet' ps qs := by
  induction ps generalizing qs with
  | nil => cases qs <;> rfl
  | cons p ps ih =>
      cases qs with
      | nil => rfl
      | cons q qs =>
          have hHead :=
            mergeBy_congr (h p (by simp) q (by simp)).1
          have hTail :=
            h.mono (List.subset_cons_self p ps)
              (List.subset_cons_self q qs)
          unfold mergeLeadBy
          rw [hHead, ih hTail]

end Congruence

/- The parameters that a signature lists. -/
def Signature.parameters : Signature → List Parameter
  | .params ps => ps
  | .spec lead _ => lead
  | .gradual => []

namespace Signature

variable {meet meet' : Ty → Ty → Option Ty}

/- A common supertype takes meets of parameter types. -/
theorem commonBy_congr
    {s t : Signature}
    (h : MeetsAgree meet meet' s.parameters t.parameters) :
    s.commonBy meet t = s.commonBy meet' t := by
  unfold commonBy
  split
  · rfl
  · rfl
  · simp only [parameters] at h
    rw [commonParamsBy_congr h]
  · simp only [parameters] at h
    rw [mergeLeadBy_congr h]
  · rfl

/- Compatibility takes meets of parameter types. -/
theorem compatibleBy_congr
    {s t : Signature}
    (h : MeetsAgree meet meet' s.parameters t.parameters) :
    s.compatibleBy meet t = s.compatibleBy meet' t := by
  unfold compatibleBy
  split
  · rfl
  · rfl
  · rw [commonBy_congr h.symm]

end Signature

end SigCheck

------------------------------------------------------------
-- Smaller Types
------------------------------------------------------------

namespace SigCheck

/- A member of a list of types is no larger than the list. -/
theorem Ty.size_le_sizeAll
    {t : Ty} {ts : List Ty}
    (h : t ∈ ts) : t.size ≤ Ty.sizeAll ts := by
  induction ts with
  | nil => cases h
  | cons u us ih =>
      rw [Ty.sizeAll]
      rcases List.mem_cons.mp h with rfl | hRest
      · omega
      · have := ih hRest
        omega

/- A class argument is no larger than all of them. -/
theorem TypeArg.size_le_sizeAll
    {a : TypeArg} {args : List TypeArg}
    (h : a ∈ args) : a.size ≤ TypeArg.sizeAll args := by
  induction args with
  | nil => cases h
  | cons b bs ih =>
      rw [TypeArg.sizeAll]
      rcases List.mem_cons.mp h with rfl | hRest
      · omega
      · have := ih hRest
        omega

theorem Parameter.size_eq (p : Parameter) :
    p.size = p.ty.size + 1 := by
  cases p
  rfl

/- The type of a parameter is smaller than the list. -/
theorem Parameter.size_lt_sizeAll
    {p : Parameter} {ps : List Parameter}
    (h : p ∈ ps) : p.ty.size < Parameter.sizeAll ps := by
  induction ps with
  | nil => cases h
  | cons q qs ih =>
      rw [Parameter.sizeAll]
      rcases List.mem_cons.mp h with rfl | hRest
      · rw [Parameter.size_eq]
        omega
      · have := ih hRest
        omega

/- The type of a parameter is smaller than its signature. -/
theorem Signature.size_lt
    {p : Parameter} {s : Signature}
    (h : p ∈ s.parameters) : p.ty.size < s.size := by
  cases s with
  | params ps =>
      have hSmall : p.ty.size < Parameter.sizeAll ps :=
        Parameter.size_lt_sizeAll h
      rw [Signature.size]
      omega
  | spec lead var =>
      have hSmall : p.ty.size < Parameter.sizeAll lead :=
        Parameter.size_lt_sizeAll h
      rw [Signature.size]
      omega
  | gradual => cases h

end SigCheck

------------------------------------------------------------
-- Rules over Agreeing Relations
------------------------------------------------------------

namespace SigCheck

/- Relations that agree on the members agree on the lists. -/
theorem pointwise_congr
    {α : Type} {rel rel' : α → α → Bool} {as bs : List α}
    (h : ∀ a ∈ as, ∀ b ∈ bs, rel a b = rel' a b) :
    pointwise rel as bs = pointwise rel' as bs := by
  induction as generalizing bs with
  | nil => cases bs <;> rfl
  | cons a as ih =>
      cases bs with
      | nil => rfl
      | cons b bs =>
          have hTail :
              pointwise rel as bs = pointwise rel' as bs :=
            ih fun x hx y hy =>
              h x (by simp [hx]) y (by simp [hy])
          simp only [pointwise, hTail, h a (by simp) b (by simp)]

/- Meets over relations that agree on the types agree. -/
theorem meetBy_congr
    {le le' : Ty → Ty → Bool} {a b : Ty}
    (hLe : le a b = le' a b)
    (hGe : le b a = le' b a) :
    meetBy le a b = meetBy le' a b := by
  simp only [meetBy, hLe, hGe]

/- Consistency compares the types of two arguments. -/
theorem TypeArg.consistentBy_congr
    {le le' : Ty → Ty → Bool} {a b : TypeArg}
    (h :
      ∀ x y, x.size + y.size < a.size + b.size →
        le x y = le' x y) :
    consistentBy le a b = consistentBy le' a b := by
  unfold consistentBy
  split
  · rename_i x y
    simp only [TypeArg.size] at h
    rw [h x y (by omega), h y x (by omega)]
  · rfl
  · rfl
  · rfl
  · rfl

namespace Ty

variable {le le' : Ty → Ty → Bool} {a b : Ty}

/- The rules for shapes compare smaller types only. -/
theorem shapeStep_congr
    (h :
      ∀ x y, x.size + y.size < a.size + b.size →
        le x y = le' x y) :
    shapeStep le a b = shapeStep le' a b := by
  unfold shapeStep
  split
  case h_7 as bs =>
    apply pointwise_congr
    intro x hx y hy
    have := size_le_sizeAll hx
    have := size_le_sizeAll hy
    exact h x y (by simp only [size]; omega)
  case h_8 s r t q =>
    have hMeets :
        MeetsAgree (meetBy le) (meetBy le') s.parameters
          t.parameters := by
      intro x hx y hy
      have := Signature.size_lt hx
      have := Signature.size_lt hy
      have hLe := h x.ty y.ty (by simp only [size]; omega)
      have hGe := h y.ty x.ty (by simp only [size]; omega)
      exact ⟨meetBy_congr hLe hGe, meetBy_congr hGe hLe⟩
    rw [Signature.compatibleBy_congr hMeets,
      h r q (by simp only [size]; omega)]
  case h_9 m as n bs =>
    congr 1
    apply pointwise_congr
    intro x hx y hy
    apply TypeArg.consistentBy_congr
    intro v w hSmall
    have := TypeArg.size_le_sizeAll hx
    have := TypeArg.size_le_sizeAll hy
    exact h v w (by simp only [size]; omega)
  all_goals rfl

/- All rules compare smaller types only. -/
theorem subtypeStep_congr
    (h :
      ∀ x y, x.size + y.size < a.size + b.size →
        le x y = le' x y) :
    subtypeStep le a b = subtypeStep le' a b := by
  unfold subtypeStep
  split
  · rfl
  · rfl
  · rfl
  · split
    · rfl
    · split
      case h_1 => rfl
      case h_2 members _ _ _ _ =>
        rw [Bool.eq_iff_iff, List.any_eq_true,
          List.any_eq_true]
        refine exists_congr fun t => and_congr_right ?_
        intro ht
        have := size_le_sizeAll ht
        rw [h _ t (by simp only [size]; omega)]
      case h_3 members _ _ _ _ =>
        rw [Bool.eq_iff_iff, List.all_eq_true,
          List.all_eq_true]
        refine forall_congr' fun t => forall_congr' ?_
        intro ht
        have := size_le_sizeAll ht
        rw [h t _ (by simp only [size]; omega)]
      case h_4 => exact shapeStep_congr h

/- A bound that is great enough does not matter. -/
theorem subtypeWithin_eq
    (a b : Ty)
    {m n : Nat}
    (hm : a.size + b.size ≤ m)
    (hn : a.size + b.size ≤ n) :
    subtypeWithin m a b = subtypeWithin n a b := by
  have hPos := a.size_pos
  -- By induction on one of the bounds, as each step uses up
  -- one unfolding and compares smaller types.
  induction m generalizing a b n with
  | zero => omega
  | succ m ih =>
      cases n with
      | zero => omega
      | succ n =>
          apply subtypeStep_congr
          intro x y hSmall
          exact ih x y (by omega) (by omega) x.size_pos

/- Subtyping is a fixed point of its rules. -/
theorem isSubtype_eq (a b : Ty) :
    a.isSubtype b = subtypeStep isSubtype a b := by
  have hPos := a.size_pos
  have hDepth :
      subtypeWithin (a.size + b.size) a b =
        subtypeWithin (a.size + b.size + 1) a b :=
    subtypeWithin_eq a b (Nat.le_refl _) (Nat.le_succ _)
  rw [isSubtype, hDepth]
  apply subtypeStep_congr
  intro x y hSmall
  exact
    subtypeWithin_eq x y (Nat.le_of_lt hSmall) (Nat.le_refl _)

end Ty

end SigCheck

------------------------------------------------------------
-- Single Rules
------------------------------------------------------------

namespace SigCheck

namespace Ty

variable {a b : Ty}

/- Every type may stand where `object` is expected. -/
theorem isSubtype_object (a : Ty) :
    a.isSubtype .object = true := by
  rw [isSubtype_eq]
  cases a <;> rfl

/- What a member takes, the union takes. -/
theorem isSubtype_union_of_mem
    {members : List Ty}
    (hb : b ∈ members)
    (h : a.isSubtype b = true) :
    a.isSubtype (.union members) = true := by
  rw [isSubtype_eq]
  unfold subtypeStep
  split
  · rfl
  · rfl
  · rfl
  · split
    · rfl
    · exact List.any_eq_true.mpr ⟨b, hb, h⟩

/- A union takes another that it is or that a member takes. -/
theorem union_isSubtype_union_iff
    {as bs : List Ty} :
    (union as).isSubtype (.union bs) = true ↔
      as = bs ∨ ∃ b ∈ bs, (union as).isSubtype b = true := by
  rw [isSubtype_eq]
  simp [subtypeStep]

/- A union is below a type that is none if its members are. -/
theorem union_isSubtype_iff_forall
    {members : List Ty}
    (hb : ∀ bs, b ≠ .union bs) :
    (union members).isSubtype b = true ↔
      ∀ a ∈ members, a.isSubtype b = true := by
  cases b with
  | any => simp [isSubtype_any]
  | object => simp [isSubtype_object]
  | union bs => exact absurd rfl (hb bs)
  | _ =>
      rw [isSubtype_eq]
      simp [subtypeStep]

end Ty

end SigCheck
