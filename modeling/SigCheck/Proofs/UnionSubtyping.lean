import SigCheck.Proofs.SubtypeRules

/-
  Where a union may stand.

  The rule for a union on the right is tried before the one
  for a union on the left. A union is therefore below another
  only if a single alternative of that one takes all of its
  members, although it suffices for a value that each member
  finds an alternative of its own.

  Key definitions include:
    * `Ty.Offers`

  Correctness is proven by:
    * `Ty.Offers.isSubtype`
    * `Ty.union_isSubtype_iff_offers`
-/

namespace SigCheck

namespace Ty

/-
  The second type is the first one or, through any number of
  unions, one of its members.
-/
inductive Offers : Ty → Ty → Prop
  | self (b : Ty) : Offers b b
  | member
      {members : List Ty} {b c : Ty} :
      b ∈ members → Offers b c → Offers (.union members) c

namespace Offers

variable {a b c : Ty}

/- What one of the offered types takes, the type takes. -/
theorem isSubtype
    (h : Offers b c)
    (hLe : a.isSubtype c = true) :
    a.isSubtype b = true := by
  induction h with
  | self => exact hLe
  | member hMem _ ih =>
      exact isSubtype_union_of_mem hMem (ih hLe)

end Offers

/- The type takes every member of the union on its own. -/
def TakesEach (b : Ty) (members : List Ty) : Prop :=
  ∀ a ∈ members, a.isSubtype b = true

variable {members : List Ty}

/- A union that is below a type has found one alternative. -/
theorem exists_offered_of_union_isSubtype
    {b : Ty}
    (h : (union members).isSubtype b = true) :
    ∃ c, b.Offers c ∧
      (c = .union members ∨
        (∀ bs, c ≠ .union bs) ∧ c.TakesEach members) := by
  by_cases hb : ∃ bs, b = .union bs
  · rcases hb with ⟨bs, rfl⟩
    rcases union_isSubtype_union_iff.mp h with
      rfl | ⟨c, hc, hLe⟩
    · exact ⟨_, .self _, Or.inl rfl⟩
    · -- The alternative is found in a smaller type.
      have hSmall : c.size < (union bs).size := by
        have := size_le_sizeAll hc
        simp only [size]
        omega
      rcases exists_offered_of_union_isSubtype hLe with
        ⟨d, hOffers, hd⟩
      exact ⟨d, .member hc hOffers, hd⟩
  · rw [not_exists] at hb
    exact
      ⟨b, .self b, Or.inr
        ⟨hb, (union_isSubtype_iff_forall hb).mp h⟩⟩
termination_by b.size

/-
  A union is below a type exactly if the type offers it, or
  offers an alternative that is no union and takes all of its
  members. Then the type takes each member, and for a type
  that is no union the converse holds.
-/
theorem union_isSubtype_iff_offers
    (members : List Ty)
    (b : Ty) :
    ((union members).isSubtype b = true ↔
        ∃ c, b.Offers c ∧
          (c = .union members ∨
            (∀ bs, c ≠ .union bs) ∧ c.TakesEach members)) ∧
      ((union members).isSubtype b = true →
        b.TakesEach members) ∧
      ((∀ bs, b ≠ .union bs) →
        b.TakesEach members →
          (union members).isSubtype b = true) := by
  refine
    ⟨⟨exists_offered_of_union_isSubtype, ?_⟩, ?_,
      fun hb => (union_isSubtype_iff_forall hb).mpr⟩
  · rintro ⟨c, hOffers, rfl | ⟨hc, hTakes⟩⟩
    · exact hOffers.isSubtype (isSubtype_refl _)
    · exact
        hOffers.isSubtype
          ((union_isSubtype_iff_forall hc).mpr hTakes)
  · intro h a ha
    rcases exists_offered_of_union_isSubtype h with
      ⟨c, hOffers, rfl | ⟨-, hTakes⟩⟩
    · exact
        hOffers.isSubtype
          (isSubtype_union_of_mem ha (isSubtype_refl a))
    · exact hOffers.isSubtype (hTakes a ha)

/-
  A union is not below the same union with its members in
  another order, though that takes each of them.
-/
theorem union_not_isSubtype_reordered :
    (union [.str, .int]).TakesEach [.int, .str] ∧
      (union [.int, .str]).isSubtype (.union [.str, .int]) =
        false := by
  unfold TakesEach
  decide

end Ty

end SigCheck
