import SigCheck.Ty.Subtyping

/-
  The narrower of two types, as joining parameter lists uses
  it.

  Subtyping is not transitive where `Any` is involved, so
  what later proofs carry about the type of a joined
  parameter is `Ty.Narrows`: its meet with the type that it
  came from is the type itself.

  Key definitions include:
    * `Ty.Narrows`

  Main statements:
    * `Ty.isSubtype_refl`
    * `Ty.Narrows.isSubtype`
    * `Ty.narrows_of_meet`
-/

------------------------------------------------------------
-- Subtyping at the Ends
------------------------------------------------------------

namespace SigCheck

namespace Ty

/- Every type has a positive size. -/
theorem size_pos (t : Ty) : 0 < t.size := by
  cases t <;> simp [size]

/- Subtyping unfolds once. -/
theorem isSubtype_eq_step (a b : Ty) :
    ∃ depth,
      a.isSubtype b = subtypeStep (subtypeWithin depth) a b := by
  have hPos := a.size_pos
  refine ⟨a.size + b.size - 1, ?_⟩
  have hDepth :
      a.size + b.size = a.size + b.size - 1 + 1 := by
    omega
  unfold isSubtype
  rw [hDepth]
  rfl

/- Every type may stand where it is expected itself. -/
theorem isSubtype_refl (a : Ty) : a.isSubtype a = true := by
  rcases isSubtype_eq_step a a with ⟨depth, hStep⟩
  rw [hStep]
  unfold subtypeStep
  cases a <;> simp

/- Every type may stand where `Any` is expected. -/
theorem isSubtype_any (a : Ty) :
    a.isSubtype .any = true := by
  rcases isSubtype_eq_step a .any with ⟨depth, hStep⟩
  rw [hStep]
  cases a <;> rfl

theorem isAny_iff {a : Ty} : a.isAny = true ↔ a = .any := by
  cases a <;> simp [isAny]

end Ty

end SigCheck

------------------------------------------------------------
-- Narrowing
------------------------------------------------------------

namespace SigCheck

namespace Ty

/- The first type is its own meet with the second. -/
def Narrows (a b : Ty) : Prop :=
  a.meet b = some a

/- The meet of a type with itself. -/
theorem narrows_refl (a : Ty) : Narrows a a := by
  simp [Narrows, meet, meetBy, isSubtype_refl]

/- `Any` gives way on the right. -/
theorem narrows_any (a : Ty) : Narrows a .any := by
  cases hAny : a.isAny with
  | true =>
      rw [isAny_iff.mp hAny]
      rfl
  | false =>
      unfold Narrows meet meetBy
      rw [hAny]
      rfl

/- A subtype narrows, if it is not `Any`. -/
theorem narrows_of_isSubtype
    {a b : Ty}
    (hAny : a.isAny = false)
    (hLe : a.isSubtype b = true) : Narrows a b := by
  simp [Narrows, meet, meetBy, hAny, hLe]

/- A narrower type may stand for the wider one. -/
theorem Narrows.isSubtype
    {a b : Ty}
    (h : Narrows a b) : a.isSubtype b = true := by
  unfold Narrows meet meetBy at h
  split at h
  · rw [Option.some.inj h]
    exact isSubtype_refl a
  · split at h
    · rename_i hAny
      rw [isAny_iff.mp hAny]
      exact isSubtype_any a
    · split at h
      · assumption
      · split at h
        · rw [Option.some.inj h]
          exact isSubtype_refl a
        · cases h

/- A meet narrows both of its sides. -/
theorem narrows_of_meet
    {a b c : Ty}
    (h : a.meet b = some c) :
    Narrows c a ∧ Narrows c b := by
  unfold meet meetBy at h
  split at h
  · rename_i hAny
    cases h
    rw [isAny_iff.mp hAny]
    exact ⟨narrows_any b, narrows_refl b⟩
  · rename_i hLeft
    rw [Bool.not_eq_true] at hLeft
    split at h
    · rename_i hAny
      cases h
      rw [isAny_iff.mp hAny]
      exact ⟨narrows_refl a, narrows_any a⟩
    · rename_i hRight
      rw [Bool.not_eq_true] at hRight
      split at h
      · rename_i hLe
        cases h
        exact
          ⟨narrows_refl a, narrows_of_isSubtype hLeft hLe⟩
      · split at h
        · rename_i hGe
          cases h
          exact
            ⟨narrows_of_isSubtype hRight hGe,
              narrows_refl b⟩
        · cases h

end Ty

end SigCheck
