import SigCheck.Proofs.Consistency

/-
  Where subtyping is transitive.

  Subtyping is not transitive as a whole: `Any` is related to
  every type in both directions. Two comparisons compose if
  the type between them is definite, whatever the types at
  the ends are.

  Key definitions include:
    * `Ty.isDefinite`
    * `Ty.isAlternative`

  Correctness is proven by:
    * `Ty.alternative_isSubtype_iff`
    * `Ty.shapeStep_trans`
    * `Ty.isSubtype_trans`
-/

------------------------------------------------------------
-- Definite Types
------------------------------------------------------------

namespace SigCheck

mutual

/-
  The type has no `Any`, `Never`, callable or parameter list
  at any depth.
-/
def Ty.isDefinite : Ty → Bool
  | .any => false
  | .never => false
  | .callable _ _ => false
  | .list t => t.isDefinite
  | .set t => t.isDefinite
  | .dict k v => k.isDefinite && v.isDefinite
  | .tuple ts => Ty.areDefinite ts
  | .union ts => Ty.areDefinite ts
  | .generic _ args => TypeArg.areDefinite args
  | _ => true

/- All types of a list are definite. -/
def Ty.areDefinite : List Ty → Bool
  | [] => true
  | t :: ts => t.isDefinite && Ty.areDefinite ts

/- The class argument is a definite type. -/
def TypeArg.isDefinite : TypeArg → Bool
  | .type t => t.isDefinite
  | .params _ => false

/- All class arguments are definite types. -/
def TypeArg.areDefinite : List TypeArg → Bool
  | [] => true
  | a :: args => a.isDefinite && TypeArg.areDefinite args

end

theorem Ty.areDefinite_iff {ts : List Ty} :
    Ty.areDefinite ts = true ↔
      ∀ t ∈ ts, t.isDefinite = true := by
  induction ts with
  | nil => simp [areDefinite]
  | cons t ts ih => simp [areDefinite, ih]

theorem TypeArg.areDefinite_iff {args : List TypeArg} :
    TypeArg.areDefinite args = true ↔
      ∀ a ∈ args, a.isDefinite = true := by
  induction args with
  | nil => simp [areDefinite]
  | cons a args ih => simp [areDefinite, ih]

end SigCheck

------------------------------------------------------------
-- Single Alternatives
------------------------------------------------------------

namespace SigCheck

namespace Ty

/-
  The type is one alternative of a union in normal form:
  neither `Any` nor `Never`, and not a union itself.
-/
def isAlternative : Ty → Bool
  | .any => false
  | .never => false
  | .union _ => false
  | _ => true

variable {a b : Ty}

theorem ne_union_of_isAlternative
    (h : a.isAlternative = true) :
    ∀ members, a ≠ .union members := by
  rintro members rfl
  cases h

theorem eq_or_ne_ends (a : Ty) :
    a = .any ∨ a = .never ∨ a ≠ .any ∧ a ≠ .never := by
  cases a <;> simp

/- What is no alternative is an end or a union. -/
theorem eq_union_of_not_isAlternative
    (ha : a ≠ .any ∧ a ≠ .never)
    (h : a.isAlternative = false) :
    ∃ members, a = .union members := by
  cases a with
  | any => exact absurd rfl ha.1
  | never => exact absurd rfl ha.2
  | union members => exact ⟨members, rfl⟩
  | _ => cases h

theorem never_isSubtype (a : Ty) :
    Ty.never.isSubtype a = true := by
  rw [isSubtype_eq]
  cases a <;> rfl

theorem not_isSubtype_never
    (h : a.isAlternative = true) :
    a.isSubtype .never = false := by
  rw [isSubtype_eq]
  cases a <;> first | rfl | cases h

/- A type is below a union that it is or a member takes. -/
theorem isSubtype_union_iff
    {members : List Ty}
    (ha : a ≠ .any ∧ a ≠ .never) :
    a.isSubtype (.union members) = true ↔
      a = .union members ∨
        ∃ b ∈ members, a.isSubtype b = true := by
  rw [isSubtype_eq]
  cases a with
  | any => exact absurd rfl ha.1
  | never => exact absurd rfl ha.2
  | _ => simp [subtypeStep]

/-
  Alternatives are related if they are equal, below `object`,
  or by their shapes.
-/
theorem alternative_isSubtype_iff
    (ha : a.isAlternative = true)
    (hb : b.isAlternative = true) :
    a.isSubtype b = true ↔
      a = b ∨ b = .object ∨
        shapeStep isSubtype a b = true := by
  rw [isSubtype_eq]
  by_cases hSame : a = b
  · subst hSame
    cases a <;> simp [subtypeStep]
  · cases a with
    | any => cases ha
    | never => cases ha
    | union _ => cases ha
    | _ =>
        cases b with
        | any => cases hb
        | never => cases hb
        | union _ => cases hb
        | _ => simp_all [subtypeStep, shapeStep]

end Ty

end SigCheck

------------------------------------------------------------
-- Composition
------------------------------------------------------------

namespace SigCheck

/- Relations that compose on the members compose on lists. -/
theorem pointwise_trans
    {α : Type} {rel : α → α → Bool} {as bs cs : List α}
    (hTrans :
      ∀ a ∈ as, ∀ b ∈ bs, ∀ c ∈ cs,
        rel a b = true → rel b c = true → rel a c = true)
    (hab : pointwise rel as bs = true)
    (hbc : pointwise rel bs cs = true) :
    pointwise rel as cs = true := by
  induction as generalizing bs cs with
  | nil =>
      cases bs with
      | nil => exact hbc
      | cons b bs => cases hab
  | cons a as ih =>
      cases bs with
      | nil => cases hab
      | cons b bs =>
          cases cs with
          | nil => cases hbc
          | cons c cs =>
              rcases Bool.and_eq_true_iff.mp hab with
                ⟨hHead, hTail⟩
              rcases Bool.and_eq_true_iff.mp hbc with
                ⟨hHead', hTail'⟩
              refine Bool.and_eq_true_iff.mpr ⟨?_, ?_⟩
              · exact
                  hTrans a (by simp) b (by simp) c (by simp)
                    hHead hHead'
              · refine ih ?_ hTail hTail'
                intro x hx y hy z hz
                exact
                  hTrans x (by simp [hx]) y (by simp [hy]) z
                    (by simp [hz])

/- Two comparisons compose below some total size. -/
def Ty.ComposesBelow (bound : Nat) : Prop :=
  ∀ a b c : Ty, a.size + b.size + c.size < bound →
    b.isDefinite = true → a.isSubtype b = true →
      b.isSubtype c = true → a.isSubtype c = true

theorem Ty.ComposesBelow.mono
    {bound smaller : Nat}
    (h : ComposesBelow bound)
    (hLe : smaller ≤ bound) : ComposesBelow smaller :=
  fun a b c hSmall => h a b c (Nat.lt_of_lt_of_le hSmall hLe)

/- Interchangeable class arguments compose. -/
theorem TypeArg.isConsistent_trans
    {a b c : TypeArg}
    (ih : Ty.ComposesBelow (a.size + b.size + c.size))
    (hb : b.isDefinite = true)
    (hab : a.isConsistent b = true)
    (hbc : b.isConsistent c = true) :
    a.isConsistent c = true := by
  cases b with
  | params _ => cases hb
  | type y =>
      cases a with
      | params s => cases s <;> cases hab
      | type x =>
          cases c with
          | params _ => cases hbc
          | type z =>
              rcases Bool.and_eq_true_iff.mp hab with
                ⟨hxy, hyx⟩
              rcases Bool.and_eq_true_iff.mp hbc with
                ⟨hyz, hzy⟩
              simp only [TypeArg.size] at ih
              exact
                Bool.and_eq_true_iff.mpr
                  ⟨ih x y z (by omega) hb hxy hyz,
                    ih z y x (by omega) hb hzy hyx⟩

/- So do lists of them. -/
theorem TypeArg.pointwise_isConsistent_trans
    {as bs cs : List TypeArg}
    (ih :
      Ty.ComposesBelow
        (sizeAll as + sizeAll bs + sizeAll cs))
    (hbs : areDefinite bs = true)
    (hab : pointwise isConsistent as bs = true)
    (hbc : pointwise isConsistent bs cs = true) :
    pointwise isConsistent as cs = true := by
  refine pointwise_trans ?_ hab hbc
  intro a ha b hb c hc
  have := size_le_sizeAll ha
  have := size_le_sizeAll hb
  have := size_le_sizeAll hc
  exact
    isConsistent_trans (ih.mono (by omega))
      (areDefinite_iff.mp hbs b hb)

namespace Ty

variable {a b c : Ty}

/- Members of tuples compose. -/
theorem pointwise_isSubtype_trans
    {as bs cs : List Ty}
    (ih :
      ComposesBelow
        (sizeAll as + sizeAll bs + sizeAll cs + 1))
    (hbs : areDefinite bs = true)
    (hab : pointwise isSubtype as bs = true)
    (hbc : pointwise isSubtype bs cs = true) :
    pointwise isSubtype as cs = true := by
  refine pointwise_trans ?_ hab hbc
  intro a ha b hb c hc
  have := size_le_sizeAll ha
  have := size_le_sizeAll hb
  have := size_le_sizeAll hc
  exact ih a b c (by omega) (areDefinite_iff.mp hbs b hb)

/- Items that are the same up to `Any` compose. -/
theorem items_trans
    (hb : b.isDefinite = true)
    (hab : (a == b || a.isAny || b.isAny) = true)
    (hbc : (b == c || b.isAny || c.isAny) = true) :
    (a == c || a.isAny || c.isAny) = true := by
  have hNot : b ≠ .any := by
    rintro rfl
    cases hb
  simp only [Bool.or_eq_true, isAny_iff, hNot, or_false]
    at hab hbc ⊢
  rcases hab with hSame | hAny
  · cases LawfulBEq.eq_of_beq hSame
    exact hbc.imp_left Or.inl
  · exact Or.inl (Or.inr hAny)

/- The rules for shapes compose. -/
theorem shapeStep_trans
    (ih : ComposesBelow (a.size + b.size + c.size))
    (hb : b.isDefinite = true)
    (hab : shapeStep isSubtype a b = true)
    (hbc : shapeStep isSubtype b c = true) :
    shapeStep isSubtype a c = true := by
  cases b with
  | int =>
      cases a with
      | bool =>
          cases c with
          | float => rfl
          | _ => cases hbc
      | _ => cases hab
  | list y =>
      cases a with
      | list x =>
          cases c with
          | list z =>
              exact items_trans (b := y) hb hab hbc
          | _ => cases hbc
      | _ => cases hab
  | set y =>
      cases a with
      | set x =>
          cases c with
          | set z =>
              exact items_trans (b := y) hb hab hbc
          | _ => cases hbc
      | _ => cases hab
  | dict k v =>
      cases a with
      | dict _ _ =>
          cases c with
          | dict _ _ =>
              rcases Bool.and_eq_true_iff.mp hab with
                ⟨hKeys, hValues⟩
              cases LawfulBEq.eq_of_beq hKeys
              cases LawfulBEq.eq_of_beq hValues
              exact hbc
          | _ => cases hbc
      | _ => cases hab
  | tuple ys =>
      cases a with
      | tuple xs =>
          cases c with
          | tuple zs =>
              simp only [size] at ih
              exact
                pointwise_isSubtype_trans
                  (ih.mono (by omega)) hb hab hbc
          | _ => cases hbc
      | _ => cases hab
  | generic n ys =>
      cases a with
      | generic m xs =>
          cases c with
          | generic o zs =>
              rcases Bool.and_eq_true_iff.mp hab with
                ⟨hName, hArgs⟩
              rcases Bool.and_eq_true_iff.mp hbc with
                ⟨hName', hArgs'⟩
              cases LawfulBEq.eq_of_beq hName
              refine Bool.and_eq_true_iff.mpr ⟨hName', ?_⟩
              simp only [size] at ih
              exact
                TypeArg.pointwise_isConsistent_trans
                  (ih.mono (by omega)) hb hArgs hArgs'
          | _ => cases hbc
      | _ => cases hab
  | typeVar n =>
      cases a with
      | typeVar m =>
          cases c with
          | typeVar o =>
              cases LawfulBEq.eq_of_beq hab
              exact hbc
          | _ => cases hbc
      | _ => cases hab
  | callable _ _ => cases hb
  | _ =>
      -- Nothing is above or nothing is below by its shape.
      cases a <;> cases hab <;> cases c <;> cases hbc

/- Alternatives compose through a definite one. -/
theorem alternative_trans
    (ih : ComposesBelow (a.size + b.size + c.size))
    (ha : a.isAlternative = true)
    (hb : b.isAlternative = true)
    (hc : c.isAlternative = true)
    (hDefinite : b.isDefinite = true)
    (hab : a.isSubtype b = true)
    (hbc : b.isSubtype c = true) :
    a.isSubtype c = true := by
  rw [alternative_isSubtype_iff ha hc]
  rcases (alternative_isSubtype_iff ha hb).mp hab with
    rfl | rfl | hab
  · exact (alternative_isSubtype_iff ha hc).mp hbc
  · -- Only `object` itself is above `object`.
    rcases (alternative_isSubtype_iff hb hc).mp hbc with
      rfl | rfl | hbc
    · exact Or.inr (Or.inl rfl)
    · exact Or.inr (Or.inl rfl)
    · cases c <;> cases hbc
  · rcases (alternative_isSubtype_iff hb hc).mp hbc with
      rfl | rfl | hbc
    · exact Or.inr (Or.inr hab)
    · exact Or.inr (Or.inl rfl)
    · exact
        Or.inr (Or.inr (shapeStep_trans ih hDefinite hab hbc))

/- One step of composition, by the forms of the types. -/
theorem trans_of_composesBelow
    (ih : ComposesBelow (a.size + b.size + c.size))
    (hb : b.isDefinite = true)
    (hab : a.isSubtype b = true)
    (hbc : b.isSubtype c = true) :
    a.isSubtype c = true := by
  rcases a.eq_or_ne_ends with rfl | rfl | ha
  · exact any_isSubtype c
  · exact never_isSubtype c
  have hEnds : b ≠ .any ∧ b ≠ .never := by
    constructor <;> rintro rfl <;> cases hb
  by_cases hUnion : ∃ cs, c = .union cs
  · rcases hUnion with ⟨cs, rfl⟩
    rcases (isSubtype_union_iff hEnds).mp hbc with
      rfl | ⟨c, hMem, hLe⟩
    · exact hab
    · have := size_le_sizeAll hMem
      simp only [size] at ih
      exact
        isSubtype_union_of_mem hMem
          (ih a b c (by omega) hb hab hLe)
  rw [not_exists] at hUnion
  cases hMiddle : b.isAlternative with
  | false =>
      -- The middle type is a union and falls to its members.
      rcases eq_union_of_not_isAlternative hEnds hMiddle with
        ⟨bs, rfl⟩
      rcases (isSubtype_union_iff ha).mp hab with
        rfl | ⟨b, hMem, hLe⟩
      · exact hbc
      · have := size_le_sizeAll hMem
        simp only [size] at ih
        exact
          ih a b c (by omega) (areDefinite_iff.mp hb b hMem)
            hLe
            ((union_isSubtype_iff_forall hUnion).mp hbc b
              hMem)
  | true =>
      cases hLeft : a.isAlternative with
      | false =>
          rcases eq_union_of_not_isAlternative ha hLeft with
            ⟨as, rfl⟩
          have hEach :=
            (union_isSubtype_iff_forall
              (ne_union_of_isAlternative hMiddle)).mp hab
          refine
            (union_isSubtype_iff_forall hUnion).mpr
              fun a hMem => ?_
          have := size_le_sizeAll hMem
          simp only [size] at ih
          exact ih a b c (by omega) hb (hEach a hMem) hbc
      | true =>
          rcases c.eq_or_ne_ends with rfl | rfl | hc
          · exact isSubtype_any a
          · rw [not_isSubtype_never hMiddle] at hbc
            cases hbc
          · cases hRight : c.isAlternative with
            | false =>
                rcases
                  eq_union_of_not_isAlternative hc hRight
                  with ⟨cs, rfl⟩
                exact absurd rfl (hUnion cs)
            | true =>
                exact
                  alternative_trans ih hLeft hMiddle hRight
                    hb hab hbc

/- Two comparisons compose at all sizes. -/
theorem composesBelow (bound : Nat) : ComposesBelow bound := by
  induction bound with
  | zero => exact fun _ _ _ hSmall => absurd hSmall (by omega)
  | succ n ih =>
      intro a b c hSmall
      refine trans_of_composesBelow fun x y z hSmaller => ?_
      exact ih x y z (by omega)

/-
  Two comparisons compose if the type between them is
  definite.
-/
theorem isSubtype_trans
    (hb : b.isDefinite = true)
    (hab : a.isSubtype b = true)
    (hbc : b.isSubtype c = true) :
    a.isSubtype c = true :=
  composesBelow _ a b c (Nat.lt_succ_self _) hb hab hbc

end Ty

end SigCheck
