import SigCheck.Proofs.SameShape

/-
  Where subtyping takes `Any` for every type.

  A type has types at places inside. Subtyping treats these
  places differently: it goes on below the components of a
  tuple, the arguments of a class and return types, takes
  `Any` for the item of a list or a set but looks no deeper,
  and compares the keys and values of a dictionary by
  equality. So a type is consistent with what is left of it
  after erasing types inside to `Any` only if the erased
  places allow it.

  Key definitions include:
    * `Place`, `Ty.places`
    * `Ty.Erases`
    * `Ty.Tolerates`

  Correctness is proven by:
    * `Ty.consistent_iff_places`
    * `Ty.consistent_iff_tolerates`
-/

------------------------------------------------------------
-- Places
------------------------------------------------------------

namespace SigCheck

/- What is left of a class argument without its types. -/
def TypeArg.blank : TypeArg → TypeArg
  | .type _ => .type .any
  | .params s => .params s.blank

/- What is left of a type without the types inside. -/
def Ty.blank : Ty → Ty
  | .list _ => .list .any
  | .set _ => .set .any
  | .dict _ _ => .dict .any .any
  | .tuple items => .tuple (items.map fun _ => .any)
  | .union members => .union (members.map fun _ => .any)
  | .generic name args => .generic name (args.map .blank)
  | .callable s _ => .callable s.blank .any
  | t => t

/-
  How subtyping treats a type inside another: items of lists
  and sets, entries that it compares by equality, members of
  a union, components that it compares by subtyping, and the
  parameters of a callable.
-/
inductive Place where
  | item
  | entry
  | member
  | component
  | parameter
  deriving DecidableEq

/- The types inside a class argument. -/
def TypeArg.places : TypeArg → List (Place × Ty)
  | .type t => [(.component, t)]
  | .params s => s.parameters.map fun p => (.entry, p.ty)

/- The types inside a type, with how they are treated. -/
def Ty.places : Ty → List (Place × Ty)
  | .list item => [(.item, item)]
  | .set item => [(.item, item)]
  | .dict key value => [(.entry, key), (.entry, value)]
  | .tuple items => items.map fun t => (.component, t)
  | .union members => members.map fun t => (.member, t)
  | .generic _ args => args.flatMap TypeArg.places
  | .callable s ret =>
      (.component, ret)
        :: s.parameters.map fun p => (.parameter, p.ty)
  | _ => []

/- Either type may stand where the other is expected. -/
def Ty.Consistent (a b : Ty) : Prop :=
  a.isSubtype b = true ∧ b.isSubtype a = true

namespace Place

/- What a place asks of the two types that stand there. -/
def Agrees (place : Place) (a b : Ty) : Prop :=
  match place with
  | .item => a = b ∨ a = .any ∨ b = .any
  | .entry => a = b
  | .parameter => a = .any ↔ b = .any
  | _ => True

/- The types at the place have to be consistent as well. -/
def isDeep : Place → Bool
  | .component => true
  | .parameter => true
  | _ => false

/- Two types inside others, at places of one kind. -/
structure Consistent (e f : Place × Ty) : Prop where
  place : e.1 = f.1
  agrees : e.1.Agrees e.2 f.2
  deep : e.1.isDeep = true → e.2.Consistent f.2

end Place

end SigCheck

------------------------------------------------------------
-- Subtyping of One Shape
------------------------------------------------------------

namespace SigCheck

/- A relation that holds at every place of two lists. -/
theorem pointwise_iff_forall₂
    {α : Type} {rel : α → α → Bool} {as bs : List α} :
    pointwise rel as bs = true ↔
      List.Forall₂ (fun a b => rel a b = true) as bs := by
  induction as generalizing bs with
  | nil => cases bs <;> simp [pointwise]
  | cons a as ih => cases bs <;> simp [pointwise, ih]

/- Two relations, one of them read backwards. -/
theorem forall₂_and_flip_iff
    {α : Type} {rel rel' : α → α → Prop} {as bs : List α} :
    List.Forall₂ rel as bs ∧ List.Forall₂ rel' bs as ↔
      List.Forall₂ (fun a b => rel a b ∧ rel' b a) as bs := by
  constructor
  · rintro ⟨h, h'⟩
    induction h with
    | nil => exact .nil
    | cons hab _ ih =>
        cases h' with
        | cons hba hRest => exact .cons ⟨hab, hba⟩ (ih hRest)
  · intro h
    exact
      ⟨h.imp fun _ _ hab => hab.1,
        h.flip.imp fun _ _ hab => hab.2⟩

/- Related lists stay so in parts of equal lengths. -/
theorem forall₂_append_iff
    {α : Type} {rel : α → α → Prop}
    {as bs as' bs' : List α}
    (hLength : as.length = bs.length) :
    List.Forall₂ rel (as ++ as') (bs ++ bs') ↔
      List.Forall₂ rel as bs ∧ List.Forall₂ rel as' bs' := by
  induction as generalizing bs with
  | nil =>
      rw [List.eq_nil_of_length_eq_zero hLength.symm]
      simp
  | cons a as ih =>
      cases bs with
      | nil => cases hLength
      | cons b bs =>
          simp [ih (Nat.succ.inj hLength), and_assoc]

/- Interchangeable arguments are so with themselves. -/
theorem TypeArg.isConsistent_refl (a : TypeArg) :
    a.isConsistent a = true := by
  cases a with
  | type t =>
      exact
        Bool.and_eq_true_iff.mpr
          ⟨t.isSubtype_refl, t.isSubtype_refl⟩
  | params s =>
      have hAlike (ps : List Parameter) :
          Parameter.equivalentAll ps ps = true :=
        ParamList.equivalentAll_iff.mpr
          (List.forall₂_same.mpr fun p _ => .refl p)
      cases s with
      | params ps => exact hAlike ps
      | spec lead var =>
          exact
            Bool.and_eq_true_iff.mpr
              ⟨beq_self_eq_true var, hAlike lead⟩
      | gradual => rfl

namespace Ty

variable {a b : Ty}

theorem any_isSubtype (a : Ty) :
    Ty.any.isSubtype a = true := by
  rw [isSubtype_eq]
  rfl

theorem consistent_refl (a : Ty) : a.Consistent a :=
  ⟨isSubtype_refl a, isSubtype_refl a⟩

theorem Consistent.symm
    (h : a.Consistent b) : b.Consistent a :=
  ⟨h.2, h.1⟩

/- Only `Any` narrows `Any`, else narrowing is subtyping. -/
theorem narrows_iff :
    Narrows a b ↔
      (a = .any → b = .any) ∧ a.isSubtype b = true := by
  constructor
  · intro h
    refine ⟨?_, h.isSubtype⟩
    rintro rfl
    exact Option.some.inj h
  · rintro ⟨hAny, hLe⟩
    cases hLeft : a.isAny with
    | false => exact narrows_of_isSubtype hLeft hLe
    | true =>
        have hBoth := isAny_iff.mp hLeft
        rw [hBoth, hAny hBoth]
        exact narrows_refl _

/-
  Types that only their shapes relate, and whose rule holds
  of a type and itself.
-/
theorem isSubtype_iff_shapeStep
    (hStep :
      subtypeStep isSubtype a b =
        if a == b then true else shapeStep isSubtype a b)
    (hSelf : a = b → shapeStep isSubtype a b = true) :
    a.isSubtype b = true ↔
      shapeStep isSubtype a b = true := by
  rw [isSubtype_eq, hStep]
  split
  · rename_i hSame
    rw [hSelf (LawfulBEq.eq_of_beq hSame)]
  · rfl

/- Narrowing both ways is consistency of the two types. -/
theorem narrows_both_iff :
    Narrows a b ∧ Narrows b a ↔
      (a = .any ↔ b = .any) ∧ a.Consistent b := by
  rw [narrows_iff, narrows_iff, and_and_and_comm,
    ← iff_def]
  rfl

section Rules

variable {k l v w r q : Ty} {as bs : List Ty}

theorem list_isSubtype_list_iff :
    (list a).isSubtype (.list b) = true ↔
      a = b ∨ a = .any ∨ b = .any := by
  rw [isSubtype_eq]
  simp [subtypeStep, shapeStep, isAny_iff, or_assoc]

theorem set_isSubtype_set_iff :
    (set a).isSubtype (.set b) = true ↔
      a = b ∨ a = .any ∨ b = .any := by
  rw [isSubtype_eq]
  simp [subtypeStep, shapeStep, isAny_iff, or_assoc]

theorem dict_isSubtype_dict_iff :
    (dict k v).isSubtype (.dict l w) = true ↔
      k = l ∧ v = w := by
  rw [isSubtype_eq]
  simp [subtypeStep, shapeStep]

theorem tuple_isSubtype_tuple_iff :
    (tuple as).isSubtype (.tuple bs) = true ↔
      List.Forall₂ (fun a b => a.isSubtype b = true) as bs := by
  rw [← pointwise_iff_forall₂]
  refine isSubtype_iff_shapeStep rfl fun hSame => ?_
  cases Ty.tuple.inj hSame
  exact
    pointwise_iff_forall₂.mpr
      (List.forall₂_same.mpr fun a _ => isSubtype_refl a)

theorem generic_isSubtype_generic_iff
    {m n : String} {as bs : List TypeArg} :
    (generic m as).isSubtype (.generic n bs) = true ↔
      m = n ∧
        List.Forall₂ (fun a b => a.isConsistent b = true)
          as bs := by
  have hName : m = n ↔ (m == n) = true := by simp
  rw [← pointwise_iff_forall₂, hName, ← Bool.and_eq_true]
  refine isSubtype_iff_shapeStep rfl fun hSame => ?_
  rcases Ty.generic.inj hSame with ⟨rfl, rfl⟩
  rw [shapeStep, beq_self_eq_true, Bool.true_and]
  exact
    pointwise_iff_forall₂.mpr
      (List.forall₂_same.mpr fun a _ => a.isConsistent_refl)

/- The parameter list and the return type both fit. -/
theorem callable_isSubtype_iff_isCompatibleWith
    {s t : Signature}
    (hDeclared : s.Declared) :
    (callable s r).isSubtype (.callable t q) = true ↔
      s.isCompatibleWith t = true ∧ r.isSubtype q = true := by
  rw [← Bool.and_eq_true]
  refine isSubtype_iff_shapeStep rfl fun hSame => ?_
  rcases Ty.callable.inj hSame with ⟨rfl, rfl⟩
  exact
    Bool.and_eq_true_iff.mpr
      ⟨Signature.isCompatibleWith_self hDeclared,
        isSubtype_refl r⟩

/- The expected parameters narrow, and the return type fits. -/
theorem callable_isSubtype_callable_iff
    {s t : Signature}
    (hShape : s.blank = t.blank)
    (hDeclared : t.Declared) :
    (callable s r).isSubtype (.callable t q) = true ↔
      List.Forall₂ Parameter.Suits t.parameters
          s.parameters ∧
        r.isSubtype q = true := by
  have hCompatible :=
    Signature.isCompatibleWith_iff_suits hShape.symm hDeclared
  rw [← hCompatible]
  exact
    callable_isSubtype_iff_isCompatibleWith
      (hDeclared.of_blank hShape.symm)

end Rules

end Ty

end SigCheck

------------------------------------------------------------
-- One Layer
------------------------------------------------------------

namespace SigCheck

/- Relations that agree on related members agree on lists. -/
theorem forall₂_congr_of_forall₂
    {α : Type} {rel rel' shape : α → α → Prop}
    {as bs : List α}
    (hShape : List.Forall₂ shape as bs)
    (h : ∀ a b, shape a b → (rel a b ↔ rel' a b)) :
    List.Forall₂ rel as bs ↔ List.Forall₂ rel' as bs := by
  induction hShape with
  | nil => simp
  | cons hab _ ih => simp [h _ _ hab, ih]

namespace Place

variable {a b : Ty}

@[simp]
theorem consistent_item :
    Consistent (.item, a) (.item, b) ↔
      a = b ∨ a = .any ∨ b = .any :=
  ⟨fun h => h.agrees, fun h => ⟨rfl, h, nofun⟩⟩

@[simp]
theorem consistent_entry :
    Consistent (.entry, a) (.entry, b) ↔ a = b :=
  ⟨fun h => h.agrees, fun h => ⟨rfl, h, nofun⟩⟩

@[simp]
theorem consistent_component :
    Consistent (.component, a) (.component, b) ↔
      a.Consistent b :=
  ⟨fun h => h.deep rfl, fun h => ⟨rfl, trivial, fun _ => h⟩⟩

@[simp]
theorem consistent_parameter :
    Consistent (.parameter, a) (.parameter, b) ↔
      (a = .any ↔ b = .any) ∧ a.Consistent b :=
  ⟨fun h => ⟨h.agrees, h.deep rfl⟩,
    fun h => ⟨rfl, h.1, fun _ => h.2⟩⟩

end Place

/- Alike parameters of one shape have one type. -/
theorem Parameter.alike_iff_of_blank
    {p q : Parameter}
    (h : p.blank = q.blank) : p.Alike q ↔ p.ty = q.ty := by
  rcases Parameter.blank_eq_iff.mp h with
    ⟨hName, hKind, hOptional⟩
  exact
    ⟨fun h => h.ty,
      fun hTy => ⟨hKind, hOptional, hTy, Or.inr hName⟩⟩

/- Class arguments are consistent place by place. -/
theorem TypeArg.isConsistent_iff_places
    {a b : TypeArg}
    (hShape : a.blank = b.blank) :
    a.isConsistent b = true ↔
      List.Forall₂ Place.Consistent a.places b.places := by
  cases a with
  | type t =>
      cases b with
      | type u =>
          simp [isConsistent, consistentBy, places, Ty.Consistent]
      | params s => cases hShape
  | params s =>
      cases b with
      | type u => cases hShape
      | params t =>
          have hBlank := TypeArg.params.inj hShape
          have hParameters := Signature.parameters_blank hBlank
          simp only [places, List.forall₂_map_left_iff,
            List.forall₂_map_right_iff,
            Place.consistent_entry]
          rw [← forall₂_congr_of_forall₂ hParameters
            fun p q => Parameter.alike_iff_of_blank,
            ← ParamList.equivalentAll_iff]
          cases s with
          | params ps =>
              cases t with
              | params qs => rfl
              | _ => cases hBlank
          | spec lead var =>
              cases t with
              | spec lead' var' =>
                  cases (Signature.spec.inj hBlank).2
                  simp [isConsistent, consistentBy,
                    Signature.equivalent,
                    Signature.parameters]
              | _ => cases hBlank
          | gradual =>
              cases t with
              | gradual =>
                  simp [isConsistent, consistentBy,
                    Signature.parameters,
                    Parameter.equivalentAll]
              | _ => cases hBlank

/- Class arguments of one shape have places alike. -/
theorem TypeArg.places_of_blank
    {a b : TypeArg}
    (hShape : a.blank = b.blank) :
    List.Forall₂ (fun e f => e.1 = f.1) a.places
      b.places := by
  cases a with
  | type t =>
      cases b with
      | type u => exact .cons rfl .nil
      | params s => cases hShape
  | params s =>
      cases b with
      | type u => cases hShape
      | params t =>
          have hParameters :=
            Signature.parameters_blank
              (TypeArg.params.inj hShape)
          simpa [places] using
            hParameters.imp fun _ _ _ => trivial

/- Lists of class arguments are consistent as their places. -/
theorem TypeArg.forall₂_isConsistent_iff_places
    {as bs : List TypeArg}
    (hShape : as.map TypeArg.blank = bs.map TypeArg.blank) :
    List.Forall₂ (fun a b => a.isConsistent b = true)
        as bs ↔
      List.Forall₂ Place.Consistent
        (as.flatMap TypeArg.places)
        (bs.flatMap TypeArg.places) := by
  induction as generalizing bs with
  | nil =>
      cases bs with
      | nil => simp
      | cons b bs => cases hShape
  | cons a as ih =>
      cases bs with
      | nil => cases hShape
      | cons b bs =>
          rcases List.cons.inj hShape with ⟨hHead, hTail⟩
          rw [List.flatMap_cons, List.flatMap_cons,
            forall₂_append_iff
              (TypeArg.places_of_blank hHead).length_eq,
            List.forall₂_cons, ih hTail,
            TypeArg.isConsistent_iff_places hHead]

/- Consistent places are so in either order. -/
theorem Place.Consistent.symm
    {e f : Place × Ty}
    (h : Consistent e f) : Consistent f e := by
  rcases e with ⟨place, a⟩
  rcases f with ⟨place', b⟩
  rcases h with ⟨hPlace, hAgrees, hDeep⟩
  simp only at hPlace hAgrees hDeep
  subst hPlace
  refine ⟨rfl, ?_, fun h => (hDeep h).symm⟩
  cases place with
  | item =>
      rcases hAgrees with hSame | hLeft | hRight
      · exact Or.inl hSame.symm
      · exact Or.inr (Or.inr hLeft)
      · exact Or.inr (Or.inl hRight)
  | entry => exact hAgrees.symm
  | parameter => exact hAgrees.symm
  | _ => trivial

namespace Ty

variable {t u : Ty}

/- The rule for generic classes in both directions. -/
theorem generic_consistent_iff
    {m n : String} {as bs : List TypeArg}
    (hShape : (generic m as).blank = (generic n bs).blank) :
    (generic m as).Consistent (.generic n bs) ↔
      List.Forall₂ Place.Consistent (generic m as).places
        (generic n bs).places := by
  rcases Ty.generic.inj hShape with ⟨rfl, hArgs⟩
  simp only [Ty.Consistent, generic_isSubtype_generic_iff,
    true_and, places,
    TypeArg.forall₂_isConsistent_iff_places hArgs,
    TypeArg.forall₂_isConsistent_iff_places hArgs.symm]
  refine and_iff_left_of_imp fun h => ?_
  exact h.flip.imp fun _ _ hPlace => hPlace.symm

/- The rule for callables in both directions. -/
theorem callable_consistent_iff
    {s s' : Signature} {r r' : Ty}
    (hShape : (callable s r).blank = (callable s' r').blank)
    (hDeclared : s.Declared) :
    (callable s r).Consistent (.callable s' r') ↔
      List.Forall₂ Place.Consistent (callable s r).places
        (callable s' r').places := by
  have hBlank := (Ty.callable.inj hShape).1
  have hParameters := Signature.parameters_blank hBlank
  have hSuits :
      List.Forall₂ Parameter.Suits s.parameters
            s'.parameters ∧
          List.Forall₂ Parameter.Suits s'.parameters
            s.parameters ↔
        List.Forall₂
          (fun p q =>
            (p.ty = .any ↔ q.ty = .any) ∧
              p.ty.Consistent q.ty)
          s.parameters s'.parameters := by
    rw [forall₂_and_flip_iff]
    apply forall₂_congr_of_forall₂ hParameters
    intro p q hpq
    refine Iff.trans ⟨fun h => ⟨h.1.ty, h.2.ty⟩, ?_⟩
      narrows_both_iff
    exact fun h => ⟨⟨hpq, h.1⟩, ⟨hpq.symm, h.2⟩⟩
  simp only [Ty.Consistent,
    callable_isSubtype_callable_iff hBlank
      (hDeclared.of_blank hBlank),
    callable_isSubtype_callable_iff hBlank.symm hDeclared,
    places, List.forall₂_cons, List.forall₂_map_left_iff,
    List.forall₂_map_right_iff, Place.consistent_component,
    Place.consistent_parameter]
  simp only [Ty.Consistent] at hSuits
  rw [← hSuits]
  tauto

/-
  Two types of one shape are consistent exactly if they are
  so at each place. Unions are compared as a whole.
-/
theorem consistent_iff_places
    (hShape : t.blank = u.blank)
    (hUnion : ∀ members, t ≠ .union members)
    (hDeclared :
      ∀ s ret, t = .callable s ret → s.Declared) :
    t.Consistent u ↔
      List.Forall₂ Place.Consistent t.places u.places := by
  have hFlip (a b : Ty) :
      b = a ∨ b = .any ∨ a = .any ↔
        a = b ∨ a = .any ∨ b = .any :=
    or_congr eq_comm or_comm
  cases t with
  | list a =>
      cases u with
      | list b =>
          simp [Ty.Consistent, places,
            list_isSubtype_list_iff, hFlip a b]
      | _ => cases hShape
  | set a =>
      cases u with
      | set b =>
          simp [Ty.Consistent, places,
            set_isSubtype_set_iff, hFlip a b]
      | _ => cases hShape
  | dict k v =>
      cases u with
      | dict l w =>
          simp only [Ty.Consistent, places,
            dict_isSubtype_dict_iff, List.forall₂_cons,
            List.forall₂_nil_left_iff, and_true,
            Place.consistent_entry]
          exact
            and_iff_left_of_imp fun h =>
              ⟨h.1.symm, h.2.symm⟩
      | _ => cases hShape
  | tuple as =>
      cases u with
      | tuple bs =>
          simp only [Ty.Consistent, places,
            tuple_isSubtype_tuple_iff,
            forall₂_and_flip_iff,
            List.forall₂_map_left_iff,
            List.forall₂_map_right_iff,
            Place.consistent_component]
      | _ => cases hShape
  | union members => exact absurd rfl (hUnion members)
  | generic n as =>
      cases u with
      | generic m bs => exact generic_consistent_iff hShape
      | _ => cases hShape
  | callable s r =>
      cases u with
      | callable s' r' =>
          exact
            callable_consistent_iff hShape
              (hDeclared s r rfl)
      | _ => cases hShape
  | _ =>
      -- Types without places are equal if of one shape.
      cases u <;> try cases hShape
      all_goals exact iff_of_true (consistent_refl _) .nil

end Ty

end SigCheck

------------------------------------------------------------
-- Erasing Types to `Any`
------------------------------------------------------------

namespace SigCheck

namespace Ty

/-
  The second type is got from the first by replacing types
  inside it with `Any`, at any depth.
-/
inductive Erases : Ty → Ty → Prop
  | any (t : Ty) : Erases t .any
  | inside {t u : Ty} :
      t.blank = u.blank →
        (∀ e f, (e, f) ∈ t.places.zip u.places →
          Erases e.2 f.2) →
          Erases t u

/-
  Every callable inside the type has a signature that may be
  declared.
-/
inductive Declared : Ty → Prop
  | inside {t : Ty} :
      (∀ s ret, t = .callable s ret → s.Declared) →
        (∀ e ∈ t.places, Declared e.2) →
          Declared t

/-
  Where two types differ, their places allow it. A union
  stays as it is, or one member of each takes the whole of
  the other.
-/
inductive Tolerates : Ty → Ty → Prop
  | any (t : Ty) : Tolerates t .any
  | refl (t : Ty) : Tolerates t t
  | union {as bs : List Ty} :
      (∃ b ∈ bs, (union as).isSubtype b = true) →
        (∃ a ∈ as, (union bs).isSubtype a = true) →
          Tolerates (.union as) (.union bs)
  | inside {t u : Ty} :
      t.blank = u.blank →
        (∀ members, t ≠ .union members) →
        (∀ e f, (e, f) ∈ t.places.zip u.places →
          e.1.Agrees e.2 f.2) →
          (∀ e f, (e, f) ∈ t.places.zip u.places →
            e.1.isDeep = true → Tolerates e.2 f.2) →
            Tolerates t u

variable {t u : Ty}

/- Types of one shape have places alike. -/
theorem places_of_blank
    (hShape : t.blank = u.blank) :
    List.Forall₂ (fun e f => e.1 = f.1) t.places
      u.places := by
  have hItems {as bs : List Ty}
      (hSame :
        as.map (fun _ => Ty.any) = bs.map fun _ => Ty.any) :
      List.Forall₂ (fun _ _ => True) as bs :=
    forall₂_of_map_eq hSame fun _ _ _ _ _ => trivial
  cases t with
  | list _ =>
      cases u with
      | list _ => exact .cons rfl .nil
      | _ => cases hShape
  | set _ =>
      cases u with
      | set _ => exact .cons rfl .nil
      | _ => cases hShape
  | dict _ _ =>
      cases u with
      | dict _ _ => exact .cons rfl (.cons rfl .nil)
      | _ => cases hShape
  | tuple as =>
      cases u with
      | tuple bs =>
          simpa [places] using hItems (Ty.tuple.inj hShape)
      | _ => cases hShape
  | union as =>
      cases u with
      | union bs =>
          simpa [places] using hItems (Ty.union.inj hShape)
      | _ => cases hShape
  | generic n as =>
      cases u with
      | generic m bs =>
          have hArgs :
              List.Forall₂ (fun a b => a.blank = b.blank)
                as bs :=
            forall₂_of_map_eq (Ty.generic.inj hShape).2
              fun _ _ _ _ hSame => hSame
          exact
            List.rel_flatMap hArgs fun _ _ =>
              TypeArg.places_of_blank
      | _ => cases hShape
  | callable s r =>
      cases u with
      | callable s' r' =>
          have hParameters :=
            Signature.parameters_blank
              (Ty.callable.inj hShape).1
          simpa [places] using
            hParameters.imp fun _ _ _ => trivial
      | _ => cases hShape
  | _ =>
      cases u <;> try cases hShape
      all_goals exact .nil

/- Consistency of unions is what a union tolerates. -/
theorem union_consistent_iff_tolerates
    {as bs : List Ty} :
    (union as).Consistent (.union bs) ↔
      (union as).Tolerates (.union bs) := by
  rw [Ty.Consistent, union_isSubtype_union_iff,
    union_isSubtype_union_iff, eq_comm (a := bs),
    ← or_and_left]
  constructor
  · rintro (rfl | ⟨hLeft, hRight⟩)
    · exact .refl _
    · exact .union hLeft hRight
  · intro h
    cases h with
    | refl => exact Or.inl rfl
    | union hLeft hRight => exact Or.inr ⟨hLeft, hRight⟩
    | inside _ hNot => exact absurd rfl (hNot as)

/-
  One layer: if consistency is what the types inside
  tolerate, it is what the types tolerate.
-/
theorem consistent_iff_tolerates_of_places
    (hShape : t.blank = u.blank)
    (hUnion : ∀ members, t ≠ .union members)
    (hDeclared :
      ∀ s ret, t = .callable s ret → s.Declared)
    (hParts :
      ∀ e f, (e, f) ∈ t.places.zip u.places →
        (e.2.Consistent f.2 ↔ e.2.Tolerates f.2)) :
    t.Consistent u ↔ t.Tolerates u := by
  have hLaw := consistent_iff_places hShape hUnion hDeclared
  have hPlaces := places_of_blank hShape
  rw [List.forall₂_iff_zip] at hLaw hPlaces
  constructor
  · intro h
    have hAll (e f : Place × Ty)
        (hef : (e, f) ∈ t.places.zip u.places) :
        Place.Consistent e f :=
      (hLaw.mp h).2 hef
    refine
      .inside hShape hUnion
        (fun e f hef => (hAll e f hef).agrees) ?_
    intro e f hef hDeep
    exact (hParts e f hef).mp ((hAll e f hef).deep hDeep)
  · intro h
    cases h with
    | any => exact ⟨isSubtype_any t, any_isSubtype t⟩
    | refl => exact consistent_refl t
    | union => exact absurd rfl (hUnion _)
    | inside _ _ hAgrees hDeep =>
        refine hLaw.mpr ⟨hPlaces.1, ?_⟩
        intro e f hef
        exact
          ⟨hPlaces.2 hef, hAgrees e f hef,
            fun h =>
              (hParts e f hef).mpr (hDeep e f hef h)⟩

/-
  A type is consistent with what erasing types inside it
  leaves exactly if all the places where it differs allow
  that.
-/
theorem consistent_iff_tolerates
    (hErases : t.Erases u)
    (hDeclared : t.Declared) :
    t.isSubtype u = true ∧ u.isSubtype t = true ↔
      t.Tolerates u := by
  -- By induction on the places that were erased.
  induction hErases with
  | any t =>
      exact
        iff_of_true ⟨isSubtype_any t, any_isSubtype t⟩
          (.any t)
  | @inside t u hShape _ ih =>
      rcases hDeclared with ⟨hSignatures, hInside⟩
      by_cases hUnion : ∃ as, t = .union as
      · rcases hUnion with ⟨as, rfl⟩
        cases u with
        | union bs => exact union_consistent_iff_tolerates
        | _ => cases hShape
      · rw [not_exists] at hUnion
        apply
          consistent_iff_tolerates_of_places hShape hUnion
            hSignatures
        intro e f hef
        exact ih e f hef (hInside e (List.of_mem_zip hef).1)

/- Erasing place by place. -/
theorem Erases.of_places
    (hShape : t.blank = u.blank)
    (h :
      List.Forall₂ (fun e f => e.2.Erases f.2) t.places
        u.places) : t.Erases u :=
  .inside hShape fun _ _ hef =>
    (List.forall₂_iff_zip.mp h).2 hef

/- A parameter's class argument and a return type erased. -/
theorem consistent_iff_tolerates_callable :
    let f (arg ret : Ty) : Ty :=
      .callable
        (.params
          [⟨some "x", .positionalOrKeyword,
            .generic "Box" [.type arg], false⟩])
        ret
    (f .int .str).Erases (f .any .any) ∧
      (f .int .str).Declared ∧
      (f .int .str).Tolerates (f .any .any) := by
  intro f
  have hErases : (f .int .str).Erases (f .any .any) :=
    .of_places rfl
      (.cons (.any _)
        (.cons (.of_places rfl (.cons (.any _) .nil)) .nil))
  have hInt : Ty.int.Declared := .inside nofun nofun
  have hStr : Ty.str.Declared := .inside nofun nofun
  have hBox : (generic "Box" [.type .int]).Declared :=
    .inside nofun
      (List.forall_mem_cons.mpr ⟨hInt, nofun⟩)
  have hDeclared : (f .int .str).Declared := by
    refine .inside ?_ ?_
    · intro s ret h
      cases h
      show ParamList.Declarable _
      decide
    · exact
        List.forall_mem_cons.mpr
          ⟨hStr, List.forall_mem_cons.mpr ⟨hBox, nofun⟩⟩
  exact
    ⟨hErases, hDeclared,
      (consistent_iff_tolerates hErases hDeclared).mp
        ⟨rfl, rfl⟩⟩

/- A dictionary is compared entry by entry for equality. -/
theorem dict_not_consistent_erased :
    (dict .str .int).Erases (.dict .str .any) ∧
      (dict .str .int).isSubtype (.dict .str .any) = false ∧
      (dict .str .any).isSubtype (.dict .str .int) =
        false := by
  refine ⟨.of_places rfl ?_, rfl, rfl⟩
  exact
    .cons (.of_places rfl .nil) (.cons (.any _) .nil)

end Ty

end SigCheck
