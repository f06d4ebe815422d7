import Mathlib.Data.List.Forall2
import SigCheck.Call.Binding
import SigCheck.Ty.Subtyping

/-
  Parameter lists that a definition of the checked language
  can have.

  Kinds stand in a fixed order, each variadic kind stands at
  most once, and a keyword reaches at most one parameter.
  `WellFormed` holds these rules, which are all that binding
  and joining rely on; `Declarable` adds the rules on
  defaults.

  Key definitions include:
    * `ParamKind.rank`
    * `ParamList.WellFormed`
    * `ParamList.Declarable`
    * `ParamList.HasKeyword`

  Main statements:
    * `WellFormed.place_eq_of_name`
    * `WellFormed.place_eq_of_kind`
-/

------------------------------------------------------------
-- Related Lists
------------------------------------------------------------

namespace SigCheck

section RelatedLists

variable {α β : Type}
variable {rel : α → β → Prop}
variable {as : List α} {bs : List β}

/- Each member on the left has a partner on the right. -/
theorem exists_right_of_forall₂
    (h : List.Forall₂ rel as bs)
    {a : α}
    (ha : a ∈ as) : ∃ b ∈ bs, rel a b := by
  induction h with
  | nil => simp at ha
  | @cons x y xs ys hxy _ ih =>
      rcases List.mem_cons.mp ha with rfl | ha
      · exact ⟨y, by simp, hxy⟩
      · rcases ih ha with ⟨b, hb, hab⟩
        exact ⟨b, by simp [hb], hab⟩

/- Each member on the right has a partner on the left. -/
theorem exists_left_of_forall₂
    (h : List.Forall₂ rel as bs)
    {b : β}
    (hb : b ∈ bs) : ∃ a ∈ as, rel a b :=
  exists_right_of_forall₂ h.flip hb

/-
  Members that a list keeps apart in neither order stand at
  one place.
-/
theorem place_eq_of_pairwise
    {apart : α → α → Prop}
    (h : as.Pairwise apart)
    {i j : Nat} {a b : α}
    (hi : as[i]? = some a)
    (hj : as[j]? = some b)
    (hab : ¬ apart a b)
    (hba : ¬ apart b a) : i = j := by
  rcases List.getElem?_eq_some_iff.mp hi with ⟨hiLt, rfl⟩
  rcases List.getElem?_eq_some_iff.mp hj with ⟨hjLt, rfl⟩
  have hPlaces := List.pairwise_iff_getElem.mp h
  rcases Nat.lt_trichotomy i j with hLt | hEq | hGt
  · exact absurd (hPlaces i j hiLt hjLt hLt) hab
  · exact hEq
  · exact absurd (hPlaces j i hjLt hiLt hGt) hba

/- A search whose test one member at most passes. -/
theorem find?_eq_some_iff_of_unique
    {test : α → Bool} {a : α}
    (hUnique :
      ∀ x ∈ as, ∀ y ∈ as,
        test x = true → test y = true → x = y) :
    as.find? test = some a ↔ a ∈ as ∧ test a = true := by
  constructor
  · intro h
    exact ⟨List.mem_of_find?_eq_some h, List.find?_some h⟩
  · rintro ⟨ha, hTest⟩
    cases hFind : as.find? test with
    | none =>
        exact
          absurd hTest (List.find?_eq_none.mp hFind a ha)
    | some b =>
        have hb := List.mem_of_find?_eq_some hFind
        have hbTest := List.find?_some hFind
        rw [hUnique b hb a ha hbTest hTest]

/- A pair of a related list comes from related members. -/
theorem exists_of_mem_zipWith
    {γ : Type}
    (h : List.Forall₂ rel as bs)
    {pair : α → β → γ} {c : γ}
    (hc : c ∈ List.zipWith pair as bs) :
    ∃ a b, rel a b ∧ c = pair a b := by
  induction h with
  | nil => simp at hc
  | @cons a b as bs hab _ ih =>
      rcases List.mem_cons.mp hc with rfl | hc
      · exact ⟨a, b, hab, rfl⟩
      · exact ih hc

/- A view of paired members that the left ones decide. -/
theorem map_zipWith_of_forall₂
    {γ δ : Type}
    (h : List.Forall₂ rel as bs)
    {pair : α → β → γ} {view : γ → δ} {left : α → δ}
    (hView :
      ∀ a b, rel a b → view (pair a b) = left a) :
    (List.zipWith pair as bs).map view = as.map left := by
  induction h with
  | nil => rfl
  | cons hab _ ih => simp [hView _ _ hab, ih]

/- Partners for every member make up a related list. -/
theorem exists_forall₂_of_forall_mem
    (h : ∀ a ∈ as, ∃ b, rel a b) :
    ∃ bs, List.Forall₂ rel as bs := by
  induction as with
  | nil => exact ⟨[], .nil⟩
  | cons a as ih =>
      rcases h a (by simp) with ⟨b, hab⟩
      rcases ih fun x hx => h x (by simp [hx]) with ⟨bs, hbs⟩
      exact ⟨b :: bs, .cons hab hbs⟩

/- Lists with one view are related where members agree. -/
theorem forall₂_of_map_eq
    {γ : Type} {left : α → γ} {right : β → γ}
    (h : as.map left = bs.map right)
    (hRel :
      ∀ a ∈ as, ∀ b ∈ bs, left a = right b → rel a b) :
    List.Forall₂ rel as bs := by
  induction as generalizing bs with
  | nil =>
      cases bs with
      | nil => exact .nil
      | cons b bs => cases h
  | cons a as ih =>
      cases bs with
      | nil => cases h
      | cons b bs =>
          rcases List.cons.inj h with ⟨hHead, hTail⟩
          refine .cons
            (hRel a (by simp) b (by simp) hHead)
            (ih hTail ?_)
          intro x hx y hy
          exact hRel x (by simp [hx]) y (by simp [hy])

/- Members that are apart on the right are so on the left. -/
theorem pairwise_left_of_forall₂
    (h : List.Forall₂ rel as bs)
    {leftApart : α → α → Prop}
    {rightApart : β → β → Prop}
    (hApart : bs.Pairwise rightApart)
    (hTransfer :
      ∀ a b a' b', rel a b → rel a' b' →
        rightApart b b' → leftApart a a') :
    as.Pairwise leftApart := by
  induction h with
  | nil => exact .nil
  | @cons a b as bs hab hRest ih =>
      rcases List.pairwise_cons.mp hApart with
        ⟨hHead, hTail⟩
      refine List.pairwise_cons.mpr ⟨?_, ih hTail⟩
      intro a' ha'
      rcases exists_right_of_forall₂ hRest ha' with
        ⟨b', hb', hab'⟩
      exact hTransfer a b a' b' hab hab' (hHead b' hb')

/- Members that are apart on the left are so on the right. -/
theorem pairwise_right_of_forall₂
    (h : List.Forall₂ rel as bs)
    {leftApart : α → α → Prop}
    {rightApart : β → β → Prop}
    (hApart : as.Pairwise leftApart)
    (hTransfer :
      ∀ a b a' b', rel a b → rel a' b' →
        leftApart a a' → rightApart b b') :
    bs.Pairwise rightApart :=
  pairwise_left_of_forall₂ h.flip hApart
    fun b a b' a' hab hab' => hTransfer a b a' b' hab hab'

/- A pass that may fail succeeds when every step does. -/
theorem mapM_eq_some_iff_forall₂
    {step : α → Option β} :
    as.mapM step = some bs ↔
      List.Forall₂ (fun a b => step a = some b) as bs := by
  induction as generalizing bs with
  | nil => simp [eq_comm]
  | cons a as ih =>
      rw [List.forall₂_cons_left_iff]
      simp [List.mapM_cons, Option.bind_eq_some_iff, ih,
        eq_comm (a := bs)]

/- What is left past the first members, by its index. -/
theorem mem_drop_iff_getElem? {a : α} {count : Nat} :
    a ∈ as.drop count ↔
      ∃ index, count ≤ index ∧ as[index]? = some a := by
  simp only [List.mem_iff_getElem?, List.getElem?_drop]
  constructor
  · rintro ⟨index, hIndex⟩
    exact ⟨count + index, Nat.le_add_right _ _, hIndex⟩
  · rintro ⟨index, hPast, hIndex⟩
    exact
      ⟨index - count, by rwa [Nat.add_sub_cancel' hPast]⟩

end RelatedLists

end SigCheck

------------------------------------------------------------
-- Well-Formed Lists
------------------------------------------------------------

namespace SigCheck

namespace ParamKind

variable {kind : ParamKind}

theorem isVariadic_of_isKeyword
    (h : kind.isKeyword = true) :
    kind.isVariadic = false := by
  cases kind <;> simp_all [isKeyword, isVariadic]

theorem isVariadic_of_isPositional
    (h : kind.isPositional = true) :
    kind.isVariadic = false := by
  cases kind <;> simp_all [isPositional, isVariadic]

/- One kind takes both positions and keywords. -/
theorem eq_positionalOrKeyword
    (hPos : kind.isPositional = true)
    (hKey : kind.isKeyword = true) :
    kind = .positionalOrKeyword := by
  cases kind <;> simp_all [isPositional, isKeyword]

/- One kind takes keywords only. -/
theorem eq_keywordOnly
    (hPos : kind.isPositional = false)
    (hKey : kind.isKeyword = true) :
    kind = .keywordOnly := by
  cases kind <;> simp_all [isPositional, isKeyword]

end ParamKind

/- A variadic parameter is never required. -/
theorem Parameter.isVariadic_of_isRequired
    {p : Parameter}
    (h : p.isRequired = true) :
    p.kind.isVariadic = false := by
  simp only [Parameter.isRequired, Bool.and_eq_true,
    Bool.not_eq_true'] at h
  exact h.2

/- The place of a kind in the order of a parameter list. -/
def ParamKind.rank : ParamKind → Nat
  | positionalOnly => 0
  | positionalOrKeyword => 1
  | varPositional => 2
  | keywordOnly => 3
  | varKeyword => 4

namespace ParamList

/-
  The kinds stand in order, no variadic kind stands twice,
  and the parameters that a keyword reaches have names that
  differ from one another.
-/
structure WellFormed (ps : List Parameter) : Prop where
  ordered :
    ps.Pairwise fun p q => p.kind.rank ≤ q.kind.rank
  single :
    ps.Pairwise fun p q =>
      p.kind = q.kind → p.kind.isVariadic = false
  named :
    ∀ p ∈ ps, p.kind.isKeyword = true →
      p.name.isSome = true
  distinct :
    ps.Pairwise fun p q =>
      p.kind.isKeyword = true →
        q.kind.isKeyword = true → p.name ≠ q.name

instance (ps : List Parameter) :
    Decidable (WellFormed ps) :=
  decidable_of_iff
    ((ps.Pairwise fun p q => p.kind.rank ≤ q.kind.rank) ∧
      (ps.Pairwise fun p q =>
        p.kind = q.kind → p.kind.isVariadic = false) ∧
      (∀ p ∈ ps, p.kind.isKeyword = true →
        p.name.isSome = true) ∧
      (ps.Pairwise fun p q =>
        p.kind.isKeyword = true →
          q.kind.isKeyword = true → p.name ≠ q.name))
    ⟨fun ⟨ho, hs, hn, hd⟩ => ⟨ho, hs, hn, hd⟩,
      fun ⟨ho, hs, hn, hd⟩ => ⟨ho, hs, hn, hd⟩⟩

/-
  A list that a definition may declare: no required
  positional parameter follows an optional one, and variadic
  parameters have no default.
-/
structure Declarable (ps : List Parameter) : Prop
    extends WellFormed ps where
  defaultsLast :
    ps.Pairwise fun p q =>
      p.kind.isPositional = true →
        q.kind.isPositional = true →
          p.hasDefault = true → q.hasDefault = true
  plainVariadics :
    ∀ p ∈ ps, p.kind.isVariadic = true →
      p.hasDefault = false

instance (ps : List Parameter) :
    Decidable (Declarable ps) :=
  decidable_of_iff
    (WellFormed ps ∧
      (ps.Pairwise fun p q =>
        p.kind.isPositional = true →
          q.kind.isPositional = true →
            p.hasDefault = true → q.hasDefault = true) ∧
      (∀ p ∈ ps, p.kind.isVariadic = true →
        p.hasDefault = false))
    ⟨fun ⟨hw, hd, hv⟩ => ⟨hw, hd, hv⟩,
      fun ⟨hw, hd, hv⟩ => ⟨hw, hd, hv⟩⟩

/- A keyword of this name reaches a parameter of the list. -/
def HasKeyword
    (ps : List Parameter)
    (name : String) : Prop :=
  ∃ p ∈ ps, p.kind.isKeyword = true ∧ p.name = some name

instance (ps : List Parameter) (name : String) :
    Decidable (HasKeyword ps name) := by
  unfold HasKeyword
  infer_instance

namespace WellFormed

variable {ps : List Parameter}
variable {p q : Parameter}

/- A keyword reaches one place at most. -/
theorem place_eq_of_name
    (hWF : WellFormed ps)
    {i j : Nat}
    (hi : ps[i]? = some p)
    (hj : ps[j]? = some q)
    (hp : p.kind.isKeyword = true)
    (hq : q.kind.isKeyword = true)
    (hName : p.name = q.name) : i = j :=
  place_eq_of_pairwise hWF.distinct hi hj
    (fun h => h hp hq hName)
    (fun h => h hq hp hName.symm)

/- A variadic kind stands at one place at most. -/
theorem place_eq_of_kind
    (hWF : WellFormed ps)
    {i j : Nat}
    (hi : ps[i]? = some p)
    (hj : ps[j]? = some q)
    (hp : p.kind.isVariadic = true)
    (hKind : p.kind = q.kind) : i = j :=
  place_eq_of_pairwise hWF.single hi hj
    (fun h => by simp [h hKind] at hp)
    (fun h => by simp [hKind, h hKind.symm] at hp)

/- A keyword reaches one parameter at most. -/
theorem eq_of_name
    (hWF : WellFormed ps)
    (hp : p ∈ ps)
    (hq : q ∈ ps)
    (hpKey : p.kind.isKeyword = true)
    (hqKey : q.kind.isKeyword = true)
    (hName : p.name = q.name) : p = q := by
  rcases List.mem_iff_getElem?.mp hp with ⟨i, hi⟩
  rcases List.mem_iff_getElem?.mp hq with ⟨j, hj⟩
  have hij := hWF.place_eq_of_name hi hj hpKey hqKey hName
  subst hij
  exact Option.some.inj (hi.symm.trans hj)

/- A parameter that a keyword reaches has a name. -/
theorem exists_name
    (hWF : WellFormed ps)
    (hp : p ∈ ps)
    (hKey : p.kind.isKeyword = true) :
    ∃ name, p.name = some name :=
  Option.isSome_iff_exists.mp (hWF.named p hp hKey)

end WellFormed

end ParamList

end SigCheck
