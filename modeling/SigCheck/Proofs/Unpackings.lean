import SigCheck.Proofs.CallView

/-
  What the unpackings in a call leave open.

  A call with unpackings stands for every call that spells
  them out. None of those binds if the call itself is
  rejected: what an unpacking may supply is never missed, and
  an argument that has no place, or whose place is taken,
  keeps its fault whatever else is passed.

  Key definitions include:
    * `CallArgs.SpellsOut`

  Correctness is proven by:
    * `Binding.exists_placePositionals_iff`
    * `Binding.exists_placeKeywords_of_sublist`
    * `Binding.mem_filled_iff`
    * `Binding.exists_bound_of_spellsOut`
    * `Signature.bind_error_of_spellsOut`
-/

------------------------------------------------------------
-- Calls without Unpackings
------------------------------------------------------------

namespace SigCheck

/-
  The first call spells out what the second one unpacks. It
  has further positional arguments anywhere among the given
  ones, and further keywords, each only if there is an
  unpacking that may bring them.
-/
structure CallArgs.SpellsOut (full args : CallArgs) : Prop where
  plain : full.IsPlain
  positional : args.positional.Sublist full.positional
  keywords : args.keywords.Sublist full.keywords
  noFurtherPositional :
    args.star = [] → full.positional = args.positional
  noFurtherKeywords :
    args.doubleStar = [] → full.keywords = args.keywords

end SigCheck

------------------------------------------------------------
-- More Arguments
------------------------------------------------------------

namespace SigCheck

namespace Binding

variable {ps : List Parameter}

/- Positional arguments fit if each index has a slot. -/
theorem exists_placePositionals_iff
    (total first : Nat)
    (args : List Ty) :
    (∃ leading,
        placePositionals ps total first args =
          .ok leading) ↔
      ∀ index, first ≤ index → index < first + args.length →
        placePositional? ps index ≠ none := by
  induction args generalizing first with
  | nil =>
      refine iff_of_true ⟨[], rfl⟩ fun index hLe hLt => ?_
      exact absurd hLt (Nat.not_lt.mpr hLe)
  | cons arg args ih =>
      unfold placePositionals
      cases hPlace : placePositional? ps first with
      | none =>
          refine iff_of_false (by simp) fun h => ?_
          exact h first (Nat.le_refl _) (by simp) hPlace
      | some slot =>
          simp only [bind_eq_ok_iff, pure, Except.pure,
            Except.ok.injEq, exists_comm (α := List BoundArg),
            exists_and_left, exists_eq', and_true, ih]
          constructor
          · intro h index hLe hLt
            rcases Nat.eq_or_lt_of_le hLe with rfl | hLater
            · simp [hPlace]
            · exact
                h index hLater
                  (by simp only [List.length_cons] at hLt; omega)
          · intro h index hLe hLt
            exact
              h index (by omega)
                (by simp only [List.length_cons]; omega)

/- A keyword has its slot also where fewer slots are filled. -/
theorem placeKeyword_of_subset
    {filled filled' : List Nat} {name : String} {slot : Slot}
    (hFilled : filled ⊆ filled')
    (h : placeKeyword ps filled' name = .ok slot) :
    placeKeyword ps filled name = .ok slot := by
  cases hSlot : keywordSlot? ps name with
  | some target =>
      rw [placeKeyword_of_slot hSlot] at h ⊢
      exact ⟨h.1, fun hMem => h.2 (hFilled hMem)⟩
  | none =>
      unfold placeKeyword at h ⊢
      rw [hSlot] at h ⊢
      exact h

/- The first keyword fits, and the others behind it. -/
theorem placeKeywords_cons_eq_ok_iff
    {filled after : List Nat}
    {keyword : String × Ty}
    {keywords : List (String × Ty)}
    {named : List BoundArg} :
    placeKeywords ps filled (keyword :: keywords) =
        .ok (named, after) ↔
      ∃ slot rest,
        placeKeyword ps filled keyword.1 = .ok slot ∧
          placeKeywords ps (slot.1 :: filled) keywords =
            .ok (rest, after) ∧
          named = keywordEntry keyword slot :: rest := by
  constructor
  · intro h
    rcases bind_eq_ok_iff.mp h with ⟨slot, hSlot, hTail⟩
    rcases bind_eq_ok_iff.mp hTail with
      ⟨⟨rest, after⟩, hRest, hDone⟩
    cases hDone
    exact ⟨slot, rest, hSlot, hRest, rfl⟩
  · rintro ⟨slot, rest, hSlot, hRest, rfl⟩
    refine bind_eq_ok_iff.mpr ⟨slot, hSlot, ?_⟩
    exact bind_eq_ok_iff.mpr ⟨(rest, after), hRest, rfl⟩

/-
  Some of the keywords of a call fit where all of them do,
  also with fewer slots filled in front.
-/
theorem exists_placeKeywords_of_sublist
    {filled filled' after' : List Nat}
    {keywords keywords' : List (String × Ty)}
    {named' : List BoundArg}
    (hSub : keywords.Sublist keywords')
    (hFilled : filled ⊆ filled')
    (h :
      placeKeywords ps filled' keywords' =
        .ok (named', after')) :
    ∃ named after,
      placeKeywords ps filled keywords =
        .ok (named, after) := by
  induction hSub generalizing filled filled' named' after' with
  | slnil => exact ⟨[], filled, rfl⟩
  | cons keyword _ ih =>
      rcases placeKeywords_cons_eq_ok_iff.mp h with
        ⟨slot, rest, -, hRest, -⟩
      exact ih (List.subset_cons_of_subset _ hFilled) hRest
  | cons_cons keyword _ ih =>
      rcases placeKeywords_cons_eq_ok_iff.mp h with
        ⟨slot, rest, hSlot, hRest, -⟩
      rcases ih (List.cons_subset_cons slot.1 hFilled) hRest
        with ⟨named, after, hNamed⟩
      have hOwn := placeKeyword_of_subset hFilled hSlot
      exact
        ⟨_, after,
          placeKeywords_cons_eq_ok_iff.mpr
            ⟨slot, named, hOwn, hNamed, rfl⟩⟩

end Binding

end SigCheck

------------------------------------------------------------
-- Filled Slots
------------------------------------------------------------

namespace SigCheck

namespace Binding

variable {ps : List Parameter}

/- A keyword that fits goes to its target. -/
theorem keywordTarget?_of_placeKeyword
    {filled : List Nat} {name : String} {slot : Slot}
    (h : placeKeyword ps filled name = .ok slot) :
    keywordTarget? ps name = some slot := by
  unfold keywordTarget?
  cases hSlot : keywordSlot? ps name with
  | some target =>
      rw [((placeKeyword_of_slot hSlot).mp h).1]
      rfl
  | none =>
      simp only [placeKeyword, hSlot] at h
      split at h
      · rename_i hOthers
        cases h
        rw [hOthers]
        rfl
      · split at h <;> cases h

/- The keywords of a call fill their targets. -/
theorem mem_filled_iff
    {filled after : List Nat}
    {keywords : List (String × Ty)}
    {named : List BoundArg}
    (h :
      placeKeywords ps filled keywords = .ok (named, after))
    (place : Nat) :
    place ∈ after ↔
      place ∈ filled ∨
        ∃ keyword ∈ keywords, ∃ p,
          keywordTarget? ps keyword.1 = some (place, p) := by
  induction keywords generalizing filled after named with
  | nil =>
      cases h
      simp
  | cons keyword keywords ih =>
      rcases placeKeywords_cons_eq_ok_iff.mp h with
        ⟨slot, rest, hSlot, hRest, -⟩
      have hTarget := keywordTarget?_of_placeKeyword hSlot
      have hOwn :
          (∃ p, keywordTarget? ps keyword.1 =
            some (place, p)) ↔ place = slot.1 := by
        rw [hTarget]
        constructor
        · rintro ⟨p, hp⟩
          cases hp
          rfl
        · rintro rfl
          exact ⟨slot.2, rfl⟩
      rw [ih hRest, List.mem_cons, List.exists_mem_cons_iff,
        hOwn]
      tauto

/- The slots of the first positional parameters. -/
def leadPlaces
    (ps : List Parameter)
    (count : Nat) : List Nat :=
  ((positionalSlots ps).take count).map (·.1)

/- More positional arguments fill more slots. -/
theorem leadPlaces_subset
    {count count' : Nat}
    (hLe : count ≤ count') :
    leadPlaces ps count ⊆ leadPlaces ps count' :=
  List.map_subset _ (List.take_subset_take_left _ hLe)

/- Positional arguments fill positional parameters. -/
theorem isPositional_of_mem_leadPlaces
    {place count : Nat} {p : Parameter}
    (hSlot : ps[place]? = some p)
    (h : place ∈ leadPlaces ps count) :
    p.kind.isPositional = true := by
  rcases List.mem_map.mp h with ⟨slot, hTaken, rfl⟩
  have hMem := List.mem_filter.mp (List.mem_of_mem_take hTaken)
  have hOwn := mem_slots.mp hMem.1
  rw [hSlot] at hOwn
  rw [Option.some.inj hOwn]
  exact hMem.2

/- Keywords fill parameters that a keyword reaches. -/
theorem isKeyword_of_keywordTarget?
    {place : Nat} {p q : Parameter} {name : String}
    (hSlot : ps[place]? = some p)
    (hRequired : p.isRequired = true)
    (h : keywordTarget? ps name = some (place, q)) :
    p.kind.isKeyword = true := by
  rcases Option.or_eq_some_iff.mp h with hNamed | ⟨-, hOthers⟩
  · have hOwn := mem_slots.mp (List.mem_of_find?_eq_some hNamed)
    have hTest := List.find?_some hNamed
    rw [hSlot] at hOwn
    rw [Option.some.inj hOwn]
    exact (Bool.and_eq_true_iff.mp hTest).1
  · have hOwn := mem_slots.mp (List.mem_of_find?_eq_some hOthers)
    have hTest := List.find?_some hOthers
    rw [hSlot] at hOwn
    have hPlain := Parameter.isVariadic_of_isRequired hRequired
    rw [Option.some.inj hOwn, eq_of_beq hTest] at hPlain
    cases hPlain

end Binding

end SigCheck

------------------------------------------------------------
-- Rejected Calls
------------------------------------------------------------

namespace SigCheck

namespace Binding

variable {ps : List Parameter} {args full : CallArgs}

/-
  A required parameter that a call fills where it spells out
  the unpackings of another one is filled by that one too, or
  its unpackings may supply it.
-/
theorem mem_filled_or_mayBeUnpacked
    (h : full.SpellsOut args)
    {filled filled' : List Nat}
    {named named' : List BoundArg}
    (hNamed :
      placeKeywords ps
        (leadPlaces ps args.positional.length)
        args.keywords = .ok (named, filled))
    (hNamed' :
      placeKeywords ps
        (leadPlaces ps full.positional.length)
        full.keywords = .ok (named', filled'))
    {place : Nat} {p : Parameter}
    (hSlot : ps[place]? = some p)
    (hRequired : p.isRequired = true)
    (hFilled : place ∈ filled') :
    place ∈ filled ∨ mayBeUnpacked args p = true := by
  rw [mem_filled_iff hNamed]
  rw [mem_filled_iff hNamed'] at hFilled
  unfold mayBeUnpacked
  rcases hFilled with hLead | ⟨keyword, hMem, q, hTarget⟩
  · by_cases hStar : args.star = []
    · rw [h.noFurtherPositional hStar] at hLead
      exact Or.inl (Or.inl hLead)
    · right
      simp [hStar, isPositional_of_mem_leadPlaces hSlot hLead]
  · by_cases hDouble : args.doubleStar = []
    · rw [h.noFurtherKeywords hDouble] at hMem
      exact Or.inl (Or.inr ⟨keyword, hMem, q, hTarget⟩)
    · right
      simp [hDouble,
        isKeyword_of_keywordTarget? hSlot hRequired hTarget]

/-
  A call binds if one binds that spells out its unpackings:
  each of its passes succeeds.
-/
theorem exists_bound_of_spellsOut
    (h : full.SpellsOut args)
    (hBound : ∃ bound, bindParams ps full = .ok bound) :
    ∃ bound, bindParams ps args = .ok bound := by
  rw [exists_bound_iff_passes] at hBound ⊢
  rcases hBound with
    ⟨hLeading, filled', ⟨named', hNamed'⟩, hMissing⟩
  have hLength := h.positional.length_le
  have hLead :
      ∃ leading,
        placePositionals ps args.positional.length 0
          args.positional = .ok leading := by
    rw [exists_placePositionals_iff] at hLeading ⊢
    intro index hLe hLt
    exact hLeading index hLe (by omega)
  have hKeywords :
      ∃ named filled,
        placeKeywords ps
          (leadPlaces ps args.positional.length)
          args.keywords = .ok (named, filled) :=
    exists_placeKeywords_of_sublist h.keywords
      (leadPlaces_subset hLength) hNamed'
  rcases hKeywords with ⟨named, filled, hNamed⟩
  refine ⟨hLead, filled, ⟨named, hNamed⟩, ?_⟩
  rw [missing_eq_nil_iff h.plain] at hMissing
  simp only [missing, List.filterMap_eq_nil_iff, Prod.forall,
    mem_slots]
  intro place p hSlot
  have hSupplied (hRequired : p.isRequired = true) :=
    mem_filled_or_mayBeUnpacked h hNamed hNamed' hSlot
      hRequired (hMissing place p hSlot hRequired)
  simp only [ite_eq_right_iff, Bool.and_eq_true,
    Bool.not_eq_true', reduceCtorEq, imp_false]
  rintro ⟨⟨hRequired, hUnfilled⟩, hNotUnpacked⟩
  rcases hSupplied hRequired with hMem | hUnpacked
  · simp [hMem] at hUnfilled
  · rw [hNotUnpacked] at hUnpacked
    cases hUnpacked

end Binding

namespace Signature

/-
  If a call with unpackings is rejected, so is every call
  that spells them out, whatever they turn out to hold.
-/
theorem bind_error_of_spellsOut
    {sig : Signature} {args full : CallArgs}
    {m : CallMismatch}
    (hError : sig.bind args = .error m)
    (h : full.SpellsOut args) :
    ∃ m', sig.bind full = .error m' := by
  cases sig with
  | gradual => cases hError
  | spec lead var => exact ⟨_, rfl⟩
  | params ps =>
      cases hFull : (params ps).bind full with
      | error m' => exact ⟨m', rfl⟩
      | ok bound =>
          rcases Binding.exists_bound_of_spellsOut h
              ⟨bound, hFull⟩ with ⟨bound', hBound⟩
          have hOk : (params ps).bind args = .ok bound' := hBound
          rw [hError] at hOk
          cases hOk

/-
  Nothing supplies `z` in the call `f(1, *rest, y="")`. With
  one more position spelled out the fault is another one: now
  `y` has two values.
-/
theorem bind_error_of_spellsOut_shifted :
    let sig : Signature :=
      .params
        [⟨some "x", .positionalOnly, .int, false⟩,
          ⟨some "y", .positionalOrKeyword, .str, false⟩,
          ⟨some "z", .keywordOnly, .bool, false⟩]
    let args : CallArgs :=
      { positional := [.int]
        keywords := [("y", .str)]
        star := [.list .int] }
    let full : CallArgs :=
      { positional := [.int, .int]
        keywords := [("y", .str)] }
    sig.bind args = .error (.missing ["z"]) ∧
      full.SpellsOut args ∧
      sig.bind full = .error (.multipleValues "y") ∧
      ∃ m, sig.bind full = .error m := by
  intro sig args full
  have hError : sig.bind args = .error (.missing ["z"]) := by
    decide
  have hFull : full.SpellsOut args :=
    ⟨⟨rfl, rfl⟩, by decide, by decide, by decide,
      fun _ => rfl⟩
  exact
    ⟨hError, hFull, by decide,
      bind_error_of_spellsOut hError hFull⟩

end Signature

end SigCheck
