import SigCheck.Proofs.ParamList

/-
  The binding rule of the checked language, stated as what
  an assignment of arguments to parameters must satisfy, and
  its agreement with the matching that calls are checked by.

  The rule does not say how an assignment is found: it names
  the place of each argument, forbids two arguments at one
  place that is not variadic, and asks that every required
  parameter is supplied.

  Key definitions include:
    * `CallArgs.IsPlain`
    * `Binding.TakesPosition`, `Binding.TakesKeyword`
    * `Binding.Assignment`
    * `Binding.Assignment.Fits`, `Binding.Assignment.Follows`
    * `Binding.Assignment.bound`

  Correctness is proven by:
    * `Binding.placePositionals_eq_ok_iff`
    * `Binding.placeKeywords_eq_ok_iff`
    * `Binding.bindParams_eq_ok_iff`
    * `Signature.bind_follows_rule`
-/

------------------------------------------------------------
-- Arguments in Call Order
------------------------------------------------------------

namespace SigCheck

namespace CallArgs

/- The call unpacks no iterable and no mapping. -/
def IsPlain (args : CallArgs) : Prop :=
  args.star = [] ∧ args.doubleStar = []

/-
  Where each argument stands, with its type: positional
  arguments first, then keywords, in call order.
-/
def listed (args : CallArgs) : List (ArgSource × Ty) :=
  args.positional.zipIdx.map
      (fun (arg, index) => (.positional index, arg))
    ++ args.keywords.map
      (fun (name, arg) => (.keyword name, arg))

end CallArgs

end SigCheck

------------------------------------------------------------
-- The Rule
------------------------------------------------------------

namespace SigCheck

namespace Binding

/-
  The slot takes the positional argument at an index: it has
  that many positional parameters in front of it, or it is
  the star parameter and all of them are used up.
-/
def TakesPosition
    (ps : List Parameter)
    (index : Nat)
    (slot : Slot) : Prop :=
  ps[slot.1]? = some slot.2 ∧
    (slot.2.kind.isPositional = true ∧
        (ps.take slot.1).countP (·.kind.isPositional) =
          index ∨
      slot.2.kind = .varPositional ∧
        ps.countP (·.kind.isPositional) ≤ index)

/-
  The slot takes a keyword: it has that name, or no
  parameter that a keyword reaches has it and the slot
  collects other keywords.
-/
def TakesKeyword
    (ps : List Parameter)
    (name : String)
    (slot : Slot) : Prop :=
  ps[slot.1]? = some slot.2 ∧
    (slot.2.kind.isKeyword = true ∧
        slot.2.name = some name ∨
      slot.2.kind = .varKeyword ∧
        ¬ ParamList.HasKeyword ps name)

/-
  A slot for each argument of a call: for the positional
  ones and for the keywords, both in call order.
-/
structure Assignment where
  positionals : List Slot
  keywords : List Slot

/- The record of a positional argument with its index. -/
def positionalEntry
    (arg : Ty × Nat)
    (slot : Slot) : BoundArg :=
  ⟨slot.2, slot.2.label slot.1, arg.1, .positional arg.2⟩

/- The record of a keyword argument. -/
def keywordEntry
    (keyword : String × Ty)
    (slot : Slot) : BoundArg :=
  ⟨slot.2, keyword.1, keyword.2, .keyword keyword.1⟩

/- A later slot is an earlier one only if it is variadic. -/
def Unshared (s t : Slot) : Prop :=
  s.1 = t.1 → t.2.kind.isVariadic = true

namespace Assignment

/- The slots of all arguments. -/
def slots (a : Assignment) : List Slot :=
  a.positionals ++ a.keywords

/- Each argument of the call has a slot that takes it. -/
structure Fits
    (a : Assignment)
    (ps : List Parameter)
    (args : CallArgs) : Prop where
  positional :
    List.Forall₂
      (fun arg slot => TakesPosition ps arg.2 slot)
      args.positional.zipIdx a.positionals
  keyword :
    List.Forall₂
      (fun keyword slot => TakesKeyword ps keyword.1 slot)
      args.keywords a.keywords

/-
  The assignment obeys the binding rule: each argument has
  the slot that takes it, no parameter that is not variadic
  receives two arguments, and every required parameter
  receives one.
-/
structure Follows
    (a : Assignment)
    (ps : List Parameter)
    (args : CallArgs) : Prop
    extends Fits a ps args where
  once : a.slots.Pairwise Unshared
  supplied :
    ∀ (place : Nat) (p : Parameter),
      ps[place]? = some p → p.isRequired = true →
        (place, p) ∈ a.slots

/- What a call reports about the assignment. -/
def bound
    (a : Assignment)
    (args : CallArgs) : List BoundArg :=
  List.zipWith positionalEntry
      args.positional.zipIdx a.positionals
    ++ List.zipWith keywordEntry args.keywords a.keywords

end Assignment

end Binding

end SigCheck

------------------------------------------------------------
-- Slots
------------------------------------------------------------

namespace SigCheck

namespace Binding

variable {ps : List Parameter}

/- A slot pairs a parameter with its place. -/
theorem mem_slots {slot : Slot} :
    slot ∈ slots ps ↔ ps[slot.1]? = some slot.2 := by
  rcases slot with ⟨place, p⟩
  simp [slots, List.mem_zipIdx_iff_getElem?]

/-
  The entry at an index of the members that pass a test has
  that many such members in front of it.
-/
theorem getElem?_filter_zipIdx
    {α : Type}
    (test : α → Bool)
    (xs : List α)
    (first i place : Nat)
    (x : α) :
    ((xs.zipIdx first).filter fun y => test y.1)[i]? =
        some (x, first + place) ↔
      xs[place]? = some x ∧ test x = true ∧
        (xs.take place).countP test = i := by
  induction xs generalizing first i place with
  | nil => simp
  | cons y ys ih =>
      -- Later entries have later places than the first.
      have hLater :
          ∀ j : Nat, ((ys.zipIdx (first + 1)).filter
              fun y => test y.1)[j]? ≠ some (x, first) := by
        intro j h
        have hMem := List.mem_of_getElem? h
        have hLe :=
          List.le_snd_of_mem_zipIdx
            (List.mem_filter.mp hMem).1
        exact Nat.not_succ_le_self first hLe
      cases place with
      | zero =>
          cases hTest : test y with
          | false =>
              have hOther :
                  y = x → test x = true → ¬ 0 = i := by
                rintro rfl hTrue
                rw [hTest] at hTrue
                cases hTrue
              simpa [hTest, hLater] using hOther
          | true =>
              cases i with
              | zero =>
                  have hSame : y = x → test x = true := by
                    rintro rfl
                    exact hTest
                  simpa [hTest] using hSame
              | succ i => simp [hTest, hLater]
      | succ place =>
          have hShift :
              first + (place + 1) = first + 1 + place := by
            omega
          rw [hShift]
          cases hTest : test y with
          | false => simp [hTest, ih]
          | true =>
              cases i with
              | zero =>
                  have hNext :
                      y = x → ¬ first = first + 1 + place :=
                    fun _ => by omega
                  simpa [hTest] using hNext
              | succ i => simp [hTest, ih]

/- The positional slot at an index, by counting. -/
theorem positionalSlots_getElem?_eq_some_iff
    {index : Nat} {slot : Slot} :
    (positionalSlots ps)[index]? = some slot ↔
      ps[slot.1]? = some slot.2 ∧
        slot.2.kind.isPositional = true ∧
        (ps.take slot.1).countP (·.kind.isPositional) =
          index := by
  rcases slot with ⟨place, p⟩
  rw [← getElem?_filter_zipIdx (fun p => p.kind.isPositional)
    ps 0 index place p]
  simp [positionalSlots, slots, List.filter_map,
    Function.comp_def]

/- There are as many positional slots as parameters. -/
theorem length_positionalSlots :
    (positionalSlots ps).length =
      ps.countP (·.kind.isPositional) := by
  have hFirst :=
    List.countP_map (p := fun p => p.kind.isPositional)
      (f := Prod.fst) (l := ps.zipIdx)
  rw [List.zipIdx_map_fst] at hFirst
  rw [hFirst]
  simp [positionalSlots, slots, List.filter_map,
    List.countP_eq_length_filter, Function.comp_def]

/- A search for a parameter that one place at most has. -/
theorem find?_slots_eq_some_iff
    (test : Parameter → Bool)
    {slot : Slot}
    (hUnique :
      ∀ (i j : Nat) (p q : Parameter),
        ps[i]? = some p → ps[j]? = some q →
          test p = true → test q = true → i = j) :
    (slots ps).find? (fun s => test s.2) = some slot ↔
      ps[slot.1]? = some slot.2 ∧ test slot.2 = true := by
  rw [← mem_slots]
  apply find?_eq_some_iff_of_unique
  intro s hs t ht hsTest htTest
  rw [mem_slots] at hs ht
  have hPlace := hUnique _ _ _ _ hs ht hsTest htTest
  rw [← hPlace, hs] at ht
  exact Prod.ext hPlace (Option.some.inj ht)

/- A search for a parameter that no place has. -/
theorem find?_slots_eq_none_iff
    (test : Parameter → Bool) :
    (slots ps).find? (fun s => test s.2) = none ↔
      ∀ p ∈ ps, test p = false := by
  rw [List.find?_eq_none]
  constructor
  · intro h p hp
    rcases List.mem_iff_getElem?.mp hp with ⟨i, hi⟩
    simpa using h (i, p) (mem_slots.mpr hi)
  · intro h slot hSlot
    have hMem := List.mem_of_getElem? (mem_slots.mp hSlot)
    simp [h slot.2 hMem]

/- The slot of a variadic kind is the only one. -/
theorem slotOfKind?_eq_some_iff
    (hWF : ParamList.WellFormed ps)
    {kind : ParamKind} {slot : Slot}
    (hVar : kind.isVariadic = true) :
    slotOfKind? kind ps = some slot ↔
      ps[slot.1]? = some slot.2 ∧ slot.2.kind = kind := by
  refine
    (find?_slots_eq_some_iff (fun p => p.kind == kind)
      ?_).trans (by rw [beq_iff_eq])
  intro i j p q hi hj hp hq
  rw [beq_iff_eq] at hp hq
  exact
    hWF.place_eq_of_kind hi hj (by rw [hp, hVar])
      (hp.trans hq.symm)

/- The slot that a keyword reaches is the only one. -/
theorem keywordSlot?_eq_some_iff
    (hWF : ParamList.WellFormed ps)
    {name : String} {slot : Slot} :
    keywordSlot? ps name = some slot ↔
      ps[slot.1]? = some slot.2 ∧
        slot.2.kind.isKeyword = true ∧
        slot.2.name = some name := by
  refine
    (find?_slots_eq_some_iff
      (fun p => p.kind.isKeyword && p.name == some name)
      ?_).trans (by rw [Bool.and_eq_true, beq_iff_eq])
  intro i j p q hi hj hp hq
  simp only [Bool.and_eq_true, beq_iff_eq] at hp hq
  exact
    hWF.place_eq_of_name hi hj hp.1 hq.1
      (hp.2.trans hq.2.symm)

/- No slot for a keyword: it reaches no parameter. -/
theorem keywordSlot?_eq_none_iff {name : String} :
    keywordSlot? ps name = none ↔
      ¬ ParamList.HasKeyword ps name := by
  refine
    (find?_slots_eq_none_iff fun p =>
      p.kind.isKeyword && p.name == some name).trans ?_
  simp [ParamList.HasKeyword]

/- The slot of a positional argument obeys the rule. -/
theorem placePositional?_eq_some_iff
    (hWF : ParamList.WellFormed ps)
    {index : Nat} {slot : Slot} :
    placePositional? ps index = some slot ↔
      TakesPosition ps index slot := by
  unfold placePositional? TakesPosition
  rw [Option.or_eq_some_iff,
    positionalSlots_getElem?_eq_some_iff,
    slotOfKind?_eq_some_iff hWF rfl,
    List.getElem?_eq_none_iff, length_positionalSlots]
  tauto

/- The slot that a keyword goes to. -/
def keywordTarget?
    (ps : List Parameter)
    (name : String) : Option Slot :=
  (keywordSlot? ps name).or (slotOfKind? .varKeyword ps)

/- The slot of a keyword obeys the rule. -/
theorem keywordTarget?_eq_some_iff
    (hWF : ParamList.WellFormed ps)
    {name : String} {slot : Slot} :
    keywordTarget? ps name = some slot ↔
      TakesKeyword ps name slot := by
  unfold keywordTarget? TakesKeyword
  rw [Option.or_eq_some_iff, keywordSlot?_eq_some_iff hWF,
    keywordSlot?_eq_none_iff,
    slotOfKind?_eq_some_iff hWF rfl]
  tauto

end Binding

end SigCheck

------------------------------------------------------------
-- Matching, Pass by Pass
------------------------------------------------------------

namespace SigCheck

namespace Binding

variable {ps : List Parameter}

/- Each index is taken by one slot at most. -/
theorem TakesPosition.unique
    (hWF : ParamList.WellFormed ps)
    {index : Nat} {s t : Slot}
    (hs : TakesPosition ps index s)
    (ht : TakesPosition ps index t) : s = t := by
  rw [← placePositional?_eq_some_iff hWF] at hs ht
  exact Option.some.inj (hs.symm.trans ht)

/- A keyword with a parameter of its name goes to it. -/
theorem TakesKeyword.eq_of_name
    (hWF : ParamList.WellFormed ps)
    {name : String} {slot : Slot}
    (hTakes : TakesKeyword ps name slot)
    {place : Nat} {p : Parameter}
    (hPlace : ps[place]? = some p)
    (hKey : p.kind.isKeyword = true)
    (hName : p.name = some name) : slot = (place, p) := by
  have hTarget : keywordSlot? ps name = some (place, p) :=
    (keywordSlot?_eq_some_iff hWF).mpr ⟨hPlace, hKey, hName⟩
  rw [← keywordTarget?_eq_some_iff hWF, keywordTarget?,
    hTarget] at hTakes
  exact (Option.some.inj hTakes).symm

/- Only a variadic parameter takes a keyword unnamed. -/
theorem TakesKeyword.named
    {name : String} {slot : Slot}
    (hTakes : TakesKeyword ps name slot)
    (hPlain : slot.2.kind.isVariadic = false) :
    slot.2.kind.isKeyword = true ∧
      slot.2.name = some name := by
  rcases hTakes.2 with hNamed | ⟨hOthers, -⟩
  · exact hNamed
  · rw [hOthers] at hPlain
    exact Bool.noConfusion hPlain

/- Only a variadic parameter takes a position uncounted. -/
theorem TakesPosition.counted
    {index : Nat} {slot : Slot}
    (hTakes : TakesPosition ps index slot)
    (hPlain : slot.2.kind.isVariadic = false) :
    slot.2.kind.isPositional = true ∧
      (ps.take slot.1).countP (·.kind.isPositional) =
        index := by
  rcases hTakes.2 with hCounted | ⟨hStar, -⟩
  · exact hCounted
  · rw [hStar] at hPlain
    exact Bool.noConfusion hPlain

/- A failing step makes the whole computation fail. -/
theorem bind_eq_ok_iff
    {ε α β : Type}
    {first : Except ε α} {next : α → Except ε β} {b : β} :
    first >>= next = .ok b ↔
      ∃ a, first = .ok a ∧ next a = .ok b := by
  cases first with
  | error e => simp [bind, Except.bind]
  | ok a => simp [bind, Except.bind]

/- The pass over the positional arguments. -/
theorem placePositionals_eq_ok_iff
    (hWF : ParamList.WellFormed ps)
    (total first : Nat)
    (args : List Ty)
    (bound : List BoundArg) :
    placePositionals ps total first args = .ok bound ↔
      ∃ targets,
        List.Forall₂
            (fun arg slot => TakesPosition ps arg.2 slot)
            (args.zipIdx first) targets ∧
          bound =
            List.zipWith positionalEntry
              (args.zipIdx first) targets := by
  induction args generalizing first bound with
  | nil =>
      simp [placePositionals, eq_comm]
  | cons arg args ih =>
      simp only [placePositionals, List.zipIdx_cons,
        List.forall₂_cons_left_iff,
        ← placePositional?_eq_some_iff hWF] at ih ⊢
      cases hPlace : placePositional? ps first with
      | none => simp
      | some slot =>
          simp only [bind_eq_ok_iff, ih, pure, Except.pure,
            Except.ok.injEq]
          constructor
          · rintro ⟨rest, ⟨targets, hAll, rfl⟩, rfl⟩
            exact
              ⟨slot :: targets,
                ⟨slot, targets, rfl, hAll, rfl⟩, rfl⟩
          · rintro ⟨targets,
              ⟨target, rest, hTarget, hAll, rfl⟩, rfl⟩
            cases hTarget
            exact ⟨_, ⟨rest, hAll, rfl⟩, rfl⟩

/- A keyword with a slot of its name needs the slot free. -/
theorem placeKeyword_of_slot
    {filled : List Nat} {name : String}
    {target slot : Slot}
    (hSlot : keywordSlot? ps name = some target) :
    placeKeyword ps filled name = .ok slot ↔
      target = slot ∧ target.1 ∉ filled := by
  unfold placeKeyword
  rw [hSlot]
  by_cases hFilled : target.1 ∈ filled <;> simp [hFilled]

/- One step of the pass over the keywords. -/
theorem placeKeyword_eq_ok_iff
    (hWF : ParamList.WellFormed ps)
    {filled : List Nat} {name : String} {slot : Slot} :
    placeKeyword ps filled name = .ok slot ↔
      TakesKeyword ps name slot ∧
        (slot.1 ∈ filled →
          slot.2.kind.isVariadic = true) := by
  rw [← keywordTarget?_eq_some_iff hWF]
  unfold keywordTarget?
  cases hSlot : keywordSlot? ps name with
  | some target =>
      have hKey :=
        ((keywordSlot?_eq_some_iff hWF).mp hSlot).2.1
      have hPlain := ParamKind.isVariadic_of_isKeyword hKey
      rw [placeKeyword_of_slot hSlot, Option.some_or,
        Option.some.injEq]
      constructor
      · rintro ⟨rfl, hFree⟩
        exact ⟨rfl, fun hFilled => absurd hFilled hFree⟩
      · rintro ⟨rfl, hVar⟩
        refine ⟨rfl, fun hFilled => ?_⟩
        rw [hVar hFilled] at hPlain
        cases hPlain
  | none =>
      unfold placeKeyword
      rw [hSlot]
      cases hOthers : slotOfKind? .varKeyword ps with
      | some target =>
          have hKind :=
            ((slotOfKind?_eq_some_iff hWF rfl).mp hOthers).2
          simp only [Option.none_or, Except.ok.injEq,
            Option.some.injEq]
          constructor
          · rintro rfl
            exact ⟨rfl, fun _ => by rw [hKind]; rfl⟩
          · exact fun h => h.1
      | none =>
          by_cases hOnly : isPositionalOnlyName ps name <;>
            simp [hOnly]

/- The pass over the keywords. -/
theorem placeKeywords_eq_ok_iff
    (hWF : ParamList.WellFormed ps)
    (filled after : List Nat)
    (keywords : List (String × Ty))
    (bound : List BoundArg) :
    placeKeywords ps filled keywords = .ok (bound, after) ↔
      ∃ targets,
        List.Forall₂
            (fun keyword slot =>
              TakesKeyword ps keyword.1 slot)
            keywords targets ∧
          (∀ slot ∈ targets, slot.1 ∈ filled →
            slot.2.kind.isVariadic = true) ∧
          targets.Pairwise Unshared ∧
          bound =
            List.zipWith keywordEntry keywords targets ∧
          after =
            (targets.map (·.1)).reverse ++ filled := by
  induction keywords generalizing filled after bound with
  | nil =>
      simp only [placeKeywords, Except.ok.injEq,
        Prod.mk.injEq, List.forall₂_nil_left_iff]
      constructor
      · rintro ⟨rfl, rfl⟩
        exact ⟨[], by simp⟩
      · rintro ⟨targets, rfl, -, -, rfl, rfl⟩
        simp
  | cons keyword keywords ih =>
      rcases keyword with ⟨name, arg⟩
      simp only [placeKeywords, bind_eq_ok_iff,
        placeKeyword_eq_ok_iff hWF, pure, Except.pure,
        Except.ok.injEq, Prod.mk.injEq,
        List.forall₂_cons_left_iff]
      constructor
      · rintro ⟨slot, ⟨hTakes, hFree⟩, ⟨rest, after⟩,
          hRest, rfl, rfl⟩
        rcases (ih _ _ _).mp hRest with
          ⟨targets, hAll, hFilled, hApart, rfl, rfl⟩
        refine
          ⟨slot :: targets,
            ⟨slot, targets, hTakes, hAll, rfl⟩,
            ?_, ?_, rfl, ?_⟩
        · intro other hOther hMem
          rcases List.mem_cons.mp hOther with rfl | hOther
          · exact hFree hMem
          · exact hFilled other hOther
              (List.mem_cons_of_mem _ hMem)
        · refine List.pairwise_cons.mpr ⟨?_, hApart⟩
          intro other hOther hPlace
          exact hFilled other hOther
            (List.mem_cons.mpr (Or.inl hPlace.symm))
        · simp
      · rintro ⟨targets,
          ⟨slot, rest, hTakes, hAll, rfl⟩,
          hFilled, hApart, rfl, rfl⟩
        rcases List.pairwise_cons.mp hApart with
          ⟨hHead, hApart⟩
        -- The slot just filled is one that the rest avoids.
        have hLater :
            ∀ other ∈ rest, other.1 ∈ slot.1 :: filled →
              other.2.kind.isVariadic = true := by
          intro other hOther hMem
          rcases List.mem_cons.mp hMem with hPlace | hMem
          · exact hHead other hOther hPlace.symm
          · exact hFilled other
              (List.mem_cons_of_mem _ hOther) hMem
        refine
          ⟨slot, ⟨hTakes, hFilled slot (by simp)⟩, _,
            (ih _ _ _).mpr
              ⟨rest, hAll, hLater, hApart, rfl, rfl⟩,
            rfl, ?_⟩
        simp

/- Without unpackings every required place must be filled. -/
theorem missing_eq_nil_iff
    {args : CallArgs}
    (hPlain : args.IsPlain)
    (filled : List Nat) :
    missing ps args filled = [] ↔
      ∀ (place : Nat) (p : Parameter),
        ps[place]? = some p → p.isRequired = true →
          place ∈ filled := by
  have hNone : ∀ p, mayBeUnpacked args p = false := by
    intro p
    simp [mayBeUnpacked, hPlain.1, hPlain.2]
  simp [missing, hNone, mem_slots]

/- The passes of a whole matching. -/
theorem bindParams_eq_ok_iff_passes
    {args : CallArgs} {bound : List BoundArg} :
    bindParams ps args = .ok bound ↔
      ∃ leading named filled,
        placePositionals ps args.positional.length 0
            args.positional = .ok leading ∧
          placeKeywords ps
            (((positionalSlots ps).take
              args.positional.length).map (·.1))
            args.keywords = .ok (named, filled) ∧
          missing ps args filled = [] ∧
          bound = leading ++ named := by
  simp only [bindParams, bind_eq_ok_iff]
  constructor
  · rintro ⟨leading, hLeading, ⟨named, filled⟩,
      hNamed, hLast⟩
    refine
      ⟨leading, named, filled, hLeading, hNamed, ?_⟩
    cases hMissing : missing ps args filled with
    | nil =>
        simp only [hMissing, pure, Except.pure,
          Except.ok.injEq] at hLast
        exact ⟨rfl, hLast.symm⟩
    | cons name names =>
        simp [hMissing, throw, throwThe,
          MonadExceptOf.throw] at hLast
  · rintro ⟨leading, named, filled, hLeading, hNamed,
      hMissing, rfl⟩
    refine ⟨leading, hLeading, (named, filled), hNamed, ?_⟩
    simp only [hMissing, pure, Except.pure]

end Binding

end SigCheck

------------------------------------------------------------
-- Parameters of a Matching
------------------------------------------------------------

namespace SigCheck

namespace Binding

variable {ps : List Parameter}

/- Slots of a list hold its parameters. -/
theorem mem_of_mem_slots
    {slot : Slot}
    (h : slot ∈ slots ps) : slot.2 ∈ ps :=
  List.mem_of_getElem? (mem_slots.mp h)

theorem mem_of_placePositional?
    {index : Nat} {slot : Slot}
    (h : placePositional? ps index = some slot) :
    slot.2 ∈ ps := by
  apply mem_of_mem_slots
  rcases Option.or_eq_some_iff.mp h with hOwn | ⟨-, hStar⟩
  · exact List.mem_of_mem_filter (List.mem_of_getElem? hOwn)
  · exact List.mem_of_find?_eq_some hStar

theorem mem_of_placeKeyword
    {filled : List Nat} {name : String} {slot : Slot}
    (h : placeKeyword ps filled name = .ok slot) :
    slot.2 ∈ ps := by
  apply mem_of_mem_slots
  unfold placeKeyword at h
  split at h
  · rename_i place p hSlot
    split at h
    · cases h
    · cases h
      exact List.mem_of_find?_eq_some hSlot
  · split at h
    · rename_i target hOthers
      cases h
      exact List.mem_of_find?_eq_some hOthers
    · split at h <;> cases h

theorem mem_of_placePositionals
    {total index : Nat} {args : List Ty}
    {bound : List BoundArg}
    (h : placePositionals ps total index args = .ok bound) :
    ∀ b ∈ bound, b.param ∈ ps ∧ b.arg ∈ args := by
  induction args generalizing index bound with
  | nil =>
      cases h
      simp
  | cons arg args ih =>
      unfold placePositionals at h
      split at h
      · cases h
      · rename_i place p hPlace
        rcases bind_eq_ok_iff.mp h with ⟨rest, hRest, hDone⟩
        cases hDone
        refine
          List.forall_mem_cons.mpr
            ⟨⟨mem_of_placePositional? hPlace,
              List.mem_cons_self ..⟩, ?_⟩
        intro b hb
        have hBoth := ih hRest b hb
        exact ⟨hBoth.1, List.mem_cons_of_mem _ hBoth.2⟩

theorem mem_of_placeKeywords
    {filled after : List Nat}
    {keywords : List (String × Ty)}
    {bound : List BoundArg}
    (h :
      placeKeywords ps filled keywords =
        .ok (bound, after)) :
    ∀ b ∈ bound,
      b.param ∈ ps ∧ b.arg ∈ keywords.map (·.2) := by
  induction keywords generalizing filled after bound with
  | nil =>
      cases h
      simp
  | cons keyword keywords ih =>
      rcases bind_eq_ok_iff.mp h with ⟨slot, hSlot, hTail⟩
      rcases bind_eq_ok_iff.mp hTail with
        ⟨⟨rest, filled'⟩, hRest, hDone⟩
      cases hDone
      refine
        List.forall_mem_cons.mpr
          ⟨⟨mem_of_placeKeyword hSlot,
            List.mem_cons_self ..⟩, ?_⟩
      intro b hb
      have hBoth := ih hRest b hb
      exact ⟨hBoth.1, List.mem_cons_of_mem _ hBoth.2⟩

variable {args : CallArgs} {bound : List BoundArg}

/- Arguments are matched to parameters of the list. -/
theorem param_mem_of_bindParams
    (h : bindParams ps args = .ok bound) :
    ∀ b ∈ bound, b.param ∈ ps := by
  rcases bindParams_eq_ok_iff_passes.mp h with
    ⟨leading, named, filled, hLeading, hNamed, -, rfl⟩
  exact
    List.forall_mem_append.mpr
      ⟨fun b hb => (mem_of_placePositionals hLeading b hb).1,
        fun b hb => (mem_of_placeKeywords hNamed b hb).1⟩

/- What is matched are the arguments that are spelled out. -/
theorem arg_mem_of_bindParams
    (h : bindParams ps args = .ok bound) :
    ∀ b ∈ bound,
      b.arg ∈ args.positional ++ args.keywords.map (·.2) := by
  rcases bindParams_eq_ok_iff_passes.mp h with
    ⟨leading, named, filled, hLeading, hNamed, -, rfl⟩
  intro b hb
  rcases List.mem_append.mp hb with hb | hb
  · exact
      List.mem_append_left _
        (mem_of_placePositionals hLeading b hb).2
  · exact
      List.mem_append_right _
        (mem_of_placeKeywords hNamed b hb).2

end Binding

end SigCheck

------------------------------------------------------------
-- Agreement with the Rule
------------------------------------------------------------

namespace SigCheck

namespace Binding

variable {ps : List Parameter}

section Positionals

variable {first : Nat}
variable {args : List Ty}
variable {targets : List Slot}

/-
  Two positional arguments never share a slot, except in the
  star parameter.
-/
theorem pairwise_unshared_of_takesPosition
    (hAll :
      List.Forall₂
        (fun arg slot => TakesPosition ps arg.2 slot)
        (args.zipIdx first) targets) :
    targets.Pairwise Unshared := by
  induction args generalizing first targets with
  | nil =>
      rw [List.forall₂_nil_left_iff.mp hAll]
      exact List.Pairwise.nil
  | cons arg args ih =>
      rcases List.forall₂_cons_left_iff.mp hAll with
        ⟨slot, rest, hSlot, hRest, rfl⟩
      refine List.pairwise_cons.mpr ⟨?_, ih hRest⟩
      intro other hOther hPlace
      rcases exists_left_of_forall₂ hRest hOther with
        ⟨later, hLater, hTakes⟩
      have hAfter : first + 1 ≤ later.2 :=
        List.le_snd_of_mem_zipIdx hLater
      rcases hTakes.2 with ⟨hPos, hCount⟩ | ⟨hStar, -⟩
      · have hSame : slot.2 = other.2 :=
          Option.some.inj
            (hSlot.1.symm.trans (hPlace ▸ hTakes.1))
        rcases hSlot.2 with ⟨-, hFirst⟩ | ⟨hStar, -⟩
        · rw [hPlace, hCount] at hFirst
          omega
        · rw [← hSame, hStar] at hPos
          simp [ParamKind.isPositional] at hPos
      · rw [hStar]
        rfl

/-
  A parameter that is not variadic has a positional argument
  exactly when it is among the first positional slots.
-/
theorem mem_taken_iff
    (hWF : ParamList.WellFormed ps)
    (hAll :
      List.Forall₂
        (fun arg slot => TakesPosition ps arg.2 slot)
        args.zipIdx targets)
    (slot : Slot)
    (hSlot : ps[slot.1]? = some slot.2)
    (hPlain : slot.2.kind.isVariadic = false) :
    slot.1 ∈
        ((positionalSlots ps).take args.length).map (·.1) ↔
      slot ∈ targets := by
  constructor
  · intro hMem
    rcases List.mem_map.mp hMem with ⟨taken, hTaken, hPlace⟩
    rcases List.mem_take_iff_getElem.mp hTaken with
      ⟨index, hIndex, hGet⟩
    have hRule :=
      positionalSlots_getElem?_eq_some_iff.mp
        (List.getElem?_eq_some_iff.mpr ⟨by omega, hGet⟩)
    have hSame : taken = slot := by
      apply Prod.ext hPlace
      rw [hPlace, hSlot] at hRule
      exact (Option.some.inj hRule.1).symm
    subst hSame
    have hArg : (args[index], index) ∈ args.zipIdx := by
      rw [List.mem_zipIdx_iff_getElem?]
      simp
    rcases exists_right_of_forall₂ hAll hArg with
      ⟨other, hOther, hTakes⟩
    have hTaken : TakesPosition ps index taken :=
      ⟨hRule.1, Or.inl hRule.2⟩
    rwa [hTaken.unique hWF hTakes]
  · intro hMem
    rcases exists_left_of_forall₂ hAll hMem with
      ⟨arg, hArg, hTakes⟩
    have hIndex : arg.2 < args.length :=
      List.snd_lt_of_mem_zipIdx hArg
    have hGet :=
      positionalSlots_getElem?_eq_some_iff.mpr
        ⟨hSlot, hTakes.counted hPlain⟩
    refine List.mem_map.mpr ⟨slot, ?_, rfl⟩
    refine List.mem_of_getElem? (i := arg.2) ?_
    rw [List.getElem?_take_of_lt hIndex]
    exact hGet

end Positionals

namespace Assignment

variable {a : Assignment}
variable {args : CallArgs}

/- The slots of keywords are slots of the list. -/
theorem Fits.slot_of_mem_keywords
    (h : a.Fits ps args)
    {slot : Slot}
    (hSlot : slot ∈ a.keywords) :
    ps[slot.1]? = some slot.2 := by
  rcases exists_left_of_forall₂ h.keyword hSlot with
    ⟨keyword, -, hTakes⟩
  exact hTakes.1

/-
  No slot is shared exactly when no keyword goes to a place
  that a positional argument or another keyword fills.
-/
theorem Fits.once_iff
    (hWF : ParamList.WellFormed ps)
    (h : a.Fits ps args) :
    a.slots.Pairwise Unshared ↔
      (∀ slot ∈ a.keywords,
        slot.1 ∈ ((positionalSlots ps).take
            args.positional.length).map (·.1) →
          slot.2.kind.isVariadic = true) ∧
        a.keywords.Pairwise Unshared := by
  unfold slots
  rw [List.pairwise_append]
  constructor
  · rintro ⟨-, hKeywords, hCross⟩
    refine ⟨?_, hKeywords⟩
    intro slot hSlot hTaken
    by_contra hNot
    rw [Bool.not_eq_true] at hNot
    have hMem :=
      (mem_taken_iff hWF h.positional slot
        (h.slot_of_mem_keywords hSlot) hNot).mp hTaken
    rw [hCross slot hMem slot hSlot rfl] at hNot
    exact Bool.noConfusion hNot
  · rintro ⟨hFree, hKeywords⟩
    refine
      ⟨pairwise_unshared_of_takesPosition h.positional,
        hKeywords, ?_⟩
    intro s hs t ht hPlace
    by_contra hNot
    rw [Bool.not_eq_true] at hNot
    have hSlot := h.slot_of_mem_keywords ht
    have hSame : s = t := by
      rcases exists_left_of_forall₂ h.positional hs with
        ⟨arg, -, hTakes⟩
      apply Prod.ext hPlace
      have hPlaced := hTakes.1
      rw [hPlace, hSlot] at hPlaced
      exact (Option.some.inj hPlaced).symm
    subst hSame
    have hTaken :=
      (mem_taken_iff hWF h.positional s hSlot hNot).mpr hs
    rw [hFree s ht hTaken] at hNot
    exact Bool.noConfusion hNot

/- A required parameter is supplied when it is filled. -/
theorem Fits.mem_filled_iff
    (hWF : ParamList.WellFormed ps)
    (h : a.Fits ps args)
    {place : Nat} {p : Parameter}
    (hSlot : ps[place]? = some p)
    (hRequired : p.isRequired = true) :
    place ∈ (a.keywords.map (·.1)).reverse ++
        ((positionalSlots ps).take
          args.positional.length).map (·.1) ↔
      (place, p) ∈ a.slots := by
  have hPlain := Parameter.isVariadic_of_isRequired hRequired
  have hKeywords :
      place ∈ a.keywords.map (·.1) ↔
        (place, p) ∈ a.keywords := by
    constructor
    · intro hMem
      rcases List.mem_map.mp hMem with ⟨slot, hIn, rfl⟩
      have hPlaced := h.slot_of_mem_keywords hIn
      rw [hSlot] at hPlaced
      rw [Option.some.inj hPlaced]
      exact hIn
    · exact fun hMem => List.mem_map.mpr ⟨_, hMem, rfl⟩
  have hPositionals :
      place ∈ ((positionalSlots ps).take
          args.positional.length).map (·.1) ↔
        (place, p) ∈ a.positionals :=
    mem_taken_iff hWF h.positional (place, p) hSlot hPlain
  unfold slots
  rw [List.mem_append, List.mem_reverse, hKeywords,
    hPositionals, List.mem_append, or_comm]

end Assignment

/-
  The records list every argument of the call once, in call
  order.
-/
theorem Assignment.Follows.listed_bound
    {a : Assignment} {args : CallArgs}
    (h : a.Follows ps args) :
    (a.bound args).map (fun b => (b.source, b.arg)) =
      args.listed := by
  unfold Assignment.bound CallArgs.listed
  rw [List.map_append]
  congr 1
  · exact
      map_zipWith_of_forall₂ h.positional fun _ _ _ => rfl
  · exact map_zipWith_of_forall₂ h.keyword fun _ _ _ => rfl

/-
  Matching succeeds exactly with the assignments that follow
  the rule.
-/
theorem bindParams_eq_ok_iff
    (hWF : ParamList.WellFormed ps)
    {args : CallArgs}
    (hPlain : args.IsPlain)
    {bound : List BoundArg} :
    bindParams ps args = .ok bound ↔
      ∃ a : Assignment,
        a.Follows ps args ∧ bound = a.bound args := by
  rw [bindParams_eq_ok_iff_passes]
  simp only [placePositionals_eq_ok_iff hWF,
    placeKeywords_eq_ok_iff hWF,
    missing_eq_nil_iff hPlain]
  constructor
  · rintro ⟨leading, named, filled,
      ⟨positionals, hPositional, rfl⟩,
      ⟨keywords, hKeyword, hFree, hApart, rfl, rfl⟩,
      hFilled, rfl⟩
    have hFits :
        Assignment.Fits ⟨positionals, keywords⟩ ps args :=
      ⟨hPositional, hKeyword⟩
    have hOnce := (hFits.once_iff hWF).mpr ⟨hFree, hApart⟩
    refine ⟨_, ⟨hFits, hOnce, ?_⟩, rfl⟩
    intro place p hSlot hRequired
    exact
      (hFits.mem_filled_iff hWF hSlot hRequired).mp
        (hFilled place p hSlot hRequired)
  · rintro ⟨a, h, rfl⟩
    have hFits := h.toFits
    rcases (hFits.once_iff hWF).mp h.once with
      ⟨hFree, hApart⟩
    refine
      ⟨_, _, _, ⟨a.positionals, h.positional, rfl⟩,
        ⟨a.keywords, h.keyword, hFree, hApart, rfl, rfl⟩,
        ?_, rfl⟩
    intro place p hSlot hRequired
    exact
      (hFits.mem_filled_iff hWF hSlot hRequired).mpr
        (h.supplied place p hSlot hRequired)

end Binding

end SigCheck

------------------------------------------------------------
-- The Binding Rule
------------------------------------------------------------

namespace SigCheck

namespace Signature

/-
  A call without unpackings binds exactly when some
  assignment follows the rule. The result is then that
  assignment, with one record per argument in call order.
  Repeated keywords need no exception: the rule allows them
  only where other keywords are collected.
-/
theorem bind_follows_rule
    {ps : List Parameter}
    (hWF : ParamList.WellFormed ps)
    {args : CallArgs}
    (hPlain : args.IsPlain) :
    ((∃ bound, (params ps).bind args = .ok bound) ↔
        ∃ a : Binding.Assignment, a.Follows ps args) ∧
      (∀ a : Binding.Assignment, a.Follows ps args →
        (params ps).bind args = .ok (a.bound args)) ∧
      ∀ bound, (params ps).bind args = .ok bound →
        bound.map (fun b => (b.source, b.arg)) =
          args.listed := by
  have hRule :
      ∀ bound, (params ps).bind args = .ok bound ↔
        ∃ a : Binding.Assignment,
          a.Follows ps args ∧ bound = a.bound args :=
    fun _ => Binding.bindParams_eq_ok_iff hWF hPlain
  refine ⟨⟨?_, ?_⟩, ?_, ?_⟩
  · rintro ⟨bound, hBound⟩
    rcases (hRule bound).mp hBound with ⟨a, hFollows, -⟩
    exact ⟨a, hFollows⟩
  · rintro ⟨a, hFollows⟩
    exact
      ⟨a.bound args, (hRule _).mpr ⟨a, hFollows, rfl⟩⟩
  · intro a hFollows
    exact (hRule _).mpr ⟨a, hFollows, rfl⟩
  · intro bound hBound
    rcases (hRule bound).mp hBound with ⟨a, hFollows, rfl⟩
    exact hFollows.listed_bound

/-
  The third position overflows, and the name of the first
  parameter is free for the collected keywords; the name of
  the second is not.
-/
theorem bind_follows_rule_overflow :
    let ps : List Parameter :=
      [⟨some "x", .positionalOnly, .int, false⟩,
        ⟨some "y", .positionalOrKeyword, .str, false⟩,
        ⟨some "rest", .varPositional, .int, false⟩,
        ⟨some "z", .keywordOnly, .bool, false⟩,
        ⟨some "more", .varKeyword, .int, false⟩]
    let args : String → CallArgs := fun name =>
      { positional := [.int, .str, .bool]
        keywords := [(name, .int), ("z", .bool)] }
    ParamList.WellFormed ps ∧
      (args "x").IsPlain ∧ (args "y").IsPlain ∧
      (∃ a : Binding.Assignment, a.Follows ps (args "x")) ∧
      ¬ ∃ a : Binding.Assignment,
        a.Follows ps (args "y") := by
  intro ps args
  have hWF : ParamList.WellFormed ps := by decide
  have hPlain : ∀ name, (args name).IsPlain :=
    fun _ => ⟨rfl, rfl⟩
  refine ⟨hWF, hPlain _, hPlain _, ?_, ?_⟩
  · exact (bind_follows_rule hWF (hPlain "x")).1.mp ⟨_, rfl⟩
  · intro hRule
    rcases (bind_follows_rule hWF (hPlain "y")).1.mpr hRule
      with ⟨bound, hBound⟩
    have hTwice :
        (params ps).bind (args "y") =
          .error (.multipleValues "y") := rfl
    rw [hTwice] at hBound
    cases hBound

end Signature

end SigCheck
