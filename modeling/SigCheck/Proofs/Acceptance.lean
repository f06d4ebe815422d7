import SigCheck.Proofs.BindingRule

/-
  Which calls a parameter list accepts, without places.

  A call is accepted when each of its arguments has a
  receiver, no keyword names a parameter that has a value
  already, and every required parameter is supplied. This
  form compares the calls of two lists, whose places differ.

  Key definitions include:
    * `ParamList.keywordParam?`
    * `ParamList.receiver?`
    * `ParamList.Accepts`

  Correctness is proven by:
    * `ParamList.receiver?_of_mem_bound`
    * `ParamList.exists_bound_iff_accepts`
-/

------------------------------------------------------------
-- Receivers
------------------------------------------------------------

namespace SigCheck

namespace ParamList

/- The parameter that a keyword reaches. -/
def keywordParam?
    (name : String)
    (ps : List Parameter) : Option Parameter :=
  ps.find? fun p =>
    p.kind.isKeyword && p.name == some name

/-
  The parameter that receives an argument: the one at its
  position or of its name, else the variadic one.
-/
def receiver?
    (ps : List Parameter) : ArgSource → Option Parameter
  | .positional index =>
      ((positionalSection ps)[index]?).or
        (firstOfKind .varPositional ps)
  | .keyword name =>
      (keywordParam? name ps).or
        (firstOfKind .varKeyword ps)

/-
  The list accepts a call without unpackings. A keyword must
  not name a positional slot that the positional arguments
  fill, and a repeated keyword must reach no parameter by
  its name.
-/
structure Accepts
    (ps : List Parameter)
    (args : CallArgs) : Prop where
  received :
    ∀ entry ∈ args.listed,
      (receiver? ps entry.1).isSome = true
  apart :
    args.keywords.Pairwise fun k l =>
      k.1 = l.1 → ¬ HasKeyword ps k.1
  unfilled :
    ∀ (index : Nat) (p : Parameter),
      (positionalSection ps)[index]? = some p →
        index < args.positional.length →
          p.kind = .positionalOrKeyword →
            ∀ keyword ∈ args.keywords,
              p.name ≠ some keyword.1
  positional :
    ∀ (index : Nat) (p : Parameter),
      (positionalSection ps)[index]? = some p →
        args.positional.length ≤ index →
          p.isRequired = true →
            p.kind = .positionalOrKeyword ∧
              ∃ keyword ∈ args.keywords,
                p.name = some keyword.1
  keywordOnly :
    ∀ p ∈ ps, p.kind = .keywordOnly →
      p.isRequired = true →
        ∃ keyword ∈ args.keywords, p.name = some keyword.1

variable {ps : List Parameter}

/- Arguments are received by position and by keyword. -/
theorem received_iff {args : CallArgs} :
    (∀ entry ∈ args.listed,
        (receiver? ps entry.1).isSome = true) ↔
      (∀ index < args.positional.length,
          (receiver? ps (.positional index)).isSome = true) ∧
        ∀ keyword ∈ args.keywords,
          (receiver? ps (.keyword keyword.1)).isSome = true := by
  rw [CallArgs.listed, List.forall_mem_append,
    List.forall_mem_map, List.forall_mem_map]
  refine and_congr_left fun _ => ⟨?_, ?_⟩
  · intro h index hIndex
    exact
      h (args.positional[index], index)
        (List.mk_mem_zipIdx_iff_getElem?.mpr
          (List.getElem?_eq_getElem hIndex))
  · intro h arg hArg
    exact h arg.2 (List.snd_lt_of_mem_zipIdx hArg)

/- Each position of an accepted call has a receiver. -/
theorem Accepts.isSome_positional
    {args : CallArgs}
    (h : Accepts ps args)
    {index : Nat}
    (hIndex : index < args.positional.length) :
    (receiver? ps (.positional index)).isSome = true :=
  (received_iff.mp h.received).1 index hIndex

/- Each keyword of an accepted call has a receiver. -/
theorem Accepts.isSome_keyword
    {args : CallArgs}
    (h : Accepts ps args)
    {keyword : String × Ty}
    (hKeyword : keyword ∈ args.keywords) :
    (receiver? ps (.keyword keyword.1)).isSome = true :=
  (received_iff.mp h.received).2 keyword hKeyword

/- The parameter that a keyword reaches is the only one. -/
theorem WellFormed.keywordParam?_eq_some_iff
    (hWF : WellFormed ps)
    {name : String} {p : Parameter} :
    keywordParam? name ps = some p ↔
      p ∈ ps ∧ p.kind.isKeyword = true ∧
        p.name = some name := by
  refine
    (find?_eq_some_iff_of_unique ?_).trans
      (by rw [Bool.and_eq_true, beq_iff_eq])
  intro q hq r hr hqTest hrTest
  simp only [Bool.and_eq_true, beq_iff_eq] at hqTest hrTest
  exact
    hWF.eq_of_name hq hr hqTest.1 hrTest.1
      (hqTest.2.trans hrTest.2.symm)

/- No keyword of that name: it reaches no parameter. -/
theorem keywordParam?_eq_none_iff {name : String} :
    keywordParam? name ps = none ↔
      ¬ HasKeyword ps name := by
  simp [keywordParam?, HasKeyword]

/- The slots of a list carry its parameters. -/
theorem map_slots (ps : List Parameter) :
    (Binding.slots ps).map (·.2) = ps := by
  simp [Binding.slots, Function.comp_def]

/- The positional section lists the positional slots. -/
theorem getElem?_positionalSection (index : Nat) :
    (positionalSection ps)[index]? =
      ((Binding.positionalSlots ps)[index]?).map (·.2) := by
  have hSection :
      positionalSection ps =
        (Binding.positionalSlots ps).map (·.2) := by
    conv => lhs; rw [← map_slots ps]
    exact List.filter_map
  rw [hSection, List.getElem?_map]

/- A search for a slot finds its parameter. -/
theorem map_find?_slots (test : Parameter → Bool) :
    ((Binding.slots ps).find? fun s => test s.2).map (·.2) =
      ps.find? test := by
  conv => rhs; rw [← map_slots ps]
  exact List.find?_map.symm

/- A positional argument goes to its receiver. -/
theorem receiver?_positional (index : Nat) :
    receiver? ps (.positional index) =
      (Binding.placePositional? ps index).map (·.2) := by
  rw [receiver?, Binding.placePositional?, Option.map_or,
    getElem?_positionalSection]
  congr 1
  exact
    (map_find?_slots (·.kind == .varPositional)).symm

/- A keyword goes to its receiver. -/
theorem receiver?_keyword (name : String) :
    receiver? ps (.keyword name) =
      (Binding.keywordTarget? ps name).map (·.2) := by
  rw [receiver?, Binding.keywordTarget?, Option.map_or]
  congr 1
  · exact
      (map_find?_slots fun p =>
        p.kind.isKeyword && p.name == some name).symm
  · exact (map_find?_slots (·.kind == .varKeyword)).symm

/- The slot that takes a position holds its receiver. -/
theorem receiver?_of_takesPosition
    (hWF : WellFormed ps)
    {index : Nat} {slot : Binding.Slot}
    (h : Binding.TakesPosition ps index slot) :
    receiver? ps (.positional index) = some slot.2 := by
  rw [receiver?_positional,
    (Binding.placePositional?_eq_some_iff hWF).mpr h]
  rfl

/- The slot that takes a keyword holds its receiver. -/
theorem receiver?_of_takesKeyword
    (hWF : WellFormed ps)
    {name : String} {slot : Binding.Slot}
    (h : Binding.TakesKeyword ps name slot) :
    receiver? ps (.keyword name) = some slot.2 := by
  rw [receiver?_keyword,
    (Binding.keywordTarget?_eq_some_iff hWF).mpr h]
  rfl

/- A parameter of the positional section has a slot. -/
theorem exists_slot_of_positionalSection
    {index : Nat} {p : Parameter}
    (h : (positionalSection ps)[index]? = some p) :
    ∃ place, ps[place]? = some p ∧
      p.kind.isPositional = true ∧
      (ps.take place).countP (·.kind.isPositional) =
        index := by
  rw [getElem?_positionalSection] at h
  rcases Option.map_eq_some_iff.mp h with
    ⟨⟨place, q⟩, hSlot, rfl⟩
  exact
    ⟨place,
      Binding.positionalSlots_getElem?_eq_some_iff.mp hSlot⟩

/- A positional parameter stands in the section. -/
theorem getElem?_positionalSection_of_place
    {place : Nat} {p : Parameter}
    (hPlace : ps[place]? = some p)
    (hPos : p.kind.isPositional = true) :
    (positionalSection ps)[
      (ps.take place).countP (·.kind.isPositional)]? =
        some p := by
  have hSlot :=
    Binding.positionalSlots_getElem?_eq_some_iff.mpr
      (show ps[((place, p) : Binding.Slot).1]? = some p ∧ _
        from ⟨hPlace, hPos, rfl⟩)
  rw [getElem?_positionalSection, hSlot]
  rfl

end ParamList

end SigCheck

------------------------------------------------------------
-- Accepted Calls
------------------------------------------------------------

namespace SigCheck

namespace ParamList

variable {ps : List Parameter}
variable {args : CallArgs}

section Follows

variable {a : Binding.Assignment}

/- Each argument of an assignment has a receiver. -/
theorem received_of_follows
    (hWF : WellFormed ps)
    (h : a.Follows ps args)
    {entry : ArgSource × Ty}
    (hEntry : entry ∈ args.listed) :
    (receiver? ps entry.1).isSome = true := by
  rcases List.mem_append.mp hEntry with hEntry | hEntry
  · rcases List.mem_map.mp hEntry with ⟨arg, hArg, rfl⟩
    rcases exists_right_of_forall₂ h.positional hArg with
      ⟨slot, -, hTakes⟩
    rw [receiver?_of_takesPosition hWF hTakes]
    rfl
  · rcases List.mem_map.mp hEntry with
      ⟨keyword, hKeyword, rfl⟩
    rcases exists_right_of_forall₂ h.keyword hKeyword with
      ⟨slot, -, hTakes⟩
    rw [receiver?_of_takesKeyword hWF hTakes]
    rfl

/- A repeated keyword reaches no parameter by its name. -/
theorem apart_of_follows
    (hWF : WellFormed ps)
    (h : a.Follows ps args) :
    args.keywords.Pairwise fun k l =>
      k.1 = l.1 → ¬ HasKeyword ps k.1 := by
  have hOnce := (List.pairwise_append.mp h.once).2.1
  refine pairwise_left_of_forall₂ h.keyword hOnce ?_
  intro k s l t hs ht hApart hSame
  rintro ⟨p, hp, hKey, hName⟩
  rcases List.mem_iff_getElem?.mp hp with ⟨place, hPlace⟩
  have hsSlot := hs.eq_of_name hWF hPlace hKey hName
  have htSlot :=
    ht.eq_of_name hWF hPlace hKey (hSame ▸ hName)
  have hVar := hApart (by rw [hsSlot, htSlot])
  rw [htSlot, ParamKind.isVariadic_of_isKeyword hKey] at hVar
  exact Bool.noConfusion hVar

/- A filled position is not named by a keyword. -/
theorem unfilled_of_follows
    (hWF : WellFormed ps)
    (h : a.Follows ps args)
    {index : Nat} {p : Parameter}
    (hSection : (positionalSection ps)[index]? = some p)
    (hFilled : index < args.positional.length)
    (hKind : p.kind = .positionalOrKeyword)
    {keyword : String × Ty}
    (hKeyword : keyword ∈ args.keywords) :
    p.name ≠ some keyword.1 := by
  intro hName
  have hKey : p.kind.isKeyword = true := by
    rw [hKind]
    rfl
  rcases exists_slot_of_positionalSection hSection with
    ⟨place, hPlace, hCounted⟩
  have hArg :
      (args.positional[index], index) ∈
        args.positional.zipIdx := by
    rw [List.mem_zipIdx_iff_getElem?]
    simp
  rcases exists_right_of_forall₂ h.positional hArg with
    ⟨s, hs, hsTakes⟩
  rcases exists_right_of_forall₂ h.keyword hKeyword with
    ⟨t, ht, htTakes⟩
  have hsSlot : s = (place, p) :=
    hsTakes.unique hWF ⟨hPlace, Or.inl hCounted⟩
  have htSlot := htTakes.eq_of_name hWF hPlace hKey hName
  have hVar :=
    (List.pairwise_append.mp h.once).2.2 s hs t ht
      (by rw [hsSlot, htSlot])
  rw [htSlot, ParamKind.isVariadic_of_isKeyword hKey] at hVar
  exact Bool.noConfusion hVar

/-
  A required parameter is filled from its position or named
  by a keyword.
-/
theorem supplied_of_follows
    (h : a.Follows ps args)
    {place : Nat} {p : Parameter}
    (hPlace : ps[place]? = some p)
    (hRequired : p.isRequired = true) :
    (p.kind.isPositional = true ∧
        (ps.take place).countP (·.kind.isPositional) <
          args.positional.length) ∨
      (p.kind.isKeyword = true ∧
        ∃ keyword ∈ args.keywords,
          p.name = some keyword.1) := by
  have hPlain := Parameter.isVariadic_of_isRequired hRequired
  rcases List.mem_append.mp
    (h.supplied place p hPlace hRequired) with hMem | hMem
  · rcases exists_left_of_forall₂ h.positional hMem with
      ⟨arg, hArg, hTakes⟩
    rcases hTakes.counted hPlain with ⟨hPos, hCount⟩
    have hLt := List.snd_lt_of_mem_zipIdx hArg
    exact Or.inl ⟨hPos, hCount ▸ hLt⟩
  · rcases exists_left_of_forall₂ h.keyword hMem with
      ⟨keyword, hKeyword, hTakes⟩
    rcases hTakes.named hPlain with ⟨hKey, hName⟩
    exact Or.inr ⟨hKey, keyword, hKeyword, hName⟩

end Follows

/- An assignment by the rule makes the call accepted. -/
theorem accepts_of_follows
    (hWF : WellFormed ps)
    {a : Binding.Assignment}
    (h : a.Follows ps args) : Accepts ps args where
  received _ hEntry := received_of_follows hWF h hEntry
  apart := apart_of_follows hWF h
  unfilled _ _ hSection hFilled hKind _ hKeyword :=
    unfilled_of_follows hWF h hSection hFilled hKind hKeyword
  positional := by
    intro index p hSection hPast hRequired
    rcases exists_slot_of_positionalSection hSection with
      ⟨place, hPlace, hPos, hCount⟩
    rcases supplied_of_follows h hPlace hRequired with
      ⟨-, hLt⟩ | ⟨hKey, hNamed⟩
    · omega
    · exact
        ⟨ParamKind.eq_positionalOrKeyword hPos hKey, hNamed⟩
  keywordOnly := by
    intro p hp hKind hRequired
    rcases List.mem_iff_getElem?.mp hp with ⟨place, hPlace⟩
    rcases supplied_of_follows h hPlace hRequired with
      ⟨hPos, -⟩ | ⟨-, hNamed⟩
    · rw [hKind] at hPos
      exact Bool.noConfusion hPos
    · exact hNamed

section Accepted

variable {a : Binding.Assignment}

/- Receivers make up an assignment, sharing aside. -/
theorem exists_assignment_of_received
    (hWF : WellFormed ps)
    (hReceived :
      ∀ entry ∈ args.listed,
        (receiver? ps entry.1).isSome = true) :
    ∃ a : Binding.Assignment, a.Fits ps args := by
  rcases received_iff.mp hReceived with
    ⟨hPositions, hNames⟩
  have hPositional :
      ∀ arg ∈ args.positional.zipIdx,
        ∃ slot, Binding.TakesPosition ps arg.2 slot := by
    intro arg hArg
    have hSome :=
      hPositions arg.2 (List.snd_lt_of_mem_zipIdx hArg)
    rw [receiver?_positional, Option.isSome_map,
      Option.isSome_iff_exists] at hSome
    rcases hSome with ⟨slot, hSlot⟩
    exact
      ⟨slot,
        (Binding.placePositional?_eq_some_iff hWF).mp hSlot⟩
  have hKeyword :
      ∀ keyword ∈ args.keywords,
        ∃ slot, Binding.TakesKeyword ps keyword.1 slot := by
    intro keyword hMem
    have hSome := hNames keyword hMem
    rw [receiver?_keyword, Option.isSome_map,
      Option.isSome_iff_exists] at hSome
    rcases hSome with ⟨slot, hSlot⟩
    exact
      ⟨slot,
        (Binding.keywordTarget?_eq_some_iff hWF).mp hSlot⟩
  rcases exists_forall₂_of_forall_mem hPositional with
    ⟨positionals, hPositionals⟩
  rcases exists_forall₂_of_forall_mem hKeyword with
    ⟨keywords, hKeywords⟩
  exact ⟨⟨positionals, keywords⟩, hPositionals, hKeywords⟩

variable (hWF : WellFormed ps)
variable (h : Accepts ps args)
variable (hFits : a.Fits ps args)

include hWF h hFits

/- An accepted call shares no slot. -/
theorem once_of_accepts :
    a.slots.Pairwise Binding.Unshared := by
  rw [hFits.once_iff hWF]
  constructor
  · intro slot hSlot hTaken
    by_contra hNot
    rw [Bool.not_eq_true] at hNot
    rcases exists_left_of_forall₂ hFits.keyword hSlot with
      ⟨keyword, hMem, hTakes⟩
    rcases hTakes.named hNot with ⟨hKey, hName⟩
    have hFilled :=
      (Binding.mem_taken_iff hWF hFits.positional slot
        hTakes.1 hNot).mp hTaken
    rcases exists_left_of_forall₂ hFits.positional hFilled with
      ⟨arg, hArg, hPlaced⟩
    rcases hPlaced.counted hNot with ⟨hPos, hCount⟩
    have hSection :=
      getElem?_positionalSection_of_place hTakes.1 hPos
    have hLt := List.snd_lt_of_mem_zipIdx hArg
    rw [hCount] at hSection
    exact
      h.unfilled arg.2 slot.2 hSection hLt
        (ParamKind.eq_positionalOrKeyword hPos hKey)
        keyword hMem hName
  · refine pairwise_right_of_forall₂ hFits.keyword h.apart ?_
    intro k s l t hs ht hApart hPlace
    by_contra hNot
    rw [Bool.not_eq_true] at hNot
    rcases ht.named hNot with ⟨hKey, hName⟩
    have hSame : s.2 = t.2 := by
      have hPlaced := hs.1
      rw [hPlace, ht.1] at hPlaced
      exact (Option.some.inj hPlaced).symm
    have hNamed := (hs.named (hSame ▸ hNot)).2
    rw [hSame, hName] at hNamed
    have hNames : k.1 = l.1 := (Option.some.inj hNamed).symm
    refine hApart hNames ⟨t.2, ?_, hKey, ?_⟩
    · exact List.mem_of_getElem? ht.1
    · rw [hName, hNames]

/- An accepted call supplies every required parameter. -/
theorem supplied_of_accepts
    {place : Nat} {p : Parameter}
    (hPlace : ps[place]? = some p)
    (hRequired : p.isRequired = true) :
    (place, p) ∈ a.slots := by
  have hPlain := Parameter.isVariadic_of_isRequired hRequired
  have hNamed :
      p.kind.isKeyword = true →
        (∃ keyword ∈ args.keywords,
          p.name = some keyword.1) →
          (place, p) ∈ a.slots := by
    rintro hKey ⟨keyword, hMem, hName⟩
    rcases exists_right_of_forall₂ hFits.keyword hMem with
      ⟨slot, hSlot, hTakes⟩
    rw [← hTakes.eq_of_name hWF hPlace hKey hName]
    exact List.mem_append.mpr (Or.inr hSlot)
  cases hPos : p.kind.isPositional with
  | true =>
      have hSection :=
        getElem?_positionalSection_of_place hPlace hPos
      set index :=
        (ps.take place).countP (·.kind.isPositional)
        with hIndex
      -- The positions fill the slot, or a keyword has to.
      by_cases hLt : index < args.positional.length
      · have hArg :
            (args.positional[index], index) ∈
              args.positional.zipIdx := by
          rw [List.mem_zipIdx_iff_getElem?]
          simp
        rcases exists_right_of_forall₂ hFits.positional hArg with
          ⟨slot, hSlot, hTakes⟩
        have hSame : slot = (place, p) :=
          hTakes.unique hWF
            ⟨hPlace, Or.inl ⟨hPos, hIndex.symm⟩⟩
        rw [← hSame]
        exact List.mem_append.mpr (Or.inl hSlot)
      · rcases h.positional index p hSection
          (Nat.le_of_not_lt hLt) hRequired with
          ⟨hKind, hKeywords⟩
        exact hNamed (by rw [hKind]; rfl) hKeywords
  | false =>
      have hKind : p.kind = .keywordOnly := by
        cases hKind : p.kind <;>
          simp_all [ParamKind.isPositional,
            ParamKind.isVariadic]
      exact
        hNamed (by rw [hKind]; rfl)
          (h.keywordOnly p (List.mem_of_getElem? hPlace)
            hKind hRequired)

end Accepted

/- An accepted call has an assignment by the rule. -/
theorem exists_follows_of_accepts
    (hWF : WellFormed ps)
    (h : Accepts ps args) :
    ∃ a : Binding.Assignment, a.Follows ps args := by
  rcases exists_assignment_of_received hWF h.received with
    ⟨a, hFits⟩
  exact
    ⟨a, hFits, once_of_accepts hWF h hFits,
      fun _ _ hPlace hRequired =>
        supplied_of_accepts hWF h hFits hPlace hRequired⟩

/- Binding succeeds exactly on the accepted calls. -/
theorem exists_bound_iff_accepts
    (hWF : WellFormed ps)
    (hPlain : args.IsPlain) :
    (∃ bound, Binding.bindParams ps args = .ok bound) ↔
      Accepts ps args := by
  constructor
  · rintro ⟨bound, hBound⟩
    rcases (Binding.bindParams_eq_ok_iff hWF hPlain).mp
      hBound with ⟨a, hFollows, -⟩
    exact accepts_of_follows hWF hFollows
  · intro h
    rcases exists_follows_of_accepts hWF h with ⟨a, hFollows⟩
    exact
      ⟨_, (Binding.bindParams_eq_ok_iff hWF hPlain).mpr
        ⟨a, hFollows, rfl⟩⟩

section Bound

variable (hWF : WellFormed ps)
variable (hPlain : args.IsPlain)
variable {bound : List BoundArg}
variable (hBound : Binding.bindParams ps args = .ok bound)

include hWF hPlain hBound

/- The records list the arguments of the call in order. -/
theorem listed_of_bound :
    bound.map (fun b => (b.source, b.arg)) =
      args.listed := by
  rcases (Binding.bindParams_eq_ok_iff hWF hPlain).mp
    hBound with ⟨a, hFollows, rfl⟩
  exact hFollows.listed_bound

/- Each record names the receiver of its argument. -/
theorem receiver?_of_mem_bound
    {b : BoundArg}
    (hb : b ∈ bound) :
    receiver? ps b.source = some b.param := by
  rcases (Binding.bindParams_eq_ok_iff hWF hPlain).mp
    hBound with ⟨a, hFollows, rfl⟩
  rcases List.mem_append.mp hb with hb | hb
  · rcases exists_of_mem_zipWith hFollows.positional hb with
      ⟨arg, slot, hTakes, rfl⟩
    exact receiver?_of_takesPosition hWF hTakes
  · rcases exists_of_mem_zipWith hFollows.keyword hb with
      ⟨keyword, slot, hTakes, rfl⟩
    exact receiver?_of_takesKeyword hWF hTakes

/- Each keyword of the call has a record. -/
theorem exists_record_of_keyword
    {keyword : String × Ty}
    (hKeyword : keyword ∈ args.keywords) :
    ∃ b ∈ bound, b.source = .keyword keyword.1 := by
  have hListed :
      (ArgSource.keyword keyword.1, keyword.2) ∈
        args.listed :=
    List.mem_append.mpr
      (Or.inr (List.mem_map.mpr ⟨keyword, hKeyword, rfl⟩))
  rw [← listed_of_bound hWF hPlain hBound] at hListed
  rcases List.mem_map.mp hListed with ⟨b, hb, hSame⟩
  exact ⟨b, hb, (Prod.mk.inj hSame).1⟩

end Bound

end ParamList

end SigCheck
