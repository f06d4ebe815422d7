import SigCheck.Proofs.KeywordMerge
import SigCheck.Proofs.Acceptance

/-
  What callers see of a parameter list.

  Whether a list accepts a call depends on which positions
  have a slot, on the slots that have a name or must be
  filled, on the keyword-only names, and on the two variadic
  parameters. Lists that agree on these accept the same
  calls, those with unpackings included: an unpacking only
  makes parameters optional.

  Key definitions include:
    * `ParamList.HasSlot`, `ParamList.NamesSlot`
    * `ParamList.NeedsSlot`, `ParamList.NeedsKeyword`
    * `ParamList.relax`
    * `ParamList.Interchangeable`

  Correctness is proven by:
    * `Binding.exists_bound_relax_iff`
    * `ParamList.accepts_iff_admits`
    * `ParamList.Interchangeable.bind_iff`
-/

------------------------------------------------------------
-- Parameters with Other Defaults
------------------------------------------------------------

namespace SigCheck

namespace Binding

section Map

variable {ps : List Parameter} {f : Parameter → Parameter}
variable (hKind : ∀ p, (f p).kind = p.kind)
variable (hName : ∀ p, (f p).name = p.name)

theorem slots_map (ps : List Parameter) :
    slots (ps.map f) = (slots ps).map (Prod.map id f) := by
  simp [slots, List.zipIdx_map, Function.comp_def]

include hKind

theorem positionalSlots_map :
    positionalSlots (ps.map f) =
      (positionalSlots ps).map (Prod.map id f) := by
  rw [positionalSlots, slots_map, List.filter_map,
    positionalSlots]
  simp [Function.comp_def, hKind]

theorem slotOfKind?_map (kind : ParamKind) :
    slotOfKind? kind (ps.map f) =
      (slotOfKind? kind ps).map (Prod.map id f) := by
  rw [slotOfKind?, slots_map, List.find?_map, slotOfKind?]
  simp only [Function.comp_def, Prod.map_snd, hKind]

theorem placePositional?_map (index : Nat) :
    placePositional? (ps.map f) index =
      (placePositional? ps index).map (Prod.map id f) := by
  rw [placePositional?, positionalSlots_map hKind,
    slotOfKind?_map hKind, List.getElem?_map,
    ← Option.map_or, placePositional?]

/- Positional arguments go to the same places. -/
theorem exists_placePositionals_map_iff
    (total first : Nat)
    (args : List Ty) :
    (∃ bound,
        placePositionals (ps.map f) total first args =
          .ok bound) ↔
      ∃ bound,
        placePositionals ps total first args =
          .ok bound := by
  induction args generalizing first with
  | nil => simp [placePositionals]
  | cons arg args ih =>
      simp only [placePositionals,
        placePositional?_map hKind]
      cases placePositional? ps first with
      | none => simp
      | some slot =>
          simp only [Option.map_some, bind_eq_ok_iff]
          simpa [pure, Except.pure] using ih (first + 1)

include hName

theorem keywordSlot?_map (name : String) :
    keywordSlot? (ps.map f) name =
      (keywordSlot? ps name).map (Prod.map id f) := by
  rw [keywordSlot?, slots_map, List.find?_map, keywordSlot?]
  simp only [Function.comp_def, Prod.map_snd, hKind, hName]

theorem placeKeyword_map
    (filled : List Nat)
    (name : String) :
    placeKeyword (ps.map f) filled name =
      (placeKeyword ps filled name).map (Prod.map id f) := by
  have hOnly :
      isPositionalOnlyName (ps.map f) name =
        isPositionalOnlyName ps name := by
    simp [isPositionalOnlyName, Function.comp_def, hKind,
      hName]
  unfold placeKeyword
  rw [keywordSlot?_map hKind hName, slotOfKind?_map hKind,
    hOnly]
  cases keywordSlot? ps name with
  | some slot =>
      simp only [Option.map_some, Prod.map, id_eq]
      split <;> rfl
  | none =>
      cases slotOfKind? .varKeyword ps with
      | some slot => rfl
      | none =>
          simp only [Option.map_none]
          split <;> rfl

/- Keyword arguments fill the same places. -/
theorem exists_placeKeywords_map_iff
    (filled after : List Nat)
    (keywords : List (String × Ty)) :
    (∃ bound,
        placeKeywords (ps.map f) filled keywords =
          .ok (bound, after)) ↔
      ∃ bound,
        placeKeywords ps filled keywords =
          .ok (bound, after) := by
  induction keywords generalizing filled with
  | nil => simp [placeKeywords]
  | cons keyword keywords ih =>
      rcases keyword with ⟨name, arg⟩
      simp only [placeKeywords,
        placeKeyword_map hKind hName]
      cases placeKeyword ps filled name with
      | error e => simp [Except.map, bind_eq_ok_iff]
      | ok slot =>
          have hRest := ih (slot.1 :: filled)
          simp only [Except.map, bind_eq_ok_iff, pure,
            Except.pure, Except.ok.injEq, Prod.mk.injEq,
            Prod.map, id_eq]
          constructor
          · rintro ⟨_, _, rfl, ⟨rest, _⟩, hRun, -, rfl⟩
            rcases hRest.mp ⟨rest, hRun⟩ with ⟨rest', hRun'⟩
            exact ⟨_, slot, rfl, ⟨rest', _⟩, hRun', rfl, rfl⟩
          · rintro ⟨_, _, rfl, ⟨rest, _⟩, hRun, -, rfl⟩
            rcases hRest.mpr ⟨rest, hRun⟩ with ⟨rest', hRun'⟩
            exact ⟨_, _, rfl, ⟨rest', _⟩, hRun', rfl, rfl⟩

end Map

/- An unpacking that may supply a parameter is its default. -/
def relaxParam (args : CallArgs) (p : Parameter) : Parameter :=
  { p with
    hasDefault := p.hasDefault || mayBeUnpacked args p }

/- Make parameters optional that an unpacking may supply. -/
def relax
    (args : CallArgs)
    (ps : List Parameter) : List Parameter :=
  ps.map (relaxParam args)

end Binding

/- The arguments that the call spells out. -/
def CallArgs.spelledOut (args : CallArgs) : CallArgs :=
  { args with star := [], doubleStar := [] }

theorem CallArgs.isPlain_spelledOut (args : CallArgs) :
    args.spelledOut.IsPlain :=
  ⟨rfl, rfl⟩

namespace Binding

variable {ps : List Parameter} {args : CallArgs}

/- What is missing is required and cannot be unpacked. -/
theorem missing_relax_eq_nil_iff (filled : List Nat) :
    missing (relax args ps) args.spelledOut filled = [] ↔
      missing ps args filled = [] := by
  have hNone (p : Parameter) :
      mayBeUnpacked args.spelledOut p = false := by
    simp [mayBeUnpacked, CallArgs.spelledOut]
  simp only [missing, relax, slots_map,
    List.filterMap_eq_nil_iff, List.forall_mem_map, Prod.map,
    hNone]
  refine forall₂_congr fun slot _ => ?_
  cases hDefault : slot.2.hasDefault <;>
    cases hUnpacked : mayBeUnpacked args slot.2 <;>
      simp [relaxParam, Parameter.isRequired, hDefault,
        hUnpacked]

/- Matching succeeds if each of its passes does. -/
theorem exists_bound_iff_passes :
    (∃ bound, bindParams ps args = .ok bound) ↔
      (∃ leading,
        placePositionals ps args.positional.length 0
          args.positional = .ok leading) ∧
        ∃ filled,
          (∃ named,
            placeKeywords ps
              (((positionalSlots ps).take
                args.positional.length).map (·.1))
              args.keywords = .ok (named, filled)) ∧
            missing ps args filled = [] := by
  simp only [bindParams_eq_ok_iff_passes]
  constructor
  · rintro ⟨_, leading, named, filled, hLeading, hNamed,
      hMissing, -⟩
    exact
      ⟨⟨leading, hLeading⟩, filled, ⟨named, hNamed⟩, hMissing⟩
  · rintro ⟨⟨leading, hLeading⟩, filled, ⟨named, hNamed⟩,
      hMissing⟩
    exact
      ⟨_, leading, named, filled, hLeading, hNamed, hMissing,
        rfl⟩

/-
  A call with unpackings binds exactly if what it spells out
  binds to the list relaxed by them.
-/
theorem exists_bound_relax_iff :
    (∃ bound, bindParams ps args = .ok bound) ↔
      ∃ bound,
        bindParams (relax args ps) args.spelledOut =
          .ok bound := by
  have hKind (p : Parameter) :
      (relaxParam args p).kind = p.kind := rfl
  have hName (p : Parameter) :
      (relaxParam args p).name = p.name := rfl
  have hTaken (count : Nat) :
      ((positionalSlots (relax args ps)).take count).map
          (·.1) =
        ((positionalSlots ps).take count).map (·.1) := by
    rw [relax, positionalSlots_map hKind, ← List.map_take,
      List.map_map]
    rfl
  rw [exists_bound_iff_passes, exists_bound_iff_passes, hTaken]
  simp only [missing_relax_eq_nil_iff]
  exact
    and_congr
      (exists_placePositionals_map_iff hKind _ _ _).symm
      (exists_congr fun filled =>
        and_congr_left'
          (exists_placeKeywords_map_iff hKind hName _ _
            _).symm)

end Binding

end SigCheck

------------------------------------------------------------
-- Views
------------------------------------------------------------

namespace SigCheck

namespace ParamList

/- The list has a slot of its own for the position. -/
def HasSlot (ps : List Parameter) (index : Nat) : Prop :=
  index < (positionalSection ps).length

/- A keyword of this name reaches the slot of the position. -/
def NamesSlot
    (ps : List Parameter)
    (index : Nat)
    (name : String) : Prop :=
  ∃ p, (positionalSection ps)[index]? = some p ∧
    p.kind = .positionalOrKeyword ∧ p.name = some name

/- The slot of the position has no default. -/
def NeedsSlot (ps : List Parameter) (index : Nat) : Prop :=
  ∃ p, (positionalSection ps)[index]? = some p ∧
    p.hasDefault = false

/- A parameter takes the positions past the slots. -/
def HasStar (ps : List Parameter) : Prop :=
  (firstOfKind .varPositional ps).isSome = true

/- A parameter takes the keywords without one of their own. -/
def HasOthers (ps : List Parameter) : Prop :=
  (firstOfKind .varKeyword ps).isSome = true

/- Only a keyword reaches the parameter of this name. -/
def HasKeywordOnly
    (ps : List Parameter)
    (name : String) : Prop :=
  ∃ p ∈ ps, p.kind = .keywordOnly ∧ p.name = some name

/- That parameter has no default. -/
def NeedsKeyword
    (ps : List Parameter)
    (name : String) : Prop :=
  ∃ p ∈ ps, p.kind = .keywordOnly ∧ p.name = some name ∧
    p.hasDefault = false

/- An argument at the position has a receiver. -/
def AdmitsPosition
    (ps : List Parameter)
    (index : Nat) : Prop :=
  HasSlot ps index ∨ HasStar ps

variable {ps qs : List Parameter} {args : CallArgs}
variable {index : Nat} {name : String}

theorem NamesSlot.hasSlot
    (h : NamesSlot ps index name) : HasSlot ps index := by
  rcases h with ⟨p, hIndex, -⟩
  exact (List.getElem?_eq_some_iff.mp hIndex).1

theorem NeedsSlot.hasSlot
    (h : NeedsSlot ps index) : HasSlot ps index := by
  rcases h with ⟨p, hIndex, -⟩
  exact (List.getElem?_eq_some_iff.mp hIndex).1

theorem NeedsKeyword.hasKeywordOnly
    (h : NeedsKeyword ps name) : HasKeywordOnly ps name := by
  rcases h with ⟨p, hp, hKind, hName, -⟩
  exact ⟨p, hp, hKind, hName⟩

/- A positional parameter without a default is required. -/
theorem isRequired_of_isPositional
    {p : Parameter}
    (hPos : p.kind.isPositional = true) :
    p.isRequired = true ↔ p.hasDefault = false := by
  simp [Parameter.isRequired,
    ParamKind.isVariadic_of_isPositional hPos]

/- A keyword reaches a named slot or a keyword-only name. -/
theorem hasKeyword_iff_views :
    HasKeyword ps name ↔
      HasKeywordOnly ps name ∨
        ∃ index, NamesSlot ps index name := by
  constructor
  · rintro ⟨p, hp, hKey, hName⟩
    cases hPos : p.kind.isPositional with
    | false =>
        exact
          Or.inl ⟨p, hp, ParamKind.eq_keywordOnly hPos hKey,
            hName⟩
    | true =>
        rcases exists_index_of_isPositional hp hPos with
          ⟨index, hIndex⟩
        exact
          Or.inr ⟨index, p, hIndex,
            ParamKind.eq_positionalOrKeyword hPos hKey, hName⟩
  · rintro (⟨p, hp, hKind, hName⟩ |
      ⟨index, p, hIndex, hKind, hName⟩)
    · exact ⟨p, hp, by rw [hKind]; rfl, hName⟩
    · exact
        ⟨p, (mem_of_getElem?_positionalSection hIndex).1,
          by rw [hKind]; rfl, hName⟩

theorem isSome_receiver?_positional_iff :
    (receiver? ps (.positional index)).isSome = true ↔
      AdmitsPosition ps index := by
  simp [receiver?, AdmitsPosition, HasSlot, HasStar]

theorem isSome_receiver?_keyword_iff :
    (receiver? ps (.keyword name)).isSome = true ↔
      HasKeyword ps name ∨ HasOthers ps := by
  rw [receiver?, Option.isSome_or, Bool.or_eq_true]
  refine or_congr ?_ Iff.rfl
  rw [← not_iff_not, Bool.not_eq_true,
    Option.isSome_eq_false_iff, Option.isNone_iff_eq_none]
  exact keywordParam?_eq_none_iff

/- What acceptance of a call asks of the views of a list. -/
structure Admits
    (ps : List Parameter)
    (args : CallArgs) : Prop where
  positions :
    ∀ index < args.positional.length,
      AdmitsPosition ps index
  keywords :
    ∀ keyword ∈ args.keywords,
      HasKeyword ps keyword.1 ∨ HasOthers ps
  apart :
    args.keywords.Pairwise fun k l =>
      k.1 = l.1 → ¬ HasKeyword ps k.1
  unfilled :
    ∀ index < args.positional.length,
      ∀ keyword ∈ args.keywords,
        ¬ NamesSlot ps index keyword.1
  slots :
    ∀ index, NeedsSlot ps index →
      args.positional.length ≤ index →
        ∃ keyword ∈ args.keywords,
          NamesSlot ps index keyword.1
  named :
    ∀ name, NeedsKeyword ps name →
      ∃ keyword ∈ args.keywords, keyword.1 = name

/- Acceptance looks at the views only. -/
theorem accepts_iff_admits
    (hWF : WellFormed ps) :
    Accepts ps args ↔ Admits ps args := by
  constructor
  · intro h
    constructor
    case positions =>
      intro index hIndex
      exact
        isSome_receiver?_positional_iff.mp
          (h.isSome_positional hIndex)
    case keywords =>
      intro keyword hKeyword
      exact
        isSome_receiver?_keyword_iff.mp
          (h.isSome_keyword hKeyword)
    case apart => exact h.apart
    case unfilled =>
      rintro index hLt keyword hKeyword
        ⟨p, hIndex, hKind, hName⟩
      exact
        h.unfilled index p hIndex hLt hKind keyword hKeyword
          hName
    case slots =>
      rintro index ⟨p, hIndex, hDefault⟩ hPast
      have hPos :=
        (mem_of_getElem?_positionalSection hIndex).2
      rcases h.positional index p hIndex hPast
        ((isRequired_of_isPositional hPos).mpr hDefault) with
        ⟨hKind, keyword, hKeyword, hName⟩
      exact ⟨keyword, hKeyword, p, hIndex, hKind, hName⟩
    case named =>
      rintro name ⟨p, hp, hKind, hName, hDefault⟩
      rcases h.keywordOnly p hp hKind
        (by simp [Parameter.isRequired, hKind, hDefault,
          ParamKind.isVariadic]) with
        ⟨keyword, hKeyword, hSame⟩
      exact
        ⟨keyword, hKeyword,
          Option.some.inj (hSame.symm.trans hName)⟩
  · intro h
    constructor
    case received =>
      refine received_iff.mpr ⟨?_, ?_⟩
      · intro index hIndex
        exact
          isSome_receiver?_positional_iff.mpr
            (h.positions index hIndex)
      · intro keyword hKeyword
        exact
          isSome_receiver?_keyword_iff.mpr
            (h.keywords keyword hKeyword)
    case apart => exact h.apart
    case unfilled =>
      intro index p hIndex hLt hKind keyword hKeyword hName
      exact
        h.unfilled index hLt keyword hKeyword
          ⟨p, hIndex, hKind, hName⟩
    case positional =>
      intro index p hIndex hPast hRequired
      have hPos :=
        (mem_of_getElem?_positionalSection hIndex).2
      have hDefault :=
        (isRequired_of_isPositional hPos).mp hRequired
      rcases h.slots index ⟨p, hIndex, hDefault⟩ hPast with
        ⟨keyword, hKeyword, q, hSame, hKind, hName⟩
      cases hIndex.symm.trans hSame
      exact ⟨hKind, keyword, hKeyword, hName⟩
    case keywordOnly =>
      intro p hp hKind hRequired
      rcases hWF.exists_name hp (by rw [hKind]; rfl) with
        ⟨name, hName⟩
      have hDefault : p.hasDefault = false := by
        simp only [Parameter.isRequired, Bool.and_eq_true,
          Bool.not_eq_true'] at hRequired
        exact hRequired.1
      rcases h.named name ⟨p, hp, hKind, hName, hDefault⟩ with
        ⟨keyword, hKeyword, rfl⟩
      exact ⟨keyword, hKeyword, hName⟩

end ParamList

end SigCheck

------------------------------------------------------------
-- Interchangeable Lists
------------------------------------------------------------

namespace SigCheck

namespace ParamList

/- Callers see no difference between the two lists. -/
structure Interchangeable
    (ps qs : List Parameter) : Prop where
  hasSlot : ∀ index, HasSlot ps index ↔ HasSlot qs index
  namesSlot :
    ∀ index name,
      NamesSlot ps index name ↔ NamesSlot qs index name
  needsSlot :
    ∀ index, NeedsSlot ps index ↔ NeedsSlot qs index
  hasStar : HasStar ps ↔ HasStar qs
  hasOthers : HasOthers ps ↔ HasOthers qs
  keywordOnly :
    ∀ name, HasKeywordOnly ps name ↔ HasKeywordOnly qs name
  needsKeyword :
    ∀ name, NeedsKeyword ps name ↔ NeedsKeyword qs name

namespace Interchangeable

variable {ps qs : List Parameter} {args : CallArgs}

theorem admitsPosition
    (h : Interchangeable ps qs)
    (index : Nat) :
    AdmitsPosition ps index ↔ AdmitsPosition qs index :=
  or_congr (h.hasSlot index) h.hasStar

theorem hasKeyword
    (h : Interchangeable ps qs)
    (name : String) :
    HasKeyword ps name ↔ HasKeyword qs name := by
  rw [hasKeyword_iff_views, hasKeyword_iff_views]
  exact
    or_congr (h.keywordOnly name)
      (exists_congr fun index => h.namesSlot index name)

theorem symm
    (h : Interchangeable ps qs) : Interchangeable qs ps where
  hasSlot index := (h.hasSlot index).symm
  namesSlot index name := (h.namesSlot index name).symm
  needsSlot index := (h.needsSlot index).symm
  hasStar := h.hasStar.symm
  hasOthers := h.hasOthers.symm
  keywordOnly name := (h.keywordOnly name).symm
  needsKeyword name := (h.needsKeyword name).symm

/- What one of them admits, the other admits. -/
theorem admits
    (h : Interchangeable ps qs)
    (hAdmits : Admits ps args) : Admits qs args where
  positions index hIndex :=
    (h.admitsPosition index).mp (hAdmits.positions index hIndex)
  keywords keyword hKeyword :=
    (hAdmits.keywords keyword hKeyword).imp
      (h.hasKeyword keyword.1).mp h.hasOthers.mp
  apart :=
    hAdmits.apart.imp fun hApart hSame hHas =>
      hApart hSame ((h.hasKeyword _).mpr hHas)
  unfilled index hIndex keyword hKeyword hNames :=
    hAdmits.unfilled index hIndex keyword hKeyword
      ((h.namesSlot index keyword.1).mpr hNames)
  slots index hNeeds hPast := by
    rcases hAdmits.slots index ((h.needsSlot index).mpr hNeeds)
      hPast with ⟨keyword, hKeyword, hNames⟩
    exact
      ⟨keyword, hKeyword,
        (h.namesSlot index keyword.1).mp hNames⟩
  named name hNeeds :=
    hAdmits.named name ((h.needsKeyword name).mpr hNeeds)

end Interchangeable

section Relax

open Binding

variable {ps qs : List Parameter} {args : CallArgs}

theorem positionalSection_relax :
    positionalSection (relax args ps) =
      (positionalSection ps).map (relaxParam args) := by
  rw [relax, positionalSection, List.filter_map]
  rfl

theorem firstOfKind_relax (kind : ParamKind) :
    firstOfKind kind (relax args ps) =
      (firstOfKind kind ps).map (relaxParam args) := by
  rw [relax, firstOfKind, List.find?_map]
  rfl

theorem getElem?_positionalSection_relax (index : Nat) :
    (positionalSection (relax args ps))[index]? =
      ((positionalSection ps)[index]?).map
        (relaxParam args) := by
  rw [positionalSection_relax, List.getElem?_map]

/- Relaxing leaves kinds and names as they are. -/
theorem WellFormed.relax
    (hWF : WellFormed ps) :
    WellFormed (relax args ps) where
  ordered := List.pairwise_map.mpr hWF.ordered
  single := List.pairwise_map.mpr hWF.single
  named := List.forall_mem_map.mpr hWF.named
  distinct := List.pairwise_map.mpr hWF.distinct

theorem hasSlot_relax_iff {index : Nat} :
    HasSlot (relax args ps) index ↔ HasSlot ps index := by
  rw [HasSlot, positionalSection_relax, List.length_map]
  rfl

theorem namesSlot_relax_iff {index : Nat} {name : String} :
    NamesSlot (relax args ps) index name ↔
      NamesSlot ps index name := by
  simp [NamesSlot, getElem?_positionalSection_relax,
    relaxParam]

/-
  A slot is still needed without unpacked positions, unless
  an unpacked mapping may name it.
-/
theorem needsSlot_relax_iff
    (hWF : WellFormed ps)
    {index : Nat} :
    NeedsSlot (relax args ps) index ↔
      NeedsSlot ps index ∧ args.star = [] ∧
        (args.doubleStar = [] ∨
          ∀ name, ¬ NamesSlot ps index name) := by
  have hUnpacked {p : Parameter}
      (hIndex : (positionalSection ps)[index]? = some p) :
      mayBeUnpacked args p = false ↔
        args.star = [] ∧
          (args.doubleStar = [] ∨
            ∀ name, ¬ NamesSlot ps index name) := by
    rcases mem_of_getElem?_positionalSection hIndex with
      ⟨hp, hPos⟩
    cases hKey : p.kind.isKeyword with
    | true =>
        have hKind := ParamKind.eq_positionalOrKeyword hPos hKey
        rcases hWF.exists_name hp hKey with ⟨name, hName⟩
        have hNames : ¬ ∀ name, ¬ NamesSlot ps index name :=
          fun hNone => hNone name ⟨p, hIndex, hKind, hName⟩
        simp [mayBeUnpacked, hPos, hKey, hNames]
    | false =>
        have hNone : ∀ name, ¬ NamesSlot ps index name := by
          rintro name ⟨q, hSame, hKind, -⟩
          cases hIndex.symm.trans hSame
          rw [hKind] at hKey
          cases hKey
        simp [mayBeUnpacked, hPos, hKey, hNone]
  simp only [NeedsSlot, getElem?_positionalSection_relax,
    Option.map_eq_some_iff]
  constructor
  · rintro ⟨_, ⟨p, hIndex, rfl⟩, hDefault⟩
    rcases Bool.or_eq_false_iff.mp hDefault with
      ⟨hOwn, hNone⟩
    exact ⟨⟨p, hIndex, hOwn⟩, (hUnpacked hIndex).mp hNone⟩
  · rintro ⟨⟨p, hIndex, hOwn⟩, hNone⟩
    exact
      ⟨_, ⟨p, hIndex, rfl⟩,
        Bool.or_eq_false_iff.mpr
          ⟨hOwn, (hUnpacked hIndex).mpr hNone⟩⟩

theorem hasKeywordOnly_relax_iff {name : String} :
    HasKeywordOnly (relax args ps) name ↔
      HasKeywordOnly ps name := by
  simp [HasKeywordOnly, relax, relaxParam]

/- A keyword is still needed without unpacked mappings. -/
theorem needsKeyword_relax_iff {name : String} :
    NeedsKeyword (relax args ps) name ↔
      NeedsKeyword ps name ∧ args.doubleStar = [] := by
  have hUnpacked {p : Parameter}
      (hKind : p.kind = .keywordOnly) :
      mayBeUnpacked args p = false ↔
        args.doubleStar = [] := by
    simp [mayBeUnpacked, hKind, ParamKind.isPositional,
      ParamKind.isKeyword]
  constructor
  · rintro ⟨q, hq, hKind, hName, hDefault⟩
    rcases List.mem_map.mp hq with ⟨p, hp, rfl⟩
    rcases Bool.or_eq_false_iff.mp hDefault with
      ⟨hOwn, hNone⟩
    exact
      ⟨⟨p, hp, hKind, hName, hOwn⟩,
        (hUnpacked hKind).mp hNone⟩
  · rintro ⟨⟨p, hp, hKind, hName, hOwn⟩, hNone⟩
    exact
      ⟨_, List.mem_map_of_mem hp, hKind, hName,
        Bool.or_eq_false_iff.mpr
          ⟨hOwn, (hUnpacked hKind).mpr hNone⟩⟩

/- Relaxed by the same call, callers still see no difference. -/
theorem Interchangeable.relax
    (hps : WellFormed ps)
    (hqs : WellFormed qs)
    (h : Interchangeable ps qs)
    (args : CallArgs) :
    Interchangeable (relax args ps) (relax args qs) where
  hasSlot index := by
    simpa only [hasSlot_relax_iff] using h.hasSlot index
  namesSlot index name := by
    simpa only [namesSlot_relax_iff] using
      h.namesSlot index name
  needsSlot index := by
    simp only [needsSlot_relax_iff hps,
      needsSlot_relax_iff hqs, h.needsSlot, h.namesSlot]
  hasStar := by
    simpa only [HasStar, firstOfKind_relax,
      Option.isSome_map] using h.hasStar
  hasOthers := by
    simpa only [HasOthers, firstOfKind_relax,
      Option.isSome_map] using h.hasOthers
  keywordOnly name := by
    simpa only [hasKeywordOnly_relax_iff] using
      h.keywordOnly name
  needsKeyword name := by
    simp only [needsKeyword_relax_iff, h.needsKeyword]

end Relax

/-
  Lists that callers see no difference between bind the same
  calls, unpackings included.
-/
theorem Interchangeable.bind_iff
    {ps qs : List Parameter}
    (hps : WellFormed ps)
    (hqs : WellFormed qs)
    (h : Interchangeable ps qs)
    (args : CallArgs) :
    (∃ bound, (Signature.params ps).bind args = .ok bound) ↔
      ∃ bound, (Signature.params qs).bind args = .ok bound := by
  have hAdmits {xs : List Parameter} (hxs : WellFormed xs) :
      (∃ bound, Binding.bindParams xs args = .ok bound) ↔
        Admits (Binding.relax args xs) args.spelledOut := by
    rw [Binding.exists_bound_relax_iff,
      exists_bound_iff_accepts hxs.relax
        args.isPlain_spelledOut,
      accepts_iff_admits hxs.relax]
  have hRelaxed := h.relax hps hqs args
  exact
    (hAdmits hps).trans
      (Iff.trans ⟨hRelaxed.admits, hRelaxed.symm.admits⟩
        (hAdmits hqs).symm)

end ParamList

end SigCheck
