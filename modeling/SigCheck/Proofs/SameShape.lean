import SigCheck.Proofs.Rejoin
import SigCheck.Proofs.SubtypeRules

/-
  Compatibility of signatures that differ in types only.

  Two lists of one shape have the same names, kinds and
  defaults. Joining them takes the meet at every place and
  changes nothing else but the names of positional-only
  slots, which do not count. So one is compatible with the
  other exactly if every expected type narrows the type at
  its place.

  Key definitions include:
    * `Parameter.blank`, `Signature.blank`
    * `Parameter.unnamed`
    * `Parameter.Suits`
    * `Signature.Declared`

  Correctness is proven by:
    * `JoinParts.Joins.of_alike`
    * `ParamList.Declarable.isJoined`
    * `ParamList.Declarable.isCompatibleWith_iff_covers`
    * `ParamList.isCompatibleWith_iff_suits`
    * `Signature.isCompatibleWith_iff_suits`
-/

------------------------------------------------------------
-- Names That Do Not Count
------------------------------------------------------------

namespace SigCheck

open ParamList

/- Only the name of a positional-only slot may differ. -/
theorem Parameter.Alike.eq
    {p q : Parameter}
    (h : p.Alike q)
    (hKind : p.kind ≠ .positionalOnly) : p = q := by
  rcases p with ⟨name, kind, ty, optional⟩
  rcases q with ⟨name', kind', ty', optional'⟩
  rcases h with ⟨rfl, rfl, rfl, hName⟩
  cases hName.resolve_left hKind
  rfl

/- A merged slot has a name only if both slots have one. -/
theorem Parameter.Alike.mergeBy_eq
    {p p' : Parameter}
    (h : p.Alike p')
    (meet : Ty → Ty → Option Ty)
    (q : Parameter) :
    p.mergeBy meet q = p'.mergeBy meet q := by
  rcases p with ⟨name, kind, ty, optional⟩
  rcases p' with ⟨name', kind', ty', optional'⟩
  rcases h with ⟨rfl, rfl, rfl, hKind | rfl⟩
  · simp only at hKind
    subst hKind
    rfl
  · rfl

section Alike

variable {ps ps' qs : List Parameter}
variable (h : List.Forall₂ Parameter.Alike ps ps')

include h

/- Alike lists have the same parameters of other kinds. -/
theorem filter_eq_of_alike
    {kind : ParamKind}
    (hKind : kind ≠ .positionalOnly) :
    ps.filter (·.kind == kind) =
      ps'.filter (·.kind == kind) := by
  induction h with
  | nil => rfl
  | @cons p q ps ps' hpq _ ih =>
      rw [List.filter_cons, List.filter_cons, ih, hpq.kind]
      split
      · rename_i hSame
        rw [beq_iff_eq] at hSame
        rw [hpq.eq (by rw [hpq.kind, hSame]; exact hKind)]
      · rfl

theorem firstOfKind_eq_of_alike
    {kind : ParamKind}
    (hKind : kind ≠ .positionalOnly) :
    firstOfKind kind ps = firstOfKind kind ps' := by
  rw [firstOfKind, firstOfKind, ← List.head?_filter,
    ← List.head?_filter, filter_eq_of_alike h hKind]

/- Slots past the first ones are alike as well. -/
theorem drop_positionalSection_alike (filled : Nat) :
    List.Forall₂ Parameter.Alike
      ((positionalSection ps).drop filled)
      ((positionalSection ps').drop filled) :=
  List.forall₂_drop filled (positionalSection_alike h)

theorem fillable_of_alike
    {filled : Nat}
    (hFillable : Fillable filled ps) :
    Fillable filled ps' := by
  intro q hq hKind
  rcases exists_left_of_forall₂
    (drop_positionalSection_alike h filled) hq with
    ⟨p, hp, hpq⟩
  rw [← hpq.isRequired_eq]
  exact hFillable p hp (by rwa [hpq.kind])

/- Keywords reach the same parameters past the first slots. -/
theorem keywordsPast_eq_of_alike (filled : Nat) :
    keywordsPast filled ps = keywordsPast filled ps' := by
  have hDrop := drop_positionalSection_alike h filled
  unfold keywordsPast
  congr 1
  · exact filter_eq_of_alike hDrop nofun
  · exact filter_eq_of_alike h nofun

/- The same names are used up by the first slots. -/
theorem isConsumed_eq_of_alike (filled : Nat) (name : String) :
    isConsumed (positionalSection ps) filled name =
      isConsumed (positionalSection ps') filled name := by
  have hFirst :=
    List.forall₂_take filled (positionalSection_alike h)
  unfold isConsumed
  rw [← List.any_filter, ← List.any_filter]
  congr 1
  exact filter_eq_of_alike hFirst nofun

/- Merging a keyword looks at nothing else of a side. -/
theorem keywordSlotBy_eq_of_alike
    (meet : Ty → Ty → Option Ty)
    (filled : Nat)
    (right : KeywordSide)
    (name : String) :
    keywordSlotBy meet filled (keywordSide filled ps) right
        name =
      keywordSlotBy meet filled (keywordSide filled ps')
        right name := by
  have hAccepts :
      (keywordSide filled ps).accepts? filled name =
        (keywordSide filled ps').accepts? filled name := by
    unfold KeywordSide.accepts? keywordSide
    simp only [keywordsPast_eq_of_alike h,
      isConsumed_eq_of_alike h, firstOfKind_eq_of_alike h
        (show ParamKind.varKeyword ≠ .positionalOnly
          from nofun)]
  have hRequires :
      (keywordSide filled ps).requires name =
        (keywordSide filled ps').requires name := by
    unfold KeywordSide.requires keywordSide
    simp only [keywordsPast_eq_of_alike h]
  unfold keywordSlotBy
  rw [hAccepts, hRequires]

/- Absorbing forgets the names of the slots anyway. -/
theorem LeadMerge.absorb_of_alike
    {meet : Ty → Ty → Option Ty}
    {star : Option Parameter}
    {taken : List Parameter × List Parameter}
    (hTaken : absorb meet star ps = some taken) :
    ∃ taken', absorb meet star ps' = some taken' ∧
      taken'.1 = taken.1 := by
  cases star with
  | none =>
      cases hTaken
      exact ⟨_, rfl, rfl⟩
  | some s =>
      have hAll :
          ps.mapM (fun p => p.absorbBy meet s) =
            ps'.mapM fun p => p.absorbBy meet s := by
        clear hTaken
        induction h with
        | nil => rfl
        | @cons p q ps ps' hpq _ ih =>
            have hSlot :
                p.absorbBy meet s = q.absorbBy meet s := by
              simp only [Parameter.absorbBy,
                Parameter.anonymize, hpq.ty, hpq.optional]
            rw [List.mapM_cons, List.mapM_cons, ih, hSlot]
      refine ⟨taken, ?_, rfl⟩
      rw [← hTaken]
      simp only [absorb, hAll]

/- So does merging slots of which one is positional-only. -/
theorem LeadMerge.ofLists_of_alike
    {meet : Ty → Ty → Option Ty}
    {leftStar rightStar : Option Parameter}
    {m : LeadMerge}
    (hMerge : ofLists meet leftStar rightStar ps qs = some m) :
    ∃ m', ofLists meet leftStar rightStar ps' qs = some m' ∧
      m'.merged = m.merged := by
  induction h generalizing qs m with
  | nil => exact ⟨m, hMerge, rfl⟩
  | @cons p p' ps ps' hp hRest ih =>
      cases qs with
      | nil =>
          rcases Option.map_eq_some_iff.mp hMerge with
            ⟨taken, hTaken, rfl⟩
          rcases absorb_of_alike (.cons hp hRest) hTaken with
            ⟨taken', hTaken', hSlots⟩
          rw [ofLists, hTaken']
          exacts [⟨_, rfl, hSlots⟩, by simp]
      | cons q qs =>
          rcases ofLists_cons_eq_some_iff.mp hMerge with
            ⟨slot, rest, hSlot, hTail, rfl⟩
          rcases ih hTail with ⟨rest', hTail', hMerged⟩
          rw [ofLists, ← hp.mergeBy_eq, hSlot, hTail']
          exact ⟨_, rfl, by rw [cons, hMerged]; rfl⟩

/- Joins do not look at names of positional-only slots. -/
theorem JoinParts.Joins.of_alike
    {parts : JoinParts}
    (hParts : parts.Joins ps qs) :
    ∃ parts' : JoinParts, parts'.Joins ps' qs ∧
      parts'.list = parts.list := by
  rcases LeadMerge.ofLists_of_alike
    (positionalSection_alike h) hParts.lead with
    ⟨lead, hLead, hMerged⟩
  have hFilled : lead.merged.length = parts.filled := by
    rw [hMerged]
    rfl
  have hStar : firstOfKind .varPositional ps = _ :=
    firstOfKind_eq_of_alike h nofun
  have hOthers : firstOfKind .varKeyword ps = _ :=
    firstOfKind_eq_of_alike h nofun
  have hNames :
      keywordNames (keywordSide parts.filled ps)
          (keywordSide parts.filled qs) =
        keywordNames (keywordSide parts.filled ps')
          (keywordSide parts.filled qs) := by
    unfold keywordNames keywordSide
    rw [keywordsPast_eq_of_alike h]
  refine ⟨{ parts with lead := lead }, ?_, ?_⟩
  · constructor
    case lead =>
      rw [← hStar]
      exact hLead
    case star =>
      rw [← hStar]
      exact hParts.star
    case leftFillable =>
      rw [JoinParts.filled, hFilled]
      exact fillable_of_alike h hParts.leftFillable
    case rightFillable =>
      rw [JoinParts.filled, hFilled]
      exact hParts.rightFillable
    case named =>
      have hNamed := hParts.named
      simp only [keywordSlotBy_eq_of_alike h, hNames]
        at hNamed
      rw [← hFilled] at hNamed
      exact hNamed
    case others =>
      rw [← hOthers]
      exact hParts.others
  · simp only [JoinParts.list, JoinParts.keywords, hMerged]

end Alike

end SigCheck

------------------------------------------------------------
-- Declared Lists
------------------------------------------------------------

namespace SigCheck

/- A parameter without a name that does not count. -/
def Parameter.unnamed (p : Parameter) : Parameter :=
  if p.kind == .positionalOnly then p.anonymize else p

theorem Parameter.unnamed_alike (p : Parameter) :
    p.unnamed.Alike p := by
  unfold unnamed
  split
  · rename_i hTest
    have hKind : p.kind = .positionalOnly := by
      simpa using hTest
    exact ⟨hKind.symm, rfl, rfl, Or.inl rfl⟩
  · exact .refl p

namespace ParamList

variable {ps qs : List Parameter}

theorem map_unnamed_alike (ps : List Parameter) :
    List.Forall₂ Parameter.Alike (ps.map .unnamed) ps := by
  rw [List.forall₂_map_left_iff, List.forall₂_same]
  exact fun p _ => p.unnamed_alike

/-
  Well-formedness is about kinds and the names that keywords
  reach.
-/
theorem WellFormed.of_forall₂
    {rel : Parameter → Parameter → Prop}
    (hWF : WellFormed ps)
    (h : List.Forall₂ rel ps qs)
    (hKind : ∀ p q, rel p q → p.kind = q.kind)
    (hName :
      ∀ p q, rel p q → p.kind.isKeyword = true →
        p.name = q.name) : WellFormed qs := by
  constructor
  case ordered =>
    refine pairwise_right_of_forall₂ h hWF.ordered ?_
    intro p q p' q' hpq hpq' hRank
    rwa [← hKind p q hpq, ← hKind p' q' hpq']
  case single =>
    refine pairwise_right_of_forall₂ h hWF.single ?_
    intro p q p' q' hpq hpq' hSingle
    rwa [← hKind p q hpq, ← hKind p' q' hpq']
  case named =>
    intro q hq hKey
    rcases exists_left_of_forall₂ h hq with ⟨p, hp, hpq⟩
    rw [← hKind p q hpq] at hKey
    rw [← hName p q hpq hKey]
    exact hWF.named p hp hKey
  case distinct =>
    refine pairwise_right_of_forall₂ h hWF.distinct ?_
    intro p q p' q' hpq hpq' hApart hKey hKey'
    rw [← hKind p q hpq] at hKey
    rw [← hKind p' q' hpq'] at hKey'
    rw [← hName p q hpq hKey, ← hName p' q' hpq' hKey']
    exact hApart hKey hKey'

/- A declaration is about defaults besides. -/
theorem Declarable.of_forall₂
    {rel : Parameter → Parameter → Prop}
    (hDeclared : Declarable ps)
    (h : List.Forall₂ rel ps qs)
    (hKind : ∀ p q, rel p q → p.kind = q.kind)
    (hOptional :
      ∀ p q, rel p q → p.hasDefault = q.hasDefault)
    (hName :
      ∀ p q, rel p q → p.kind.isKeyword = true →
        p.name = q.name) : Declarable qs := by
  refine
    ⟨hDeclared.toWellFormed.of_forall₂ h hKind hName,
      pairwise_right_of_forall₂ h hDeclared.defaultsLast ?_,
      ?_⟩
  · intro p q p' q' hpq hpq' hLast
    rwa [← hKind p q hpq, ← hKind p' q' hpq',
      ← hOptional p q hpq, ← hOptional p' q' hpq']
  · intro q hq hVar
    rcases exists_left_of_forall₂ h hq with ⟨p, hp, hpq⟩
    rw [← hKind p q hpq] at hVar
    rw [← hOptional p q hpq]
    exact hDeclared.plainVariadics p hp hVar

/- Alike lists may be declared together. -/
theorem Declarable.of_alike
    (hDeclared : Declarable ps)
    (h : List.Forall₂ Parameter.Alike ps qs) :
    Declarable qs :=
  hDeclared.of_forall₂ h (fun _ _ hpq => hpq.kind)
    (fun _ _ hpq => hpq.optional)
    (fun _ _ hpq => hpq.name_eq_of_isKeyword)

/- A variadic kind has at most its first parameter. -/
theorem WellFormed.toList_firstOfKind
    (hWF : WellFormed ps)
    {kind : ParamKind}
    (hKind : kind.isVariadic = true) :
    (firstOfKind kind ps).toList =
      ps.filter (·.kind == kind) := by
  have hSingle :
      (ps.filter (·.kind == kind)).Pairwise
        fun _ _ => False := by
    refine
      (hWF.single.sublist List.filter_sublist).imp_of_mem ?_
    intro p q hp hq hSame
    have hpKind := (List.mem_filter.mp hp).2
    have hqKind := (List.mem_filter.mp hq).2
    rw [beq_iff_eq] at hpKind hqKind
    have hNot := hSame (hpKind.trans hqKind.symm)
    rw [hpKind, hKind] at hNot
    cases hNot
  rw [firstOfKind, ← List.head?_filter]
  generalize ps.filter (·.kind == kind) = members at hSingle
  cases members with
  | nil => rfl
  | cons p rest =>
      cases rest with
      | nil => rfl
      | cons q rest =>
          exact
            ((List.pairwise_cons.mp hSingle).1 q
              (by simp)).elim

theorem WellFormed.firstOfKind_eq_some
    (hWF : WellFormed ps)
    {p : Parameter}
    (hp : p ∈ ps)
    (hKind : p.kind.isVariadic = true) :
    firstOfKind p.kind ps = some p := by
  rw [← Option.mem_toList, hWF.toList_firstOfKind hKind]
  exact List.mem_filter.mpr ⟨hp, beq_self_eq_true _⟩

/- A well-formed list is made up of its sections. -/
theorem WellFormed.sections_eq
    (hWF : WellFormed ps) :
    ps =
      positionalSection ps
        ++ (firstOfKind .varPositional ps).toList
        ++ ps.filter (·.kind == .keywordOnly)
        ++ (firstOfKind .varKeyword ps).toList := by
  have hOrdered := hWF.ordered
  rw [hWF.toList_firstOfKind rfl, hWF.toList_firstOfKind rfl]
  unfold positionalSection
  clear hWF
  induction ps with
  | nil => rfl
  | cons p ps ih =>
      rcases List.pairwise_cons.mp hOrdered with
        ⟨hHead, hTail⟩
      have hRest := ih hTail
      -- No section in front of that of `p` has a member.
      have hNone (test : ParamKind → Bool)
          (hTest :
            ∀ kind : ParamKind, p.kind.rank ≤ kind.rank →
              test kind = false) :
          ps.filter (fun q => test q.kind) = [] :=
        List.filter_eq_nil_iff.mpr fun q hq => by
          simp [hTest q.kind (hHead q hq)]
      have hKind (own : ParamKind)
          (hRank : own.rank < p.kind.rank) :
          ps.filter (·.kind == own) = [] := by
        apply hNone (· == own)
        intro kind hLe
        rw [beq_eq_false_iff_ne]
        rintro rfl
        omega
      have hSlots (hRank : 2 ≤ p.kind.rank) :
          ps.filter (·.kind.isPositional) = [] := by
        apply hNone ParamKind.isPositional
        intro kind hLe
        have hPast := Nat.le_trans hRank hLe
        cases kind with
        | positionalOnly => exact absurd hPast (by decide)
        | positionalOrKeyword =>
            exact absurd hPast (by decide)
        | _ => rfl
      cases hOwn : p.kind with
      | positionalOnly => simpa +decide [hOwn] using hRest
      | positionalOrKeyword =>
          simpa +decide [hOwn] using hRest
      | varPositional =>
          rw [hOwn] at hSlots
          have hFirst := hSlots (by decide)
          rw [hFirst] at hRest
          simpa +decide [hOwn, hFirst] using hRest
      | keywordOnly =>
          rw [hOwn] at hSlots hKind
          have hFirst := hSlots (by decide)
          have hStar := hKind .varPositional (by decide)
          rw [hFirst, hStar] at hRest
          simpa +decide [hOwn, hFirst, hStar] using hRest
      | varKeyword =>
          rw [hOwn] at hSlots hKind
          have hFirst := hSlots (by decide)
          have hStar := hKind .varPositional (by decide)
          have hNamed := hKind .keywordOnly (by decide)
          rw [hFirst, hStar, hNamed] at hRest
          simpa +decide [hOwn, hFirst, hStar, hNamed]
            using hRest

/- Slots in order, unnamed where it counts, stay sealed. -/
theorem sealLead_eq_self_of_ordered
    (hOrdered :
      ps.Pairwise fun p q => p.kind.rank ≤ q.kind.rank)
    (hMerged : ∀ p ∈ ps, IsMergedSlot p) :
    sealLead ps = ps := by
  induction ps with
  | nil => rfl
  | cons p ps ih =>
      rcases List.pairwise_cons.mp hOrdered with
        ⟨hHead, hTail⟩
      rcases List.forall_mem_cons.mp hMerged with ⟨hp, hRest⟩
      rw [sealLead, ih hTail hRest]
      split
      · rename_i hAny
        rcases List.any_eq_true.mp hAny with ⟨q, hq, hOnly⟩
        have hRank := hHead q hq
        rw [beq_iff_eq.mp hOnly] at hRank
        rcases hp with hKind | ⟨hKind, hName⟩
        · rw [hKind] at hRank
          exact absurd hRank (by decide)
        · rw [Parameter.anonymize, ← hKind, ← hName]
          cases p
          rfl
      · rfl

/- Slots with their defaults last stay as they are. -/
theorem requireLead_eq_self
    (h :
      ps.Pairwise fun p q =>
        p.hasDefault = true → q.hasDefault = true) :
    requireLead ps = ps := by
  induction ps with
  | nil => rfl
  | cons p ps ih =>
      rcases List.pairwise_cons.mp h with ⟨hHead, hTail⟩
      have hDefault :
          (p.hasDefault && ps.all (·.hasDefault)) =
            p.hasDefault := by
        cases hOptional : p.hasDefault with
        | false => rfl
        | true =>
            exact
              List.all_eq_true.mpr fun q hq =>
                hHead q hq hOptional
      rw [requireLead, ih hTail, hDefault]
      cases p
      rfl

/- A positional slot without a name that does not count. -/
theorem isMergedSlot_unnamed
    {p : Parameter}
    (hPos : p.kind.isPositional = true) :
    IsMergedSlot p.unnamed := by
  unfold Parameter.unnamed
  split
  · exact Or.inr ⟨rfl, rfl⟩
  · rename_i hOther
    rw [beq_iff_eq] at hOther
    cases hKind : p.kind with
    | positionalOnly => exact absurd hKind hOther
    | positionalOrKeyword => exact Or.inl hKind
    | _ =>
        rw [hKind] at hPos
        cases hPos

/-
  A list that may be declared has the form of a join, but
  for the names of its positional-only slots.
-/
theorem Declarable.isJoined
    (h : Declarable ps) : IsJoined (ps.map .unnamed) := by
  have hAlike := alike_symm (map_unnamed_alike ps)
  have hWF : WellFormed (ps.map .unnamed) :=
    (h.of_alike hAlike).toWellFormed
  have hMerged :
      ∀ p ∈ positionalSection (ps.map .unnamed),
        IsMergedSlot p := by
    intro p hp
    rcases List.mem_filter.mp hp with ⟨hMem, hPos⟩
    rcases List.mem_map.mp hMem with ⟨q, -, rfl⟩
    rw [q.unnamed_alike.kind] at hPos
    exact isMergedSlot_unnamed hPos
  refine ⟨hWF, hMerged, ?_, hWF.sections_eq⟩
  have hOrdered :
      (positionalSection (ps.map .unnamed)).Pairwise
        fun p q => p.kind.rank ≤ q.kind.rank :=
    hWF.ordered.sublist List.filter_sublist
  have hDefaults :
      (ps.filter (·.kind.isPositional)).Pairwise fun p q =>
        p.hasDefault = true → q.hasDefault = true := by
    refine
      (h.defaultsLast.sublist
        List.filter_sublist).imp_of_mem ?_
    intro p q hp hq hLast
    exact
      hLast (List.mem_filter.mp hp).2
        (List.mem_filter.mp hq).2
  rw [normalizeLead,
    sealLead_eq_self_of_ordered hOrdered hMerged]
  apply requireLead_eq_self
  refine
    pairwise_right_of_forall₂ (positionalSection_alike hAlike)
      hDefaults ?_
  intro p q p' q' hpq hpq' hLast
  rwa [← hpq.optional, ← hpq'.optional]

/-
  Joining a list that may be declared with one that it
  covers gives it back without the names of its
  positional-only slots, unless it takes a lost name.
-/
theorem Declarable.isCompatibleWith_of_not_readmits
    (hDeclared : Declarable ps)
    (hCovers : Covers ps qs)
    (hNot : ¬ ReadmitsPast ps qs) :
    (Signature.params qs).isCompatibleWith (.params ps) =
      true := by
  have hUnnamed := map_unnamed_alike ps
  have hUnnamedNot :
      ¬ ReadmitsPast (ps.map .unnamed) qs := by
    rintro ⟨hOthers, name, hPast, hLost⟩
    rw [(positionalSection_alike hUnnamed).length_eq]
      at hPast
    exact
      hNot
        ⟨isSome_firstOfKind_alike (alike_symm hUnnamed)
            hOthers,
          name, hPast,
          fun hName =>
            hLost (hasKeyword_of_alike hUnnamed hName)⟩
  rcases commonParamsBy_eq_some_iff.mp
    ((hCovers.of_alike hUnnamed).commonParamsBy_eq
      hDeclared.isJoined hUnnamedNot) with
    ⟨parts, hParts, hList⟩
  rcases hParts.of_alike hUnnamed with
    ⟨parts', hParts', hList'⟩
  refine
    Signature.isCompatibleWith_params_iff.mpr
      ⟨parts'.list,
        commonParamsBy_eq_some_iff.mpr
          ⟨parts', hParts', rfl⟩, ?_⟩
  rw [hList', ← hList]
  exact hUnnamed

/-
  A list is compatible with one that may be declared exactly
  if that covers it and takes no lost name of it.
-/
theorem Declarable.isCompatibleWith_iff_covers
    (hDeclared : Declarable ps)
    (hqs : WellFormed qs) :
    (Signature.params qs).isCompatibleWith (.params ps) =
        true ↔
      Covers ps qs ∧ ¬ ReadmitsPast ps qs :=
  ⟨fun h =>
      ⟨Signature.covers_of_isCompatibleWith hqs
          hDeclared.toWellFormed h,
        Covers.not_readmits hqs h⟩,
    fun h => hDeclared.isCompatibleWith_of_not_readmits h.1 h.2⟩

/- A list that has all names of the other loses none. -/
theorem Declarable.isCompatibleWith_of_covers
    (hDeclared : Declarable ps)
    (hCovers : Covers ps qs)
    (hNames :
      ∀ name,
        HasKeywordPast (positionalSection ps).length qs
            name →
          HasKeyword ps name) :
    (Signature.params qs).isCompatibleWith (.params ps) =
      true :=
  hDeclared.isCompatibleWith_of_not_readmits hCovers
    fun ⟨_, name, hPast, hLost⟩ => hLost (hNames name hPast)

end ParamList

end SigCheck

------------------------------------------------------------
-- Lists of One Shape
------------------------------------------------------------

namespace SigCheck

/- What is left of a parameter without its type. -/
def Parameter.blank (p : Parameter) : Parameter :=
  { p with ty := .any }

/-
  The first parameter differs from the second in its type at
  most, and that narrows the type of the second.
-/
structure Parameter.Suits (p q : Parameter) : Prop where
  blank : p.blank = q.blank
  ty : Ty.Narrows p.ty q.ty

namespace Parameter

variable {p q : Parameter}

theorem blank_eq_iff :
    p.blank = q.blank ↔
      p.name = q.name ∧ p.kind = q.kind ∧
        p.hasDefault = q.hasDefault := by
  simp [blank]

theorem isRequired_eq_of_blank
    (h : p.blank = q.blank) :
    p.isRequired = q.isRequired := by
  rcases blank_eq_iff.mp h with ⟨-, hKind, hOptional⟩
  rw [isRequired, hKind, hOptional]
  rfl

end Parameter

namespace ParamList

variable {ps qs : List Parameter}

/- Lists of one shape are well-formed together. -/
theorem WellFormed.of_blank
    (hWF : WellFormed ps)
    (h :
      List.Forall₂ (fun p q => p.blank = q.blank) ps qs) :
    WellFormed qs :=
  hWF.of_forall₂ h
    (fun _ _ hpq => (Parameter.blank_eq_iff.mp hpq).2.1)
    (fun _ _ hpq _ => (Parameter.blank_eq_iff.mp hpq).1)

/- They may be declared together. -/
theorem Declarable.of_blank
    (hDeclared : Declarable ps)
    (h :
      List.Forall₂ (fun p q => p.blank = q.blank) ps qs) :
    Declarable qs :=
  hDeclared.of_forall₂ h
    (fun _ _ hpq => (Parameter.blank_eq_iff.mp hpq).2.1)
    (fun _ _ hpq => (Parameter.blank_eq_iff.mp hpq).2.2)
    (fun _ _ hpq _ => (Parameter.blank_eq_iff.mp hpq).1)

/- A keyword-only parameter fits a list that it suits. -/
theorem keywordFits_of_suits
    (hqs : WellFormed qs)
    {filled : Nat} {name : String} {p q : Parameter}
    (hq : q ∈ qs)
    (hOnly : q.kind = .keywordOnly)
    (hName : q.name = some name)
    (h : p.Suits q) :
    KeywordFits (keywordSide filled qs) filled name p := by
  have hKey : q.kind.isKeyword = true := by
    rw [hOnly]
    rfl
  refine ⟨⟨q.ty, ?_, h.ty⟩, fun hRequires => ?_⟩
  · exact
      hqs.accepts?_eq_some_iff.mpr
        (Or.inl ⟨q, mem_keywordsPast_iff.mpr
          (Or.inr ⟨hq, hOnly⟩), hName, rfl⟩)
  · rcases hqs.requires_iff.mp hRequires with
      ⟨r, hr, hrName, hRequired⟩
    rcases isKeyword_of_mem_keywordsPast hr with
      ⟨hrMem, hrKey⟩
    rw [Parameter.isRequired_eq_of_blank h.blank,
      hqs.eq_of_name hq hrMem hKey hrKey
        (hName.trans hrName.symm)]
    exact hRequired

section Suits

variable (h : List.Forall₂ Parameter.Suits ps qs)

include h

theorem blank_of_suits :
    List.Forall₂ (fun p q => p.blank = q.blank) ps qs :=
  h.imp fun _ _ hpq => hpq.blank

/- Suiting slots fit one by one. -/
theorem leadFits_of_suits
    (star : Option Parameter)
    (overflow : Prop) :
    LeadFits star overflow qs [] ps := by
  induction h with
  | nil => exact .stop fun _ => rfl
  | @cons p q ps qs hpq _ ih =>
      rcases Parameter.blank_eq_iff.mp hpq.blank with
        ⟨hName, hKind, hOptional⟩
      refine .merge ⟨hpq.ty, fun hp => ?_, ?_⟩ ih
      · rw [← hOptional]
        exact hp
      · exact fun hp => ⟨hKind.symm.trans hp, hName.symm⟩

/- A suiting list covers the one whose types it narrows. -/
theorem covers_of_suits
    (hWF : WellFormed ps) : Covers ps qs := by
  have hqs := hWF.of_blank (blank_of_suits h)
  have hKind (p q : Parameter) (hpq : p.Suits q) :
      p.kind = q.kind :=
    (Parameter.blank_eq_iff.mp hpq.blank).2.1
  have hSection :
      List.Forall₂ Parameter.Suits (positionalSection ps)
        (positionalSection qs) := by
    apply List.rel_filter _ h
    intro p q hpq
    simp only [hKind p q hpq]
  have hFirst (kind : ParamKind) (s : Parameter)
      (hs : firstOfKind kind ps = some s) :
      ∃ q, firstOfKind kind qs = some q ∧
        Ty.Narrows s.ty q.ty := by
    rcases exists_firstOfKind_of_forall₂ h hKind hs with
      ⟨q, hq, hsq⟩
    exact ⟨q, hq, hsq.ty⟩
  constructor
  case lead =>
    exact ⟨[], leadFits_of_suits hSection _ _⟩
  case fillable =>
    intro q hq
    rw [hSection.length_eq, List.drop_length] at hq
    cases hq
  case star => exact hFirst .varPositional
  case keywords =>
    intro p hp hOnly
    rcases exists_right_of_forall₂ h hp with ⟨q, hq, hpq⟩
    rcases Parameter.blank_eq_iff.mp hpq.blank with
      ⟨hName, hSame, -⟩
    have hpKey : p.kind.isKeyword = true := by
      rw [hOnly]
      rfl
    rcases hWF.exists_name hp hpKey with ⟨name, hpName⟩
    exact
      ⟨name, hpName,
        keywordFits_of_suits hqs hq (hSame.symm.trans hOnly)
          (hName.symm.trans hpName) hpq⟩
  case required =>
    intro name hRequires
    rw [hSection.length_eq] at hRequires
    rcases hqs.requires_iff.mp hRequires with
      ⟨q, hqPast, hqName, -⟩
    rcases mem_keywordsPast_length.mp hqPast with
      ⟨hq, hqOnly⟩
    rcases exists_left_of_forall₂ h hq with ⟨p, hp, hpq⟩
    rcases Parameter.blank_eq_iff.mp hpq.blank with
      ⟨hName, hSame, -⟩
    exact ⟨p, hp, hSame.trans hqOnly, hName.trans hqName⟩
  case others => exact hFirst .varKeyword

/- Joining suiting lists gives the first without names. -/
theorem isCompatibleWith_of_suits
    (hDeclared : Declarable ps) :
    (Signature.params qs).isCompatibleWith (.params ps) =
      true := by
  refine
    hDeclared.isCompatibleWith_of_covers
      (covers_of_suits h hDeclared.toWellFormed) ?_
  rintro name ⟨q, hqPast, hqName⟩
  rcases isKeyword_of_mem_keywordsPast hqPast with
    ⟨hq, hqKey⟩
  rcases exists_left_of_forall₂ h hq with ⟨p, hp, hpq⟩
  rcases Parameter.blank_eq_iff.mp hpq.blank with
    ⟨hName, hSame, -⟩
  exact ⟨p, hp, by rwa [hSame], hName.trans hqName⟩

end Suits

section Shape

variable
  (hShape :
    List.Forall₂ (fun p q => p.blank = q.blank) ps qs)

include hShape

/- Positions count the same slots in lists of one shape. -/
theorem countP_take_eq_of_blank (place : Nat) :
    (ps.take place).countP (·.kind.isPositional) =
      (qs.take place).countP (·.kind.isPositional) := by
  have hTake := List.forall₂_take place hShape
  generalize ps.take place = xs at hTake
  generalize qs.take place = ys at hTake
  induction hTake with
  | nil => rfl
  | @cons x y _ _ hxy _ ih =>
      rcases Parameter.blank_eq_iff.mp hxy with
        ⟨-, hKind, -⟩
      rw [List.countP_cons, List.countP_cons, ih, hKind]

/- A covered list has at each place what suits the other. -/
theorem narrows_of_covers
    (hWF : WellFormed ps)
    (hCovers : Covers ps qs)
    {place : Nat} {p q : Parameter}
    (hp : ps[place]? = some p)
    (hq : qs[place]? = some q)
    (hpq : p.blank = q.blank) : Ty.Narrows p.ty q.ty := by
  have hqs := hWF.of_blank hShape
  have hpMem := List.mem_of_getElem? hp
  have hqMem := List.mem_of_getElem? hq
  rcases Parameter.blank_eq_iff.mp hpq with
    ⟨hName, hKind, -⟩
  have hPositional (hPos : p.kind.isPositional = true) :
      Ty.Narrows p.ty q.ty := by
    have hpSlot :=
      getElem?_positionalSection_of_place hp hPos
    have hqSlot :=
      getElem?_positionalSection_of_place hq (hKind ▸ hPos)
    rw [← countP_take_eq_of_blank hShape] at hqSlot
    rcases hCovers.lead with ⟨rest, hLead⟩
    rcases hLead.getElem? hpSlot with
      ⟨r, hr, hFits⟩ | ⟨hNone, -⟩
    · cases hqSlot.symm.trans hr
      exact hFits.ty
    · cases hqSlot.symm.trans hNone
  -- A variadic parameter is the only one of its kind.
  have hVariadic (hVar : p.kind.isVariadic = true)
      (hCovered :
        ∀ s, firstOfKind p.kind ps = some s →
          ∃ r, firstOfKind p.kind qs = some r ∧
            Ty.Narrows s.ty r.ty) :
      Ty.Narrows p.ty q.ty := by
    rcases hCovered p (hWF.firstOfKind_eq_some hpMem hVar)
      with ⟨r, hr, hTy⟩
    have hqFirst :=
      hqs.firstOfKind_eq_some hqMem (hKind ▸ hVar)
    rw [← hKind] at hqFirst
    cases hqFirst.symm.trans hr
    exact hTy
  cases hOwn : p.kind with
  | positionalOnly => exact hPositional (by rw [hOwn]; rfl)
  | positionalOrKeyword =>
      exact hPositional (by rw [hOwn]; rfl)
  | varPositional =>
      refine hVariadic (by rw [hOwn]; rfl) ?_
      rw [hOwn]
      exact hCovers.star
  | varKeyword =>
      refine hVariadic (by rw [hOwn]; rfl) ?_
      rw [hOwn]
      exact hCovers.others
  | keywordOnly =>
      rcases hCovers.keywords p hpMem hOwn with
        ⟨name, hpName, hFits⟩
      rcases hFits.ty with ⟨ty, hAccepts, hTy⟩
      have hqKey : q.kind.isKeyword = true := by
        rw [← hKind, hOwn]
        rfl
      have hqName := hName.symm.trans hpName
      rcases hqs.accepts?_eq_some_iff.mp hAccepts with
        ⟨r, hrPast, hrName, rfl⟩ | ⟨hNot, -⟩
      · rcases isKeyword_of_mem_keywordsPast hrPast with
          ⟨hr, hrKey⟩
        rw [hqs.eq_of_name hqMem hr hqKey hrKey
          (hqName.trans hrName.symm)]
        exact hTy
      · exact absurd ⟨q, hqMem, hqKey, hqName⟩ hNot

/-
  Of two lists of one shape, one is compatible with the
  other exactly if the expected types narrow its own.
-/
theorem isCompatibleWith_iff_suits
    (hDeclared : Declarable ps) :
    (Signature.params qs).isCompatibleWith (.params ps) =
        true ↔
      List.Forall₂ Parameter.Suits ps qs := by
  constructor
  · intro hCompatible
    have hWF := hDeclared.toWellFormed
    have hCovers :=
      Signature.covers_of_isCompatibleWith
        (hWF.of_blank hShape) hWF hCompatible
    rw [List.forall₂_iff_get]
    refine ⟨hShape.length_eq, fun place hp hq => ?_⟩
    have hBlank := hShape.get hp hq
    refine ⟨hBlank, ?_⟩
    exact
      narrows_of_covers hShape hWF hCovers
        (List.getElem?_eq_getElem hp)
        (List.getElem?_eq_getElem hq) hBlank
  · exact fun h => isCompatibleWith_of_suits h hDeclared

end Shape

end ParamList

end SigCheck

------------------------------------------------------------
-- Signatures of One Shape
------------------------------------------------------------

namespace SigCheck

open ParamList

/- What is left of a signature without its types. -/
def Signature.blank : Signature → Signature
  | .params ps => .params (ps.map .blank)
  | .spec lead var => .spec (lead.map .blank) var
  | .gradual => .gradual

/-
  A signature that may be declared: the leading parameters
  of a variable are positional-only.
-/
def Signature.Declared : Signature → Prop
  | .params ps => Declarable ps
  | .spec lead _ => ∀ p ∈ lead, p.kind = .positionalOnly
  | .gradual => True

namespace Signature

variable {s t : Signature} {ps qs : List Parameter}

/- Signatures of one shape list parameters of one shape. -/
theorem parameters_blank
    (h : s.blank = t.blank) :
    List.Forall₂ (fun p q => p.blank = q.blank)
      s.parameters t.parameters := by
  have hMap :
      s.parameters.map Parameter.blank =
        t.parameters.map Parameter.blank := by
    cases s <;> cases t <;> simp_all [blank, parameters]
  exact forall₂_of_map_eq hMap fun _ _ _ _ hSame => hSame

theorem Declared.of_blank
    (hDeclared : s.Declared)
    (h : s.blank = t.blank) : t.Declared := by
  have hParameters := parameters_blank h
  cases s with
  | params ps =>
      cases t with
      | params qs =>
          exact Declarable.of_blank hDeclared hParameters
      | _ => cases h
  | spec lead var =>
      cases t with
      | spec lead' var' =>
          intro q hq
          rcases exists_left_of_forall₂ hParameters hq with
            ⟨p, hp, hpq⟩
          rw [← (Parameter.blank_eq_iff.mp hpq).2.1]
          exact hDeclared p hp
      | _ => cases h
  | gradual =>
      cases t with
      | gradual => trivial
      | _ => cases h

/- Merging into a positional-only slot takes the meet. -/
theorem mergeBy_of_positionalOnly
    {p : Parameter}
    (hOnly : p.kind = .positionalOnly)
    (meet : Ty → Ty → Option Ty)
    (q : Parameter) :
    p.mergeBy meet q =
      (meet p.ty q.ty).map fun ty =>
        ⟨none, .positionalOnly, ty,
          p.hasDefault && q.hasDefault⟩ := by
  unfold Parameter.mergeBy
  rw [hOnly]
  rfl

/- It gives the slot back if that fits the other one. -/
theorem mergeBy_alike_iff
    {p q : Parameter}
    (hOnly : p.kind = .positionalOnly) :
    (∃ slot, p.mergeBy Ty.meet q = some slot ∧
      slot.anonymize.Alike p) ↔ SlotFits p q := by
  rw [mergeBy_of_positionalOnly hOnly]
  constructor
  · rintro ⟨slot, hSlot, hAlike⟩
    rcases Option.map_eq_some_iff.mp hSlot with
      ⟨ty, hMeet, rfl⟩
    have hTy : ty = p.ty := hAlike.ty
    have hOptional :
        (p.hasDefault && q.hasDefault) = p.hasDefault :=
      hAlike.optional
    refine ⟨hTy ▸ hMeet, fun hp => ?_, by rw [hOnly]; nofun⟩
    rw [← hOptional, Bool.and_eq_true] at hp
    exact hp.2
  · intro hFits
    have hMeet : p.ty.meet q.ty = some p.ty := hFits.ty
    have hOptional :
        (p.hasDefault && q.hasDefault) = p.hasDefault := by
      cases hp : p.hasDefault with
      | false => rfl
      | true => exact hFits.optional hp
    rw [hMeet, hOptional]
    exact ⟨_, rfl, hOnly.symm, rfl, rfl, Or.inl rfl⟩

/- Leading slots stay if each fits the one at its place. -/
theorem mergeLead_alike_iff
    (hOnly : ∀ p ∈ ps, p.kind = .positionalOnly) :
    (∃ join, mergeLeadBy Ty.meet ps qs = some join ∧
      List.Forall₂ Parameter.Alike join ps) ↔
      List.Forall₂ SlotFits ps qs := by
  induction ps generalizing qs with
  | nil => cases qs <;> simp [mergeLeadBy]
  | cons p ps ih =>
      cases qs with
      | nil => simp [mergeLeadBy]
      | cons q qs =>
          rw [List.forall_mem_cons] at hOnly
          rw [List.forall₂_cons, ← ih hOnly.2,
            ← mergeBy_alike_iff hOnly.1]
          constructor
          · rintro ⟨join, hJoin, hAlike⟩
            rcases mergeLeadBy_cons_eq_some_iff.mp hJoin with
              ⟨slot, rest, hSlot, hTail, rfl⟩
            rcases List.forall₂_cons.mp hAlike with
              ⟨hHead, hAlike⟩
            exact ⟨⟨slot, hSlot, hHead⟩, rest, hTail, hAlike⟩
          · rintro
              ⟨⟨slot, hSlot, hHead⟩, rest, hTail, hAlike⟩
            rw [mergeLeadBy, hSlot, hTail]
            exact ⟨_, rfl, .cons hHead hAlike⟩

/- In lists of one shape the types alone decide. -/
theorem slotFits_iff_suits
    (hShape :
      List.Forall₂ (fun p q => p.blank = q.blank) ps qs) :
    List.Forall₂ SlotFits ps qs ↔
      List.Forall₂ Parameter.Suits ps qs := by
  induction hShape with
  | nil => simp
  | @cons p q ps qs hpq _ ih =>
      rw [List.forall₂_cons, List.forall₂_cons, ih]
      refine and_congr_left fun _ => ?_
      refine ⟨fun h => ⟨hpq, h.ty⟩, fun h => ⟨h.ty, ?_, ?_⟩⟩
      all_goals
        rcases Parameter.blank_eq_iff.mp hpq with
          ⟨hName, hKind, hOptional⟩
      · exact hOptional.symm.trans
      · exact fun hp => ⟨hKind.symm.trans hp, hName.symm⟩

/-
  A use of a variable is compatible with another use of it
  whose leading slots fit its own.
-/
theorem isCompatibleWith_spec_iff
    {var var' : String}
    (hOnly : ∀ p ∈ ps, p.kind = .positionalOnly) :
    (spec qs var').isCompatibleWith (spec ps var) = true ↔
      var = var' ∧ List.Forall₂ SlotFits ps qs := by
  rw [← mergeLead_alike_iff hOnly]
  simp only [isCompatibleWith, compatibleBy, commonBy]
  cases hSame : var == var' with
  | false => simpa using fun h => absurd h (by simpa using hSame)
  | true =>
      rw [if_pos rfl, and_iff_right (eq_of_beq hSame)]
      cases mergeLeadBy Ty.meet ps qs with
      | none => simp
      | some join => simp [equivalent, equivalentAll_iff]

/-
  Of two signatures of one shape, one is compatible with the
  other exactly if the expected types narrow its own.
-/
theorem isCompatibleWith_iff_suits
    (hShape : s.blank = t.blank)
    (hDeclared : s.Declared) :
    t.isCompatibleWith s = true ↔
      List.Forall₂ Parameter.Suits s.parameters
        t.parameters := by
  have hParameters := parameters_blank hShape
  cases s with
  | params ps =>
      cases t with
      | params qs =>
          exact
            ParamList.isCompatibleWith_iff_suits hParameters
              hDeclared
      | _ => cases hShape
  | spec lead var =>
      cases t with
      | spec lead' var' =>
          have hVar : var = var' := by
            simp only [blank, Signature.spec.injEq] at hShape
            exact hShape.2
          rw [isCompatibleWith_spec_iff hDeclared,
            and_iff_right hVar]
          exact slotFits_iff_suits hParameters
      | _ => cases hShape
  | gradual =>
      cases t with
      | gradual =>
          simp [isCompatibleWith, compatibleBy, parameters]
      | _ => cases hShape

/- A declared signature may stand where it is expected. -/
theorem isCompatibleWith_self
    (hDeclared : s.Declared) :
    s.isCompatibleWith s = true := by
  refine (isCompatibleWith_iff_suits rfl hDeclared).mpr ?_
  exact
    List.forall₂_same.mpr fun p _ =>
      ⟨rfl, Ty.narrows_refl p.ty⟩

end Signature

end SigCheck
