import SigCheck.Proofs.Meet
import SigCheck.Proofs.ParamList

/-
  What merging two keyword sections means for each of the
  two.

  A keyword reaches a parameter of its name either among the
  first positional slots, where joining counts it as used
  up, or past them. A keyword-only parameter of the join
  fits a side that takes its name past those slots or with
  its parameter for other keywords.

  Key definitions include:
    * `ParamList.keywordsPast`, `ParamList.HasKeywordPast`
    * `ParamList.keywordSide`
    * `ParamList.Fillable`
    * `KeywordFits`

  Main statements:
    * `ParamList.hasKeyword_iff`
    * `ParamList.WellFormed.accepts?_eq_some_iff`
    * `keywordSlotBy_eq_some`, `keywordSlotBy_fits`
-/

------------------------------------------------------------
-- Keywords Past a Position
------------------------------------------------------------

namespace SigCheck

namespace ParamList

/-
  The parameters that a keyword still reaches when the first
  positional slots are filled.
-/
def keywordsPast
    (filled : Nat)
    (ps : List Parameter) : List Parameter :=
  ((positionalSection ps).drop filled).filter
      (·.kind == .positionalOrKeyword)
    ++ ps.filter (·.kind == .keywordOnly)

/-
  A keyword of this name reaches a parameter of the list
  past the first positional slots.
-/
def HasKeywordPast
    (filled : Nat)
    (ps : List Parameter)
    (name : String) : Prop :=
  ∃ p ∈ keywordsPast filled ps, p.name = some name

variable {ps : List Parameter}
variable {filled : Nat} {name : String} {p : Parameter}

theorem mem_keywordsPast_iff :
    p ∈ keywordsPast filled ps ↔
      (∃ index, filled ≤ index ∧
        (positionalSection ps)[index]? = some p ∧
          p.kind = .positionalOrKeyword) ∨
        (p ∈ ps ∧ p.kind = .keywordOnly) := by
  simp only [keywordsPast, List.mem_append, List.mem_filter,
    beq_iff_eq, mem_drop_iff_getElem?]
  refine or_congr ?_ Iff.rfl
  simp only [← exists_and_right, and_assoc]

/- Members of the positional section are positional. -/
theorem mem_of_getElem?_positionalSection
    {index : Nat}
    (h : (positionalSection ps)[index]? = some p) :
    p ∈ ps ∧ p.kind.isPositional = true :=
  List.mem_filter.mp (List.mem_of_getElem? h)

/- A positional parameter has an index in the section. -/
theorem exists_index_of_isPositional
    (hp : p ∈ ps)
    (hPos : p.kind.isPositional = true) :
    ∃ index : Nat, (positionalSection ps)[index]? = some p :=
  List.mem_iff_getElem?.mp (List.mem_filter.mpr ⟨hp, hPos⟩)

/- What a keyword reaches past a position has its name. -/
theorem isKeyword_of_mem_keywordsPast
    (h : p ∈ keywordsPast filled ps) :
    p ∈ ps ∧ p.kind.isKeyword = true := by
  rcases mem_keywordsPast_iff.mp h with
    ⟨_, _, hSection, hKind⟩ | ⟨hp, hKind⟩
  · exact
      ⟨(mem_of_getElem?_positionalSection hSection).1,
        by rw [hKind]; rfl⟩
  · exact ⟨hp, by rw [hKind]; rfl⟩

/- The name belongs to one of the first positional slots. -/
theorem isConsumed_iff :
    isConsumed (positionalSection ps) filled name = true ↔
      ∃ index p, index < filled ∧
        (positionalSection ps)[index]? = some p ∧
          p.kind = .positionalOrKeyword ∧
            p.name = some name := by
  simp only [isConsumed, List.any_eq_true, Bool.and_eq_true,
    beq_iff_eq]
  constructor
  · rintro ⟨p, hTake, hKind, hName⟩
    rcases List.mem_iff_getElem?.mp hTake with
      ⟨index, hIndex⟩
    rw [List.getElem?_take] at hIndex
    split at hIndex
    · exact ⟨index, p, by omega, hIndex, hKind, hName⟩
    · cases hIndex
  · rintro ⟨index, p, hLt, hIndex, hKind, hName⟩
    refine
      ⟨p, List.mem_iff_getElem?.mpr ⟨index, ?_⟩, hKind,
        hName⟩
    rw [List.getElem?_take, if_pos hLt]
    exact hIndex

/- A keyword reaches a first slot or a parameter past them. -/
theorem hasKeyword_iff (filled : Nat) :
    HasKeyword ps name ↔
      isConsumed (positionalSection ps) filled name = true ∨
        HasKeywordPast filled ps name := by
  constructor
  · rintro ⟨p, hp, hKey, hName⟩
    cases hPos : p.kind.isPositional with
    | false =>
        have hKind := ParamKind.eq_keywordOnly hPos hKey
        exact
          Or.inr
            ⟨p, mem_keywordsPast_iff.mpr
              (Or.inr ⟨hp, hKind⟩), hName⟩
    | true =>
        have hKind := ParamKind.eq_positionalOrKeyword hPos hKey
        rcases exists_index_of_isPositional hp hPos with
          ⟨index, hIndex⟩
        rcases Nat.lt_or_ge index filled with hLt | hPast
        · exact
            Or.inl (isConsumed_iff.mpr
              ⟨index, p, hLt, hIndex, hKind, hName⟩)
        · exact
            Or.inr
              ⟨p, mem_keywordsPast_iff.mpr
                (Or.inl ⟨index, hPast, hIndex, hKind⟩), hName⟩
  · rintro (hConsumed | ⟨p, hPast, hName⟩)
    · rcases isConsumed_iff.mp hConsumed with
        ⟨_, p, _, hIndex, hKind, hName⟩
      exact
        ⟨p, (mem_of_getElem?_positionalSection hIndex).1,
          by rw [hKind]; rfl, hName⟩
    · rcases isKeyword_of_mem_keywordsPast hPast with
        ⟨hp, hKey⟩
      exact ⟨p, hp, hKey, hName⟩

namespace WellFormed

/- A keyword reaches one positional slot at most. -/
theorem index_eq_of_name
    (hWF : WellFormed ps)
    {i j : Nat} {q : Parameter}
    (hi : (positionalSection ps)[i]? = some p)
    (hj : (positionalSection ps)[j]? = some q)
    (hp : p.kind.isKeyword = true)
    (hq : q.kind.isKeyword = true)
    (hName : p.name = q.name) : i = j := by
  have hSection : (positionalSection ps).Sublist ps :=
    List.filter_sublist
  exact
    place_eq_of_pairwise (hWF.distinct.sublist hSection)
      hi hj (fun h => h hp hq hName)
      (fun h => h hq hp hName.symm)

/- A name past the first slots belongs to none of them. -/
theorem isConsumed_eq_false
    (hWF : WellFormed ps)
    (hPast : p ∈ keywordsPast filled ps)
    (hName : p.name = some name) :
    isConsumed (positionalSection ps) filled name =
      false := by
  rw [← Bool.not_eq_true]
  intro hConsumed
  rcases isConsumed_iff.mp hConsumed with
    ⟨index, q, hLt, hIndex, hKind, hqName⟩
  have hq := mem_of_getElem?_positionalSection hIndex
  have hqKey : q.kind.isKeyword = true := by
    rw [hKind]
    rfl
  rcases isKeyword_of_mem_keywordsPast hPast with ⟨hp, hKey⟩
  have hSame :=
    hWF.eq_of_name hp hq.1 hKey hqKey
      (hName.trans hqName.symm)
  subst hSame
  rcases mem_keywordsPast_iff.mp hPast with
    ⟨place, hLe, hPlace, -⟩ | ⟨-, hOnly⟩
  · have := hWF.index_eq_of_name hPlace hIndex hKey hKey rfl
    omega
  · rw [hOnly] at hKind
    cases hKind

/- The parameter of a name past the first slots. -/
theorem named?_keywordsPast_eq_some_iff
    (hWF : WellFormed ps) :
    named? name (keywordsPast filled ps) = some p ↔
      p ∈ keywordsPast filled ps ∧ p.name = some name := by
  refine
    (find?_eq_some_iff_of_unique ?_).trans
      (by rw [beq_iff_eq])
  intro q hq r hr hqName hrName
  rw [beq_iff_eq] at hqName hrName
  rcases isKeyword_of_mem_keywordsPast hq with
    ⟨hqMem, hqKey⟩
  rcases isKeyword_of_mem_keywordsPast hr with
    ⟨hrMem, hrKey⟩
  exact
    hWF.eq_of_name hqMem hrMem hqKey hrKey
      (hqName.trans hrName.symm)

end WellFormed

/- One side of the keyword section past the first slots. -/
def keywordSide
    (filled : Nat)
    (ps : List Parameter) : KeywordSide :=
  ⟨keywordsPast filled ps, positionalSection ps,
    firstOfKind .varKeyword ps⟩

/-
  Every required slot past the first ones can still be
  filled by keyword.
-/
def Fillable (filled : Nat) (ps : List Parameter) : Prop :=
  ∀ p ∈ (positionalSection ps).drop filled,
    p.kind ≠ .positionalOrKeyword → p.isRequired = false

/- What is required past the first slots has a name. -/
theorem fillable_iff :
    Fillable filled ps ↔
      ∀ (index : Nat) (p : Parameter),
        (positionalSection ps)[index]? = some p →
          filled ≤ index →
            p.isRequired = true →
              p.kind = .positionalOrKeyword := by
  simp only [Fillable, mem_drop_iff_getElem?]
  constructor
  · intro h index p hIndex hPast hRequired
    by_contra hKind
    rw [h p ⟨index, hPast, hIndex⟩ hKind] at hRequired
    cases hRequired
  · rintro h p ⟨index, hPast, hIndex⟩ hKind
    rw [← Bool.not_eq_true]
    exact fun hRequired =>
      hKind (h index p hIndex hPast hRequired)

/- The candidates of a side, and when it has some. -/
theorem keywordCandidates_eq_some_iff
    {named : List Parameter} :
    keywordCandidates ps ((positionalSection ps).drop filled) =
        some named ↔
      Fillable filled ps ∧ named = keywordsPast filled ps := by
  unfold keywordCandidates
  split
  · rename_i hAny
    rcases List.any_eq_true.mp hAny with ⟨p, hp, hTest⟩
    simp only [Bool.and_eq_true, bne_iff_ne] at hTest
    constructor
    · nofun
    · rintro ⟨hFillable, -⟩
      have hOptional := hFillable p hp hTest.1
      rw [hTest.2] at hOptional
      cases hOptional
  · rename_i hNone
    have hFillable : Fillable filled ps := by
      intro p hp hKind
      rw [← Bool.not_eq_true]
      intro hRequired
      refine hNone (List.any_eq_true.mpr ⟨p, hp, ?_⟩)
      simp [hKind, hRequired]
    rw [Option.some.injEq]
    exact
      ⟨fun h => ⟨hFillable, h.symm⟩, fun h => h.2.symm⟩

namespace WellFormed

/- What a side takes under a name past its first slots. -/
theorem accepts?_eq_some_iff
    (hWF : WellFormed ps)
    {ty : Ty} :
    (keywordSide filled ps).accepts? filled name = some ty ↔
      (∃ q ∈ keywordsPast filled ps,
        q.name = some name ∧ q.ty = ty) ∨
        (¬ HasKeyword ps name ∧
          ∃ q, firstOfKind .varKeyword ps = some q ∧
            q.ty = ty) := by
  rw [hasKeyword_iff filled]
  unfold KeywordSide.accepts? keywordSide
  simp only
  cases hConsumed :
      isConsumed (positionalSection ps) filled name with
  | true =>
      simp only [if_true, reduceCtorEq, true_or, not_true,
        false_and, or_false, false_iff]
      rintro ⟨q, hPast, hName, -⟩
      rw [hWF.isConsumed_eq_false hPast hName] at hConsumed
      cases hConsumed
  | false =>
      cases hNamed : named? name (keywordsPast filled ps) with
      | some q =>
          rcases hWF.named?_keywordsPast_eq_some_iff.mp hNamed
            with ⟨hPast, hName⟩
          constructor
          · intro hTy
            exact
              Or.inl ⟨q, hPast, hName, Option.some.inj hTy⟩
          · rintro (⟨r, hrPast, hrName, rfl⟩ | ⟨hNot, -⟩)
            · have hSame :=
                hWF.named?_keywordsPast_eq_some_iff.mpr
                  ⟨hrPast, hrName⟩
              rw [hNamed] at hSame
              rw [Option.some.inj hSame]
              rfl
            · exact absurd (Or.inr ⟨q, hPast, hName⟩) hNot
      | none =>
          have hNone : ¬ HasKeywordPast filled ps name := by
            rintro ⟨q, hPast, hName⟩
            rw [hWF.named?_keywordsPast_eq_some_iff.mpr
              ⟨hPast, hName⟩] at hNamed
            cases hNamed
          simp only [Option.none_or, Option.map_eq_some_iff,
            Bool.false_eq_true, if_false, false_or]
          constructor
          · exact fun hOthers => Or.inr ⟨hNone, hOthers⟩
          · rintro (⟨q, hPast, hName, -⟩ | ⟨-, hOthers⟩)
            · exact absurd ⟨q, hPast, hName⟩ hNone
            · exact hOthers

/- A side refuses calls that leave the name out. -/
theorem requires_iff
    (hWF : WellFormed ps) :
    (keywordSide filled ps).requires name = true ↔
      ∃ q ∈ keywordsPast filled ps,
        q.name = some name ∧ q.isRequired = true := by
  simp only [KeywordSide.requires, keywordSide,
    Option.any_eq_true]
  constructor
  · rintro ⟨q, hNamed, hRequired⟩
    rcases hWF.named?_keywordsPast_eq_some_iff.mp hNamed
      with ⟨hPast, hName⟩
    exact ⟨q, hPast, hName, hRequired⟩
  · rintro ⟨q, hPast, hName, hRequired⟩
    exact
      ⟨q, hWF.named?_keywordsPast_eq_some_iff.mpr
        ⟨hPast, hName⟩, hRequired⟩

end WellFormed

end ParamList

end SigCheck

------------------------------------------------------------
-- Merging
------------------------------------------------------------

namespace SigCheck

/- Without repetitions each member is listed once. -/
theorem nodup_eraseDups
    {α : Type} [BEq α] [LawfulBEq α]
    (xs : List α) : xs.eraseDups.Nodup := by
  cases xs with
  | nil => simp
  | cons x xs =>
      rw [List.eraseDups_cons, List.nodup_cons]
      exact ⟨by simp, nodup_eraseDups _⟩
termination_by xs.length
decreasing_by
  have hShorter :=
    List.length_filter_le (fun y => !y == x) xs
  rw [List.length_cons]
  omega

/- A list without repetitions stays as it is. -/
theorem eraseDups_eq_self
    {α : Type} [BEq α] [LawfulBEq α]
    {xs : List α}
    (h : xs.Nodup) : xs.eraseDups = xs := by
  induction xs with
  | nil => rfl
  | cons x xs ih =>
      rcases List.nodup_cons.mp h with ⟨hNew, hRest⟩
      have hFilter : (xs.filter fun y => !y == x) = xs := by
        rw [List.filter_eq_self]
        intro y hy
        have hNe : y ≠ x := fun hEq => hNew (hEq ▸ hy)
        simp [hNe]
      rw [List.eraseDups_cons, hFilter, ih hRest]

variable {left right : KeywordSide}
variable {filled : Nat} {name : String}

/- The names that merging looks at. -/
theorem mem_keywordNames_iff :
    name ∈ keywordNames left right ↔
      (∃ p ∈ left.candidates, p.name = some name) ∨
        ∃ p ∈ right.candidates, p.name = some name := by
  simp [keywordNames, List.mem_eraseDups]

/-
  The side takes what a caller may give the parameter under
  the name, and does not need it where the caller may leave
  it out.
-/
structure KeywordFits
    (side : KeywordSide)
    (filled : Nat)
    (name : String)
    (p : Parameter) : Prop where
  ty :
    ∃ ty, side.accepts? filled name = some ty ∧
      Ty.Narrows p.ty ty
  required :
    side.requires name = true → p.isRequired = true

/-
  A merged keyword fits both sides. It is left out only
  where neither side needs it and one cannot take it.
-/
theorem keywordSlotBy_eq_some
    {slot : Option Parameter}
    (h :
      keywordSlotBy Ty.meet filled left right name =
        some slot) :
    (∃ p, slot = some p ∧ p.kind = .keywordOnly ∧
      p.name = some name ∧
        KeywordFits left filled name p ∧
          KeywordFits right filled name p) ∨
      (slot = none ∧
        left.requires name = false ∧
          right.requires name = false ∧
            (left.accepts? filled name = none ∨
              right.accepts? filled name = none)) := by
  unfold keywordSlotBy at h
  simp only at h
  split at h
  · rename_i a b hLeft hRight
    rcases Option.map_eq_some_iff.mp h with
      ⟨ty, hMeet, rfl⟩
    rcases Ty.narrows_of_meet hMeet with ⟨hTyLeft, hTyRight⟩
    refine
      Or.inl
        ⟨_, rfl, rfl, rfl, ⟨⟨a, hLeft, hTyLeft⟩, ?_⟩,
          ⟨⟨b, hRight, hTyRight⟩, ?_⟩⟩
    · intro hRequires
      simp [Parameter.isRequired, ParamKind.isVariadic,
        hRequires]
    · intro hRequires
      simp [Parameter.isRequired, ParamKind.isVariadic,
        hRequires]
  · rename_i hSides
    split at h
    · cases h
    · rename_i hRequired
      cases h
      simp only [Bool.or_eq_true, not_or,
        Bool.not_eq_true] at hRequired
      refine Or.inr ⟨rfl, hRequired.1, hRequired.2, ?_⟩
      cases hLeft : left.accepts? filled name with
      | none => exact Or.inl rfl
      | some a =>
          cases hRight : right.accepts? filled name with
          | none => exact Or.inr rfl
          | some b => exact absurd hRight (hSides a b hLeft)

/- A keyword that merging keeps fits both sides. -/
theorem keywordSlotBy_fits
    {p : Parameter}
    (h :
      keywordSlotBy Ty.meet filled left right name =
        some (some p)) :
    p.kind = .keywordOnly ∧ p.name = some name ∧
      KeywordFits left filled name p ∧
        KeywordFits right filled name p := by
  rcases keywordSlotBy_eq_some h with
    ⟨q, hq, hFits⟩ | ⟨hNone, -⟩
  · cases hq
    exact hFits
  · cases hNone

end SigCheck
