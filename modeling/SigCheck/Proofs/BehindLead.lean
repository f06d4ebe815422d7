import SigCheck.Proofs.ExactJoin
import SigCheck.Proofs.FormedTypes

/-
  Compatibility behind leading parameters.

  A list that leading parameters have been stripped from has
  lost some of its first slots, or its star parameter goes
  on taking positions. To put another list behind the same
  leading parameters and to compare the two is then to
  compare each leading type with that of the slot that takes
  it, and the other list with what was left.

  Key definitions include:
    * `SlotsTake`, `Signature.TakesLead`
    * `FillsFront`

  Correctness is proven by:
    * `exists_front_of_stripLeadParams`
    * `leadFits_append_iff`
    * `covers_behind_iff`
    * `Signature.isCompatibleWith_behind_iff`
-/

------------------------------------------------------------
-- Taking Leading Parameters
------------------------------------------------------------

namespace SigCheck

/-
  Each leading parameter has a slot or else the star
  parameter at its position, and the two types are related.
-/
def SlotsTake
    (rel : Ty → Ty → Prop)
    (slots : List Parameter)
    (star : Option Parameter)
    (lead : List Parameter) : Prop :=
  ∀ (index : Nat) (p : Parameter), lead[index]? = some p →
    ∃ q, slots[index]?.or star = some q ∧ rel p.ty q.ty

section Slots

variable {rel : Ty → Ty → Prop} {star : Option Parameter}
variable {p q : Parameter} {slots lead : List Parameter}

theorem slotsTake_nil : SlotsTake rel slots star [] := by
  intro index p hp
  cases hp

theorem slotsTake_cons :
    SlotsTake rel (q :: slots) star (p :: lead) ↔
      rel p.ty q.ty ∧ SlotsTake rel slots star lead := by
  constructor
  · intro h
    refine ⟨?_, fun index r hr => ?_⟩
    · rcases h 0 p rfl with ⟨q', hq', hRel⟩
      cases hq'
      exact hRel
    · simpa using h (index + 1) r hr
  · rintro ⟨hRel, h⟩ index r hr
    cases index with
    | zero =>
        cases hr
        exact ⟨q, rfl, hRel⟩
    | succ index => simpa using h index r (by simpa using hr)

theorem SlotsTake.imp
    {rel' : Ty → Ty → Prop}
    (h : SlotsTake rel slots star lead)
    (hImp : ∀ p ∈ lead, ∀ t, rel p.ty t → rel' p.ty t) :
    SlotsTake rel' slots star lead := by
  intro index p hp
  rcases h index p hp with ⟨q, hq, hRel⟩
  exact ⟨q, hq, hImp p (List.mem_of_getElem? hp) q.ty hRel⟩

/- Past all slots the star parameter takes what comes. -/
theorem slotsTake_star :
    SlotsTake rel [] star (p :: lead) ↔
      (∃ s, star = some s ∧ rel p.ty s.ty) ∧
        SlotsTake rel [] star lead := by
  constructor
  · intro h
    refine ⟨by simpa using h 0 p rfl, fun index r hr => ?_⟩
    simpa using h (index + 1) r (by simpa using hr)
  · rintro ⟨hStar, h⟩ index r hr
    cases index with
    | zero =>
        cases hr
        simpa using hStar
    | succ index => simpa using h index r (by simpa using hr)

end Slots

namespace Signature

/-
  The signature takes leading parameters, each at a type
  that is related to its own. The gradual list takes any.
-/
def TakesLead
    (rel : Ty → Ty → Prop)
    (sig : Signature)
    (lead : List Parameter) : Prop :=
  match sig with
  | .gradual => True
  | .params ps =>
      SlotsTake rel (positionalSection ps)
        (firstOfKind .varPositional ps) lead
  | .spec own _ => SlotsTake rel own none lead

theorem TakesLead.imp
    {rel rel' : Ty → Ty → Prop}
    {sig : Signature} {lead : List Parameter}
    (h : sig.TakesLead rel lead)
    (hImp : ∀ p ∈ lead, ∀ t, rel p.ty t → rel' p.ty t) :
    sig.TakesLead rel' lead := by
  cases sig with
  | gradual => trivial
  | params ps => exact SlotsTake.imp h hImp
  | spec own var => exact SlotsTake.imp h hImp

end Signature

end SigCheck

------------------------------------------------------------
-- What Is Stripped
------------------------------------------------------------

namespace SigCheck

open ParamList

/-
  Leading parameters fill the slots in front. If there are
  more of them, no slot is left.
-/
def FillsFront
    (count : Nat)
    (front slots : List Parameter) : Prop :=
  front.length = count ∨ front.length ≤ count ∧ slots = []

section Front

variable {count : Nat} {front slots : List Parameter}

theorem FillsFront.cons
    (h : FillsFront count front slots)
    (p : Parameter) :
    FillsFront (count + 1) (p :: front) slots :=
  h.imp (congrArg (· + 1)) fun h =>
    ⟨Nat.succ_le_succ h.1, h.2⟩

theorem FillsFront.tail
    {p : Parameter}
    (h : FillsFront (count + 1) (p :: front) slots) :
    FillsFront count front slots :=
  h.imp Nat.succ.inj fun h => ⟨Nat.le_of_succ_le_succ h.1, h.2⟩

theorem FillsFront.drop_append
    (h : FillsFront count front slots)
    (filled : Nat) :
    (front ++ slots).drop (count + filled) =
      slots.drop filled := by
  rcases h with rfl | ⟨hLe, rfl⟩
  · rw [List.drop_append]
    simp
  · simp only [List.append_nil, List.drop_nil,
      List.drop_eq_nil_iff]
    omega

end Front

/- Nothing in front of a well-formed list keeps it so. -/
theorem ParamList.WellFormed.of_append
    {rest : List Parameter}
    (front : List Parameter)
    (h : WellFormed (front ++ rest)) : WellFormed rest where
  ordered := (List.pairwise_append.mp h.ordered).2.1
  single := (List.pairwise_append.mp h.single).2.1
  named p hp := h.named p (List.mem_append_right _ hp)
  distinct := (List.pairwise_append.mp h.distinct).2.1

/- So it is for a list that may be declared. -/
theorem ParamList.Declarable.of_append
    {rest : List Parameter}
    (front : List Parameter)
    (h : Declarable (front ++ rest)) : Declarable rest where
  toWellFormed := h.toWellFormed.of_append front
  defaultsLast := (List.pairwise_append.mp h.defaultsLast).2.1
  plainVariadics p hp :=
    h.plainVariadics p (List.mem_append_right _ hp)

/- A list that starts with its star parameter has no slots. -/
theorem ParamList.WellFormed.positionalSection_star
    {s : Parameter} {ps : List Parameter}
    (h : WellFormed (s :: ps))
    (hStar : s.kind = .varPositional) :
    positionalSection (s :: ps) = [] := by
  refine List.filter_eq_nil_iff.mpr fun p hp => ?_
  have hRank : s.kind.rank ≤ p.kind.rank := by
    rcases List.mem_cons.mp hp with rfl | hp
    · exact Nat.le_refl _
    · exact (List.pairwise_cons.mp h.ordered).1 p hp
  rw [hStar] at hRank
  revert hRank
  cases p.kind <;> decide

section Strip

variable {lead ps rest : List Parameter}

/-
  A leading parameter takes the first slot, or it goes to the
  star parameter that stays.
-/
theorem stripLeadParams_cons_eq_some
    {e : Parameter}
    (h : stripLeadParams (e :: lead) ps = some rest) :
    ∃ p more, ps = p :: more ∧
      e.ty.isSubtype p.ty = true ∧
        (p.kind.isPositional = true ∧
            stripLeadParams lead more = some rest ∨
          p.kind = .varPositional ∧
            stripLeadParams lead (p :: more) = some rest) := by
  cases ps with
  | nil => cases h
  | cons p more =>
      rw [stripLeadParams] at h
      refine ⟨p, more, rfl, ?_⟩
      split at h
      · rename_i hSlot
        rw [Bool.and_eq_true] at hSlot
        exact ⟨hSlot.2, Or.inl ⟨hSlot.1, h⟩⟩
      · split at h
        · rename_i hStar
          rw [Bool.and_eq_true, beq_iff_eq] at hStar
          exact ⟨hStar.2, Or.inr ⟨hStar.1, h⟩⟩
        · cases h

/- Stripping takes slots off the front of a list. -/
theorem exists_front_of_stripLeadParams
    (hps : WellFormed ps)
    (h : stripLeadParams lead ps = some rest) :
    ∃ front, ps = front ++ rest ∧
      (∀ p ∈ front, p.kind.isPositional = true) ∧
        FillsFront lead.length front
          (positionalSection rest) := by
  induction lead generalizing ps with
  | nil =>
      cases h
      exact ⟨[], rfl, List.forall_mem_nil _, Or.inl rfl⟩
  | cons e lead ih =>
      rcases stripLeadParams_cons_eq_some h with
        ⟨p, ps, rfl, -, ⟨hPos, hMore⟩ | ⟨hStar, hMore⟩⟩
      · rcases ih (hps.of_append [p]) hMore with
          ⟨front, rfl, hAll, hFills⟩
        exact
          ⟨p :: front, rfl,
            List.forall_mem_cons.mpr ⟨hPos, hAll⟩,
            hFills.cons p⟩
      · rcases ih hps hMore with ⟨front, hSplit, hAll, hFills⟩
        cases front with
        | nil =>
            subst hSplit
            exact
              ⟨[], rfl, List.forall_mem_nil _,
                Or.inr ⟨Nat.zero_le _,
                  hps.positionalSection_star hStar⟩⟩
        | cons q front =>
            cases (List.cons.inj hSplit).1
            have hPos := (List.forall_mem_cons.mp hAll).1
            rw [hStar] at hPos
            cases hPos

/- What takes the leading parameters has wider types. -/
theorem slotsTake_of_stripLeadParams
    (hps : WellFormed ps)
    (h : stripLeadParams lead ps = some rest) :
    SlotsTake (fun t u => t.isSubtype u = true)
      (positionalSection ps)
      (firstOfKind .varPositional ps) lead := by
  induction lead generalizing ps with
  | nil => exact slotsTake_nil
  | cons e lead ih =>
      rcases stripLeadParams_cons_eq_some h with
        ⟨p, ps, rfl, hLe, ⟨hPos, hMore⟩ | ⟨hStar, hMore⟩⟩
      · have hRest := ih (hps.of_append [p]) hMore
        have hNot : (p.kind == .varPositional) = false := by
          rw [beq_eq_false_iff_ne]
          intro hStar
          rw [hStar] at hPos
          cases hPos
        rw [positionalSection, List.filter_cons, if_pos hPos,
          firstOfKind, List.find?_cons, hNot]
        exact slotsTake_cons.mpr ⟨hLe, hRest⟩
      · have hRest := ih hps hMore
        rw [hps.positionalSection_star hStar] at hRest ⊢
        refine slotsTake_star.mpr ⟨⟨p, ?_, hLe⟩, hRest⟩
        rw [firstOfKind, List.find?_cons, hStar]
        rfl

end Strip

end SigCheck

------------------------------------------------------------
-- Covering behind Leading Parameters
------------------------------------------------------------

namespace SigCheck

open ParamList

section Plain

variable {p q : Parameter} (hp : p.IsPlainPosition)

include hp

/- A plain position fits a slot by its type alone. -/
theorem slotFits_iff_of_plain :
    SlotFits p q ↔ Ty.Narrows p.ty q.ty := by
  refine ⟨fun h => h.ty, fun h => ⟨h, ?_, ?_⟩⟩
  · rw [hp.required]
    nofun
  · rw [hp.positional]
    nofun

theorem starFits_iff_of_plain :
    StarFits p q ↔ Ty.Narrows p.ty q.ty :=
  ⟨fun h => h.ty, fun h => ⟨h, hp.positional⟩⟩

end Plain

section Fits

variable {star : Option Parameter} {overflow : Prop}
variable {p q : Parameter} {slots rest merged : List Parameter}

theorem leadFits_cons_iff :
    LeadFits star overflow (q :: slots) rest (p :: merged) ↔
      SlotFits p q ∧
        LeadFits star overflow slots rest merged := by
  constructor
  · intro h
    cases h with
    | merge hSlot hRest => exact ⟨hSlot, hRest⟩
  · exact fun h => .merge h.1 h.2

theorem leadFits_star_iff :
    LeadFits star overflow [] rest (p :: merged) ↔
      (∃ s, star = some s ∧ StarFits p s) ∧
        LeadFits star overflow [] rest merged := by
  constructor
  · intro h
    cases h with
    | absorb hStar hSlot hRest =>
        exact ⟨⟨_, hStar, hSlot⟩, hRest⟩
  · rintro ⟨⟨s, hStar, hSlot⟩, hRest⟩
    have hNone := hRest.rest_eq
    rw [List.drop_nil] at hNone
    subst hNone
    exact .absorb hStar hSlot hRest

/-
  Leading parameters fit slots exactly if these take them,
  and what comes behind fits the slots that are left.
-/
theorem leadFits_append_iff
    {lead front : List Parameter}
    (hLead : ArePlainPositions lead)
    (hFills : FillsFront lead.length front slots) :
    LeadFits star overflow (front ++ slots) rest
        (lead ++ merged) ↔
      SlotsTake Ty.Narrows (front ++ slots) star lead ∧
        LeadFits star overflow slots rest merged := by
  induction lead generalizing front with
  | nil =>
      have hFront : front = [] := by
        rcases hFills with h | h
        · exact List.eq_nil_of_length_eq_zero h
        · exact List.eq_nil_of_length_eq_zero
            (Nat.le_zero.mp h.1)
      subst hFront
      exact (and_iff_right slotsTake_nil).symm
  | cons p lead ih =>
      rcases List.forall_mem_cons.mp hLead with ⟨hp, hLead⟩
      cases front with
      | cons q front =>
          simp only [List.cons_append, leadFits_cons_iff,
            slotsTake_cons, slotFits_iff_of_plain hp,
            ih hLead hFills.tail, and_assoc]
      | nil =>
          -- More leading parameters than slots: none is left.
          have hSlots : slots = [] := by
            rcases hFills with h | h
            · cases h
            · exact h.2
          subst hSlots
          have hNil :
              FillsFront lead.length [] ([] : List Parameter) :=
            Or.inr ⟨Nat.zero_le _, rfl⟩
          have hRest := ih hLead hNil
          simp only [List.append_nil] at hRest ⊢
          simp only [List.cons_append, leadFits_star_iff,
            slotsTake_star, starFits_iff_of_plain hp, hRest,
            and_assoc]

end Fits

section Behind

variable {front rest : List Parameter}
variable
  (hFront : ∀ p ∈ front, p.kind.isPositional = true)

include hFront

/- Slots in front are the first ones of the whole list. -/
theorem positionalSection_behind :
    positionalSection (front ++ rest) =
      front ++ positionalSection rest := by
  unfold positionalSection
  rw [List.filter_append, List.filter_eq_self.mpr hFront]

/- They are of no other kind. -/
theorem filter_behind
    {kind : ParamKind}
    (hKind : kind.isPositional = false) :
    (front ++ rest).filter (·.kind == kind) =
      rest.filter (·.kind == kind) := by
  have hNone : front.filter (·.kind == kind) = [] := by
    refine List.filter_eq_nil_iff.mpr fun p hp hSame => ?_
    have hPos := hFront p hp
    rw [beq_iff_eq.mp hSame, hKind] at hPos
    cases hPos
  rw [List.filter_append, hNone, List.nil_append]

theorem firstOfKind_behind
    {kind : ParamKind}
    (hKind : kind.isPositional = false) :
    firstOfKind kind (front ++ rest) =
      firstOfKind kind rest := by
  rw [firstOfKind, firstOfKind, ← List.head?_filter,
    ← List.head?_filter, filter_behind hFront hKind]

theorem mem_keywordOnly_behind
    {p : Parameter}
    (hOnly : p.kind = .keywordOnly) :
    p ∈ front ++ rest ↔ p ∈ rest := by
  refine
    ⟨fun hp => ?_, fun hp => List.mem_append_right _ hp⟩
  refine (List.mem_append.mp hp).resolve_left fun hp => ?_
  have hPos := hFront p hp
  rw [hOnly] at hPos
  cases hPos

variable {count : Nat}
variable
  (hFills : FillsFront count front (positionalSection rest))

include hFills

/- Keywords past the slots in front are those of the rest. -/
theorem keywordsPast_behind (filled : Nat) :
    keywordsPast (count + filled) (front ++ rest) =
      keywordsPast filled rest := by
  unfold keywordsPast
  rw [positionalSection_behind hFront,
    hFills.drop_append filled, filter_behind hFront rfl]

theorem fillable_behind (filled : Nat) :
    Fillable (count + filled) (front ++ rest) ↔
      Fillable filled rest := by
  unfold Fillable
  rw [positionalSection_behind hFront,
    hFills.drop_append filled]

theorem requires_behind (filled : Nat) (name : String) :
    (keywordSide (count + filled) (front ++ rest)).requires
        name =
      (keywordSide filled rest).requires name := by
  unfold KeywordSide.requires keywordSide
  rw [keywordsPast_behind hFront hFills filled]

/-
  A keyword fits the whole list as it fits the rest, unless
  a slot in front has its name.
-/
theorem keywordFits_behind
    (hWF : WellFormed (front ++ rest))
    {filled : Nat} {name : String} {p : Parameter}
    (hName :
      HasKeyword (front ++ rest) name →
        HasKeyword rest name) :
    KeywordFits
        (keywordSide (count + filled) (front ++ rest))
        (count + filled) name p ↔
      KeywordFits (keywordSide filled rest) filled name p := by
  have hBoth :
      HasKeyword (front ++ rest) name ↔
        HasKeyword rest name :=
    ⟨hName, fun ⟨q, hq, hKey⟩ =>
      ⟨q, List.mem_append_right _ hq, hKey⟩⟩
  have hAccepts (ty : Ty) :
      (keywordSide (count + filled) (front ++ rest)).accepts?
            (count + filled) name =
          some ty ↔
        (keywordSide filled rest).accepts? filled name =
          some ty := by
    rw [hWF.accepts?_eq_some_iff,
      (hWF.of_append front).accepts?_eq_some_iff,
      keywordsPast_behind hFront hFills filled, hBoth,
      firstOfKind_behind hFront rfl]
  have hRequires := requires_behind hFront hFills filled name
  constructor
  · rintro ⟨⟨ty, hTy, hNarrows⟩, hRequired⟩
    rw [hRequires] at hRequired
    exact ⟨⟨ty, (hAccepts ty).mp hTy, hNarrows⟩, hRequired⟩
  · rintro ⟨⟨ty, hTy, hNarrows⟩, hRequired⟩
    rw [← hRequires] at hRequired
    exact ⟨⟨ty, (hAccepts ty).mpr hTy, hNarrows⟩, hRequired⟩

end Behind

theorem ParamList.ArePlainPositions.isPositional
    {lead : List Parameter}
    (hLead : ArePlainPositions lead) :
    ∀ p ∈ lead, p.kind.isPositional = true := by
  intro p hp
  rw [(hLead p hp).positional]
  rfl

section Covers

variable {lead qs front rest : List Parameter}
variable (hLead : ArePlainPositions lead)
variable
  (hFront : ∀ p ∈ front, p.kind.isPositional = true)
variable
  (hFills :
    FillsFront lead.length front (positionalSection rest))

variable (qs)

include hLead in
theorem length_positionalSection_behind :
    (positionalSection (lead ++ qs)).length =
      lead.length + (positionalSection qs).length := by
  rw [positionalSection_behind hLead.isPositional,
    List.length_append]

include hLead hFront hFills

/- The slots fit as they do in the two parts. -/
theorem leadFits_behind_iff :
    (∃ left,
        LeadFits (firstOfKind .varPositional (front ++ rest))
          ((firstOfKind .varPositional (lead ++ qs)).isSome =
            true)
          (positionalSection (front ++ rest)) left
          (positionalSection (lead ++ qs))) ↔
      SlotsTake Ty.Narrows (positionalSection (front ++ rest))
          (firstOfKind .varPositional (front ++ rest)) lead ∧
        ∃ left,
          LeadFits (firstOfKind .varPositional rest)
            ((firstOfKind .varPositional qs).isSome = true)
            (positionalSection rest) left
            (positionalSection qs) := by
  rw [positionalSection_behind hFront,
    positionalSection_behind hLead.isPositional,
    firstOfKind_behind hFront rfl,
    firstOfKind_behind hLead.isPositional rfl]
  simp only [leadFits_append_iff hLead hFills,
    exists_and_left]

/- The rest requires what the whole list requires. -/
theorem required_behind_iff (filled : Nat) :
    (∀ name,
        (keywordSide (lead.length + filled)
            (front ++ rest)).requires name = true →
          ∃ p ∈ lead ++ qs, p.kind = .keywordOnly ∧
            p.name = some name) ↔
      ∀ name, (keywordSide filled rest).requires name = true →
        ∃ p ∈ qs, p.kind = .keywordOnly ∧
          p.name = some name := by
  refine forall_congr' fun name => ?_
  rw [requires_behind hFront hFills]
  refine imp_congr_right fun _ => exists_congr fun p => ?_
  exact
    and_congr_left fun h =>
      mem_keywordOnly_behind hLead.isPositional h.1

variable {qs}

/- Keyword-only parameters fit as they fit the rest. -/
theorem keywords_behind_iff
    (hWF : WellFormed (front ++ rest))
    (hApart :
      ∀ name, HasKeyword qs name →
        HasKeyword (front ++ rest) name →
          HasKeyword rest name)
    (filled : Nat) :
    (∀ p ∈ lead ++ qs, p.kind = .keywordOnly →
        ∃ name, p.name = some name ∧
          KeywordFits
            (keywordSide (lead.length + filled)
              (front ++ rest))
            (lead.length + filled) name p) ↔
      ∀ p ∈ qs, p.kind = .keywordOnly →
        ∃ name, p.name = some name ∧
          KeywordFits (keywordSide filled rest) filled name
            p := by
  have hEach (p : Parameter) (hp : p ∈ qs)
      (hOnly : p.kind = .keywordOnly)
      (name : String) (hName : p.name = some name) :
      KeywordFits
          (keywordSide (lead.length + filled) (front ++ rest))
          (lead.length + filled) name p ↔
        KeywordFits (keywordSide filled rest) filled name p := by
    have hKey : p.kind.isKeyword = true := by
      rw [hOnly]
      rfl
    exact
      keywordFits_behind hFront hFills hWF
        (hApart name ⟨p, hp, hKey, hName⟩)
  have hMem (p : Parameter) (hOnly : p.kind = .keywordOnly) :
      p ∈ lead ++ qs ↔ p ∈ qs :=
    mem_keywordOnly_behind hLead.isPositional hOnly
  constructor
  · intro h p hp hOnly
    rcases h p ((hMem p hOnly).mpr hp) hOnly with
      ⟨name, hName, hFits⟩
    exact ⟨name, hName, (hEach p hp hOnly name hName).mp hFits⟩
  · intro h p hp hOnly
    have hp := (hMem p hOnly).mp hp
    rcases h p hp hOnly with ⟨name, hName, hFits⟩
    exact
      ⟨name, hName, (hEach p hp hOnly name hName).mpr hFits⟩

/-
  A list covers the whole one behind leading parameters
  exactly if the slots in front take these and it covers the
  rest. It may not take a name that is used up in front.
-/
theorem covers_behind_iff
    (hWF : WellFormed (front ++ rest))
    (hApart :
      ∀ name, HasKeyword qs name →
        HasKeyword (front ++ rest) name →
          HasKeyword rest name) :
    Covers (lead ++ qs) (front ++ rest) ↔
      SlotsTake Ty.Narrows (positionalSection (front ++ rest))
          (firstOfKind .varPositional (front ++ rest)) lead ∧
        Covers qs rest := by
  have hSlots := hLead.isPositional
  have hLength := length_positionalSection_behind qs hLead
  have hFits := leadFits_behind_iff qs hLead hFront hFills
  have hFillable :=
    fillable_behind hFront hFills (positionalSection qs).length
  have hKeywords :=
    keywords_behind_iff hLead hFront hFills hWF hApart
      (positionalSection qs).length
  have hRequired :=
    required_behind_iff qs hLead hFront hFills
      (positionalSection qs).length
  rw [← hLength] at hFillable hKeywords hRequired
  constructor
  · intro h
    have hStar := h.star
    have hOthers := h.others
    rw [firstOfKind_behind hSlots rfl,
      firstOfKind_behind hFront rfl] at hStar hOthers
    rcases hFits.mp h.lead with ⟨hTakes, hRest⟩
    exact
      ⟨hTakes, hRest, hFillable.mp h.fillable, hStar,
        hKeywords.mp h.keywords, hRequired.mp h.required,
        hOthers⟩
  · rintro ⟨hTakes, h⟩
    refine
      ⟨hFits.mpr ⟨hTakes, h.lead⟩, hFillable.mpr h.fillable,
        ?_, hKeywords.mpr h.keywords,
        hRequired.mpr h.required, ?_⟩
    · rw [firstOfKind_behind hSlots rfl,
        firstOfKind_behind hFront rfl]
      exact h.star
    · rw [firstOfKind_behind hSlots rfl,
        firstOfKind_behind hFront rfl]
      exact h.others

/- Leading parameters have no names to lose. -/
theorem readmitsPast_behind_iff :
    ReadmitsPast (lead ++ qs) (front ++ rest) ↔
      ReadmitsPast qs rest := by
  have hSlots := hLead.isPositional
  have hName (name : String) :
      HasKeyword (lead ++ qs) name ↔ HasKeyword qs name := by
    constructor
    · rintro ⟨p, hp, hKey, hName⟩
      refine
        ⟨p, (List.mem_append.mp hp).resolve_left ?_, hKey,
          hName⟩
      intro hp
      rw [(hLead p hp).positional] at hKey
      cases hKey
    · rintro ⟨p, hp, hKey, hName⟩
      exact ⟨p, List.mem_append_right _ hp, hKey, hName⟩
  unfold ReadmitsPast HasKeywordPast
  rw [firstOfKind_behind hSlots rfl,
    length_positionalSection_behind qs hLead,
    keywordsPast_behind hFront hFills]
  simp only [hName]

end Covers

end SigCheck

------------------------------------------------------------
-- Signatures behind Leading Parameters
------------------------------------------------------------

namespace SigCheck

open ParamList

section Leading

variable {lead lead' inner own : List Parameter}

/- Leading slots of a variable take what fits them in order. -/
theorem forall₂_slotFits_append_iff
    (hLead : ArePlainPositions lead)
    (hLe : lead.length ≤ own.length) :
    List.Forall₂ SlotFits (lead ++ inner) own ↔
      SlotsTake Ty.Narrows own none lead ∧
        List.Forall₂ SlotFits inner (own.drop lead.length) := by
  induction lead generalizing own with
  | nil => exact (and_iff_right slotsTake_nil).symm
  | cons p lead ih =>
      rcases List.forall_mem_cons.mp hLead with ⟨hp, hLead⟩
      cases own with
      | nil => cases hLe
      | cons q own =>
          have hRest := ih hLead (Nat.le_of_succ_le_succ hLe)
          simp only [List.cons_append, List.forall₂_cons,
            slotsTake_cons, slotFits_iff_of_plain hp, hRest,
            List.length_cons, List.drop_succ_cons, and_assoc]

/- Leading parameters that fit have wider types above them. -/
theorem slotsTake_of_fitsLead
    (hLe : lead.length ≤ own.length)
    (hFits : fitsLead lead own = true) :
    SlotsTake (fun t u => t.isSubtype u = true) own none
      lead := by
  intro index p hp
  have hIndex : index < own.length :=
    Nat.lt_of_lt_of_le (List.getElem?_eq_some_iff.mp hp).1 hLe
  have hq := List.getElem?_eq_getElem hIndex
  refine ⟨own[index], by rw [hq]; rfl, ?_⟩
  refine List.all_eq_true.mp hFits (p, own[index]) ?_
  exact
    List.mem_of_getElem?
      (List.getElem?_zip_eq_some.mpr ⟨hp, hq⟩)

end Leading

namespace Signature

variable {lead lead' : List Parameter}
variable {sig rest solved : Signature}

/- A variable has its leading slots left to be stripped. -/
theorem stripLead_spec_eq_some_iff
    {own : List Parameter} {var : String} :
    stripLead lead (.spec own var) = some rest ↔
      lead.length ≤ own.length ∧ fitsLead lead own = true ∧
        rest = .spec (own.drop lead.length) var := by
  simp only [stripLead]
  split
  · rename_i hLess
    simp [Nat.not_le_of_lt hLess]
  · rename_i hLe
    rw [and_iff_right (Nat.le_of_not_lt hLe)]
    split
    · rename_i hFits
      rw [and_iff_right hFits, Option.some.injEq]
      exact eq_comm
    · rename_i hFits
      simp [hFits]

/- What is left of a declared signature is declared. -/
theorem Declared.stripLead
    (hSig : sig.Declared)
    (hStrip : stripLead lead sig = some rest) :
    rest.Declared := by
  cases sig with
  | gradual =>
      cases hStrip
      trivial
  | params ps =>
      rcases Option.map_eq_some_iff.mp hStrip with
        ⟨list, hList, rfl⟩
      rcases exists_front_of_stripLeadParams
        hSig.toWellFormed hList with ⟨front, rfl, -, -⟩
      exact Declarable.of_append front hSig
  | spec own var =>
      rcases stripLead_spec_eq_some_iff.mp hStrip with
        ⟨-, -, rfl⟩
      exact fun p hp => hSig p (List.mem_of_mem_drop hp)

/- Stripping tests the leading types by subtyping. -/
theorem takesLead_of_stripLead
    (hSig : sig.Declared)
    (hStrip : stripLead lead sig = some rest) :
    sig.TakesLead (fun t u => t.isSubtype u = true) lead := by
  cases sig with
  | gradual => trivial
  | params ps =>
      rcases Option.map_eq_some_iff.mp hStrip with
        ⟨list, hList, -⟩
      exact
        slotsTake_of_stripLeadParams hSig.toWellFormed hList
  | spec own var =>
      rcases stripLead_spec_eq_some_iff.mp hStrip with
        ⟨hLe, hFits, -⟩
      exact slotsTake_of_fitsLead hLe hFits

/-
  A signature is compatible with another one behind leading
  parameters exactly if it takes these at wider types, and
  what it leaves is compatible with the other one. The other
  one may not take a name that is used up in front.
-/
theorem isCompatibleWith_behind_iff
    (hLead : ArePlainPositions lead')
    (hLength : lead'.length = lead.length)
    (hSig : sig.Declared)
    (hStrip : stripLead lead sig = some rest)
    (hSolved : solved.Declared)
    (hNot : solved ≠ .gradual)
    (hApart :
      ∀ name, HasKeyword solved.parameters name →
        HasKeyword sig.parameters name →
          HasKeyword rest.parameters name) :
    sig.isCompatibleWith (solved.behindLead lead') = true ↔
      sig.TakesLead Ty.Narrows lead' ∧
        rest.isCompatibleWith solved = true := by
  cases sig with
  | gradual =>
      cases hStrip
      exact iff_of_true rfl ⟨trivial, rfl⟩
  | params ps =>
      rcases Option.map_eq_some_iff.mp hStrip with
        ⟨list, hList, rfl⟩
      rcases exists_front_of_stripLeadParams
        hSig.toWellFormed hList with
        ⟨front, rfl, hFront, hFills⟩
      rw [← hLength] at hFills
      cases solved with
      | gradual => exact absurd rfl hNot
      | spec inner var => exact iff_of_false nofun nofun
      | params qs =>
          have hWF := hSig.toWellFormed
          have hRest := hWF.of_append front
          have hBehind : Declarable (lead' ++ qs) :=
            Declarable.behind hLead hSolved
          have hCovers :
              Covers (lead' ++ qs) (front ++ list) ↔ _ :=
            covers_behind_iff hLead hFront hFills hWF hApart
          rw [behindLead,
            hBehind.isCompatibleWith_iff_covers hWF,
            Declarable.isCompatibleWith_iff_covers hSolved
              hRest,
            readmitsPast_behind_iff hLead hFront hFills,
            hCovers]
          exact and_assoc
  | spec own var =>
      rcases stripLead_spec_eq_some_iff.mp hStrip with
        ⟨hLe, -, rfl⟩
      cases solved with
      | gradual => exact absurd rfl hNot
      | params qs => exact iff_of_false nofun nofun
      | spec inner var' =>
          have hBehind :
              ∀ p ∈ lead' ++ inner, p.kind = .positionalOnly :=
            List.forall_mem_append.mpr
              ⟨fun p hp => (hLead p hp).positional, hSolved⟩
          rw [← hLength] at hLe ⊢
          rw [behindLead, isCompatibleWith_spec_iff hBehind,
            isCompatibleWith_spec_iff hSolved,
            forall₂_slotFits_append_iff hLead hLe]
          exact and_left_comm

end Signature

end SigCheck
