import SigCheck.Check.Function
import SigCheck.Proofs.BindingRule
import SigCheck.Proofs.SameShape
import SigCheck.Proofs.Solution

/-
  Traits of types: what is asked at every depth of a type of
  its names, its unions and its parameter lists.

  Operations take types apart and put their parts together
  in a few ways. A trait that survives these ways survives
  the operations: here joining and stripping, with replacing
  and solving to follow.

  Key definitions include:
    * `Trait`, `Trait.Le`, `Trait.Stable`
    * `Ty.Has`, `Parameter.Has`, `Signature.Has`
    * `Trait.ofVars`

  Correctness is proven by:
    * `Ty.Has.mono`
    * `Ty.has_ofVars_iff`
    * `Ty.has_unionOf`
    * `Trait.Stable.commonSupertype`
    * `Trait.Stable.stripLead`
-/

namespace SigCheck

------------------------------------------------------------
-- Traits
------------------------------------------------------------

/-
  What is asked of the parts of a type: of the variables of
  either kind, of variables that are projected, of other
  names, of the members of a union, of a parameter list, and
  of the parameters in front of a variable.
-/
structure Trait where
  typeVar : String → Prop := fun _ => True
  spec : String → Prop := fun _ => True
  projection : String → Prop := fun _ => True
  name : String → Prop := fun _ => True
  members : List Ty → Prop := fun _ => True
  params : List Parameter → Prop := fun _ => True
  lead : List Parameter → Prop := fun _ => True

mutual

/- The type has the trait at every depth. -/
def Ty.Has (c : Trait) : Ty → Prop
  | .typeVar name => c.typeVar name
  | .specArgs name => c.projection name
  | .specKwargs name => c.projection name
  | .cls name => c.name name
  | .generic name args => c.name name ∧ TypeArg.HasAll c args
  | .list t => t.Has c
  | .set t => t.Has c
  | .dict k v => k.Has c ∧ v.Has c
  | .tuple ts => Ty.HasAll c ts
  | .union ts => c.members ts ∧ Ty.HasAll c ts
  | .callable sig ret => sig.Has c ∧ ret.Has c
  | .any => True
  | .never => True
  | .noneType => True
  | .bool => True
  | .int => True
  | .float => True
  | .str => True
  | .bytes => True
  | .object => True

/- The types have the trait at every depth. -/
def Ty.HasAll (c : Trait) : List Ty → Prop
  | [] => True
  | t :: ts => t.Has c ∧ Ty.HasAll c ts

/- The class argument has the trait at every depth. -/
def TypeArg.Has (c : Trait) : TypeArg → Prop
  | .type t => t.Has c
  | .params sig => sig.Has c

/- The class arguments have the trait at every depth. -/
def TypeArg.HasAll (c : Trait) : List TypeArg → Prop
  | [] => True
  | a :: args => a.Has c ∧ TypeArg.HasAll c args

/- The parameter has the trait at every depth. -/
def Parameter.Has (c : Trait) : Parameter → Prop
  | ⟨name, _, ty, _⟩ => (∀ n ∈ name, c.name n) ∧ ty.Has c

/- The parameters have the trait at every depth. -/
def Parameter.HasAll (c : Trait) : List Parameter → Prop
  | [] => True
  | p :: ps => p.Has c ∧ Parameter.HasAll c ps

/- The signature has the trait at every depth. -/
def Signature.Has (c : Trait) : Signature → Prop
  | .gradual => True
  | .params ps => c.params ps ∧ Parameter.HasAll c ps
  | .spec lead var =>
      (c.lead lead ∧ c.spec var) ∧ Parameter.HasAll c lead

end

section Lists

variable {c : Trait}

@[simp]
theorem Ty.hasAll_iff {ts : List Ty} :
    Ty.HasAll c ts ↔ ∀ t ∈ ts, t.Has c := by
  induction ts with
  | nil => simp [Ty.HasAll]
  | cons t ts ih => simp [Ty.HasAll, ih]

@[simp]
theorem TypeArg.hasAll_iff {args : List TypeArg} :
    TypeArg.HasAll c args ↔ ∀ a ∈ args, a.Has c := by
  induction args with
  | nil => simp [TypeArg.HasAll]
  | cons a args ih => simp [TypeArg.HasAll, ih]

@[simp]
theorem Parameter.hasAll_iff {ps : List Parameter} :
    Parameter.HasAll c ps ↔ ∀ p ∈ ps, p.Has c := by
  induction ps with
  | nil => simp [Parameter.HasAll]
  | cons p ps ih => simp [Parameter.HasAll, ih]

theorem Parameter.has_iff {p : Parameter} :
    p.Has c ↔ (∀ n ∈ p.name, c.name n) ∧ p.ty.Has c := by
  cases p
  rfl

/- The type of a parameter has its trait. -/
theorem Parameter.Has.ty
    {p : Parameter}
    (h : p.Has c) : p.ty.Has c :=
  (Parameter.has_iff.mp h).2

end Lists

------------------------------------------------------------
-- Weaker Traits
------------------------------------------------------------

/- The second trait asks for nothing more. -/
structure Trait.Le (c d : Trait) : Prop where
  typeVar : ∀ v, c.typeVar v → d.typeVar v
  spec : ∀ v, c.spec v → d.spec v
  projection : ∀ v, c.projection v → d.projection v
  name : ∀ n, c.name n → d.name n
  members : ∀ ts, c.members ts → d.members ts
  params : ∀ ps, c.params ps → d.params ps
  lead : ∀ ps, c.lead ps → d.lead ps

section Mono

variable {c d : Trait}

mutual

/- What has a trait has every weaker one. -/
theorem Ty.Has.mono
    (hLe : c.Le d)
    (t : Ty) (h : t.Has c) : t.Has d := by
  cases t with
  | typeVar name => exact hLe.typeVar name h
  | specArgs name => exact hLe.projection name h
  | specKwargs name => exact hLe.projection name h
  | cls name => exact hLe.name name h
  | generic name args =>
      exact
        ⟨hLe.name name h.1, TypeArg.HasAll.mono hLe args h.2⟩
  | list t => exact Ty.Has.mono hLe t h
  | set t => exact Ty.Has.mono hLe t h
  | dict k v =>
      exact
        ⟨Ty.Has.mono hLe k h.1, Ty.Has.mono hLe v h.2⟩
  | tuple ts => exact Ty.HasAll.mono hLe ts h
  | union ts =>
      exact ⟨hLe.members ts h.1, Ty.HasAll.mono hLe ts h.2⟩
  | callable sig ret =>
      exact
        ⟨Signature.Has.mono hLe sig h.1,
          Ty.Has.mono hLe ret h.2⟩
  | _ => trivial

/- What has a trait has every weaker one. -/
theorem Ty.HasAll.mono
    (hLe : c.Le d)
    (ts : List Ty) (h : Ty.HasAll c ts) : Ty.HasAll d ts := by
  cases ts with
  | nil => trivial
  | cons t ts =>
      exact
        ⟨Ty.Has.mono hLe t h.1, Ty.HasAll.mono hLe ts h.2⟩

/- What has a trait has every weaker one. -/
theorem TypeArg.Has.mono
    (hLe : c.Le d)
    (a : TypeArg) (h : a.Has c) : a.Has d := by
  cases a with
  | type t => exact Ty.Has.mono hLe t h
  | params sig => exact Signature.Has.mono hLe sig h

/- What has a trait has every weaker one. -/
theorem TypeArg.HasAll.mono
    (hLe : c.Le d)
    (args : List TypeArg)
    (h : TypeArg.HasAll c args) : TypeArg.HasAll d args := by
  cases args with
  | nil => trivial
  | cons a args =>
      exact
        ⟨TypeArg.Has.mono hLe a h.1,
          TypeArg.HasAll.mono hLe args h.2⟩

/- What has a trait has every weaker one. -/
theorem Parameter.Has.mono
    (hLe : c.Le d)
    (p : Parameter) (h : p.Has c) : p.Has d := by
  cases p with
  | mk name kind ty hasDefault =>
      exact
        ⟨fun n hn => hLe.name n (h.1 n hn),
          Ty.Has.mono hLe ty h.2⟩

/- What has a trait has every weaker one. -/
theorem Parameter.HasAll.mono
    (hLe : c.Le d)
    (ps : List Parameter)
    (h : Parameter.HasAll c ps) : Parameter.HasAll d ps := by
  cases ps with
  | nil => trivial
  | cons p ps =>
      exact
        ⟨Parameter.Has.mono hLe p h.1,
          Parameter.HasAll.mono hLe ps h.2⟩

/- What has a trait has every weaker one. -/
theorem Signature.Has.mono
    (hLe : c.Le d)
    (sig : Signature) (h : sig.Has c) : sig.Has d := by
  cases sig with
  | gradual => trivial
  | params ps =>
      exact
        ⟨hLe.params ps h.1, Parameter.HasAll.mono hLe ps h.2⟩
  | spec lead var =>
      exact
        ⟨⟨hLe.lead lead h.1.1, hLe.spec var h.1.2⟩,
          Parameter.HasAll.mono hLe lead h.2⟩

end

end Mono

------------------------------------------------------------
-- Mentioned Variables
------------------------------------------------------------

/- A property of the variables that a type mentions. -/
def Trait.ofVars (P : VarName → Prop) : Trait where
  typeVar v := P (.type v)
  spec v := P (.spec v)

section OfVars

variable {P : VarName → Prop}

mutual

/- It is a trait if all that is mentioned has the property. -/
theorem Ty.has_ofVars_iff (t : Ty) :
    t.Has (.ofVars P) ↔ ∀ v ∈ t.mentions, P v := by
  cases t with
  | typeVar name =>
      have hOne : (∀ v ∈ [.type name], P v) ↔ P (.type name) :=
        by simp
      exact hOne.symm
  | generic name args =>
      exact
        (and_iff_right trivial).trans (TypeArg.hasAll_ofVars_iff args)
  | list t => exact Ty.has_ofVars_iff t
  | set t => exact Ty.has_ofVars_iff t
  | dict k v =>
      exact
        (and_congr (Ty.has_ofVars_iff k)
          (Ty.has_ofVars_iff v)).trans
            List.forall_mem_append.symm
  | tuple ts => exact Ty.hasAll_ofVars_iff ts
  | union ts =>
      exact (and_iff_right trivial).trans (Ty.hasAll_ofVars_iff ts)
  | callable sig ret =>
      exact
        (and_congr (Signature.has_ofVars_iff sig)
          (Ty.has_ofVars_iff ret)).trans
            List.forall_mem_append.symm
  | _ => exact iff_of_true trivial (List.forall_mem_nil _)

/- So it is for a list of types. -/
theorem Ty.hasAll_ofVars_iff (ts : List Ty) :
    Ty.HasAll (.ofVars P) ts ↔
      ∀ v ∈ Ty.mentionsAll ts, P v := by
  cases ts with
  | nil => exact iff_of_true trivial (List.forall_mem_nil _)
  | cons t ts =>
      exact
        (and_congr (Ty.has_ofVars_iff t)
          (Ty.hasAll_ofVars_iff ts)).trans
            List.forall_mem_append.symm

/- So it is for a class argument. -/
theorem TypeArg.has_ofVars_iff (a : TypeArg) :
    a.Has (.ofVars P) ↔ ∀ v ∈ a.mentions, P v := by
  cases a with
  | type t => exact Ty.has_ofVars_iff t
  | params sig => exact Signature.has_ofVars_iff sig

/- So it is for a list of class arguments. -/
theorem TypeArg.hasAll_ofVars_iff (args : List TypeArg) :
    TypeArg.HasAll (.ofVars P) args ↔
      ∀ v ∈ TypeArg.mentionsAll args, P v := by
  cases args with
  | nil => exact iff_of_true trivial (List.forall_mem_nil _)
  | cons a args =>
      exact
        (and_congr (TypeArg.has_ofVars_iff a)
          (TypeArg.hasAll_ofVars_iff args)).trans
            List.forall_mem_append.symm

/- So it is for a parameter. -/
theorem Parameter.has_ofVars_iff (p : Parameter) :
    p.Has (.ofVars P) ↔ ∀ v ∈ p.mentions, P v := by
  cases p with
  | mk name kind ty hasDefault =>
      have hName : ∀ n ∈ name, (Trait.ofVars P).name n :=
        fun _ _ => trivial
      exact
        (and_iff_right hName).trans (Ty.has_ofVars_iff ty)

/- So it is for a parameter list. -/
theorem Parameter.hasAll_ofVars_iff (ps : List Parameter) :
    Parameter.HasAll (.ofVars P) ps ↔
      ∀ v ∈ Parameter.mentionsAll ps, P v := by
  cases ps with
  | nil => exact iff_of_true trivial (List.forall_mem_nil _)
  | cons p ps =>
      exact
        (and_congr (Parameter.has_ofVars_iff p)
          (Parameter.hasAll_ofVars_iff ps)).trans
            List.forall_mem_append.symm

/- So it is for a signature. -/
theorem Signature.has_ofVars_iff (sig : Signature) :
    sig.Has (.ofVars P) ↔ ∀ v ∈ sig.mentions, P v := by
  cases sig with
  | gradual =>
      exact iff_of_true trivial (List.forall_mem_nil _)
  | params ps =>
      exact
        (and_iff_right trivial).trans (Parameter.hasAll_ofVars_iff ps)
  | spec lead var =>
      have hCons :
          (∀ v ∈ VarName.spec var :: Parameter.mentionsAll lead,
              P v) ↔
            P (.spec var) ∧
              ∀ v ∈ Parameter.mentionsAll lead, P v :=
        List.forall_mem_cons
      exact
        (and_congr (and_iff_right trivial)
          (Parameter.hasAll_ofVars_iff lead)).trans hCons.symm

end

end OfVars

------------------------------------------------------------
-- Stable Traits
------------------------------------------------------------

/-
  The trait survives the ways in which types are put
  together: joining types and lists, putting a list behind
  leading parameters, taking the first parameter away, and
  changing the types in a list.
-/
structure Trait.Stable (c : Trait) : Prop where
  members {ts us : List Ty} :
    (∀ t ∈ ts, ∀ inner, t = .union inner →
        c.members inner) →
      Ty.unionOf ts = .union us → c.members us
  paramsOf {ps qs : List Parameter} :
    ps.map Parameter.blank = qs.map Parameter.blank →
      c.params ps → c.params qs
  leadOf {ps qs : List Parameter} :
    ps.map Parameter.blank = qs.map Parameter.blank →
      c.lead ps → c.lead qs
  behind {lead ps : List Parameter} :
    c.lead lead → c.params ps → c.params (lead ++ ps)
  behindSpec {lead inner : List Parameter} :
    c.lead lead → c.lead inner → c.lead (lead ++ inner)
  variadics :
    (Signature.params
      [.named "args" .varPositional .any,
        .named "kwargs" .varKeyword .any]).Has c
  tail {p : Parameter} {ps : List Parameter} :
    c.params (p :: ps) → c.params ps
  leadTail {p : Parameter} {ps : List Parameter} :
    c.lead (p :: ps) → c.lead ps
  join {ps qs : List Parameter} {parts : JoinParts} :
    c.params ps → c.params qs → parts.Joins ps qs →
      c.params parts.list
  mergeLead {ps qs lead : List Parameter} :
    c.lead ps → c.lead qs →
      mergeLeadBy Ty.meet ps qs = some lead → c.lead lead

/- What the operations bring in mentions no variables. -/
theorem Trait.ofVars_stable (P : VarName → Prop) :
    (Trait.ofVars P).Stable where
  members _ _ := trivial
  paramsOf _ _ := trivial
  leadOf _ _ := trivial
  behind _ _ := trivial
  behindSpec _ _ := trivial
  variadics :=
    ⟨trivial, ⟨fun _ _ => trivial, trivial⟩,
      ⟨fun _ _ => trivial, trivial⟩, trivial⟩
  tail _ := trivial
  leadTail _ := trivial
  join _ _ _ := trivial
  mergeLead _ _ _ := trivial

variable {c : Trait}

------------------------------------------------------------
-- Unions
------------------------------------------------------------

namespace Ty

/- The members that a type brings into a union. -/
theorem Has.flatten
    {t m : Ty}
    (h : t.Has c)
    (hm : m ∈ t.flatten) : m.Has c := by
  cases t with
  | union ts => exact hasAll_iff.mp h.2 m hm
  | never => cases hm
  | _ =>
      rw [List.mem_singleton.mp hm]
      exact h

/- Adding members leaves members and added ones. -/
theorem mem_or_mem_of_foldl_addMember
    {ts members : List Ty} {m : Ty}
    (hm : m ∈ ts.foldl addMember members) :
    m ∈ members ∨ m ∈ ts := by
  induction ts generalizing members with
  | nil => exact Or.inl hm
  | cons t ts ih =>
      rcases ih hm with hm | hm
      · unfold addMember at hm
        split at hm
        · exact Or.inl hm
        · rcases List.mem_append.mp hm with hm | hm
          · exact Or.inl (List.mem_filter.mp hm).1
          · rw [List.mem_singleton.mp hm]
            exact Or.inr (List.mem_cons_self ..)
      · exact Or.inr (List.mem_cons_of_mem _ hm)

/- A union has what the types that it joins have. -/
theorem has_unionOf
    (hStable : c.Stable)
    {ts : List Ty}
    (h : ∀ t ∈ ts, t.Has c) : (unionOf ts).Has c := by
  have hMembers :
      ∀ us, unionOf ts = .union us → c.members us := by
    intro us
    apply hStable.members
    rintro t ht inner rfl
    exact (h _ ht).1
  have hMem (m : Ty)
      (hm : m ∈ (ts.flatMap flatten).foldl addMember []) :
      m.Has c := by
    have hFlat :=
      (mem_or_mem_of_foldl_addMember hm).resolve_left nofun
    rcases List.mem_flatMap.mp hFlat with ⟨t, ht, hm⟩
    exact (h t ht).flatten hm
  unfold unionOf at hMembers ⊢
  dsimp only at hMembers ⊢
  split
  · trivial
  · rename_i hGiven
    rw [if_neg hGiven] at hMembers
    generalize
      (ts.flatMap flatten).foldl addMember [] = members
      at hMembers hMem
    match members with
    | [] => trivial
    | [m] => exact hMem m (List.mem_singleton.mpr rfl)
    | m :: n :: ms =>
        exact ⟨hMembers _ rfl, hasAll_iff.mpr hMem⟩

end Ty

------------------------------------------------------------
-- Merged Slots
------------------------------------------------------------

/- The meet of two types is one of them. -/
theorem Ty.has_meet
    {a b m : Ty}
    (ha : a.Has c)
    (hb : b.Has c)
    (h : a.meet b = some m) : m.Has c := by
  unfold Ty.meet meetBy at h
  split at h
  · cases h
    exact hb
  · split at h
    · cases h
      exact ha
    · split at h
      · cases h
        exact ha
      · split at h
        · cases h
          exact hb
        · cases h

namespace Parameter

variable {p q r : Parameter}

/- A merged slot has what both sides have. -/
theorem Has.mergeBy
    (hp : p.Has c)
    (hq : q.Has c)
    (h : p.mergeBy Ty.meet q = some r) : r.Has c := by
  rcases Option.map_eq_some_iff.mp h with ⟨ty, hMeet, rfl⟩
  have hTy := Ty.has_meet hp.ty hq.ty hMeet
  split
  · exact ⟨(has_iff.mp hp).1, hTy⟩
  · exact ⟨by simp, hTy⟩

/- A slot may lose its name. -/
theorem Has.anonymize
    (h : p.Has c) : p.anonymize.Has c :=
  ⟨by simp, h.ty⟩

/- A slot of one side has what both sides have. -/
theorem Has.absorbBy
    (hp : p.Has c)
    (hq : q.Has c)
    (h : p.absorbBy Ty.meet q = some r) : r.Has c := by
  rcases Option.map_eq_some_iff.mp h with ⟨ty, hMeet, rfl⟩
  exact ⟨by simp [Parameter.anonymize],
    Ty.has_meet hp.ty hq.ty hMeet⟩

/- The parameter of a kind is one of the list. -/
theorem has_of_firstOfKind
    {kind : ParamKind} {ps : List Parameter}
    (hps : ∀ p ∈ ps, p.Has c)
    (h : firstOfKind kind ps = some p) : p.Has c :=
  hps p (List.mem_of_find?_eq_some h)

end Parameter

/- Slots may lose their names. -/
theorem has_sealLead
    {ps : List Parameter}
    (hps : ∀ p ∈ ps, p.Has c) :
    ∀ p ∈ sealLead ps, p.Has c := by
  induction ps with
  | nil => exact hps
  | cons p ps ih =>
      rw [List.forall_mem_cons] at hps
      unfold sealLead
      rw [List.forall_mem_cons]
      refine ⟨?_, ih hps.2⟩
      split
      · exact hps.1.anonymize
      · exact hps.1

/- Slots may lose their defaults. -/
theorem has_requireLead
    {ps : List Parameter}
    (hps : ∀ p ∈ ps, p.Has c) :
    ∀ p ∈ requireLead ps, p.Has c := by
  induction ps with
  | nil => exact hps
  | cons p ps ih =>
      rw [List.forall_mem_cons] at hps
      unfold requireLead
      rw [List.forall_mem_cons]
      exact ⟨Parameter.has_iff.mp hps.1, ih hps.2⟩

/- Merged slots have what both sides have. -/
theorem LeadMerge.has_merged
    {star star' : Option Parameter}
    {ps qs : List Parameter} {m : LeadMerge}
    (hStar : ∀ p ∈ star, p.Has c)
    (hStar' : ∀ p ∈ star', p.Has c)
    (hps : ∀ p ∈ ps, p.Has c)
    (hqs : ∀ q ∈ qs, q.Has c)
    (h : ofLists Ty.meet star star' ps qs = some m) :
    ∀ r ∈ m.merged, r.Has c := by
  have hAbsorb (star : Option Parameter)
      (hStar : ∀ p ∈ star, p.Has c)
      (ps : List Parameter)
      (taken : List Parameter × List Parameter)
      (hps : ∀ p ∈ ps, p.Has c)
      (h : absorb Ty.meet star ps = some taken) :
      ∀ r ∈ taken.1, r.Has c := by
    cases star with
    | none =>
        cases h
        simp
    | some star =>
        rcases absorb_some_eq_some_iff.mp h with
          ⟨slots, hAll, rfl⟩
        clear h
        induction hAll with
        | nil => simp
        | cons hSlot _ ih =>
            rw [List.forall_mem_cons] at hps ⊢
            exact ⟨hps.1.absorbBy (hStar star rfl) hSlot,
              ih hps.2⟩
  induction ps, qs, m, h using ofLists_induction with
  | left qs taken hTaken =>
      exact hAbsorb star hStar qs taken hqs hTaken
  | right p ps taken hTaken =>
      exact hAbsorb star' hStar' _ taken hps hTaken
  | cons p ps q qs slot rest hSlot _ ih =>
      rw [List.forall_mem_cons] at hps hqs
      have hFirst := hps.1.mergeBy hqs.1 hSlot
      have hOthers := ih hps.2 hqs.2
      exact List.forall_mem_cons.mpr ⟨hFirst, hOthers⟩

------------------------------------------------------------
-- Joins
------------------------------------------------------------

/- A variadic parameter has what both sides have. -/
theorem has_variadicBy
    {p q : Option Parameter} {list : List Parameter}
    (hp : ∀ r ∈ p, r.Has c)
    (hq : ∀ r ∈ q, r.Has c)
    (h : variadicBy Ty.meet p q = some list) :
    ∀ r ∈ list, r.Has c := by
  unfold variadicBy at h
  split at h
  · rename_i p q
    rcases Option.map_eq_some_iff.mp h with ⟨ty, hMeet, rfl⟩
    have hp := hp p rfl
    intro r hr
    rw [List.mem_singleton.mp hr]
    exact ⟨(Parameter.has_iff.mp hp).1,
      Ty.has_meet hp.ty (hq q rfl).ty hMeet⟩
  · cases h
    simp

section Keywords

open ParamList

variable {ps : List Parameter}
variable (hps : ∀ p ∈ ps, p.Has c)

include hps

/- The keywords of a side are parameters of its list. -/
theorem has_candidates (filled : Nat) :
    ∀ p ∈ (keywordSide filled ps).candidates,
      p.Has c := by
  intro p hp
  apply hps
  rcases List.mem_append.mp hp with hp | hp
  · have hDrop := List.mem_of_mem_filter hp
    exact List.mem_of_mem_filter (List.mem_of_mem_drop hDrop)
  · exact List.mem_of_mem_filter hp

/- What a side takes under a name has the trait. -/
theorem has_accepts?
    {filled merged : Nat} {name : String} {ty : Ty}
    (h :
      (keywordSide filled ps).accepts? merged name =
        some ty) :
    ty.Has c := by
  unfold KeywordSide.accepts? at h
  split at h
  · cases h
  · rcases Option.map_eq_some_iff.mp h with ⟨p, hp, rfl⟩
    apply Parameter.Has.ty
    rcases Option.or_eq_some_iff.mp hp with hp | ⟨-, hp⟩
    · exact has_candidates hps filled p
        (List.mem_of_find?_eq_some hp)
    · exact Parameter.has_of_firstOfKind hps hp

/- The names of keywords of a side are asked for. -/
theorem name_candidate
    {filled : Nat} {p : Parameter} {name : String}
    (hp : p ∈ (keywordSide filled ps).candidates)
    (hName : p.name = some name) : c.name name := by
  have hUses := has_candidates hps filled p hp
  exact (Parameter.has_iff.mp hUses).1 name hName

end Keywords

/- A join has what both parameter lists have. -/
theorem has_commonParams
    {ps qs join : List Parameter}
    (hps : ∀ p ∈ ps, p.Has c)
    (hqs : ∀ q ∈ qs, q.Has c)
    (h : commonParamsBy Ty.meet ps qs = some join) :
    ∀ r ∈ join, r.Has c := by
  rcases commonParamsBy_eq_some_iff.mp h with
    ⟨parts, hParts, rfl⟩
  have hKind (kind : ParamKind) (list : List Parameter)
      (hList : ∀ p ∈ list, p.Has c) :
      ∀ r ∈ firstOfKind kind list, r.Has c :=
    fun r hr => Parameter.has_of_firstOfKind hList hr
  have hSection (list : List Parameter)
      (hList : ∀ p ∈ list, p.Has c) :
      ∀ r ∈ positionalSection list, r.Has c :=
    fun r hr => hList r (List.mem_of_mem_filter hr)
  have hMerged : ∀ r ∈ parts.lead.merged, r.Has c :=
    LeadMerge.has_merged (hKind _ ps hps) (hKind _ qs hqs)
      (hSection ps hps) (hSection qs hqs) hParts.lead
  have hNamed : ∀ r ∈ parts.keywords, r.Has c := by
    intro r hr
    rcases List.mem_filterMap.mp hr with ⟨slot, hSlot, rfl⟩
    rcases exists_left_of_forall₂ hParts.named hSlot with
      ⟨name, hMem, hBy⟩
    have hName := mem_keywordNames_iff.mp hMem
    unfold keywordSlotBy at hBy
    dsimp only at hBy
    split at hBy
    · rename_i a b ha hb
      rcases Option.map_eq_some_iff.mp hBy with
        ⟨ty, hMeet, hSome⟩
      cases hSome
      refine ⟨?_, ?_⟩
      · intro n hn
        cases hn
        rcases hName with ⟨p, hp, hName⟩ | ⟨p, hp, hName⟩
        · exact name_candidate hps hp hName
        · exact name_candidate hqs hp hName
      · exact Ty.has_meet (has_accepts? hps ha)
          (has_accepts? hqs hb) hMeet
    · split at hBy <;> cases hBy
  intro r hr
  simp only [JoinParts.list, List.mem_append] at hr
  rcases hr with ((hr | hr) | hr) | hr
  · exact has_requireLead (has_sealLead hMerged) r hr
  · exact has_variadicBy (hKind _ ps hps) (hKind _ qs hqs)
      hParts.star r hr
  · exact hNamed r hr
  · exact has_variadicBy (hKind _ ps hps) (hKind _ qs hqs)
      hParts.others r hr

/- Merged leading parameters have what both sides have. -/
theorem has_mergeLead
    {ps qs lead : List Parameter}
    (hps : ∀ p ∈ ps, p.Has c)
    (hqs : ∀ q ∈ qs, q.Has c)
    (h : mergeLeadBy Ty.meet ps qs = some lead) :
    ∀ r ∈ lead, r.Has c := by
  induction ps generalizing qs lead with
  | nil =>
      cases qs with
      | nil =>
          cases h
          simp
      | cons q qs => cases h
  | cons p ps ih =>
      cases qs with
      | nil => cases h
      | cons q qs =>
          rw [List.forall_mem_cons] at hps hqs
          rcases mergeLeadBy_cons_eq_some_iff.mp h with
            ⟨slot, rest, hSlot, hRest, rfl⟩
          rw [List.forall_mem_cons]
          exact ⟨(hps.1.mergeBy hqs.1 hSlot).anonymize,
            ih hps.2 hqs.2 hRest⟩

namespace Trait.Stable

variable (hStable : c.Stable)

include hStable

/- A common supertype has what both signatures have. -/
theorem commonSupertype
    {s t u : Signature}
    (hs : s.Has c)
    (ht : t.Has c)
    (h : s.commonSupertype t = some u) : u.Has c := by
  unfold Signature.commonSupertype Signature.commonBy at h
  split at h
  · cases h
    exact ht
  · cases h
    exact hs
  · rcases Option.map_eq_some_iff.mp h with ⟨join, hJoin, rfl⟩
    rcases commonParamsBy_eq_some_iff.mp hJoin with
      ⟨parts, hParts, rfl⟩
    exact
      ⟨hStable.join hs.1 ht.1 hParts,
        Parameter.hasAll_iff.mpr
          (has_commonParams (Parameter.hasAll_iff.mp hs.2)
            (Parameter.hasAll_iff.mp ht.2) hJoin)⟩
  · split at h
    · rcases Option.map_eq_some_iff.mp h with
        ⟨lead, hLead, rfl⟩
      exact
        ⟨⟨hStable.mergeLead hs.1.1 ht.1.1 hLead, hs.1.2⟩,
          Parameter.hasAll_iff.mpr
            (has_mergeLead (Parameter.hasAll_iff.mp hs.2)
              (Parameter.hasAll_iff.mp ht.2) hLead)⟩
    · cases h
  · cases h

/- A join has what both candidates have. -/
theorem applyJoin
    {strategy : JoinStrategy} {s t u : Signature}
    (hs : s.Has c)
    (ht : t.Has c)
    (h : strategy.apply s t = some u) : u.Has c := by
  cases strategy with
  | supertype => exact hStable.commonSupertype hs ht h
  | exact =>
      unfold JoinStrategy.apply at h
      dsimp only at h
      split at h
      · cases h
        exact ht
      · cases h
        exact hs
      · split at h
        · cases h
          exact hs
        · cases h

------------------------------------------------------------
-- Leading Parameters
------------------------------------------------------------

/- What is left of a list behind others has its trait. -/
theorem stripLeadParams
    {lead ps rest : List Parameter}
    (hps : (Signature.params ps).Has c)
    (h : SigCheck.stripLeadParams lead ps = some rest) :
    (Signature.params rest).Has c := by
  induction lead, ps using SigCheck.stripLeadParams.induct with
  | case1 ps =>
      cases h
      exact hps
  | case2 => cases h
  | case3 expected lead p ps hFits ih =>
      simp only [SigCheck.stripLeadParams, hFits, if_true] at h
      exact ih ⟨hStable.tail hps.1, hps.2.2⟩ h
  | case4 expected lead p ps hNot hFits ih =>
      rw [SigCheck.stripLeadParams, if_neg hNot, if_pos hFits]
        at h
      exact ih hps h
  | case5 expected lead p ps hNot hNeither =>
      rw [SigCheck.stripLeadParams, if_neg hNot,
        if_neg hNeither] at h
      cases h

/- Leading parameters may be taken away from the front. -/
theorem dropLead
    {lead : List Parameter} {var : String}
    (h : (Signature.spec lead var).Has c)
    (count : Nat) :
    (Signature.spec (lead.drop count) var).Has c := by
  induction count generalizing lead with
  | zero => exact h
  | succ count ih =>
      cases lead with
      | nil => exact h
      | cons p lead =>
          exact ih ⟨⟨hStable.leadTail h.1.1, h.1.2⟩, h.2.2⟩

/- What is left of a signature has its trait. -/
theorem stripLead
    {lead : List Parameter} {sig rest : Signature}
    (hSig : sig.Has c)
    (h : SigCheck.stripLead lead sig = some rest) :
    rest.Has c := by
  cases sig with
  | gradual =>
      cases h
      trivial
  | params ps =>
      rcases Option.map_eq_some_iff.mp h with
        ⟨left, hLeft, rfl⟩
      exact hStable.stripLeadParams hSig hLeft
  | spec own var =>
      simp only [SigCheck.stripLead] at h
      split at h
      · cases h
      · split at h
        · cases h
          exact hStable.dropLead hSig _
        · cases h

/- A list without the receiver in front has its trait. -/
theorem dropReceiverSignature
    {sig : Signature}
    (h : sig.Has c) : sig.dropReceiver.Has c := by
  unfold Signature.dropReceiver
  split
  · split
    · exact ⟨hStable.tail h.1, h.2.2⟩
    · exact h
  · exact ⟨⟨hStable.leadTail h.1.1, h.1.2⟩, h.2.2⟩
  · exact h

/- A method without its receiver has its trait. -/
theorem dropReceiver
    {t : Ty}
    (h : t.Has c) : t.dropReceiver.Has c := by
  unfold Ty.dropReceiver
  split
  · exact ⟨hStable.dropReceiverSignature h.1, h.2⟩
  · exact h

end Trait.Stable

end SigCheck
