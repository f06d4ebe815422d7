import SigCheck.Proofs.TraitCalls
import SigCheck.Proofs.Words

/-
  The names in types: variables that are known, and other
  names that a program may contain.

  Which variables are known is a parameter. The names of a
  type are a trait of it that joining, stripping, replacing
  and solving keep.

  Key definitions include:
    * `IsSignless`, `IsName`
    * `Ty.AreMembers`
    * `Ty.Uses`, `Signature.Uses`, `Parameter.Uses`
    * `Trait.normal`, `Ty.IsNormal`
    * `Trait.names`
    * `Substitution.Uses`, `ClassInfo.Uses`

  Correctness is proven by:
    * `Ty.Uses.mono`
    * `Ty.Uses.typeVars`, `Ty.Uses.specVars`
    * `Trait.normal_stable`, `Ty.Uses.isNormal`
    * `Trait.names_stable`, `Ty.uses_iff_has`
    * `Ty.uses_unionOf`
    * `Ty.Uses.substitute`
    * `ClassInfo.Uses.member?`
-/

namespace SigCheck

------------------------------------------------------------
-- Plain Texts
------------------------------------------------------------

/- The text does not have the sign of fresh names. -/
def IsSignless (text : String) : Prop :=
  '@' ∉ text.toList

instance (text : String) : Decidable (IsSignless text) :=
  inferInstanceAs (Decidable ('@' ∉ text.toList))

/- Texts without the sign do not have it together. -/
@[simp]
theorem isSignless_append (a b : String) :
    IsSignless (a ++ b) ↔ IsSignless a ∧ IsSignless b := by
  simp [IsSignless]

/- A text is plain if its characters are. -/
theorem isSignless_ofList
    {cs : List Char}
    (h : '@' ∉ cs) : IsSignless (String.ofList cs) := by
  simpa [IsSignless] using h

/- A number is written without the sign. -/
theorem isSignless_toString (k : Nat) :
    IsSignless (toString k) := by
  intro hSign
  have hDigit : ('@').isDigit = true :=
    Nat.isDigit_of_mem_toDigits (b := 10) (n := k)
      (by decide) (by decide) (by simpa using hSign)
  cases hDigit

/- The name of a place in a parameter list is plain. -/
theorem isSignless_place (k : Nat) :
    IsSignless ("#" ++ toString k) := by
  rw [isSignless_append]
  exact ⟨by decide, isSignless_toString k⟩

/- The text may be the name of something in a program. -/
structure IsName (text : String) : Prop where
  word : IsWord text.toList
  plain : IsSignless text

instance (text : String) : Decidable (IsName text) :=
  decidable_of_iff (IsWord text.toList ∧ IsSignless text)
    ⟨fun h => ⟨h.1, h.2⟩, fun h => ⟨h.word, h.plain⟩⟩

------------------------------------------------------------
-- Members of Unions
------------------------------------------------------------

/-
  The types may be the members of a union: several of them,
  none a union itself, and none that another one covers.
-/
structure Ty.AreMembers (ts : List Ty) : Prop where
  several : 2 ≤ ts.length
  flat : ∀ t ∈ ts, t.flatten = [t]
  given : ∀ t ∈ ts, t.isAny = false
  apart :
    ts.Pairwise fun a b =>
      a.isSubtype b = false ∧ b.isSubtype a = false

namespace Ty

/- Adding a type keeps members apart from each other. -/
theorem pairwise_addMember
    {members : List Ty}
    (h : members.Pairwise fun a b =>
      a.isSubtype b = false ∧ b.isSubtype a = false)
    (t : Ty) :
    (addMember members t).Pairwise fun a b =>
      a.isSubtype b = false ∧ b.isSubtype a = false := by
  unfold addMember
  split
  · exact h
  · rename_i hCovered
    simp only [List.any_eq_true, not_exists, not_and,
      Bool.not_eq_true] at hCovered
    rw [List.pairwise_append]
    refine ⟨h.filter _, List.pairwise_singleton .., ?_⟩
    intro m hm u hu
    rw [List.mem_singleton.mp hu]
    have hMem := List.mem_filter.mp hm
    exact ⟨by simpa using hMem.2, hCovered m hMem.1⟩

/- Members that are apart stay as they are added. -/
theorem foldl_addMember_of_apart
    {ts members : List Ty}
    (h : (members ++ ts).Pairwise fun a b =>
      a.isSubtype b = false ∧ b.isSubtype a = false) :
    ts.foldl addMember members = members ++ ts := by
  induction ts generalizing members with
  | nil => simp
  | cons t ts ih =>
      have hApart :
          ∀ m ∈ members,
            m.isSubtype t = false ∧ t.isSubtype m = false :=
        fun m hm =>
          (List.pairwise_append.mp h).2.2 m hm t
            (List.mem_cons_self ..)
      have hNone : members.any (t.isSubtype ·) = false := by
        simp only [List.any_eq_false, Bool.not_eq_true]
        exact fun m hm => (hApart m hm).2
      have hAll :
          members.filter (fun m => !m.isSubtype t) =
            members := by
        rw [List.filter_eq_self]
        intro m hm
        rw [(hApart m hm).1]
        rfl
      have hStep : addMember members t = members ++ [t] := by
        unfold addMember
        rw [hNone, hAll]
        rfl
      rw [List.foldl_cons, hStep, ih (by simpa using h),
        List.append_assoc, List.singleton_append]

/- A union of members is the union that they make. -/
theorem AreMembers.unionOf_eq
    {ts : List Ty}
    (h : AreMembers ts) : unionOf ts = .union ts := by
  have hFlat : ts.flatMap flatten = ts := by
    have hAll (us : List Ty)
        (hus : ∀ u ∈ us, u.flatten = [u]) :
        us.flatMap flatten = us := by
      induction us with
      | nil => rfl
      | cons u us ih =>
          rw [List.forall_mem_cons] at hus
          rw [List.flatMap_cons, hus.1, ih hus.2]
          rfl
    exact hAll ts h.flat
  have hGiven : ts.any isAny = false := by
    simp only [List.any_eq_false, Bool.not_eq_true]
    exact h.given
  have hFold : ts.foldl addMember [] = ts :=
    foldl_addMember_of_apart h.apart
  unfold unionOf
  dsimp only
  rw [hFlat, hGiven, hFold]
  match ts, h.several with
  | a :: b :: ts, _ => rfl

end Ty

------------------------------------------------------------
-- Names in Types
------------------------------------------------------------

mutual

/-
  Variables of the type are known, other names valid, and
  unions have members that none other covers.
-/
def Ty.Uses (known : String → Prop) : Ty → Prop
  | .typeVar name => known name
  | .specArgs name => known name
  | .specKwargs name => known name
  | .cls name => IsName name
  | .generic name args =>
      IsName name ∧ TypeArg.UsesAll known args
  | .list t => t.Uses known
  | .set t => t.Uses known
  | .dict k v => k.Uses known ∧ v.Uses known
  | .tuple ts => Ty.UsesAll known ts
  | .union ts => Ty.AreMembers ts ∧ Ty.UsesAll known ts
  | .callable sig ret => sig.Uses known ∧ ret.Uses known
  | .any => True
  | .never => True
  | .noneType => True
  | .bool => True
  | .int => True
  | .float => True
  | .str => True
  | .bytes => True
  | .object => True

/- Variables of the types are known, other names valid. -/
def Ty.UsesAll (known : String → Prop) : List Ty → Prop
  | [] => True
  | t :: ts => t.Uses known ∧ Ty.UsesAll known ts

/- Variables of a class argument are known. -/
def TypeArg.Uses (known : String → Prop) : TypeArg → Prop
  | .type t => t.Uses known
  | .params sig => sig.Uses known

/- Variables of class arguments are known. -/
def TypeArg.UsesAll
    (known : String → Prop) : List TypeArg → Prop
  | [] => True
  | a :: args => a.Uses known ∧ TypeArg.UsesAll known args

/- Variables of a parameter are known, and its name valid. -/
def Parameter.Uses
    (known : String → Prop) : Parameter → Prop
  | ⟨name, _, ty, _⟩ =>
      (∀ n ∈ name, IsName n) ∧ ty.Uses known

/- Variables of parameters are known, their names valid. -/
def Parameter.UsesAll
    (known : String → Prop) : List Parameter → Prop
  | [] => True
  | p :: ps => p.Uses known ∧ Parameter.UsesAll known ps

/- Variables of a signature are known, other names valid. -/
def Signature.Uses
    (known : String → Prop) : Signature → Prop
  | .gradual => True
  | .params ps => Parameter.UsesAll known ps
  | .spec lead var =>
      Parameter.UsesAll known lead ∧ known var

end

section Lists

variable {known : String → Prop}

@[simp]
theorem Ty.usesAll_iff {ts : List Ty} :
    Ty.UsesAll known ts ↔ ∀ t ∈ ts, t.Uses known := by
  induction ts with
  | nil => simp [Ty.UsesAll]
  | cons t ts ih => simp [Ty.UsesAll, ih]

@[simp]
theorem TypeArg.usesAll_iff {args : List TypeArg} :
    TypeArg.UsesAll known args ↔
      ∀ a ∈ args, a.Uses known := by
  induction args with
  | nil => simp [TypeArg.UsesAll]
  | cons a args ih => simp [TypeArg.UsesAll, ih]

@[simp]
theorem Parameter.usesAll_iff {ps : List Parameter} :
    Parameter.UsesAll known ps ↔
      ∀ p ∈ ps, p.Uses known := by
  induction ps with
  | nil => simp [Parameter.UsesAll]
  | cons p ps ih => simp [Parameter.UsesAll, ih]

theorem Parameter.uses_iff {p : Parameter} :
    p.Uses known ↔
      (∀ n ∈ p.name, IsName n) ∧ p.ty.Uses known := by
  cases p
  rfl

/- The type of a parameter has its names. -/
theorem Parameter.Uses.ty
    {p : Parameter}
    (h : p.Uses known) : p.ty.Uses known :=
  (Parameter.uses_iff.mp h).2

end Lists

------------------------------------------------------------
-- Unions
------------------------------------------------------------

namespace Ty

variable {known : String → Prop}

/- What a type brings into a union is no union itself. -/
theorem flatten_flatten
    {t m : Ty}
    (h : ∀ ts, t = .union ts → AreMembers ts)
    (hm : m ∈ t.flatten) : m.flatten = [m] := by
  cases t with
  | union ts => exact (h ts rfl).flat m hm
  | never => cases hm
  | _ =>
      rw [List.mem_singleton.mp hm]
      rfl

/- Members that types are joined to are apart. -/
theorem pairwise_foldl_addMember (ts : List Ty) :
    (ts.foldl addMember []).Pairwise fun a b =>
      a.isSubtype b = false ∧ b.isSubtype a = false := by
  have hFold (members : List Ty)
      (h : members.Pairwise fun a b =>
        a.isSubtype b = false ∧ b.isSubtype a = false) :
      (ts.foldl addMember members).Pairwise fun a b =>
        a.isSubtype b = false ∧ b.isSubtype a = false := by
    induction ts generalizing members with
    | nil => exact h
    | cons t ts ih => exact ih _ (pairwise_addMember h t)
  exact hFold [] .nil

/- Joining types gives a union of members. -/
theorem areMembers_of_unionOf
    {ts us : List Ty}
    (h :
      ∀ t ∈ ts, ∀ inner, t = .union inner →
        AreMembers inner)
    (hUnion : unionOf ts = .union us) : AreMembers us := by
  unfold unionOf at hUnion
  dsimp only at hUnion
  split at hUnion
  · cases hUnion
  · rename_i hGiven
    simp only [List.any_eq_true, not_exists, not_and,
      Bool.not_eq_true] at hGiven
    have hApart :=
      pairwise_foldl_addMember (ts.flatMap flatten)
    have hMem (m : Ty)
        (hm : m ∈ (ts.flatMap flatten).foldl addMember []) :
        m ∈ ts.flatMap flatten :=
      (mem_or_mem_of_foldl_addMember hm).resolve_left nofun
    generalize
      (ts.flatMap flatten).foldl addMember [] = members
      at hApart hMem hUnion
    have hFlat (m : Ty) (hm : m ∈ members) :
        m.flatten = [m] := by
      rcases List.mem_flatMap.mp (hMem m hm) with
        ⟨t, ht, hm⟩
      exact flatten_flatten (h t ht) hm
    match members with
    | [] => cases hUnion
    | [m] =>
        have hm : m = .union us := hUnion
        have hOnce :=
          hFlat m (List.mem_singleton.mpr rfl)
        rw [hm] at hOnce
        cases hOnce
    | m :: n :: ms =>
        cases hUnion
        exact
          ⟨Nat.le_add_left 2 ms.length, hFlat,
            fun m hm => hGiven m (hMem m hm), hApart⟩

end Ty

------------------------------------------------------------
-- Normal Form
------------------------------------------------------------

/- Unions have members that none other covers. -/
def Trait.normal : Trait where
  members := Ty.AreMembers

/- Every union inside the type is one of such members. -/
def Ty.IsNormal (t : Ty) : Prop :=
  t.Has .normal

/- Operations on types bring in no other unions. -/
theorem Trait.normal_stable : Trait.normal.Stable where
  members := Ty.areMembers_of_unionOf
  paramsOf _ _ := trivial
  leadOf _ _ := trivial
  behind _ _ := trivial
  behindSpec _ _ := trivial
  variadics :=
    ⟨trivial, ⟨fun _ _ => trivial, trivial⟩,
      ⟨fun _ _ => trivial, trivial⟩, trivial⟩
  tail _ := trivial
  leadTail _ := trivial
  join _ _ _ := trivial
  mergeLead _ _ _ := trivial

------------------------------------------------------------
-- The Trait of Names
------------------------------------------------------------

/-
  Variables are known, other names valid, and unions have
  members that none other covers.
-/
def Trait.names (known : String → Prop) : Trait where
  typeVar := known
  spec := known
  projection := known
  name := IsName
  members := Ty.AreMembers

/- Operations on types bring in no further names. -/
theorem Trait.names_stable (known : String → Prop) :
    (Trait.names known).Stable where
  members := Ty.areMembers_of_unionOf
  paramsOf _ _ := trivial
  leadOf _ _ := trivial
  behind _ _ := trivial
  behindSpec _ _ := trivial
  variadics := by
    have hName (n : String) (hn : IsName n) :
        ∀ m ∈ some n, IsName m := by
      rintro m ⟨⟩
      exact hn
    exact
      ⟨trivial, ⟨hName "args" (by decide), trivial⟩,
        ⟨hName "kwargs" (by decide), trivial⟩, trivial⟩
  tail _ := trivial
  leadTail _ := trivial
  join _ _ _ := trivial
  mergeLead _ _ _ := trivial

section Names

variable {known : String → Prop}

mutual

/- The names of a type are a trait of it. -/
theorem Ty.uses_iff_has (t : Ty) :
    t.Uses known ↔ t.Has (.names known) := by
  cases t with
  | generic name args =>
      exact
        and_congr_right' (TypeArg.usesAll_iff_has args)
  | list t => exact Ty.uses_iff_has t
  | set t => exact Ty.uses_iff_has t
  | dict k v =>
      exact and_congr (Ty.uses_iff_has k) (Ty.uses_iff_has v)
  | tuple ts => exact Ty.usesAll_iff_has ts
  | union ts => exact and_congr_right' (Ty.usesAll_iff_has ts)
  | callable sig ret =>
      exact
        and_congr (Signature.uses_iff_has sig)
          (Ty.uses_iff_has ret)
  | _ => exact Iff.rfl

/- The names of a type are a trait of it. -/
theorem Ty.usesAll_iff_has (ts : List Ty) :
    Ty.UsesAll known ts ↔ Ty.HasAll (.names known) ts := by
  cases ts with
  | nil => exact Iff.rfl
  | cons t ts =>
      exact
        and_congr (Ty.uses_iff_has t) (Ty.usesAll_iff_has ts)

/- The names of a class argument are a trait of it. -/
theorem TypeArg.uses_iff_has (a : TypeArg) :
    a.Uses known ↔ a.Has (.names known) := by
  cases a with
  | type t => exact Ty.uses_iff_has t
  | params sig => exact Signature.uses_iff_has sig

/- The names of a class argument are a trait of it. -/
theorem TypeArg.usesAll_iff_has (args : List TypeArg) :
    TypeArg.UsesAll known args ↔
      TypeArg.HasAll (.names known) args := by
  cases args with
  | nil => exact Iff.rfl
  | cons a args =>
      exact
        and_congr (TypeArg.uses_iff_has a)
          (TypeArg.usesAll_iff_has args)

/- The names of a parameter are a trait of it. -/
theorem Parameter.uses_iff_has (p : Parameter) :
    p.Uses known ↔ p.Has (.names known) := by
  cases p with
  | mk name kind ty hasDefault =>
      exact and_congr_right' (Ty.uses_iff_has ty)

/- The names of a parameter are a trait of it. -/
theorem Parameter.usesAll_iff_has (ps : List Parameter) :
    Parameter.UsesAll known ps ↔
      Parameter.HasAll (.names known) ps := by
  cases ps with
  | nil => exact Iff.rfl
  | cons p ps =>
      exact
        and_congr (Parameter.uses_iff_has p)
          (Parameter.usesAll_iff_has ps)

/- The names of a signature are a trait of it. -/
theorem Signature.uses_iff_has (sig : Signature) :
    sig.Uses known ↔ sig.Has (.names known) := by
  cases sig with
  | gradual => exact Iff.rfl
  | params ps =>
      have hAll := Parameter.usesAll_iff_has ps
      exact ⟨fun h => ⟨trivial, hAll.mp h⟩,
        fun h => hAll.mpr h.2⟩
  | spec lead var =>
      have hLead := Parameter.usesAll_iff_has lead
      constructor
      · exact fun h => ⟨⟨trivial, h.2⟩, hLead.mp h.1⟩
      · exact fun h => ⟨hLead.mpr h.2, h.1.2⟩

end

/- A type with such names is in normal form. -/
theorem Ty.Uses.isNormal
    {t : Ty}
    (h : t.Uses known) : t.IsNormal := by
  have hLe : (Trait.names known).Le .normal :=
    { typeVar := fun _ _ => trivial
      spec := fun _ _ => trivial
      projection := fun _ _ => trivial
      name := fun _ _ => trivial
      members := fun _ h => h
      params := fun _ h => h
      lead := fun _ h => h }
  rw [uses_iff_has] at h
  exact h.mono hLe

variable {more : String → Prop}

/- With more known names less is asked of types. -/
theorem Trait.names_le
    (hMore : ∀ v, known v → more v) :
    (Trait.names known).Le (.names more) where
  typeVar := hMore
  spec := hMore
  projection := hMore
  name _ h := h
  members _ h := h
  params _ h := h
  lead _ h := h

/- Further names may become known. -/
theorem Ty.Uses.mono
    (hMore : ∀ v, known v → more v)
    (t : Ty) (h : t.Uses known) : t.Uses more := by
  rw [uses_iff_has] at h ⊢
  exact h.mono (Trait.names_le hMore)

/- Further names may become known. -/
theorem Signature.Uses.mono
    (hMore : ∀ v, known v → more v)
    (sig : Signature)
    (h : sig.Uses known) : sig.Uses more := by
  rw [uses_iff_has] at h ⊢
  exact h.mono (Trait.names_le hMore)

/- The name of a variable. -/
def VarName.text : VarName → String
  | .type name => name
  | .spec name => name

/- A variable that is mentioned is known. -/
theorem Ty.Uses.known_of_mem
    {t : Ty}
    (h : t.Uses known)
    {v : VarName}
    (hv : v ∈ t.mentions) : known v.text := by
  have hLe :
      (Trait.names known).Le (.ofVars fun v => known v.text) :=
    { typeVar := fun _ h => h
      spec := fun _ h => h
      projection := fun _ _ => trivial
      name := fun _ _ => trivial
      members := fun _ _ => trivial
      params := fun _ _ => trivial
      lead := fun _ _ => trivial }
  rw [uses_iff_has] at h
  exact (t.has_ofVars_iff).mp (h.mono hLe) v hv

/- The type variables of a type are known. -/
theorem Ty.Uses.typeVars
    {t : Ty}
    (h : t.Uses known)
    {v : String}
    (hv : v ∈ t.typeVars) : known v :=
  h.known_of_mem (Ty.mem_typeVars_iff.mp hv)

/- The parameter specifications of a type are known. -/
theorem Ty.Uses.specVars
    {t : Ty}
    (h : t.Uses known)
    {v : String}
    (hv : v ∈ t.specVars) : known v :=
  h.known_of_mem (Ty.mem_specVars_iff.mp hv)

end Names

------------------------------------------------------------
-- Parts and Operations
------------------------------------------------------------

namespace Ty

variable {known : String → Prop}

/- A union has the names of its members. -/
theorem uses_unionOf
    {ts : List Ty}
    (h : ∀ t ∈ ts, t.Uses known) :
    (unionOf ts).Uses known := by
  rw [uses_iff_has]
  apply has_unionOf (Trait.names_stable known)
  exact fun t ht => (uses_iff_has t).mp (h t ht)

/- A union of two types has their names. -/
theorem uses_unionOf_pair
    {s t : Ty}
    (hs : s.Uses known)
    (ht : t.Uses known) :
    (unionOf [s, t]).Uses known :=
  uses_unionOf (by simp [hs, ht])

/- A type that parts are joined to has their names. -/
theorem uses_joinOrAny
    {ts : List Ty}
    (h : ∀ t ∈ ts, t.Uses known) :
    (joinOrAny ts).Uses known := by
  unfold joinOrAny
  split
  · trivial
  · exact uses_unionOf h

/- What iteration yields has the names of the value. -/
theorem Uses.element
    {t : Ty}
    (h : t.Uses known) : t.element.Uses known := by
  unfold Ty.element
  split
  · exact h
  · exact h
  · exact h.1
  · trivial
  · exact uses_unionOf (usesAll_iff.mp h)
  · trivial
  · trivial

/- The items of a value have its names. -/
theorem Uses.item
    {t : Ty}
    (h : t.Uses known) : t.item.Uses known := by
  unfold Ty.item
  split
  · exact h
  · exact h.2
  · trivial
  · trivial

/- An operation has the names of its operands. -/
theorem uses_binary
    {left : Ty}
    (op : BinaryOp)
    (right : Ty)
    (h : left.Uses known) :
    (binary left op right).Uses known := by
  unfold binary
  split
  · trivial
  · trivial
  · split
    · exact h
    · trivial
  · split
    · split <;> trivial
    · split <;> trivial

/- The parts of a value have its names. -/
theorem Uses.parts
    {t m : Ty} {count : Nat}
    (h : t.Uses known)
    (hm : m ∈ t.parts count) : m.Uses known := by
  unfold Ty.parts at hm
  split at hm
  · split at hm
    · exact usesAll_iff.mp h m hm
    · rw [List.eq_of_mem_replicate hm]
      exact h.element
  · rw [List.eq_of_mem_replicate hm]
    exact h.element

end Ty

------------------------------------------------------------
-- Replacement
------------------------------------------------------------

section Replace

variable {known : String → Prop}

/- What variables are solved to has known names. -/
structure Substitution.Uses
    (known : String → Prop)
    (subst : Substitution) : Prop where
  types :
    ∀ v t, subst.types.find? v = some t → t.Uses known
  specs :
    ∀ v sig, subst.specs.find? v = some sig → sig.Uses known

/- No variable is solved. -/
theorem Substitution.uses_empty :
    Substitution.Uses known {} :=
  ⟨fun _ _ h => by simp at h, fun _ _ h => by simp at h⟩

variable {subst : Substitution}

/- The names of a solution are a trait of it. -/
theorem Substitution.uses_iff_has :
    subst.Uses known ↔ subst.Has (.names known) := by
  constructor
  · intro h
    refine ⟨fun v t hFind => ?_, fun v sig hFind => ?_⟩
    · exact (Ty.uses_iff_has t).mp (h.types v t hFind)
    · exact (Signature.uses_iff_has sig).mp (h.specs v sig hFind)
  · intro h
    refine ⟨fun v t hFind => ?_, fun v sig hFind => ?_⟩
    · exact (Ty.uses_iff_has t).mpr (h.types v t hFind)
    · exact
        (Signature.uses_iff_has sig).mpr (h.specs v sig hFind)

/- Solving variables gives known names. -/
theorem Ty.Uses.substitute
    (hSubst : subst.Uses known)
    {t : Ty}
    (h : t.Uses known) : (t.substitute subst).Uses known := by
  rw [uses_iff_has] at h ⊢
  rw [Substitution.uses_iff_has] at hSubst
  exact (Trait.names_stable known).substitute hSubst h

end Replace

------------------------------------------------------------
-- Classes and Methods
------------------------------------------------------------

section Classes

variable {known : String → Prop}

/- The names of a class, its parameters and its members. -/
structure ClassInfo.Uses
    (known : String → Prop)
    (c : ClassInfo) : Prop where
  name : IsName c.name
  typeParams : ∀ p ∈ c.typeParams, IsName p.name
  ctor : ∀ sig ∈ c.ctor, sig.Uses known
  members : ∀ v t, c.members.find? v = some t → t.Uses known

/- An argument of a class stands for its own parameter. -/
theorem TypeParam.uses_toArg
    {p : TypeParam}
    (h : known p.name) : p.toArg.Uses known := by
  unfold TypeParam.toArg
  split
  · exact h
  · exact ⟨trivial, h⟩

/- An instance has the names of its class. -/
theorem ClassInfo.Uses.instanceType
    {c : ClassInfo}
    (hNames : ∀ v, IsName v → known v)
    (h : c.Uses known) : c.instanceType.Uses known := by
  unfold ClassInfo.instanceType
  split
  · refine ⟨h.name, TypeArg.usesAll_iff.mpr ?_⟩
    intro a ha
    rcases List.mem_map.mp ha with ⟨p, hp, rfl⟩
    exact TypeParam.uses_toArg (hNames _ (h.typeParams p hp))
  · exact h.name

/- A constructor has the names of its class. -/
theorem ClassInfo.Uses.ctorType
    {c : ClassInfo}
    (hNames : ∀ v, IsName v → known v)
    (h : c.Uses known) : c.ctorType.Uses known := by
  refine ⟨?_, h.instanceType hNames⟩
  cases hCtor : c.ctor with
  | none => trivial
  | some sig => exact h.ctor sig hCtor

/- Class arguments solve parameters by known names. -/
theorem ClassInfo.uses_bindArgs
    (c : ClassInfo)
    {args : List TypeArg}
    (h : ∀ a ∈ args, a.Uses known) :
    (c.bindArgs args).Uses known := by
  have hFold (pairs : List (TypeParam × TypeArg))
      (hPairs : ∀ pair ∈ pairs, pair.2.Uses known)
      (subst : Substitution)
      (hSubst : subst.Uses known) :
      (pairs.foldl bindParam subst).Uses known := by
    induction pairs generalizing subst with
    | nil => exact hSubst
    | cons pair pairs ih =>
        apply ih fun p hp =>
          hPairs p (List.mem_cons_of_mem _ hp)
        have hPair := hPairs pair (List.mem_cons_self ..)
        rcases pair with ⟨p, t | sig⟩
        · refine ⟨?_, hSubst.specs⟩
          intro v s hFind
          simp only [bindParam, Substitution.setType,
            Table.find?_insert] at hFind
          split at hFind
          · cases hFind
            exact hPair
          · exact hSubst.types v s hFind
        · refine ⟨hSubst.types, ?_⟩
          intro v s hFind
          simp only [bindParam, Substitution.setSpec,
            Table.find?_insert] at hFind
          split at hFind
          · cases hFind
            exact hPair
          · exact hSubst.specs v s hFind
  apply hFold _ _ _ Substitution.uses_empty
  intro pair hPair
  exact h pair.2 (List.of_mem_zip hPair).2

/- A member has the names of its class and the arguments. -/
theorem ClassInfo.Uses.member?
    {c : ClassInfo}
    (h : c.Uses known)
    {name : String} {args : List TypeArg} {t : Ty}
    (hArgs : ∀ a ∈ args, a.Uses known)
    (hMember : c.member? name args = some t) :
    t.Uses known := by
  unfold ClassInfo.member? at hMember
  rcases Option.map_eq_some_iff.mp hMember with
    ⟨u, hFind, rfl⟩
  exact (h.members name u hFind).substitute
    (c.uses_bindArgs hArgs)

/- A method without its receiver has its names. -/
theorem Ty.Uses.dropReceiver
    {t : Ty}
    (h : t.Uses known) : t.dropReceiver.Uses known := by
  rw [uses_iff_has] at h ⊢
  exact (Trait.names_stable known).dropReceiver h

/- What a property yields has the names of its method. -/
theorem Ty.Uses.propertyType
    {t : Ty}
    (h : t.Uses known) : t.propertyType.Uses known := by
  unfold Ty.propertyType
  split
  · exact h.2
  · exact h

/- Further names may become known. -/
theorem ClassInfo.Uses.mono
    {c : ClassInfo} {more : String → Prop}
    (hMore : ∀ v, known v → more v)
    (h : c.Uses known) : c.Uses more where
  name := h.name
  typeParams := h.typeParams
  ctor sig hSig :=
    Signature.Uses.mono hMore sig (h.ctor sig hSig)
  members v t hFind :=
    Ty.Uses.mono hMore t (h.members v t hFind)

/- A class with one more member has its names. -/
theorem ClassInfo.Uses.setMember
    {c : ClassInfo} {t : Ty}
    (h : c.Uses known)
    (name : String)
    (ht : t.Uses known) : (c.setMember name t).Uses known := by
  refine ⟨h.name, h.typeParams, h.ctor, ?_⟩
  intro v u hFind
  simp only [ClassInfo.setMember, Table.find?_insert] at hFind
  split at hFind
  · cases hFind
    exact ht
  · exact h.members v u hFind

/- A class with one more method has its names. -/
theorem ClassInfo.Uses.addMethod
    {c : ClassInfo} {t : Ty}
    (h : c.Uses known)
    (name : String)
    (ht : t.Uses known) : (c.addMethod name t).Uses known := by
  have hSet := h.setMember name ht
  unfold ClassInfo.addMethod
  dsimp only
  split
  · refine ⟨hSet.name, hSet.typeParams, ?_, hSet.members⟩
    intro sig hSig
    cases hSig
    exact ht.1
  · exact hSet

end Classes

end SigCheck
