import Mathlib.Logic.Basic
import SigCheck.Proofs.SpecPlaces

/-
  What annotations are resolved to in the places of parameter
  lists, where the check of use sites finds no fault.

  The resolver reads a part of an annotation as a type or as
  a parameter list. It reads fewer parts than the check looks
  at, and each in the way in which the check looks at it. So
  in an annotation without a fault it never falls back to the
  gradual list: that list stands for a written `...` only.

  A callable or a class that stands without arguments has no
  place for a list, and its list is no fallback.

  Key definitions include:
    * `ReadMode`, `TypeExpr.reads`, `TypeExpr.Visits`
    * `TypeExpr.bare`
    * `ListReading`, `SpecReading`, `ArgReadings`

  Correctness is proven by:
    * `Meaning.subscriptType_congr`
    * `UseSite.exists_check_of_reads`
    * `UseSite.exists_check_of_visits`
    * `ArgReadings.of_specs`
    * `TypeExpr.resolve_takes_no_fallback`
-/

namespace SigCheck

------------------------------------------------------------
-- Readings
------------------------------------------------------------

/- How the resolver reads a part of an annotation. -/
inductive ReadMode where
  | type
  | params
  deriving DecidableEq, Repr

/- The argument at the place of a type parameter is read so. -/
def TypeParam.readMode (p : TypeParam) : ReadMode :=
  match p.kind with
  | .typeVar => .type
  | .paramSpec => .params

/- Annotations that are all read in one way. -/
def ReadMode.forAll
    (m : ReadMode)
    (ts : List TypeExpr) : List (ReadMode × TypeExpr) :=
  ts.map fun t => (m, t)

/- The arguments of a form that are read. -/
def SpecialForm.reads
    (form : SpecialForm)
    (args : List TypeExpr) : List (ReadMode × TypeExpr) :=
  match form, args with
  | .callable, [params, ret] =>
      [(.params, params), (.type, ret)]
  | .callable, _ => []
  | .list, args => ReadMode.type.forAll (args.take 1)
  | .set, args => ReadMode.type.forAll (args.take 1)
  | .optional, args => ReadMode.type.forAll (args.take 1)
  | .dict, [k, v] => ReadMode.type.forAll [k, v]
  | .dict, _ => []
  | .tuple, [item, rest] =>
      if rest.isEllipsis then ReadMode.type.forAll [item]
      else ReadMode.type.forAll [item, rest]
  | .tuple, args => ReadMode.type.forAll args
  | .union, args => ReadMode.type.forAll args
  | _, _ => []

/- The arguments of a subscript that are read. -/
def Meaning.reads
    (m : Meaning)
    (args : List TypeExpr) : List (ReadMode × TypeExpr) :=
  match m with
  | .special form => form.reads args
  | .cls info =>
      if info.isGeneric then
        (info.typeParams.map TypeParam.readMode).zip args
      else []
  | _ => []

namespace TypeExpr

/- The parts that are read to resolve an annotation. -/
def reads
    (names : NameEnv) :
    ReadMode → TypeExpr → List (ReadMode × TypeExpr)
  | m, .quoted body _ => [(m, body)]
  | .type, .subscript head args _ =>
      (names.meaningOf head.path?).reads args
  | .type, .either left right _ =>
      [(.type, left), (.type, right)]
  | .params, .list items _ => ReadMode.type.forAll items
  | _, _ => []

/-
  To read one annotation in some way, the resolver reads
  another one in some way.
-/
inductive Visits (names : NameEnv) :
    TypeExpr → ReadMode → ReadMode → TypeExpr → Prop
  | here (t : TypeExpr) (m : ReadMode) : t.Visits names m m t
  | step
      {t u v : TypeExpr} {m k l : ReadMode} :
      (k, u) ∈ t.reads names m →
      u.Visits names k l v →
      t.Visits names m l v

/- An annotation without any quotes around all of it. -/
def bare : TypeExpr → TypeExpr
  | .quoted body _ => body.bare
  | t => t

end TypeExpr

/-
  What stands in the place of the parameter list of a
  callable, and the list it is resolved to: as many
  parameters as a display has items, the gradual list for
  `...`, or the list of a parameter specification.
-/
inductive ListReading (names : NameEnv) :
    TypeExpr → Signature → Prop
  | display (items : List TypeExpr) (range : ByteRange) :
      ListReading names (.list items range)
        (.params
          (items.map fun item =>
            .anonymous (item.resolve names)))
  | ellipsis (range : ByteRange) :
      ListReading names (.ellipsis range) .gradual
  | spec {t : TypeExpr} {var : String} :
      t.spec? names = some var →
      ListReading names t (.ofVar var)

/- What stands for a parameter list as a class argument. -/
inductive SpecReading (names : NameEnv) :
    TypeExpr → Signature → Prop
  | ellipsis (range : ByteRange) :
      SpecReading names (.ellipsis range) .gradual
  | spec {t : TypeExpr} {var : String} :
      t.spec? names = some var →
      SpecReading names t (.ofVar var)

/-
  What a class stores for the argument at a type parameter:
  the type it is resolved to, or the list it is read as.
-/
inductive ArgReading (names : NameEnv) :
    TypeParam → TypeExpr → TypeArg → Prop
  | type {p : TypeParam} {t : TypeExpr} :
      p.kind = .typeVar →
      ArgReading names p t (.type (t.resolve names))
  | params {p : TypeParam} {t : TypeExpr} :
      p.kind = .paramSpec →
      SpecReading names t.bare (t.resolveParams names) →
      ArgReading names p t (.params (t.resolveParams names))

/- A class stores one argument for each type parameter. -/
inductive ArgReadings (names : NameEnv) :
    List TypeParam → List TypeExpr → List TypeArg → Prop
  | nil : ArgReadings names [] [] []
  | cons
      {p : TypeParam} {t : TypeExpr} {a : TypeArg}
      {ps : List TypeParam} {ts : List TypeExpr}
      {args : List TypeArg} :
      ArgReading names p t a →
      ArgReadings names ps ts args →
      ArgReadings names (p :: ps) (t :: ts) (a :: args)

section Lists

variable {names : NameEnv} {t : TypeExpr} {sig : Signature}

theorem SpecReading.toListReading
    (h : SpecReading names t sig) :
    ListReading names t sig := by
  cases h with
  | ellipsis range => exact .ellipsis range
  | spec hSpec => exact .spec hSpec

/- The gradual list is read from `...` only. -/
theorem ListReading.eq_ellipsis
    (h : ListReading names t .gradual) :
    ∃ range, t = .ellipsis range := by
  cases h with
  | ellipsis range => exact ⟨range, rfl⟩

/- Arguments are resolved one by one. -/
theorem TypeExpr.resolveArgs_eq_map
    (names : NameEnv)
    (ts : List TypeExpr) :
    TypeExpr.resolveArgs names ts =
      ts.map fun t =>
        ⟨t.resolve names, t.resolveParams names,
          t.isEllipsis⟩ := by
  induction ts with
  | nil => rfl
  | cons t ts ih => rw [resolveArgs, ih, List.map_cons]

/- The argument at a type parameter is stored as read. -/
theorem ArgReading.of_spec
    {p : TypeParam}
    (hSpec :
      p.kind = .paramSpec →
        SpecReading names t.bare (t.resolveParams names)) :
    ArgReading names p t
      (p.argOf
        ⟨t.resolve names, t.resolveParams names,
          t.isEllipsis⟩) := by
  unfold TypeParam.argOf
  cases hKind : p.kind with
  | typeVar => exact .type hKind
  | paramSpec => exact .params hKind (hSpec hKind)

/- With an argument at each place no default is stored. -/
theorem ArgReadings.of_specs
    {ps : List TypeParam} {ts : List TypeExpr}
    (hCount : ts.length = ps.length)
    (hSpecs :
      ∀ p t, (p, t) ∈ ps.zip ts →
        p.kind = .paramSpec →
        SpecReading names t.bare (t.resolveParams names)) :
    ArgReadings names ps ts
      (TypeParam.argsOf ps (TypeExpr.resolveArgs names ts)) := by
  induction ps generalizing ts with
  | nil =>
      cases List.length_eq_zero_iff.mp hCount
      exact .nil
  | cons p ps ih =>
      cases ts with
      | nil => cases hCount
      | cons t ts =>
          have hHere :=
            ArgReading.of_spec
              (hSpecs p t (List.mem_cons_self ..))
          have hRest :=
            ih (Nat.succ.inj hCount) fun q u hMem =>
              hSpecs q u (List.mem_cons_of_mem _ hMem)
          exact .cons hHere hRest

/- A parameter specification stands for its own list. -/
theorem TypeExpr.resolveParams_of_spec
    {var : String}
    (hSpec : t.spec? names = some var) :
    t.resolveParams names = .ofVar var := by
  rcases exists_path_of_spec hSpec with
    ⟨path, hPath, hMeaning⟩
  have hParams : path.params names = .ofVar var := by
    unfold NamePath.params
    cases hOf : names.meaning path with
    | paramSpec name =>
        rw [hOf] at hMeaning
        cases hMeaning
        rfl
    | _ =>
        rw [hOf] at hMeaning
        cases hMeaning
  have hRead : names.paramsOf t.path? = .ofVar var := by
    rw [hPath]
    exact hParams
  rcases eq_ident_or_member_of_path hPath with
    ⟨id, range, rfl⟩ | ⟨owner, attr, range, rfl⟩
  · exact hRead
  · exact hRead

end Lists

------------------------------------------------------------
-- What Is Read
------------------------------------------------------------

section Congr

variable {f g : TypeExpr → ResolvedArg}

/-
  The type of a class with arguments depends on what is read
  of them alone.
-/
theorem TypeParam.argsOf_congr
    {ps : List TypeParam} {args : List TypeExpr}
    (hTypes :
      ∀ a, (.type, a) ∈ (ps.map TypeParam.readMode).zip args →
        (f a).type = (g a).type)
    (hParams :
      ∀ a, (.params, a) ∈ (ps.map TypeParam.readMode).zip args →
        (f a).params = (g a).params) :
    TypeParam.argsOf ps (args.map f) =
      TypeParam.argsOf ps (args.map g) := by
  induction ps generalizing args with
  | nil => rfl
  | cons p ps ih =>
      cases args with
      | nil => rfl
      | cons a args =>
          simp only [List.map_cons, List.zip_cons_cons,
            List.mem_cons] at hTypes hParams
          have hArg : p.argOf (f a) = p.argOf (g a) := by
            unfold TypeParam.argOf
            cases hKind : p.kind with
            | typeVar =>
                have hRead : p.readMode = .type := by
                  rw [TypeParam.readMode, hKind]
                rw [hTypes a (.inl (by rw [hRead]))]
            | paramSpec =>
                have hRead : p.readMode = .params := by
                  rw [TypeParam.readMode, hKind]
                rw [hParams a (.inl (by rw [hRead]))]
          have hRest :=
            ih (fun b hb => hTypes b (.inr hb))
              fun b hb => hParams b (.inr hb)
          simp only [List.map_cons, TypeParam.argsOf, hArg,
            hRest]

/-
  The type of a form with arguments depends on what is read
  of them alone.
-/
theorem SpecialForm.subscriptType_congr
    (form : SpecialForm)
    {args : List TypeExpr}
    (hf : ∀ a, (f a).isEllipsis = a.isEllipsis)
    (hg : ∀ a, (g a).isEllipsis = a.isEllipsis)
    (hTypes :
      ∀ a, (.type, a) ∈ form.reads args →
        (f a).type = (g a).type)
    (hParams :
      ∀ a, (.params, a) ∈ form.reads args →
        (f a).params = (g a).params) :
    form.subscriptType (args.map f) =
      form.subscriptType (args.map g) := by
  have hFirst (ts : List TypeExpr)
      (h : ∀ a ∈ ts.take 1, (f a).type = (g a).type) :
      firstType (ts.map f) = firstType (ts.map g) := by
    cases ts with
    | nil => rfl
    | cons t ts => exact h t (List.mem_cons_self ..)
  have hAll (ts : List TypeExpr)
      (h : ∀ a ∈ ts, (f a).type = (g a).type) :
      (ts.map f).map (·.type) = (ts.map g).map (·.type) := by
    rw [List.map_map, List.map_map]
    exact List.map_congr_left h
  have hMem (ts : List TypeExpr) (a : TypeExpr) (h : a ∈ ts) :
      (.type, a) ∈ ReadMode.type.forAll ts :=
    List.mem_map_of_mem h
  cases form with
  | callable =>
      rcases args with _ | ⟨params, _ | ⟨ret, _ | ⟨_, _⟩⟩⟩
      · rfl
      · rfl
      · exact
          congrArg₂ Ty.callable
            (hParams params (by simp [reads]))
            (hTypes ret (by simp [reads]))
      · rfl
  | list =>
      exact
        congrArg Ty.list
          (hFirst args fun a ha => hTypes a (hMem _ a ha))
  | set =>
      exact
        congrArg Ty.set
          (hFirst args fun a ha => hTypes a (hMem _ a ha))
  | optional =>
      exact
        congrArg (fun t => Ty.unionOf [t, .noneType])
          (hFirst args fun a ha => hTypes a (hMem _ a ha))
  | dict =>
      rcases args with _ | ⟨k, _ | ⟨v, _ | ⟨_, _⟩⟩⟩
      · rfl
      · rfl
      · exact
          congrArg₂ Ty.dict
            (hTypes k (hMem _ k (by simp)))
            (hTypes v (hMem _ v (by simp)))
      · rfl
  | tuple =>
      rcases args with _ | ⟨item, _ | ⟨rest, _ | ⟨_, _⟩⟩⟩
      · rfl
      · exact
          congrArg Ty.tuple
            (hAll _ fun a ha => hTypes a (hMem _ a ha))
      · simp only [List.map_cons, List.map_nil, subscriptType,
          hf, hg]
        simp only [reads] at hTypes
        split
        · rename_i hRest
          rw [if_pos hRest] at hTypes
          rw [hTypes item (hMem _ item (by simp))]
        · rename_i hRest
          rw [if_neg hRest] at hTypes
          rw [hTypes item (hMem _ item (by simp)),
            hTypes rest (hMem _ rest (by simp))]
      · exact
          congrArg Ty.tuple
            (hAll _ fun a ha => hTypes a (hMem _ a ha))
  | union =>
      exact
        congrArg Ty.unionOf
          (hAll args fun a ha => hTypes a (hMem _ a ha))
  | _ => rfl

/-
  The type of a subscript depends on what is read of its
  arguments alone.
-/
theorem Meaning.subscriptType_congr
    (m : Meaning)
    {args : List TypeExpr}
    (hf : ∀ a, (f a).isEllipsis = a.isEllipsis)
    (hg : ∀ a, (g a).isEllipsis = a.isEllipsis)
    (hTypes :
      ∀ a, (.type, a) ∈ m.reads args →
        (f a).type = (g a).type)
    (hParams :
      ∀ a, (.params, a) ∈ m.reads args →
        (f a).params = (g a).params) :
    m.subscriptType (args.map f) =
      m.subscriptType (args.map g) := by
  cases m with
  | special form =>
      exact form.subscriptType_congr hf hg hTypes hParams
  | cls info =>
      unfold subscriptType
      dsimp only
      by_cases hGeneric : info.isGeneric = true
      · simp only [reads, hGeneric, if_true] at hTypes hParams
        rw [TypeParam.argsOf_congr hTypes hParams]
      · rw [if_neg hGeneric, if_neg hGeneric]
  | _ => rfl

end Congr

------------------------------------------------------------
-- The Check of What Is Read
------------------------------------------------------------

/-
  The check looks at what stands at the place in the way in
  which the resolver reads it.
-/
def ReadMode.Fits : ReadMode → PartPlace → Prop
  | .type, p => p.slot?.isSome
  | .params, p =>
      p = .paramList ∨
        ∃ target param, p = .classSpec target param

/- In a type parts stand where their subscript puts them. -/
theorem PartPlace.under_eq
    {p : PartPlace}
    (hFits : ReadMode.type.Fits p)
    (q : PartPlace) : p.under q = q := by
  rcases Option.isSome_iff_exists.mp hFits with ⟨slot, hSlot⟩
  exact under_of_slot hSlot q

/- An argument of a class is looked at as it is read. -/
theorem TypeParam.fits_place
    (p : TypeParam)
    (target : String) : p.readMode.Fits (p.place target) := by
  unfold readMode place
  cases p.kind with
  | typeVar => rfl
  | paramSpec => exact .inr ⟨target, p.name, rfl⟩

/- The arguments of a class stand at its type parameters. -/
theorem Meaning.mem_argPlaces_of_mem_zip
    {head arg : TypeExpr} {args : List TypeExpr}
    {info : ClassInfo} {param : TypeParam}
    (hGeneric : info.isGeneric = true)
    (hCount : args.length = info.typeParams.length)
    (h : (param, arg) ∈ info.typeParams.zip args) :
    (param.place info.name, arg) ∈
      (Meaning.cls info).argPlaces head args := by
  simp only [argPlaces, hGeneric, hCount,
    beq_self_eq_true, Bool.and_self, if_true,
    List.zip_map_left]
  exact List.mem_map_of_mem h

/- A callable without a fault has a list and a result. -/
theorem UseSite.eq_pair_of_ownArgs_eq_nil
    {site : UseSite} {args : List TypeExpr}
    {range : ByteRange}
    (hOwn :
      site.ownArgs args range (.special .callable) = []) :
    ∃ params ret, args = [params, ret] := by
  rcases args with _ | ⟨params, _ | ⟨ret, _ | ⟨_, _⟩⟩⟩
  · cases hOwn
  · cases hOwn
  · exact ⟨params, ret, rfl⟩
  · cases hOwn

/- A class without a fault has an argument at each place. -/
theorem UseSite.length_eq_of_ownArgs_eq_nil
    {site : UseSite} {args : List TypeExpr}
    {range : ByteRange} {info : ClassInfo}
    (hOwn : site.ownArgs args range (.cls info) = []) :
    info.isGeneric = true ∧
      args.length = info.typeParams.length := by
  unfold ownArgs at hOwn
  dsimp only at hOwn
  split at hOwn
  · cases hOwn
  · rename_i hGeneric
    split at hOwn
    · cases hOwn
    · rename_i hCount
      exact ⟨by simpa using hGeneric, by simpa using hCount⟩

/- Other forms than callables read arguments as types. -/
theorem SpecialForm.mem_of_mem_reads
    {form : SpecialForm} {args : List TypeExpr}
    {k : ReadMode} {u : TypeExpr}
    (hForm : form ≠ .callable)
    (h : (k, u) ∈ form.reads args) :
    k = .type ∧ u ∈ args := by
  have hAll {ts : List TypeExpr}
      (hMem : (k, u) ∈ ReadMode.type.forAll ts) :
      k = .type ∧ u ∈ ts := by
    rcases List.mem_map.mp hMem with ⟨t, ht, hSame⟩
    cases hSame
    exact ⟨rfl, ht⟩
  unfold reads at h
  split at h
  · exact absurd rfl hForm
  · exact absurd rfl hForm
  · exact (hAll h).imp_right List.mem_of_mem_take
  · exact (hAll h).imp_right List.mem_of_mem_take
  · exact (hAll h).imp_right List.mem_of_mem_take
  · exact hAll h
  · cases h
  · split at h
    · rcases hAll h with ⟨hType, hItem⟩
      rw [List.mem_singleton.mp hItem]
      exact ⟨hType, List.mem_cons_self ..⟩
    · exact hAll h
  · exact hAll h
  · exact hAll h
  · cases h

/-
  Of the arguments without a fault of their own, the check
  looks at each that is read.
-/
theorem Meaning.exists_place_of_reads
    {site : UseSite}
    {m : Meaning} {k : ReadMode}
    {u : TypeExpr} {args : List TypeExpr}
    {range : ByteRange}
    (head : TypeExpr)
    (hOwn : site.ownArgs args range m = [])
    (h : (k, u) ∈ m.reads args) :
    ∃ q, (q, u) ∈ m.argPlaces head args ∧ k.Fits q := by
  cases m with
  | special form =>
      by_cases hForm : form = .callable
      · subst hForm
        rcases UseSite.eq_pair_of_ownArgs_eq_nil hOwn with
          ⟨params, ret, rfl⟩
        simp only [reads, SpecialForm.reads, List.mem_cons,
          Prod.mk.injEq, List.not_mem_nil, or_false] at h
        rcases h with ⟨rfl, rfl⟩ | ⟨rfl, rfl⟩
        · exact ⟨.paramList, List.mem_cons_self .., .inl rfl⟩
        · exact
            ⟨.within .callableReturn,
              List.mem_cons_of_mem _ (List.mem_cons_self ..),
              rfl⟩
      · rcases form.mem_of_mem_reads hForm h with ⟨rfl, hu⟩
        have hPlaces :
            argPlaces head args (.special form) =
              (PartPlace.within
                (UseSite.formSlot form head)).forAll args := by
          cases form <;> first | rfl | exact absurd rfl hForm
        rw [hPlaces]
        exact ⟨_, List.mem_map_of_mem hu, rfl⟩
  | cls info =>
      rcases UseSite.length_eq_of_ownArgs_eq_nil hOwn with
        ⟨hGeneric, hCount⟩
      simp only [reads, hGeneric, if_true, List.zip_map_left,
        List.mem_map] at h
      rcases h with ⟨⟨param, a⟩, hZip, hSame⟩
      cases hSame
      exact
        ⟨param.place info.name,
          mem_argPlaces_of_mem_zip hGeneric hCount hZip,
          param.fits_place info.name⟩
  | _ => cases h

namespace UseSite

/- Where there is no fault there is none in a part. -/
theorem check_eq_nil_of_mem_partsAt
    {site : UseSite} {p : PartPlace} {t : TypeExpr}
    {part : PartPlace × TypeExpr}
    (hClean : site.check p t = [])
    (hPart : part ∈ t.partsAt site.names p) :
    (site.inside t).check part.1 part.2 = [] := by
  have hSubset := site.check_subset_of_mem_partsAt hPart
  rw [hClean] at hSubset
  exact List.subset_nil.mp hSubset

/- A subscript without a fault has none of its own. -/
theorem ownArgs_eq_nil_of_check
    {site : UseSite} {p : PartPlace}
    {head : TypeExpr} {args : List TypeExpr}
    {range : ByteRange}
    (hFits : ReadMode.type.Fits p)
    (hClean :
      site.check p (.subscript head args range) = []) :
    site.ownArgs args range
      (site.names.meaningOf head.path?) = [] := by
  rcases Option.isSome_iff_exists.mp hFits with ⟨slot, hSlot⟩
  rw [check_eq_own_append, own_of_slot site hSlot] at hClean
  exact (List.append_eq_nil_iff.mp hClean).1

/- The arguments of a subscript without a fault have none. -/
theorem check_eq_nil_of_mem_argPlaces
    {site : UseSite} {p : PartPlace}
    {head : TypeExpr} {args : List TypeExpr}
    {range : ByteRange}
    (hFits : ReadMode.type.Fits p)
    (hClean :
      site.check p (.subscript head args range) = [])
    {part : PartPlace × TypeExpr}
    (hPart :
      part ∈
        (site.names.meaningOf head.path?).argPlaces head
          args) :
    site.check part.1 part.2 = [] := by
  have hMem :
      part ∈
        (TypeExpr.subscript head args range).partsAt site.names
          p := by
    have hUnder := List.mem_map_of_mem (f := fun part =>
      (p.under part.1, part.2)) hPart
    rw [p.under_eq hFits] at hUnder
    exact List.mem_cons_of_mem _ hUnder
  exact check_eq_nil_of_mem_partsAt hClean hMem

/-
  Where the check finds no fault it finds none in what the
  resolver reads next, and looks at it as it is read.
-/
theorem exists_check_of_reads
    {site : UseSite} {p : PartPlace} {m k : ReadMode}
    {t u : TypeExpr}
    (hFits : m.Fits p)
    (hClean : site.check p t = [])
    (h : (k, u) ∈ t.reads site.names m) :
    ∃ q, k.Fits q ∧ (site.inside t).check q u = [] := by
  have hPart {q : PartPlace}
      (hMem : (q, u) ∈ t.partsAt site.names p) :
      (site.inside t).check q u = [] :=
    check_eq_nil_of_mem_partsAt hClean hMem
  cases t with
  | quoted body range =>
      cases List.mem_singleton.mp h
      exact ⟨p, hFits, hPart (List.mem_cons_self ..)⟩
  | subscript head args range =>
      cases m with
      | params => cases h
      | type =>
          have hOwn :
              site.ownArgs args range
                (site.names.meaningOf head.path?) = [] :=
            ownArgs_eq_nil_of_check hFits hClean
          rcases Meaning.exists_place_of_reads head hOwn h with
            ⟨q, hMem, hNext⟩
          exact
            ⟨q, hNext,
              check_eq_nil_of_mem_argPlaces hFits hClean hMem⟩
  | either left right range =>
      cases m with
      | params => cases h
      | type =>
          have hNext : ReadMode.type.Fits p.ofAlternative := by
            rw [PartPlace.ofAlternative, p.under_eq hFits]
            rfl
          simp only [TypeExpr.reads, List.mem_cons,
            Prod.mk.injEq, List.not_mem_nil, or_false] at h
          rcases h with ⟨rfl, rfl⟩ | ⟨rfl, rfl⟩
          · exact ⟨_, hNext, hPart (List.mem_cons_self ..)⟩
          · exact
              ⟨_, hNext,
                hPart
                  (List.mem_cons_of_mem _
                    (List.mem_cons_self ..))⟩
  | list items range =>
      cases m with
      | type => cases h
      | params =>
          rcases List.mem_map.mp h with ⟨item, hItem, hSame⟩
          cases hSame
          rcases hFits with rfl | ⟨target, param, rfl⟩
          · exact
              ⟨.within .callableParam, rfl,
                hPart (List.mem_map_of_mem hItem)⟩
          · -- A class takes no display in place of a list.
            cases hClean
  | _ => cases h

/-
  Where the check finds no fault it finds none in all that
  the resolver reads, and looks at it as it is read.
-/
theorem exists_check_of_visits
    {site : UseSite} {p : PartPlace} {m k : ReadMode}
    {t u : TypeExpr}
    (hFits : m.Fits p)
    (hClean : site.check p t = [])
    (h : t.Visits site.names m k u) :
    ∃ (site' : UseSite) (q : PartPlace),
      site'.names = site.names ∧ k.Fits q ∧
        site'.check q u = [] := by
  generalize hNames : site.names = names at h
  -- Inside quotes the check goes on at another site.
  induction h generalizing site p with
  | here t m => exact ⟨site, p, hNames, hFits, hClean⟩
  | step hRead _ ih =>
      subst hNames
      rcases exists_check_of_reads hFits hClean hRead with
        ⟨q, hNext, hInside⟩
      exact ih hNext hInside (site.inside_names _)

------------------------------------------------------------
-- Parameter Lists without a Fault
------------------------------------------------------------

/- Only parameter specifications may stand for lists alone. -/
theorem exists_spec_of_specParams
    {site : UseSite} {t : TypeExpr}
    (hClean : site.specParams t = []) :
    ∃ var, t.spec? site.names = some var := by
  unfold specParams at hClean
  split at hClean
  · rename_i hSpec
    exact Option.isSome_iff_exists.mp hSpec
  · split at hClean
    · rename_i hProjection
      rcases Option.isSome_iff_exists.mp hProjection with
        ⟨projection, hBoth⟩
      rcases Option.bind_eq_some_iff.mp hBoth with
        ⟨path, hPath, hFound⟩
      simp only [place, hPath, UseSite.path, hFound] at hClean
      cases hClean
    · cases hClean

/- Only parameter specifications stand for lists in classes. -/
theorem exists_spec_of_specPath
    {site : UseSite} {target param : String} {t : TypeExpr}
    (hClean : site.specPath target param t = []) :
    ∃ var, t.spec? site.names = some var := by
  unfold specPath at hClean
  split at hClean
  · rename_i hSpec
    exact Option.isSome_iff_exists.mp hSpec
  · cases hClean

/- What a callable takes is read as its annotation says. -/
theorem listReading_of_walkParams
    {site : UseSite}
    (t : TypeExpr)
    (hClean : site.walkParams t = []) :
    ListReading site.names t.bare
      (t.resolveParams site.names) := by
  have hSpec
      (hBare : t.bare = t)
      (h : site.specParams t = []) :
      ListReading site.names t.bare
        (t.resolveParams site.names) := by
    rcases exists_spec_of_specParams h with ⟨var, hVar⟩
    rw [hBare, TypeExpr.resolveParams_of_spec hVar]
    exact .spec hVar
  cases t with
  | quoted body range =>
      exact
        (site.enter range).listReading_of_walkParams body hClean
  | list items range =>
      rw [TypeExpr.resolveParams, TypeExpr.resolveArgs_eq_map,
        List.map_map]
      exact .display items range
  | ellipsis range => exact .ellipsis range
  | unreadable fault range => cases hClean
  | _ => exact hSpec rfl hClean

/- What stands for a list in a class is read as it says. -/
theorem specReading_of_specArg
    {site : UseSite} {target param : String}
    (t : TypeExpr)
    (hClean : site.specArg target param t = []) :
    SpecReading site.names t.bare
      (t.resolveParams site.names) := by
  have hSpec
      (hBare : t.bare = t)
      (h : site.specPath target param t = []) :
      SpecReading site.names t.bare
        (t.resolveParams site.names) := by
    rcases exists_spec_of_specPath h with ⟨var, hVar⟩
    rw [hBare, TypeExpr.resolveParams_of_spec hVar]
    exact .spec hVar
  cases t with
  | quoted body range =>
      exact
        (site.enter range).specReading_of_specArg body hClean
  | ellipsis range => exact .ellipsis range
  | list items range => cases hClean
  | _ => exact hSpec rfl hClean

/- What is read as a list where the check finds no fault. -/
theorem listReading_of_check
    {site : UseSite} {p : PartPlace} {t : TypeExpr}
    (hFits : ReadMode.params.Fits p)
    (hClean : site.check p t = []) :
    ListReading site.names t.bare
      (t.resolveParams site.names) := by
  rcases hFits with rfl | ⟨target, param, rfl⟩
  · exact listReading_of_walkParams t hClean
  · exact (specReading_of_specArg t hClean).toListReading

/- A callable without a fault has its list read as written. -/
theorem callable_of_check
    {site : UseSite} {p : PartPlace}
    {head : TypeExpr} {args : List TypeExpr}
    {range : ByteRange}
    (hFits : ReadMode.type.Fits p)
    (hClean :
      site.check p (.subscript head args range) = [])
    (hHead :
      site.names.meaningOf head.path? = .special .callable) :
    ∃ params ret,
      args = [params, ret] ∧
        ListReading site.names params.bare
          (params.resolveParams site.names) := by
  have hOwn := ownArgs_eq_nil_of_check hFits hClean
  rw [hHead] at hOwn
  rcases eq_pair_of_ownArgs_eq_nil hOwn with
    ⟨params, ret, rfl⟩
  have hParams :
      (PartPlace.paramList, params) ∈
        (site.names.meaningOf head.path?).argPlaces head
          [params, ret] := by
    rw [hHead]
    exact List.mem_cons_self ..
  have hWalk : site.walkParams params = [] :=
    check_eq_nil_of_mem_argPlaces hFits hClean hParams
  exact
    ⟨params, ret, rfl, listReading_of_walkParams params hWalk⟩

/-
  A class without a fault has an argument at each place, and
  stores what is read of each.
-/
theorem class_of_check
    {site : UseSite} {p : PartPlace}
    {head : TypeExpr} {args : List TypeExpr}
    {range : ByteRange} {info : ClassInfo}
    (hFits : ReadMode.type.Fits p)
    (hClean :
      site.check p (.subscript head args range) = [])
    (hHead : site.names.meaningOf head.path? = .cls info) :
    args.length = info.typeParams.length ∧
      ArgReadings site.names info.typeParams args
        (TypeParam.argsOf info.typeParams
          (TypeExpr.resolveArgs site.names args)) := by
  have hOwn := ownArgs_eq_nil_of_check hFits hClean
  rw [hHead] at hOwn
  rcases length_eq_of_ownArgs_eq_nil hOwn with
    ⟨hGeneric, hCount⟩
  refine ⟨hCount, ArgReadings.of_specs hCount ?_⟩
  intro param arg hZip hKind
  have hPlace :
      param.place info.name =
        .classSpec info.name param.name := by
    rw [TypeParam.place, hKind]
  have hArg :
      (PartPlace.classSpec info.name param.name, arg) ∈
        (site.names.meaningOf head.path?).argPlaces head
          args := by
    rw [hHead, ← hPlace]
    exact
      Meaning.mem_argPlaces_of_mem_zip hGeneric hCount hZip
  have hSpec : site.specArg info.name param.name arg = [] :=
    check_eq_nil_of_mem_argPlaces hFits hClean hArg
  exact specReading_of_specArg arg hSpec

end UseSite

end SigCheck

------------------------------------------------------------
-- No Fallback
------------------------------------------------------------

namespace SigCheck

namespace TypeExpr

variable {names : NameEnv}

/-
  In an annotation without a fault every callable that is
  resolved has a parameter list and a result, the list being
  resolved as it is written, and every class with arguments
  has one at each place and stores just these, those in place
  of parameter lists as written. The gradual list is read
  from `...` and never stands in for what is wrong.
-/
theorem resolve_takes_no_fallback
    (index : LineIndex)
    (position : Position)
    {t : TypeExpr}
    (hClean : t.useSiteErrors names index position = []) :
    (∀ head args range,
        t.Visits names .type .type
            (.subscript head args range) →
          names.meaningOf head.path? = .special .callable →
          ∃ params ret,
            args = [params, ret] ∧
              (subscript head args range).resolve names =
                .callable (params.resolveParams names)
                  (ret.resolve names) ∧
              ListReading names params.bare
                (params.resolveParams names)) ∧
      (∀ head args range info,
        t.Visits names .type .type
            (.subscript head args range) →
          names.meaningOf head.path? = .cls info →
          info.isGeneric = true →
          args.length = info.typeParams.length ∧
            ∃ stored,
              (subscript head args range).resolve names =
                .generic info.name stored ∧
                ArgReadings names info.typeParams args
                  stored) ∧
      ∀ u,
        t.Visits names .type .params u →
          u.resolveParams names = .gradual →
          ∃ range, u.bare = .ellipsis range := by
  let start : UseSite := ⟨names, index, none⟩
  let whole : PartPlace := .within (.topLevel position)
  have hStart : ReadMode.type.Fits whole := rfl
  have hCheck : start.check whole t = [] := hClean
  refine ⟨?_, ?_, ?_⟩
  · intro head args range hVisit hHead
    rcases UseSite.exists_check_of_visits hStart hCheck
        hVisit with ⟨site, q, hNames, hFits, hPart⟩
    have hHere :
        site.names.meaningOf head.path? =
          .special .callable := by
      rw [hNames]
      exact hHead
    rcases UseSite.callable_of_check hFits hPart hHere with
      ⟨params, ret, rfl, hList⟩
    rw [hNames] at hList
    refine ⟨params, ret, rfl, ?_, hList⟩
    rw [resolve, hHead]
    rfl
  · intro head args range info hVisit hHead hGeneric
    rcases UseSite.exists_check_of_visits hStart hCheck
        hVisit with ⟨site, q, hNames, hFits, hPart⟩
    have hHere :
        site.names.meaningOf head.path? = .cls info := by
      rw [hNames]
      exact hHead
    rcases UseSite.class_of_check hFits hPart hHere with
      ⟨hCount, hStored⟩
    rw [hNames] at hStored
    refine ⟨hCount, _, ?_, hStored⟩
    rw [resolve, hHead, Meaning.subscriptType,
      if_pos hGeneric]
  · intro u hVisit hGradual
    rcases UseSite.exists_check_of_visits hStart hCheck
        hVisit with ⟨site, q, hNames, hFits, hPart⟩
    have hList := UseSite.listReading_of_check hFits hPart
    have hSame : site.names = names := hNames
    rw [hSame, hGradual] at hList
    exact hList.eq_ellipsis

/-
  Inside a quoted display a class has a quoted parameter
  specification for its list, and stores it.
-/
theorem resolve_takes_no_fallback_quoted :
    let names : NameEnv := fun name =>
      if name = "P" then .paramSpec "P"
      else if name = "Callable" then .special .callable
      else if name = "Z" then
        .cls
          { name := "Z"
            typeParams :=
              [⟨"Q", .paramSpec⟩, ⟨"T", .typeVar⟩] }
      else .unknown
    let spec : TypeExpr := .ident "P" ⟨0, 1⟩
    let cls : TypeExpr :=
      .subscript (.ident "Z" ⟨1, 2⟩)
        [.quoted spec ⟨3, 6⟩, .ident "int" ⟨8, 11⟩] ⟨1, 12⟩
    let display : TypeExpr := .list [cls] ⟨0, 13⟩
    let t : TypeExpr :=
      .subscript (.ident "Callable" ⟨0, 8⟩)
        [.quoted display ⟨9, 24⟩, .ident "str" ⟨26, 29⟩]
        ⟨0, 30⟩
    t.useSiteErrors names (.ofText "") .parameter = [] ∧
      t.Visits names .type .type cls ∧
      ListReading names display
        (display.resolveParams names) ∧
      SpecReading names spec (.ofVar "P") ∧
      cls.resolve names =
        .generic "Z" [.params (.ofVar "P"), .type .int] ∧
      ArgReadings names
        [⟨"Q", .paramSpec⟩, ⟨"T", .typeVar⟩]
        [.quoted spec ⟨3, 6⟩, .ident "int" ⟨8, 11⟩]
        [.params (.ofVar "P"), .type .int] := by
  intro names spec cls display t
  have hClean :
      t.useSiteErrors names (.ofText "") .parameter = [] := by
    decide
  have hVisit : t.Visits names .type .type cls := by
    refine .step (k := .params) (u := .quoted display ⟨9, 24⟩)
      ?_ (.step (k := .params) (u := display) ?_
        (.step (k := .type) (u := cls) ?_ (.here cls .type)))
    · exact List.mem_cons_self ..
    · exact List.mem_cons_self ..
    · exact List.mem_cons_self ..
  have hAll :=
    resolve_takes_no_fallback (.ofText "") .parameter hClean
  rcases hAll.1 _ _ _ (.here t .type) rfl with
    ⟨params, ret, hArgs, -, hList⟩
  cases hArgs
  rcases hAll.2.1 _ _ _ _ hVisit rfl rfl with
    ⟨-, stored, hCls, hStored⟩
  have hRead :
      cls.resolve names =
        .generic "Z" [.params (.ofVar "P"), .type .int] := rfl
  rw [hRead] at hCls
  cases hCls
  refine ⟨hClean, hVisit, hList, ?_, hRead, hStored⟩
  cases hStored with
  | cons hFirst _ =>
      cases hFirst with
      | params _ hSpec => exact hSpec

end TypeExpr

end SigCheck
