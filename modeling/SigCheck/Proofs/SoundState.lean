import SigCheck.Proofs.AnnotationNames
import SigCheck.Proofs.Growth

/-
  Sound states of checking. Each fresh name is made of a
  variable of the program, the types that names stand for
  have no other variables than those of the program and
  fresh ones, and what is reported has fresh names no more.

  Results of the program are an exception: the type that a
  `return` was found to have is reported as it is.

  Key definitions include:
    * `CheckState.Sound`
    * `Cause.Restored`, `CheckState.Tells`
    * `Check.Keeps`

  Correctness is proven by:
    * `Check.Keeps.bind`
    * `Check.keeps_instantiate`
    * `Check.keeps_runCall`
    * `Expr.keeps_infer`
-/

namespace SigCheck

------------------------------------------------------------
-- Symbols
------------------------------------------------------------

section Entered

variable {α : Type} {pairs : List (String × α)}
variable {name : String} {a : α}

/- Of the values that are entered for a name the last stays. -/
theorem Table.find?_ofPairs
    (pairs : List (String × α))
    (name : String) :
    (Table.ofPairs pairs).find? name =
      (pairs.reverse.find? (·.1 == name)).map (·.2) := by
  have hFold (table : Table α) :
      (pairs.foldl
        (fun t (pair : String × α) => t.insert pair.1 pair.2)
        table).find? name =
      ((pairs.reverse.find? (·.1 == name)).map (·.2)).or
        (table.find? name) := by
    induction pairs generalizing table with
    | nil => rfl
    | cons pair pairs ih =>
        rw [List.foldl_cons, ih, Table.find?_insert,
          List.reverse_cons, List.find?_append]
        cases pairs.reverse.find? (·.1 == name) with
        | some last => rfl
        | none =>
            by_cases hName : pair.1 = name
            · simp [hName]
            · simp [hName]
  exact (hFold ∅).trans (Option.or_none ..)

/- What stands in a table was entered into it. -/
theorem Table.mem_of_find?_ofPairs
    (h : (Table.ofPairs pairs).find? name = some a) :
    (name, a) ∈ pairs := by
  rw [find?_ofPairs] at h
  rcases Option.map_eq_some_iff.mp h with ⟨pair, hFind, rfl⟩
  have hMem := List.mem_reverse.mp (List.mem_of_find?_eq_some hFind)
  have hName : pair.1 = name := by
    simpa using List.find?_some hFind
  rwa [← hName]

/- A name without a value was not entered. -/
theorem Table.notMem_of_find?_ofPairs
    (h : (Table.ofPairs pairs).find? name = none) :
    name ∉ pairs.map (·.1) := by
  rw [find?_ofPairs, Option.map_eq_none_iff] at h
  intro hMem
  rcases List.mem_map.mp hMem with ⟨pair, hPair, rfl⟩
  have hNot :=
    List.find?_eq_none.mp h pair (List.mem_reverse.mpr hPair)
  exact hNot (beq_self_eq_true _)

end Entered

/- The names of a symbol are valid, its variables known. -/
def Symbol.Uses (known : String → Prop) : Symbol → Prop
  | .typeVar decl => IsName decl.name
  | .paramSpec decl => IsName decl.name
  | .cls info => info.Uses known
  | .special _ => True
  | .value ty => ty.Uses known

/- Further names may become known. -/
theorem Symbol.Uses.mono
    {known more : String → Prop}
    (hMore : ∀ v, known v → more v)
    {symbol : Symbol}
    (h : symbol.Uses known) : symbol.Uses more := by
  cases symbol with
  | cls info => exact ClassInfo.Uses.mono hMore h
  | value ty => exact Ty.Uses.mono hMore ty h
  | _ => exact h

/- The names of the symbols in a table. -/
def SymbolTable.Uses
    (known : String → Prop)
    (table : Table Symbol) : Prop :=
  ∀ name symbol,
    table.find? name = some symbol → symbol.Uses known

namespace SymbolTable

variable {known : String → Prop} {table : Table Symbol}

/- A symbol is added to a table. -/
theorem Uses.insert
    (h : SymbolTable.Uses known table)
    (name : String)
    {symbol : Symbol}
    (hSymbol : symbol.Uses known) :
    SymbolTable.Uses known (table.insert name symbol) := by
  intro other found hFind
  rw [Table.find?_insert] at hFind
  split at hFind
  · cases hFind
    exact hSymbol
  · exact h other found hFind

/- A table of values has the names of their types. -/
theorem uses_ofPairs
    {pairs : List (String × Symbol)}
    (h : ∀ pair ∈ pairs, pair.2.Uses known) :
    SymbolTable.Uses known (.ofPairs pairs) :=
  fun _ _ hFind => h _ (Table.mem_of_find?_ofPairs hFind)

end SymbolTable

/- The names of a scope. What it binds is of the program. -/
structure Scope.Uses
    (known : String → Prop)
    (scope : Scope) : Prop where
  symbols : SymbolTable.Uses known scope.symbols
  types : ∀ v ∈ scope.rigid.types, IsName v
  specs : ∀ v ∈ scope.rigid.specs, IsName v
  returns : ∀ t ∈ scope.returns, t.Uses IsName

/- Further names may become known. -/
theorem Scope.Uses.mono
    {known more : String → Prop}
    (hMore : ∀ v, known v → more v)
    {scope : Scope}
    (h : scope.Uses known) : scope.Uses more where
  symbols name symbol hFind :=
    (h.symbols name symbol hFind).mono hMore
  types := h.types
  specs := h.specs
  returns := h.returns

------------------------------------------------------------
-- States
------------------------------------------------------------

/- No fresh name has a number that is yet to be given. -/
def CheckState.IsNumbered (s : CheckState) : Prop :=
  ∀ f ∈ s.fresh, ∃ k ≤ s.fresh.length,
    f.name = f.var ++ "@" ++ toString k

/-
  The variables in a state are those of the program and
  fresh ones, and each fresh name is made of the former.
-/
structure CheckState.Sound (s : CheckState) : Prop where
  fresh : s.HasFresh
  numbered : s.IsNumbered
  globals : SymbolTable.Uses s.Knows s.globals
  scopes : ∀ scope ∈ s.scopes, scope.Uses s.Knows
  classes : ∀ c ∈ s.classes, c.Uses s.Knows

namespace CheckState

variable {s t : CheckState}

/- At first there is nothing. -/
theorem sound_start (env : CheckEnv) : (start env).Sound where
  fresh := List.forall_mem_nil _
  numbered := List.forall_mem_nil _
  globals := nofun
  scopes := List.forall_mem_nil _
  classes := List.forall_mem_nil _

/- A name of the program is known. -/
theorem knows_of_isName {v : String} (h : IsName v) :
    s.Knows v :=
  Or.inl h

/- Known names stay known. -/
theorem Before.knows
    (h : s.Before t)
    (v : String) (hv : s.Knows v) : t.Knows v := by
  rcases hv with hv | ⟨f, hf, rfl⟩
  · exact Or.inl hv
  · exact Or.inr ⟨f, h.fresh.subset hf, rfl⟩

/- A state in which only fresh names come in stays sound. -/
theorem Sound.grow
    (hSound : s.Sound)
    (hBefore : s.Before t)
    (hFresh : t.HasFresh)
    (hNumbered : t.IsNumbered)
    (hGlobals : t.globals = s.globals)
    (hScopes : t.scopes = s.scopes)
    (hClasses : t.classes = s.classes) : t.Sound where
  fresh := hFresh
  numbered := hNumbered
  globals name symbol hFind := by
    rw [hGlobals] at hFind
    exact (hSound.globals name symbol hFind).mono
      hBefore.knows
  scopes scope hScope := by
    rw [hScopes] at hScope
    exact (hSound.scopes scope hScope).mono hBefore.knows
  classes c hc := by
    rw [hClasses] at hc
    exact (hSound.classes c hc).mono hBefore.knows

/- Another list of scopes with known names. -/
theorem Sound.withScopes
    (h : s.Sound)
    {scopes : List Scope}
    (hScopes : ∀ scope ∈ scopes, scope.Uses s.Knows) :
    CheckState.Sound { s with scopes := scopes } :=
  ⟨h.fresh, h.numbered, h.globals, hScopes, h.classes⟩

/- Another list of classes with known names. -/
theorem Sound.withClasses
    (h : s.Sound)
    {classes : List ClassInfo}
    (hClasses : ∀ c ∈ classes, c.Uses s.Knows) :
    CheckState.Sound { s with classes := classes } :=
  ⟨h.fresh, h.numbered, h.globals, h.scopes, hClasses⟩

/- A symbol with known names is defined. -/
theorem Sound.define
    (h : s.Sound)
    (name : String)
    {symbol : Symbol}
    (hSymbol : symbol.Uses s.Knows) :
    (s.define name symbol).Sound := by
  unfold CheckState.define
  split
  · exact ⟨h.fresh, h.numbered,
      h.globals.insert name hSymbol, h.scopes, h.classes⟩
  · rename_i scope outer hScopes
    have hAll := h.scopes
    rw [hScopes, List.forall_mem_cons] at hAll
    apply h.withScopes
    rw [List.forall_mem_cons]
    exact ⟨⟨hAll.1.symbols.insert name hSymbol,
      hAll.1.types, hAll.1.specs, hAll.1.returns⟩, hAll.2⟩

/- The innermost open class changes within known names. -/
theorem Sound.updateClass
    (h : s.Sound)
    {f : ClassInfo → ClassInfo}
    (hf : ∀ c, c.Uses s.Knows → (f c).Uses s.Knows) :
    (s.updateClass f).Sound := by
  unfold CheckState.updateClass
  split
  · exact h
  · rename_i c outer hClasses
    have hAll := h.classes
    rw [hClasses, List.forall_mem_cons] at hAll
    apply h.withClasses
    rw [List.forall_mem_cons]
    exact ⟨hf c hAll.1, hAll.2⟩

------------------------------------------------------------
-- Lookup
------------------------------------------------------------

/- What scopes define has known names. -/
theorem uses_of_findIn
    {known : String → Prop}
    {scopes : List Scope} {name : String}
    {direct : Bool} {found : Found}
    (h : ∀ scope ∈ scopes, scope.Uses known)
    (hFind : Scope.findIn name direct scopes = some found) :
    found.symbol.Uses known := by
  induction scopes generalizing direct with
  | nil => cases hFind
  | cons scope outer ih =>
      rw [List.forall_mem_cons] at h
      unfold Scope.findIn at hFind
      split at hFind
      · exact ih h.2 hFind
      · split at hFind
        · rename_i symbol hSymbol
          cases hFind
          exact h.1.symbols name symbol hSymbol
        · exact ih h.2 hFind

/- What a name stands for has known names. -/
theorem Sound.uses_of_find?
    (h : s.Sound)
    {name : String} {found : Found}
    (hFind : s.find? name = some found) :
    found.symbol.Uses s.Knows := by
  unfold CheckState.find? at hFind
  split at hFind
  · rename_i inner hInner
    cases hFind
    exact uses_of_findIn h.scopes hInner
  · rcases Option.map_eq_some_iff.mp hFind with
      ⟨symbol, hSymbol, rfl⟩
    exact h.globals name symbol hSymbol

/- What a name stands for has known names. -/
theorem Sound.uses_of_lookup?
    (h : s.Sound)
    {name : String} {symbol : Symbol}
    (hLookup : s.lookup? name = some symbol) :
    symbol.Uses s.Knows := by
  rcases Option.map_eq_some_iff.mp hLookup with
    ⟨found, hFind, rfl⟩
  exact h.uses_of_find? hFind

/- What names mean has names of the program. -/
theorem Sound.named_names (h : s.Sound) : s.names.Named := by
  intro id
  unfold CheckState.names NameEnv.ofLookup
  split
  · rename_i symbol hLookup
    have hSymbol := h.uses_of_lookup? hLookup
    cases symbol with
    | cls info => exact ⟨hSymbol.name, hSymbol.typeParams⟩
    | typeVar decl => exact hSymbol
    | paramSpec decl => exact hSymbol
    | _ => trivial
  · exact Meaning.named_ofForm _

/- The class of a name has known names. -/
theorem Sound.uses_of_cls?
    (h : s.Sound)
    {name : String} {c : ClassInfo}
    (hClass : s.cls? name = some c) : c.Uses s.Knows := by
  unfold CheckState.cls? at hClass
  split at hClass
  · rename_i info hInfo
    cases hClass
    rcases Option.bind_eq_some_iff.mp hInfo with
      ⟨symbol, hLookup, hSymbol⟩
    have hUses := h.uses_of_lookup? hLookup
    cases symbol with
    | cls info =>
        cases hSymbol
        exact hUses
    | _ => cases hSymbol
  · exact h.classes c (List.mem_of_find?_eq_some hClass)

/- Variables that are rigid are of the program. -/
theorem Sound.isName_of_rigid
    (h : s.Sound) :
    (∀ v ∈ s.rigid.types, IsName v)
      ∧ ∀ v ∈ s.rigid.specs, IsName v := by
  constructor
  all_goals
    intro v hv
    rcases List.mem_flatMap.mp hv with ⟨scope, hScope, hv⟩
    have hUses := h.scopes scope (List.mem_reverse.mp hScope)
  · exact hUses.types v hv
  · exact hUses.specs v hv

/- What is expected of a result is of the program. -/
theorem Sound.uses_of_expectedReturn
    (h : s.Sound)
    {t : Ty}
    (hExpected : s.expectedReturn = some t) :
    t.Uses IsName := by
  rcases Option.bind_eq_some_iff.mp hExpected with
    ⟨scope, hFind, hReturns⟩
  exact (h.scopes scope
    (List.mem_of_find?_eq_some hFind)).returns t hReturns

------------------------------------------------------------
-- Fresh Names
------------------------------------------------------------

/- A fresh name is made of its variable and a number. -/
theorem isFresh_of_isName
    {v : String}
    (h : IsName v)
    (k : Nat) :
    FreshName.IsFresh ⟨v ++ "@" ++ toString k, v⟩ where
  word := by
    intro c hc
    simp only [String.toList_append, List.mem_append] at hc
    rcases hc with (hc | hc) | hc
    · exact h.word c hc
    · rw [List.mem_singleton.mp hc]
      rfl
    · have hDigit : c.isDigit = true :=
        Nat.isDigit_of_mem_toDigits (b := 10) (n := k)
          (by decide) (by decide) (by simpa using hc)
      simp [isWordChar, isNameRest, hDigit]
  var := h.word
  plain := h.plain
  tail := ⟨(toString k).toList, by simp⟩

/- One more fresh name has the next number. -/
theorem IsNumbered.freshName
    (h : s.IsNumbered)
    (v : String) : (s.freshName v).2.IsNumbered := by
  have hLength :
      (s.freshName v).2.fresh.length = s.fresh.length + 1 :=
    List.length_append
  intro f hf
  rw [hLength]
  rcases List.mem_append.mp hf with hf | hf
  · rcases h f hf with ⟨k, hk, hName⟩
    exact ⟨k, Nat.le_succ_of_le hk, hName⟩
  · rw [List.mem_singleton.mp hf]
    exact ⟨s.fresh.length + 1, Nat.le_refl _, rfl⟩

/- Fresh names are known and keep the state sound. -/
theorem Sound.freshNames
    (h : s.Sound)
    {vars : List String}
    (hVars : ∀ v ∈ vars, IsName v) :
    (s.freshNames vars).2.Sound
      ∧ ∀ pair ∈ (s.freshNames vars).1,
        (s.freshNames vars).2.Knows pair.2 := by
  induction vars generalizing s with
  | nil => exact ⟨h, List.forall_mem_nil _⟩
  | cons v vars ih =>
      rw [List.forall_mem_cons] at hVars
      have hOne : (s.freshName v).2.Sound := by
        refine h.grow (before_freshNames s [v]) ?_ ?_
          rfl rfl rfl
        · intro f hf
          rcases List.mem_append.mp hf with hf | hf
          · exact h.fresh f hf
          · rw [List.mem_singleton.mp hf]
            exact isFresh_of_isName hVars.1 _
        · exact h.numbered.freshName v
      have hRest := ih hOne hVars.2
      unfold CheckState.freshNames
      refine ⟨hRest.1, ?_⟩
      rw [List.forall_mem_cons]
      refine ⟨?_, hRest.2⟩
      apply (before_freshNames _ vars).knows
      exact Or.inr ⟨⟨_, v⟩, List.mem_append_right _
        (List.mem_singleton.mpr rfl), rfl⟩

/- A type as it is used here has known names. -/
theorem Sound.instantiate
    (h : s.Sound)
    {ty : Ty}
    (hTy : ty.Uses s.Knows)
    (definedIn : List Scope) :
    (s.instantiate ty definedIn).2.Sound
      ∧ (s.instantiate ty definedIn).1.Uses
        (s.instantiate ty definedIn).2.Knows := by
  have hRigid := h.isName_of_rigid
  unfold CheckState.instantiate
  dsimp only
  generalize hTypes :
    (ty.typeVars.filter fun v =>
      s.rigid.types.contains v
        && !(Scope.rigidOf definedIn).types.contains v) = types
  generalize hSpecs :
    (ty.specVars.filter fun v =>
      s.rigid.specs.contains v
        && !(Scope.rigidOf definedIn).specs.contains v) = specs
  have hTypeNames : ∀ v ∈ types, IsName v := by
    intro v hv
    rw [← hTypes, List.mem_filter, Bool.and_eq_true] at hv
    exact hRigid.1 v (List.contains_iff_mem.mp hv.2.1)
  have hSpecNames : ∀ v ∈ specs, IsName v := by
    intro v hv
    rw [← hSpecs, List.mem_filter, Bool.and_eq_true] at hv
    exact hRigid.2 v (List.contains_iff_mem.mp hv.2.1)
  have hFirst := h.freshNames hTypeNames
  have hSecond := hFirst.1.freshNames hSpecNames
  have hBefore := s.before_freshNames types
  have hLater :=
    before_freshNames (s.freshNames types).2 specs
  refine ⟨hSecond.1, Ty.Uses.substitute ?_
    (Ty.Uses.mono (hBefore.trans hLater).knows ty hTy)⟩
  constructor
  · intro v t hFind
    have hMem := Table.mem_of_find?_ofPairs hFind
    rcases List.mem_map.mp hMem with ⟨pair, hPair, hEq⟩
    cases hEq
    exact hLater.knows _ (hFirst.2 pair hPair)
  · intro v sig hFind
    have hMem := Table.mem_of_find?_ofPairs hFind
    rcases List.mem_map.mp hMem with ⟨pair, hPair, hEq⟩
    cases hEq
    exact ⟨trivial, hSecond.2 pair hPair⟩

end CheckState

------------------------------------------------------------
-- Reports
------------------------------------------------------------

/- The hook has a text for something that is solved. -/
def ConstraintHook.Gives
    (hook : ConstraintHook)
    (reason : String) : Prop :=
  (∃ decl sig, hook.spec decl sig = some reason)
    ∨ ∃ decl ty, hook.typeVar decl ty = some reason

/-
  A cause as it is reported in a state: fresh names in types
  and faults are replaced by what they stand for. Only the
  type that a result was found to have is told as it is.
-/
inductive Cause.Restored
    (env : CheckEnv)
    (s : CheckState) : Cause → Prop
  | revealed (ty : Ty) :
      ty.Uses s.Knows →
      Restored env s
        (.revealedType (ty.rename s.declaredName).text)
  | fault (f : CallFault) :
      f.Uses s.Knows →
      Restored env s (f.rename s.declaredName).cause
  | hook (callee : String) {reason : String} :
      env.hook.Gives reason →
      Restored env s (.callSiteMismatch callee reason)
  | result (declared found : Ty) :
      declared.Uses IsName →
      found.Uses s.Knows →
      Restored env s
        (.invalidReturnType declared.text found.text)
  | plain {cause : Cause} :
      cause.Plain →
      Restored env s cause

/- All that is found was restored when it was reported. -/
def CheckState.Tells
    (env : CheckEnv)
    (s : CheckState) : Prop :=
  ∀ d ∈ s.found.toList,
    ∃ u : CheckState,
      u.Sound ∧ u.Before s ∧ d.cause.Restored env u

/- A sound state in which all that is found is restored. -/
structure CheckState.Good
    (env : CheckEnv)
    (s : CheckState) : Prop where
  sound : s.Sound
  tells : s.Tells env

namespace CheckState

variable {env : CheckEnv} {s t : CheckState}

/- Without a new report everything stays restored. -/
theorem Tells.of_before
    (h : s.Tells env)
    (hBefore : s.Before t)
    (hFound : t.found = s.found) : t.Tells env := by
  intro d hd
  rw [hFound] at hd
  rcases h d hd with ⟨u, hSound, hu, hRestored⟩
  exact ⟨u, hSound, hu.trans hBefore, hRestored⟩

end CheckState

------------------------------------------------------------
-- Steps
------------------------------------------------------------

namespace Check

variable {α β : Type}
variable {env : CheckEnv} {s t : CheckState}

/- A state grew into a good one, with a result. -/
structure Kept
    (env : CheckEnv)
    (s : CheckState)
    (post : (String → Prop) → α → Prop)
    (r : α × CheckState) : Prop where
  before : s.Before r.2
  good : r.2.Good env
  post : post r.2.Knows r.1

/-
  From a good state the step leads to a good one, with a
  result whose names are known then.
-/
def Keeps
    (env : CheckEnv)
    (s : CheckState)
    (step : Check α)
    (post : (String → Prop) → α → Prop) : Prop :=
  s.Good env → Kept env s post (step.exec env s)

/- Nothing is asked of a result. -/
def anything (_ : String → Prop) (_ : α) : Prop :=
  True

section Rules

variable {step : Check α} {next : α → Check β}
variable {P : (String → Prop) → α → Prop}
variable {Q : (String → Prop) → β → Prop}

/- A step before another one. -/
theorem Keeps.bind
    (hStep : Keeps env s step P)
    (hNext : ∀ a t, s.Before t → P t.Knows a →
      Keeps env t (next a) Q) :
    Keeps env s (step >>= next) Q := by
  intro hGood
  have hFirst := hStep hGood
  have hSecond :=
    hNext _ _ hFirst.before hFirst.post hFirst.good
  exact ⟨hFirst.before.trans hSecond.before,
    hSecond.good, hSecond.post⟩

/- A step that only looks at what is there. -/
theorem keeps_of_exec
    {a : α}
    (hExec : step.exec env s = (a, s))
    (h : s.Sound → P s.Knows a) :
    Keeps env s step P := by
  intro hGood
  rw [hExec]
  exact ⟨.refl s, hGood, h hGood.sound⟩

/- Giving a result keeps the state. -/
theorem keeps_pure
    {a : α}
    (h : P s.Knows a) : Keeps env s (pure a) P :=
  keeps_of_exec rfl fun _ => h

/- What comes behind a look at the state. -/
theorem keeps_get
    {next : CheckState → Check β}
    (h : s.Sound → Keeps env s (next s) Q) :
    Keeps env s (get >>= next) Q :=
  fun hGood => h hGood.sound hGood

/- What comes behind a look at the surroundings. -/
theorem keeps_read
    {next : CheckEnv → Check β}
    (h : Keeps env s (next env) Q) :
    Keeps env s (read >>= next) Q :=
  h

/- What comes behind a look at what names mean. -/
theorem keeps_names
    {next : NameEnv → Check β}
    (h : s.names.Named → Keeps env s (next s.names) Q) :
    Keeps env s (names >>= next) Q :=
  fun hGood => h hGood.sound.named_names hGood

/- What comes behind a look at a meaning. -/
theorem keeps_meaning
    {e : Expr} {next : Meaning → Check β}
    (h : ∀ m, Keeps env s (next m) Q) :
    Keeps env s (meaning e >>= next) Q :=
  h _

/- What comes behind a look for a location. -/
theorem keeps_locate
    {range : ByteRange} {next : Location → Check β}
    (h : ∀ location, Keeps env s (next location) Q) :
    Keeps env s (locate range >>= next) Q :=
  h _

/- A change of symbols, scopes or classes. -/
theorem keeps_modify
    {f : CheckState → CheckState}
    (hFound : (f s).found = s.found)
    (hFresh : (f s).fresh = s.fresh)
    (hSound : s.Sound → (f s).Sound) :
    Keeps env s (modify f : Check Unit) anything := by
  intro hGood
  have hBefore := CheckState.Before.of_eq hFound hFresh
  exact ⟨hBefore, ⟨hSound hGood.sound,
    hGood.tells.of_before hBefore hFound⟩, trivial⟩

/- A symbol with known names is defined. -/
theorem keeps_define
    (name : String)
    {symbol : Symbol}
    (h : symbol.Uses s.Knows) :
    Keeps env s (define name symbol) anything := by
  apply keeps_modify
  · unfold CheckState.define
    split <;> rfl
  · unfold CheckState.define
    split <;> rfl
  · intro hSound
    exact hSound.define name h

/- Fresh names are no reports. -/
theorem found_freshNames
    (s : CheckState)
    (vars : List String) :
    (s.freshNames vars).2.found = s.found := by
  induction vars generalizing s with
  | nil => rfl
  | cons v vars ih => exact ih _

/- A type as it is used here has known names. -/
theorem keeps_instantiate
    {ty : Ty}
    (h : ty.Uses s.Knows)
    (definedIn : List Scope) :
    Keeps env s (instantiate ty definedIn) Ty.Uses := by
  intro hGood
  have hBefore := s.before_instantiate ty definedIn
  have hInst := hGood.sound.instantiate h definedIn
  have hFound :
      (s.instantiate ty definedIn).2.found = s.found :=
    (found_freshNames _ _).trans (found_freshNames _ _)
  exact ⟨hBefore, ⟨hInst.1,
    hGood.tells.of_before hBefore hFound⟩, hInst.2⟩

/- Restored causes are reported. -/
theorem keeps_reportAll
    {ds : List Diagnostic}
    (h : s.Sound → ∀ d ∈ ds, d.cause.Restored env s) :
    Keeps env s (reportAll ds) anything := by
  intro hGood
  have hBefore :=
    s.before_takeAll (ds.map (·.inFile env.file))
  rw [exec_reportAll]
  have hSound := hGood.sound
  refine ⟨hBefore, ⟨⟨hSound.fresh, hSound.numbered,
    hSound.globals, hSound.scopes, hSound.classes⟩, ?_⟩,
    trivial⟩
  intro d hd
  simp only [CheckState.found_takeAll, Array.toList_append,
    List.mem_append, List.mem_map] at hd
  rcases hd with hd | ⟨d, hd, rfl⟩
  · rcases hGood.tells d hd with ⟨u, hu, hBeforeU, hCause⟩
    exact ⟨u, hu, hBeforeU.trans hBefore, hCause⟩
  · exact ⟨s, hSound, hBefore, h hSound d hd⟩

/- A restored cause is reported. -/
theorem keeps_report
    {d : Diagnostic}
    (h : s.Sound → d.cause.Restored env s) :
    Keeps env s (report d) anything := by
  intro hGood
  have hAll :
      Keeps env s (reportAll [d]) anything :=
    keeps_reportAll fun hSound d' hd' => by
      rw [List.mem_singleton.mp hd']
      exact h hSound
  exact hAll hGood

/- A step in a scope of its own. -/
theorem Keeps.inScope
    {scope : Scope}
    (hScope : scope.Uses s.Knows)
    (hStep :
      Keeps env { s with scopes := scope :: s.scopes } step
        P) :
    Keeps env s (inScope scope step) P := by
  intro hGood
  have hOpen : s.Before { s with scopes := scope :: s.scopes } :=
    .of_eq rfl rfl
  have hInner : CheckState.Good env
      { s with scopes := scope :: s.scopes } :=
    ⟨hGood.sound.withScopes (List.forall_mem_cons.mpr
      ⟨hScope, hGood.sound.scopes⟩),
      hGood.tells.of_before hOpen rfl⟩
  have hKept := hStep hInner
  have hSound := hKept.good.sound
  have hClose :
      CheckState.Before
        (step.exec env { s with scopes := scope :: s.scopes }).2
        ((Check.inScope scope step).exec env s).2 :=
    .of_eq rfl rfl
  refine ⟨hOpen.trans (hKept.before.trans hClose),
    ⟨?_, hKept.good.tells.of_before hClose rfl⟩, hKept.post⟩
  exact hSound.withScopes fun sc hsc =>
    hSound.scopes sc (List.mem_of_mem_tail hsc)

end Rules

------------------------------------------------------------
-- Calls
------------------------------------------------------------

/- The issues of a call are reported as restored. -/
theorem keeps_reportIssues
    {issues : List CallIssue}
    (h : ∀ issue ∈ issues, issue.Uses s.Knows)
    (locate : IssueSite → Location) :
    Keeps env s (reportIssues issues locate) anything := by
  apply keeps_get
  intro hSound
  apply keeps_reportAll
  intro _ d hd
  rcases List.mem_map.mp hd with ⟨issue, hIssue, rfl⟩
  have hUses := h issue hIssue
  dsimp only
  rw [CallFault.restoreCause_eq hSound.fresh _ hUses]
  exact .fault _ hUses

/- The texts of the hook are reported as they are. -/
theorem keeps_reportSolved
    (callee : String)
    (solved : Substitution)
    (location : Location) :
    Keeps env s (reportSolved callee solved location)
      anything := by
  apply keeps_get
  intro _
  apply keeps_read
  apply keeps_reportAll
  intro _ d hd
  rcases List.mem_map.mp hd with ⟨reason, hReason, rfl⟩
  apply Cause.Restored.hook
  rcases List.mem_append.mp hReason with hReason | hReason
  · rcases List.mem_filterMap.mp hReason with
      ⟨⟨v, sig⟩, -, hText⟩
    rcases Option.bind_eq_some_iff.mp hText with
      ⟨decl, -, hText⟩
    exact Or.inl ⟨decl, sig, hText⟩
  · rcases List.mem_filterMap.mp hReason with
      ⟨⟨v, ty⟩, -, hText⟩
    rcases Option.bind_eq_some_iff.mp hText with
      ⟨decl, -, hText⟩
    exact Or.inr ⟨decl, ty, hText⟩

/- A call of known names gives known names. -/
theorem keeps_runCall
    {callee : String} {ty : Ty} {args : CallArgs}
    (hCallee : IsSignless callee)
    (hTy : ty.Uses s.Knows)
    (hArgs : args.Uses s.Knows)
    (locate : IssueSite → Location) :
    Keeps env s (runCall callee ty args locate) Ty.Uses := by
  unfold runCall
  apply keeps_read
  apply keeps_get
  intro _
  have hOutcome :=
    hTy.inferCall
      ⟨env.config.join, env.config.checkArgumentTypes⟩
      s.rigid hCallee hArgs
  apply (keeps_reportIssues hOutcome.issues locate).bind
  intro _ t hst _
  apply (keeps_reportSolved _ _ _).bind
  intro _ u htu _
  exact keeps_pure
    (Ty.Uses.mono (hst.trans htu).knows _ hOutcome.ret)

/- A type is revealed as restored. -/
theorem keeps_reveal
    {ty : Ty}
    (h : ty.Uses s.Knows)
    (range : ByteRange) :
    Keeps env s (reveal ty range) anything := by
  apply keeps_get
  intro hSound
  apply keeps_locate
  intro location
  apply keeps_report
  intro _
  rw [Ty.restoreNames_text hSound.fresh h]
  exact .revealed ty h

------------------------------------------------------------
-- Names and Targets
------------------------------------------------------------

/- The type of a name has known names. -/
theorem keeps_nameType (id : String) :
    Keeps env s (nameType id) Ty.Uses := by
  unfold nameType
  apply keeps_get
  intro hSound
  split
  · rename_i ty scopes hFind
    exact keeps_instantiate (hSound.uses_of_find? hFind) _
  · rename_i info scopes hFind
    have hInfo : info.Uses s.Knows := hSound.uses_of_find? hFind
    exact keeps_instantiate
      (hInfo.ctorType fun _ => CheckState.knows_of_isName) _
  · exact keeps_pure trivial

/- The type of a member has known names. -/
theorem keeps_memberType
    {base : Ty}
    (hBase : base.Uses s.Knows)
    (attr : String) :
    Keeps env s (memberType base attr) Ty.Uses := by
  unfold memberType
  apply keeps_get
  intro hSound
  apply keeps_pure
  have hMember {name : String} {args : List TypeArg}
      (hArgs : ∀ a ∈ args, a.Uses s.Knows) :
      (((s.cls? name).bind fun c =>
        c.member? attr args).getD .any).Uses s.Knows := by
    cases hFind :
        (s.cls? name).bind fun c => c.member? attr args with
    | none => trivial
    | some t =>
        rcases Option.bind_eq_some_iff.mp hFind with
          ⟨c, hClass, hMember⟩
        exact (hSound.uses_of_cls? hClass).member? hArgs
          hMember
  cases base with
  | generic name args =>
      exact hMember (TypeArg.usesAll_iff.mp hBase.2)
  | cls name => exact hMember (List.forall_mem_nil _)
  | _ => trivial

mutual

/- Targets are bound to types with known names. -/
theorem keeps_bindTarget
    (target : Expr)
    {ty : Ty} {s : CheckState}
    (h : ty.Uses s.Knows) :
    Keeps env s (bindTarget target ty) anything := by
  cases target with
  | name id range => exact keeps_define id h
  | tuple items range =>
      exact keeps_bindTargets items fun _ => h.parts
  | list items range =>
      apply keeps_bindTargets items
      intro t ht
      rw [List.eq_of_mem_replicate ht]
      exact h.element
  | starred value range => exact keeps_bindTarget value trivial
  | _ => exact keeps_pure trivial

/- Targets are bound to types with known names. -/
theorem keeps_bindTargets
    (targets : List Expr)
    {tys : List Ty} {s : CheckState}
    (h : ∀ ty ∈ tys, ty.Uses s.Knows) :
    Keeps env s (bindTargets targets tys) anything := by
  cases targets with
  | nil => exact keeps_pure trivial
  | cons target targets =>
      cases tys with
      | nil => exact keeps_pure trivial
      | cons ty tys =>
          rw [List.forall_mem_cons] at h
          apply (keeps_bindTarget target h.1).bind
          intro _ t hst _
          exact keeps_bindTargets targets fun ty hty =>
            Ty.Uses.mono hst.knows ty (h.2 ty hty)

end

end Check

------------------------------------------------------------
-- Expressions
------------------------------------------------------------

open Check

/- What messages call a callee is plain. -/
theorem Expr.Named.isSignless_calleeName
    (e : Expr) (h : e.Named) : IsSignless e.calleeName := by
  cases e with
  | name id range => exact h.plain
  | member value attr range =>
      unfold Expr.calleeName
      rw [isSignless_append, isSignless_append]
      exact ⟨⟨Expr.Named.isSignless_calleeName value h.1,
        by decide⟩, h.2.plain⟩
  | call callee args keywords range =>
      exact Expr.Named.isSignless_calleeName callee h.1
  | _ => exact (by decide : IsSignless "callable")

/- The scope of a lambda has the names of its parameters. -/
theorem uses_lambdaScope
    (known : String → Prop)
    (params : List (String × Bool)) :
    (lambdaScope params).Uses known := by
  refine ⟨SymbolTable.uses_ofPairs ?_,
    List.forall_mem_nil _, List.forall_mem_nil _, nofun⟩
  intro pair hPair
  rcases List.mem_map.mp hPair with ⟨p, -, rfl⟩
  trivial

/- The argument is added behind the positional ones. -/
theorem CallArgs.Uses.addPositional
    {known : String → Prop} {args : CallArgs} {ty : Ty}
    (h : args.Uses known)
    (hTy : ty.Uses known) :
    CallArgs.Uses known
      { args with positional := args.positional ++ [ty] } := by
  refine ⟨?_, h.keywords⟩
  rw [List.forall_mem_append, List.forall_mem_singleton]
  exact ⟨h.positional, hTy⟩

/- The argument is added behind the keyword arguments. -/
theorem CallArgs.Uses.addKeyword
    {known : String → Prop} {args : CallArgs} {ty : Ty}
    (h : args.Uses known)
    {name : String}
    (hName : IsSignless name)
    (hTy : ty.Uses known) :
    CallArgs.Uses known
      { args with keywords := args.keywords ++ [(name, ty)] } := by
  refine ⟨h.positional, ?_⟩
  rw [List.forall_mem_append, List.forall_mem_singleton]
  exact ⟨h.keywords, hName, hTy⟩

/- Further names may become known. -/
theorem CallArgs.Uses.mono
    {known more : String → Prop}
    (hMore : ∀ v, known v → more v)
    {args : CallArgs}
    (h : args.Uses known) : args.Uses more where
  positional t ht := Ty.Uses.mono hMore t (h.positional t ht)
  keywords entry hEntry :=
    ⟨(h.keywords entry hEntry).1,
      Ty.Uses.mono hMore _ (h.keywords entry hEntry).2⟩

section Infer

variable {env : CheckEnv}

/- What is unpacked is inferred as a part. -/
theorem Expr.keeps_of_starred
    {s : CheckState} {value : Expr} {range : ByteRange}
    {P : (String → Prop) → Ty → Prop}
    (h : Keeps env s (Expr.starred value range).infer P) :
    Keeps env s value.infer anything :=
  fun hGood =>
    ⟨(h hGood).before, (h hGood).good, trivial⟩

mutual

/- The type of an expression has known names. -/
theorem Expr.keeps_infer
    (e : Expr) (h : e.Named) (s : CheckState) :
    Keeps env s e.infer Ty.Uses := by
  cases e with
  | literal value range =>
      apply keeps_pure
      cases value <;> trivial
  | formatted range => exact keeps_pure trivial
  | name id range => exact keeps_nameType id
  | member value attr range =>
      apply (value.keeps_infer h.1 s).bind
      intro base t _ hBase
      exact keeps_memberType hBase attr
  | subscript value index range =>
      apply (value.keeps_infer h.1 s).bind
      intro base t _ hBase
      apply (index.keeps_infer h.2 t).bind
      intro _ u htu _
      exact keeps_pure (Ty.Uses.mono htu.knows _ hBase.item)
  | call callee args keywords range =>
      unfold Expr.infer
      apply keeps_meaning
      intro m
      split
      · apply (Expr.keeps_inferFirst args h.2.1 s).bind
        intro ty t _ hTy
        apply (keeps_reveal hTy range).bind
        intro _ u htu _
        exact keeps_pure (Ty.Uses.mono htu.knows _ hTy)
      · apply (callee.keeps_infer h.1 s).bind
        intro ty t _ hTy
        have hEmpty : CallArgs.Uses t.Knows {} :=
          ⟨List.forall_mem_nil _, List.forall_mem_nil _⟩
        apply (Expr.keeps_inferArgs args h.2.1 t hEmpty).bind
        intro args' u htu hArgs
        apply (Keyword.keeps_inferAll keywords h.2.2 u hArgs).bind
        intro args' v huv hArgs
        apply keeps_read
        exact keeps_runCall
          (Expr.Named.isSignless_calleeName callee h.1)
          (Ty.Uses.mono (htu.trans huv).knows _ hTy) hArgs _
  | lambda params body range =>
      unfold Expr.infer
      apply Keeps.bind
      · exact (body.keeps_infer h.2 _).inScope
          (uses_lambdaScope _ params)
      · intro ret t _ hRet
        apply keeps_pure
        refine ⟨Parameter.usesAll_iff.mpr ?_, hRet⟩
        intro p hp
        rcases List.mem_map.mp hp with ⟨q, hq, rfl⟩
        refine ⟨?_, trivial⟩
        rintro n ⟨⟩
        exact h.1 q hq
  | list items range =>
      apply (Expr.keeps_inferAll items h s).bind
      intro tys t _ hTys
      exact keeps_pure (Ty.uses_joinOrAny hTys)
  | set items range =>
      apply (Expr.keeps_inferAll items h s).bind
      intro tys t _ hTys
      exact keeps_pure (Ty.uses_joinOrAny hTys)
  | tuple items range =>
      apply (Expr.keeps_inferAll items h s).bind
      intro tys t _ hTys
      exact keeps_pure (Ty.usesAll_iff.mpr hTys)
  | dict keys values range =>
      apply (Expr.keeps_inferAll keys h.1 s).bind
      intro keys t _ hKeys
      apply (Expr.keeps_inferAll values h.2 t).bind
      intro values u htu hValues
      exact keeps_pure
        ⟨Ty.Uses.mono htu.knows _ (Ty.uses_joinOrAny hKeys),
          Ty.uses_joinOrAny hValues⟩
  | boolean operands range =>
      apply (Expr.keeps_inferAll operands h s).bind
      intro tys t _ hTys
      exact keeps_pure (Ty.uses_unionOf hTys)
  | negation operand range =>
      apply (operand.keeps_infer h s).bind
      intro _ _ _ _
      exact keeps_pure trivial
  | unary operand range => exact operand.keeps_infer h s
  | binary left op right range =>
      apply (left.keeps_infer h.1 s).bind
      intro l t _ hLeft
      apply (right.keeps_infer h.2 t).bind
      intro r u htu _
      exact keeps_pure (Ty.uses_binary op r
        (Ty.Uses.mono htu.knows _ hLeft))
  | compare left others range =>
      apply (left.keeps_infer h.1 s).bind
      intro _ t _ _
      apply (Expr.keeps_inferAll others h.2 t).bind
      intro _ _ _ _
      exact keeps_pure trivial
  | conditional test body orelse range =>
      apply (test.keeps_infer h.1 s).bind
      intro _ t _ _
      apply (body.keeps_infer h.2.1 t).bind
      intro b u _ hBody
      apply (orelse.keeps_infer h.2.2 u).bind
      intro o v huv hOrelse
      exact keeps_pure (Ty.uses_unionOf_pair
        (Ty.Uses.mono huv.knows _ hBody) hOrelse)
  | named target value range =>
      apply (value.keeps_infer h.2 s).bind
      intro ty t _ hTy
      apply (keeps_bindTarget target hTy).bind
      intro _ u htu _
      exact keeps_pure (Ty.Uses.mono htu.knows _ hTy)
  | starred value range =>
      apply (value.keeps_infer h s).bind
      intro _ _ _ _
      exact keeps_pure trivial
  | await value range =>
      apply (value.keeps_infer h s).bind
      intro _ _ _ _
      exact keeps_pure trivial
  | closed range => exact keeps_pure trivial

/- The types of expressions have known names. -/
theorem Expr.keeps_inferAll
    (es : List Expr) (h : Expr.NamedAll es) (s : CheckState) :
    Keeps env s (Expr.inferAll es)
      fun known tys => ∀ ty ∈ tys, ty.Uses known := by
  cases es with
  | nil => exact keeps_pure (List.forall_mem_nil _)
  | cons e es =>
      apply (e.keeps_infer h.1 s).bind
      intro ty t _ hTy
      apply (Expr.keeps_inferAll es h.2 t).bind
      intro tys u htu hTys
      exact keeps_pure (List.forall_mem_cons.mpr
        ⟨Ty.Uses.mono htu.knows _ hTy, hTys⟩)

/- The type of the first expression has known names. -/
theorem Expr.keeps_inferFirst
    (es : List Expr) (h : Expr.NamedAll es) (s : CheckState) :
    Keeps env s (Expr.inferFirst es) Ty.Uses := by
  cases es with
  | nil => exact keeps_pure trivial
  | cons e es => exact e.keeps_infer h.1 s

/- The positional arguments of a call have known names. -/
theorem Expr.keeps_inferArgs
    (es : List Expr) (h : Expr.NamedAll es) (s : CheckState)
    {args : CallArgs}
    (hArgs : args.Uses s.Knows) :
    Keeps env s (Expr.inferArgs es args) CallArgs.Uses := by
  cases es with
  | nil => exact keeps_pure hArgs
  | cons e es =>
      have hInfer : Keeps env s e.infer Ty.Uses :=
        e.keeps_infer h.1 s
      unfold Expr.inferArgs
      split
      · exact keeps_pure hArgs
      · rename_i value range rest hStarred
        cases hStarred
        apply (Expr.keeps_of_starred hInfer).bind
        intro ty t hst _
        have hLater := hArgs.mono hst.knows
        exact Expr.keeps_inferArgs es h.2 t
          ⟨hLater.positional, hLater.keywords⟩
      · rename_i hCons
        cases hCons
        apply hInfer.bind
        intro ty t hst hTy
        exact Expr.keeps_inferArgs es h.2 t
          ((hArgs.mono hst.knows).addPositional hTy)

/- The keyword arguments of a call have known names. -/
theorem Keyword.keeps_inferAll
    (ks : List Keyword) (h : Keyword.NamedAll ks)
    (s : CheckState)
    {args : CallArgs}
    (hArgs : args.Uses s.Knows) :
    Keeps env s (Keyword.inferAll ks args) CallArgs.Uses := by
  cases ks with
  | nil => exact keeps_pure hArgs
  | cons k ks =>
      cases k with
      | mk name value =>
          unfold Keyword.inferAll
          apply (value.keeps_infer h.1.2 s).bind
          intro ty t hst hTy
          have hLater := hArgs.mono hst.knows
          cases name with
          | some name =>
              exact Keyword.keeps_inferAll ks h.2 t
                (hLater.addKeyword (h.1.1 name rfl).plain hTy)
          | none =>
              exact Keyword.keeps_inferAll ks h.2 t
                ⟨hLater.positional, hLater.keywords⟩

end

/- Looking at an expression keeps the state sound. -/
theorem Expr.keeps_visit
    {e : Expr} (h : e.Named) (s : CheckState) :
    Keeps env s e.visit anything := by
  apply (e.keeps_infer h s).bind
  intro _ _ _ _
  exact keeps_pure trivial

end Infer

end SigCheck
