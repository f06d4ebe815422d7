import SigCheck.Grammar.Statement
import SigCheck.Proofs.TokenNames

/-
  Names in syntax trees. Reading an expression gives a tree
  in which every name is the name of something, since names
  in trees are names among the tokens.

  Key definitions include:
    * `Expr.Named`, `Keyword.Named`
    * `ParamDef.Named`, `ParamDefs.Named`
    * `Rules.Named`

  Correctness is proven by:
    * `Rules.Named.goal`
    * `yields_exprAt`
-/

namespace SigCheck

open Parse

------------------------------------------------------------
-- Trees
------------------------------------------------------------

mutual

/- Every name in the expression is the name of something. -/
def Expr.Named : Expr → Prop
  | .name id _ => IsName id
  | .member value attr _ => value.Named ∧ IsName attr
  | .subscript value index _ => value.Named ∧ index.Named
  | .call callee args keywords _ =>
      callee.Named ∧ Expr.NamedAll args
        ∧ Keyword.NamedAll keywords
  | .lambda params body _ =>
      (∀ p ∈ params, IsName p.1) ∧ body.Named
  | .list items _ => Expr.NamedAll items
  | .set items _ => Expr.NamedAll items
  | .tuple items _ => Expr.NamedAll items
  | .dict keys values _ =>
      Expr.NamedAll keys ∧ Expr.NamedAll values
  | .boolean operands _ => Expr.NamedAll operands
  | .negation operand _ => operand.Named
  | .unary operand _ => operand.Named
  | .binary left _ right _ => left.Named ∧ right.Named
  | .compare left others _ =>
      left.Named ∧ Expr.NamedAll others
  | .conditional test body orelse _ =>
      test.Named ∧ body.Named ∧ orelse.Named
  | .named target value _ => target.Named ∧ value.Named
  | .starred value _ => value.Named
  | .await value _ => value.Named
  | .literal _ _ => True
  | .formatted _ => True
  | .closed _ => True

/- Every name in the expressions is valid. -/
def Expr.NamedAll : List Expr → Prop
  | [] => True
  | e :: es => e.Named ∧ Expr.NamedAll es

/- Every name in a keyword argument is valid. -/
def Keyword.Named : Keyword → Prop
  | ⟨name, value⟩ => (∀ n ∈ name, IsName n) ∧ value.Named

/- Every name in keyword arguments is valid. -/
def Keyword.NamedAll : List Keyword → Prop
  | [] => True
  | k :: ks => k.Named ∧ Keyword.NamedAll ks

end

@[simp]
theorem Expr.namedAll_iff {es : List Expr} :
    Expr.NamedAll es ↔ ∀ e ∈ es, e.Named := by
  induction es with
  | nil => simp [Expr.NamedAll]
  | cons e es ih => simp [Expr.NamedAll, ih]

@[simp]
theorem Keyword.namedAll_iff {ks : List Keyword} :
    Keyword.NamedAll ks ↔ ∀ k ∈ ks, k.Named := by
  induction ks with
  | nil => simp [Keyword.NamedAll]
  | cons k ks ih => simp [Keyword.NamedAll, ih]

/- Every name in a parameter is valid. -/
structure ParamDef.Named (p : ParamDef) : Prop where
  name : IsName p.name
  typeExpr : ∀ e ∈ p.typeExpr, e.Named

/- Every name in the parameters is valid. -/
def ParamDefs.Named (ps : ParamDefs) : Prop :=
  ∀ p ∈ ps.all, p.Named

------------------------------------------------------------
-- Parameter Lists
------------------------------------------------------------

namespace ParamState

variable {s : ParamState} {p : ParamDef}

/- A parameter is added among the others. -/
theorem named_add
    (hs : s.params.Named)
    (hp : p.Named) : (s.add p).params.Named := by
  intro q hq
  have hMem : q ∈ s.params.all ∨ q = p := by
    unfold ParamState.add at hq
    split at hq <;>
      simp only [ParamDefs.all, ParamDefs.positional,
        List.mem_append, List.mem_singleton] at hq ⊢ <;>
      grind
  rcases hMem with hq | rfl
  · exact hs q hq
  · exact hp

/- A slash keeps the parameters. -/
theorem named_slash
    (hs : s.params.Named) : s.slash.params.Named := by
  intro q hq
  apply hs
  simp only [ParamState.slash, ParamDefs.all,
    ParamDefs.positional, List.mem_append,
    List.append_nil] at hq ⊢
  grind

/- A star brings in its parameter. -/
theorem named_star
    {param : Option ParamDef}
    (hs : s.params.Named)
    (hp : ∀ p ∈ param, p.Named)
    (offset : Nat) : (s.star offset param).params.Named := by
  intro q hq
  have hMem : q ∈ s.params.all ∨ q ∈ param := by
    simp only [ParamState.star, ParamDefs.all,
      ParamDefs.positional, List.mem_append,
      Option.mem_toList] at hq ⊢
    grind
  rcases hMem with hq | hq
  · exact hs q hq
  · exact hp q hq

/- Two stars bring in their parameter. -/
theorem named_doubleStar
    {param : Option ParamDef}
    (hs : s.params.Named)
    (hp : ∀ p ∈ param, p.Named) :
    (s.doubleStar param).params.Named := by
  intro q hq
  have hMem : q ∈ s.params.all ∨ q ∈ param := by
    simp only [ParamState.doubleStar, ParamDefs.all,
      ParamDefs.positional, List.mem_append,
      Option.mem_toList] at hq ⊢
    grind
  rcases hMem with hq | hq
  · exact hs q hq
  · exact hp q hq

end ParamState

/- The ways of reading give parameters with valid names. -/
structure ParamReaders.Named (r : ParamReaders) : Prop where
  plain : Yields ParamDef.Named r.plain
  star : Yields ParamDef.Named r.star
  doubleStar : Yields ParamDef.Named r.doubleStar

/- A parameter that may be missing has valid names. -/
theorem yields_optionalParam
    {reader : Parse ParamDef}
    (h : Yields ParamDef.Named reader) :
    Yields (fun p => ∀ q ∈ p, q.Named)
      (optionalParam reader) := by
  unfold optionalParam
  apply yields_peek.bind
  intro t _
  split
  · apply h.bind
    intro p hp
    apply yields_pure
    intro q hq
    cases hq
    exact hp
  · exact yields_pure (by simp)

section ParameterList

variable {readers : ParamReaders}
variable (hReaders : readers.Named)

include hReaders

/- One item of a parameter list has valid names. -/
theorem yields_paramItem
    {s : ParamState}
    (hs : s.params.Named) :
    Yields (fun s => s.params.Named)
      (paramItem readers s) := by
  unfold paramItem
  apply yields_peek.bind
  intro t _
  split
  · split
    · exact yields_unexpected
    · exact hReaders.plain.bind
        fun p hp => yields_pure (ParamState.named_add hs hp)
  · split
    · exact yields_unexpected
    · exact safe_advance.bind
        fun _ _ => yields_pure (ParamState.named_slash hs)
  · split
    · exact yields_unexpected
    · apply safe_here.bind
      intro offset _
      apply safe_advance.seq
      exact (yields_optionalParam hReaders.star).bind
        fun p hp =>
          yields_pure (ParamState.named_star hs hp offset)
  · split
    · exact yields_unexpected
    · apply safe_advance.seq
      exact (yields_optionalParam hReaders.doubleStar).bind
        fun p hp =>
          yields_pure (ParamState.named_doubleStar hs hp)
  · exact yields_unexpected

/- The items of a parameter list have valid names. -/
theorem yields_paramItems
    (closing : String)
    (fuel : Nat)
    {s : ParamState}
    (hs : s.params.Named) :
    Yields (fun s => s.params.Named)
      (paramItems readers closing fuel s) := by
  induction fuel generalizing s with
  | zero => exact yields_unexpected
  | succ fuel ih =>
      unfold paramItems
      apply (yields_paramItem hReaders hs).bind
      intro s hs
      apply (safe_accept ",").ite
      · apply (safe_atSign closing).ite
        · exact yields_pure hs
        · exact ih hs
      · apply (safe_atSign closing).ite
        · exact yields_pure hs
        · exact yields_unexpected

omit hReaders in
/- A check of the stars reads nothing. -/
theorem safe_checkStar (s : ParamState) :
    Safe (checkStar s) := by
  unfold checkStar
  split
  · exact yields_pure trivial
  · split
    · exact yields_failAt _ _
    · exact yields_pure trivial

omit hReaders in
/- A check of the defaults reads nothing. -/
theorem safe_checkDefaults (ps : List ParamDef) :
    Safe (checkDefaults ps) := by
  unfold checkDefaults
  dsimp only
  split
  · exact yields_pure trivial
  · exact yields_failAt _ _

/- A parameter list has valid names. -/
theorem yields_parameterList
    (closing : String)
    (fuel : Nat) :
    Yields ParamDefs.Named
      (parameterList readers closing fuel) := by
  have hNone : ParamDefs.Named {} := by
    intro p hp
    cases hp
  unfold parameterList
  apply (safe_atSign closing).ite
  · exact yields_pure hNone
  · apply (yields_paramItems hReaders closing fuel
      (s := {}) hNone).bind
    intro s hs
    apply (safe_checkStar s).seq
    exact (safe_checkDefaults _).bind fun _ _ => yields_pure hs

end ParameterList

/- A check of the names reads nothing. -/
theorem safe_checkParamNames
    (follow : Follow)
    (ps : ParamDefs) : Safe (checkParamNames follow ps) := by
  unfold checkParamNames
  dsimp only
  split
  · exact yields_pure trivial
  · exact yields_failBefore _ _ _

------------------------------------------------------------
-- Arguments
------------------------------------------------------------

/- Every name in an argument is valid. -/
def RawArg.Named : RawArg → Prop
  | .positional value => value.Named
  | .keyword _ arg => arg.Named

/- Every name in the arguments is valid. -/
structure ArgList.Named (l : ArgList) : Prop where
  args : ∀ e ∈ l.args, e.Named
  keywords : ∀ k ∈ l.keywords, k.Named

/- One more argument of each sort. -/
theorem ArgList.Named.addArg
    {l : ArgList} {e : Expr}
    (h : l.Named)
    (he : e.Named) :
    ArgList.Named { l with args := l.args ++ [e] } :=
  ⟨List.forall_mem_append.mpr ⟨h.args, by simpa using he⟩,
    h.keywords⟩

/- One more argument of each sort. -/
theorem ArgList.Named.addKeyword
    {l : ArgList} {k : Keyword}
    (h : l.Named)
    (hk : k.Named) :
    ArgList.Named { l with keywords := l.keywords ++ [k] } :=
  ⟨h.args, List.forall_mem_append.mpr
    ⟨h.keywords, by simpa using hk⟩⟩

/- Sorted arguments keep their names. -/
theorem yields_checkArgs
    {raw : List RawArg} {done : ArgList}
    (hRaw : ∀ a ∈ raw, a.Named)
    (hDone : done.Named) :
    Yields ArgList.Named (checkArgs raw done) := by
  induction raw generalizing done with
  | nil => exact yields_pure hDone
  | cons a raw ih =>
      rw [List.forall_mem_cons] at hRaw
      cases a with
      | positional value =>
          unfold checkArgs
          split
          · exact yields_failAt _ _
          · split
            · exact yields_failAt _ _
            · exact ih hRaw.2 (hDone.addArg hRaw.1)
      | keyword start arg =>
          unfold checkArgs
          split
          · split
            · exact yields_failAt _ _
            · exact ih hRaw.2 (hDone.addKeyword hRaw.1)
          · exact ih hRaw.2 (hDone.addKeyword hRaw.1)

------------------------------------------------------------
-- Rules
------------------------------------------------------------

/- The readers of inner expressions give valid names. -/
def Rules.Named (g : Rules) : Prop :=
  ∀ goal, Yields Expr.Named (g.inner goal)

/- A part of a display with valid names. -/
abbrev YieldsElement (step : Parse Element) : Prop :=
  Yields (fun e : Element => e.value.Named) step

/- Expressions with valid names. -/
abbrev YieldsAll (step : Parse (List Expr)) : Prop :=
  Yields (fun es => ∀ e ∈ es, e.Named) step

/- Expressions with valid names, and something else. -/
abbrev YieldsList
    {β : Type} (step : Parse (List Expr × β)) : Prop :=
  Yields (fun r => ∀ e ∈ r.1, e.Named) step

namespace Rules

------------------------------------------------------------
-- Strings
------------------------------------------------------------

/- Reading strings leaves the other tokens. -/
theorem safe_stringRun (fuel : Nat) :
    Safe (stringRun fuel) := by
  induction fuel with
  | zero => exact yields_unexpected
  | succ fuel ih =>
      unfold stringRun
      apply yields_peek.bind
      intro t _
      split
      · apply safe_here.bind
        intro start _
        apply safe_advance.seq
        exact ih.bind fun _ _ => yields_pure trivial
      · exact yields_pure trivial

/- A string has no names. -/
theorem yields_stringAtom (g : Rules) (follow : Follow) :
    Yields Expr.Named (stringAtom g follow) := by
  unfold stringAtom
  apply safe_here.bind
  intro start _
  apply (safe_stringRun g.fuel).bind
  intro literals _
  apply (safe_rangeFrom start).bind
  intro range _
  split
  · exact yields_failBefore _ _ _
  · exact yields_pure trivial
  · exact yields_pure trivial
  · exact yields_pure trivial

------------------------------------------------------------
-- Operators
------------------------------------------------------------

section Operators

variable {g : Rules} {operand : Parse Expr}
variable (hOperand : Yields Expr.Named operand)

include hOperand

/- A factor has valid names. -/
theorem yields_factor (hg : g.Named) :
    Yields Expr.Named (factor operand g) := by
  unfold factor
  apply safe_here.bind
  intro start _
  apply (safe_acceptAny _).ite
  · apply (hg .factor).bind
    intro e he
    exact (safe_rangeFrom start).bind
      fun _ _ => yields_pure he
  · exact hOperand

/- Operators of one level keep names valid. -/
theorem yields_binaryRest
    (level : List (String × BinaryOp))
    (start fuel : Nat)
    {left : Expr}
    (hLeft : left.Named) :
    Yields Expr.Named
      (binaryRest level operand start fuel left) := by
  induction fuel generalizing left with
  | zero => exact yields_unexpected
  | succ fuel ih =>
      unfold binaryRest
      apply yields_peek.bind
      intro t _
      split
      · exact yields_pure hLeft
      · apply safe_advance.seq
        apply hOperand.bind
        intro right hRight
        exact (safe_rangeFrom start).bind
          fun _ _ => ih ⟨hLeft, hRight⟩

/- Operators of some levels keep names valid. -/
theorem yields_binaryAt
    (fuel : Nat)
    (levels : List (List (String × BinaryOp))) :
    Yields Expr.Named (binaryAt operand fuel levels) := by
  induction levels with
  | nil => exact hOperand
  | cons level levels ih =>
      unfold binaryAt
      apply safe_here.bind
      intro start _
      exact ih.bind
        fun left hLeft =>
          yields_binaryRest ih level start fuel hLeft

omit hOperand in
/- Accepting a comparison leaves the other tokens. -/
theorem safe_acceptComparison : Safe acceptComparison := by
  unfold acceptComparison
  apply yields_peek.bind
  intro t _
  split
  · apply safe_advance.seq
    exact (safe_expect _).bind fun _ _ => yields_pure trivial
  · apply safe_advance.seq
    exact (safe_accept _).bind fun _ _ => yields_pure trivial
  · split
    · exact safe_advance.bind fun _ _ => yields_pure trivial
    · exact yields_pure trivial
  · exact yields_pure trivial

/- Compared operands have valid names. -/
theorem yields_comparedRest (fuel : Nat) :
    YieldsAll (comparedRest operand fuel) := by
  induction fuel with
  | zero => exact yields_unexpected
  | succ fuel ih =>
      unfold comparedRest
      apply safe_acceptComparison.ite
      · apply hOperand.bind
        intro e he
        apply ih.bind
        intro es hes
        exact yields_pure (List.forall_mem_cons.mpr ⟨he, hes⟩)
      · exact yields_pure (by simp)

/- A comparison has valid names. -/
theorem yields_comparison (g : Rules) :
    Yields Expr.Named (comparison operand g) := by
  unfold comparison
  apply safe_here.bind
  intro start _
  apply hOperand.bind
  intro left hLeft
  apply (yields_comparedRest hOperand g.fuel).bind
  intro others hOthers
  split
  · exact yields_pure hLeft
  · exact (safe_rangeFrom start).bind
      fun _ _ =>
        yields_pure ⟨hLeft, Expr.namedAll_iff.mpr hOthers⟩

/- A negation has valid names. -/
theorem yields_notTest (hg : g.Named) :
    Yields Expr.Named (notTest operand g) := by
  unfold notTest
  apply safe_here.bind
  intro start _
  apply (safe_accept _).ite
  · apply (hg .notTest).bind
    intro e he
    exact (safe_rangeFrom start).bind
      fun _ _ => yields_pure he
  · exact yields_comparison hOperand g

/- Joined operands have valid names. -/
theorem yields_joinedRest (word : String) (fuel : Nat) :
    YieldsAll (joinedRest word operand fuel) := by
  induction fuel with
  | zero => exact yields_unexpected
  | succ fuel ih =>
      unfold joinedRest
      apply (safe_accept word).ite
      · apply hOperand.bind
        intro e he
        apply ih.bind
        intro es hes
        exact yields_pure (List.forall_mem_cons.mpr ⟨he, hes⟩)
      · exact yields_pure (by simp)

/- Tests joined by a word have valid names. -/
theorem yields_joined (word : String) (fuel : Nat) :
    Yields Expr.Named (joined word operand fuel) := by
  unfold joined
  apply safe_here.bind
  intro start _
  apply hOperand.bind
  intro first hFirst
  apply (yields_joinedRest hOperand word fuel).bind
  intro others hOthers
  split
  · exact yields_pure hFirst
  · exact (safe_rangeFrom start).bind
      fun _ _ =>
        yields_pure
          ⟨hFirst, Expr.namedAll_iff.mpr hOthers⟩

/- A test without a condition has valid names. -/
theorem yields_orTestOf (hg : g.Named) :
    Yields Expr.Named (orTestOf operand g) :=
  yields_joined
    (yields_joined (yields_notTest hOperand hg) "and" g.fuel)
    "or" g.fuel

/- An unpacked operand has valid names. -/
theorem yields_starredOf :
    Yields Expr.Named (starredOf operand) := by
  unfold starredOf
  apply safe_here.bind
  intro start _
  apply (safe_expect _).seq
  apply hOperand.bind
  intro e he
  exact (safe_rangeFrom start).bind fun _ _ => yields_pure he

end Operators

------------------------------------------------------------
-- Displays
------------------------------------------------------------

/- The readers give expressions with valid names. -/
structure Parts.Named (p : Parts) : Prop where
  operand : Yields Expr.Named p.operand
  orTest : Yields Expr.Named p.orTest

section Displays

variable {g : Rules} {p : Parts}

/- A test that may be bound to a name has valid names. -/
theorem yields_namedTest (hg : g.Named) :
    Yields Expr.Named g.namedTest := by
  unfold namedTest
  apply yields_peek.bind
  intro t ht
  apply safe_peekSecond.bind
  intro u _
  split
  · rename_i id
    apply safe_here.bind
    intro start _
    apply safe_advance.seq
    apply (safe_rangeFrom start).bind
    intro range _
    apply safe_advance.seq
    apply (hg .test).bind
    intro value hValue
    exact (safe_rangeFrom start).bind
      fun _ _ => yields_pure ⟨ht (.name id) rfl, hValue⟩
  · exact hg .test

/- A part of a display has valid names. -/
theorem yields_element
    (hg : g.Named)
    {operand : Parse Expr}
    (hOperand : Yields Expr.Named operand) :
    YieldsElement (element operand g) := by
  unfold element
  apply (safe_atSign _).ite
  · exact (yields_starredOf hOperand).bind
      fun _ he => yields_pure he
  · apply safe_peekSecond.bind
    intro t _
    exact (yields_namedTest hg).bind fun _ he => yields_pure he

/- Conditions are read and dropped. -/
theorem safe_conditions
    {orTest : Parse Expr}
    (hTest : Yields Expr.Named orTest)
    (fuel : Nat) : Safe (conditions orTest fuel) := by
  induction fuel with
  | zero => exact yields_unexpected
  | succ fuel ih =>
      unfold conditions
      apply (safe_accept _).ite
      · exact hTest.bind fun _ _ => ih
      · exact yields_pure trivial

/- Targets have valid names. -/
theorem yields_targetList
    {operand : Parse Expr}
    (hOperand : Yields Expr.Named operand)
    (fuel : Nat) :
    Yields Expr.Named (targetList operand fuel) := by
  have hTarget :
      Yields Expr.Named (do
        if ← atSign "*" then starredOf operand
        else operand) := by
    apply (safe_atSign _).ite
    · exact yields_starredOf hOperand
    · exact hOperand
  unfold targetList
  apply safe_here.bind
  intro start _
  apply (yields_separated hTarget fuel _).bind
  intro r hItems
  split
  · rename_i single
    exact yields_pure (hItems single (by simp))
  · exact (safe_rangeFrom start).bind
      fun _ _ => yields_pure (Expr.namedAll_iff.mpr hItems)

/- The loops of a comprehension are read and dropped. -/
theorem safe_comprehension
    {operand orTest : Parse Expr}
    (hOperand : Yields Expr.Named operand)
    (hTest : Yields Expr.Named orTest)
    (bound fuel : Nat) :
    Safe (comprehension operand orTest bound fuel) := by
  induction fuel with
  | zero => exact yields_unexpected
  | succ fuel ih =>
      unfold comprehension
      apply (safe_accept _).seq
      apply (safe_expect _).seq
      apply (yields_targetList hOperand bound).seq
      apply (safe_expect _).seq
      apply hTest.seq
      apply (safe_conditions hTest bound).seq
      apply yields_peek.ite
      · exact ih
      · exact yields_pure trivial

variable (hg : g.Named) (hp : p.Named)

include hg hp

omit hg in
/- The loops of a comprehension are read and dropped. -/
theorem safe_loops : Safe (g.loops p) :=
  safe_comprehension hp.operand hp.orTest g.fuel g.fuel

/- Elements up to a closing sign have valid names. -/
theorem yields_moreElements
    {first : Element}
    (hFirst : first.value.Named)
    (closing : String) :
    YieldsList (g.moreElements p first closing) := by
  have hOne : ∀ e ∈ [first.value], e.Named := by
    simpa using hFirst
  unfold moreElements
  apply (safe_accept _).ite
  · apply yields_peek.ite
    · apply (yields_separated (yields_element hg hp.operand)
        g.fuel _).bind
      rintro ⟨rest, trailing⟩ hRest
      apply (safe_expect _).seq
      have hValues : ∀ e ∈ rest.map (·.value), e.Named := by
        intro e he
        rcases List.mem_map.mp he with ⟨part, hPart, rfl⟩
        exact hRest part hPart
      exact yields_pure
        (List.forall_mem_cons.mpr ⟨hFirst, hValues⟩)
    · exact (safe_expect _).bind fun _ _ => yields_pure hOne
  · exact (safe_expect _).bind fun _ _ => yields_pure hOne

/- A list has valid names. -/
theorem yields_listDisplay :
    Yields Expr.Named (g.listDisplay p) := by
  unfold listDisplay
  apply safe_here.bind
  intro start _
  apply (safe_expect _).seq
  apply (safe_accept _).ite
  · exact (safe_rangeFrom start).bind
      fun _ _ => yields_pure trivial
  · apply (yields_element hg hp.operand).bind
    intro first hFirst
    apply yields_peek.ite
    · apply (safe_loops hp).seq
      apply (safe_expect _).seq
      exact (safe_rangeFrom start).bind
        fun _ _ => yields_pure trivial
    · apply (yields_moreElements hg hp hFirst _).bind
      rintro ⟨items, trailing⟩ hItems
      exact (safe_rangeFrom start).bind
        fun _ _ => yields_pure (Expr.namedAll_iff.mpr hItems)

/- An entry of a dictionary has valid names. -/
theorem yields_dictEntry :
    Yields
      (fun entry => (∀ e ∈ entry.1, e.Named) ∧ entry.2.Named)
      (g.dictEntry p) := by
  unfold dictEntry
  apply (safe_accept _).ite
  · apply hp.operand.bind
    intro e he
    exact yields_pure ⟨by simp, he⟩
  · apply (hg .test).bind
    intro key hKey
    apply (safe_expect _).seq
    apply (hg .test).bind
    intro value hValue
    exact yields_pure ⟨by simpa using hKey, hValue⟩

omit hg hp in
/- A dictionary of entries has their names. -/
theorem named_dictOf
    {entries : List (Option Expr × Expr)}
    (h :
      ∀ entry ∈ entries,
        (∀ e ∈ entry.1, e.Named) ∧ entry.2.Named)
    (range : ByteRange) : (dictOf entries range).Named := by
  constructor
  · rw [Expr.namedAll_iff]
    intro e he
    rcases List.mem_filterMap.mp he with ⟨entry, hEntry, hKey⟩
    exact (h entry hEntry).1 e hKey
  · rw [Expr.namedAll_iff]
    intro e he
    rcases List.mem_map.mp he with ⟨entry, hEntry, rfl⟩
    exact (h entry hEntry).2

/- Further entries of a dictionary have valid names. -/
theorem yields_dictRest
    (start : Nat)
    {first : Option Expr × Expr}
    (hFirst : (∀ e ∈ first.1, e.Named) ∧ first.2.Named) :
    Yields Expr.Named (g.dictRest p start first) := by
  have hOne (range : ByteRange) :
      (dictOf [first] range).Named :=
    named_dictOf (by simpa using hFirst) range
  unfold dictRest
  apply (safe_accept _).ite
  · apply yields_peek.ite
    · apply (yields_separated (yields_dictEntry hg hp)
        g.fuel _).bind
      rintro ⟨rest, trailing⟩ hRest
      apply (safe_expect _).seq
      apply (safe_rangeFrom start).bind
      intro range _
      exact yields_pure
        (named_dictOf
          (List.forall_mem_cons.mpr ⟨hFirst, hRest⟩) range)
    · apply (safe_expect _).seq
      exact (safe_rangeFrom start).bind
        fun range _ => yields_pure (hOne range)
  · apply (safe_expect _).seq
    exact (safe_rangeFrom start).bind
      fun range _ => yields_pure (hOne range)

/- A dictionary or a set has valid names. -/
theorem yields_braceDisplay :
    Yields Expr.Named (g.braceDisplay p) := by
  have hClosed (start : Nat) :
      Yields Expr.Named (do
        g.loops p
        expect "\x7d"
        return .closed (← rangeFrom start)) := by
    apply (safe_loops hp).seq
    apply (safe_expect _).seq
    exact (safe_rangeFrom start).bind
      fun _ _ => yields_pure trivial
  unfold braceDisplay
  apply safe_here.bind
  intro start _
  apply (safe_expect _).seq
  apply (safe_accept _).ite
  · exact (safe_rangeFrom start).bind
      fun _ _ => yields_pure ⟨trivial, trivial⟩
  · apply (safe_atSign _).ite
    · exact (yields_dictEntry hg hp).bind
        fun first hFirst =>
          yields_dictRest hg hp start hFirst
    · apply (yields_element hg hp.operand).bind
      intro first hFirst
      apply (safe_atSign _).ite
      · apply safe_advance.seq
        apply (hg .test).bind
        intro value hValue
        apply yields_peek.ite
        · exact hClosed start
        · exact yields_dictRest hg hp start
            ⟨by simpa using hFirst, hValue⟩
      · apply yields_peek.ite
        · exact hClosed start
        · apply (yields_moreElements hg hp hFirst _).bind
          rintro ⟨items, trailing⟩ hItems
          exact (safe_rangeFrom start).bind
            fun _ _ =>
              yields_pure (Expr.namedAll_iff.mpr hItems)

omit hp in
/- Tests between commas have valid names. -/
theorem yields_testListOf
    {operand : Parse Expr}
    (hOperand : Yields Expr.Named operand) :
    YieldsElement (g.testListOf operand) := by
  have hItem :
      Yields Expr.Named (do
        if ← atSign "*" then starredOf operand
        else g.inner .test) := by
    apply (safe_atSign _).ite
    · exact yields_starredOf hOperand
    · exact hg .test
  unfold testListOf
  apply safe_here.bind
  intro start _
  apply (yields_separated hItem g.fuel _).bind
  intro r hItems
  split
  · rename_i single
    exact yields_pure (hItems single (by simp))
  · exact (safe_rangeFrom start).bind
      fun _ _ => yields_pure (Expr.namedAll_iff.mpr hItems)

omit hp in
/- Nothing is kept of a `yield`. -/
theorem yields_yieldExpr
    {operand : Parse Expr}
    (hOperand : Yields Expr.Named operand) :
    Yields Expr.Named (g.yieldExpr operand) := by
  have hDone (start : Nat) :
      Yields Expr.Named (do
        return .closed (← rangeFrom start)) :=
    (safe_rangeFrom start).bind fun _ _ => yields_pure trivial
  unfold yieldExpr
  apply safe_here.bind
  intro start _
  apply (safe_expect _).seq
  apply (safe_accept _).bind
  intro b _
  dsimp only
  split
  · exact (hg .test).bind fun _ _ => hDone start
  · apply yields_peek.ite
    · exact (yields_testListOf hg hOperand).bind
        fun _ _ => hDone start
    · exact hDone start

/- What stands between round brackets has valid names. -/
theorem yields_roundDisplay :
    Yields Expr.Named (g.roundDisplay p) := by
  unfold roundDisplay
  apply safe_here.bind
  intro start _
  apply (safe_expect _).seq
  apply (safe_accept _).ite
  · exact (safe_rangeFrom start).bind
      fun _ _ => yields_pure trivial
  · apply (safe_atSign _).ite
    · apply (yields_yieldExpr hg hp.operand).bind
      intro value hValue
      exact (safe_expect _).bind fun _ _ => yields_pure hValue
    · apply (safe_atSign _).ite
      · apply safe_here.bind
        intro offset _
        apply safe_advance.seq
        apply hp.operand.seq
        apply (safe_expect _).seq
        exact (safe_followOfAtom start).bind
          fun _ _ => yields_failBefore _ _ _
      · apply (yields_element hg hp.operand).bind
        intro first hFirst
        apply yields_peek.ite
        · apply (safe_loops hp).seq
          apply (safe_expect _).seq
          exact (safe_rangeFrom start).bind
            fun _ _ => yields_pure trivial
        · apply (yields_moreElements hg hp hFirst _).bind
          intro r hItems
          split
          · rename_i single
            split
            · exact (safe_followOfAtom start).bind
                fun _ _ => yields_failBefore _ _ _
            · exact yields_pure (hItems single (by simp))
          · exact (safe_rangeFrom start).bind
              fun _ _ =>
                yields_pure (Expr.namedAll_iff.mpr hItems)

------------------------------------------------------------
-- Calls and Subscripts
------------------------------------------------------------

/- One argument of a call has valid names. -/
theorem yields_argument :
    Yields RawArg.Named (g.argument p) := by
  unfold argument
  apply safe_here.bind
  intro start _
  apply yields_peek.bind
  intro t ht
  apply safe_peekSecond.bind
  intro u _
  split
  · exact (yields_starredOf (hg .test)).bind
      fun _ he => yields_pure he
  · apply safe_advance.seq
    exact (hg .test).bind
      fun _ he => yields_pure ⟨by simp, he⟩
  · rename_i id
    have hName : IsName id := ht (.name id) rfl
    apply safe_advance.seq
    apply safe_advance.seq
    exact (hg .test).bind
      fun _ he => yields_pure ⟨by simpa using hName, he⟩
  · apply (yields_namedTest hg).bind
    intro value hValue
    apply yields_peek.ite
    · apply (safe_loops hp).seq
      exact (safe_rangeFrom start).bind
        fun _ _ => yields_pure trivial
    · exact yields_pure hValue

/- The arguments of a call have valid names. -/
theorem yields_arguments :
    Yields ArgList.Named (g.arguments p) := by
  have hNone : ArgList.Named {} := ⟨by simp, by simp⟩
  unfold arguments
  apply (safe_expect _).seq
  apply (safe_accept _).ite
  · exact yields_pure hNone
  · apply (yields_separated (yields_argument hg hp)
      g.fuel _).bind
    rintro ⟨raw, trailing⟩ hRaw
    apply (safe_atSign _).bind
    intro b _
    have hDone :
        Yields ArgList.Named (do
          let args ← checkArgs raw {}
          advance
          return args) := by
      apply (yields_checkArgs hRaw hNone).bind
      intro args hArgs
      exact safe_advance.bind fun _ _ => yields_pure hArgs
    dsimp only
    split
    · exact yields_unexpected.bind
        (P := fun _ => True) fun _ _ => hDone
    · exact hDone

omit hp in
/- What a slice has is read and dropped. -/
theorem safe_sliceRest : Safe g.sliceRest := by
  have hSecond : Safe (do
      if ← accept ":" then
        if (← peek).any startsTest then
          let _ ← g.inner .test) := by
    apply (safe_accept _).ite
    · apply yields_peek.ite
      · exact (hg .test).bind fun _ _ => yields_pure trivial
      · exact yields_pure trivial
    · exact yields_pure trivial
  unfold sliceRest
  apply (safe_expect _).seq
  apply yields_peek.bind
  intro t _
  dsimp only
  split
  · exact (hg .test).bind fun _ _ => hSecond
  · exact hSecond

/- An index has valid names. -/
theorem yields_index :
    Yields Expr.Named (g.index p) := by
  have hClosed (start : Nat) :
      Yields Expr.Named (do
        g.sliceRest
        return .closed (← rangeFrom start)) := by
    apply (safe_sliceRest hg).seq
    exact (safe_rangeFrom start).bind
      fun _ _ => yields_pure trivial
  unfold index
  apply safe_here.bind
  intro start _
  apply (safe_atSign _).ite
  · exact hClosed start
  · apply (yields_element hg hp.operand).bind
    intro first hFirst
    apply (safe_atSign _).ite
    · exact hClosed start
    · exact yields_pure hFirst

/- The indices between square brackets have valid names. -/
theorem yields_indices :
    Yields Expr.Named (g.indices p) := by
  unfold indices
  apply (safe_expect _).seq
  apply safe_here.bind
  intro start _
  apply (yields_separated (yields_index hg hp) g.fuel _).bind
  intro r hItems
  split
  · rename_i single
    exact (safe_expect _).bind
      fun _ _ => yields_pure (hItems single (by simp))
  · apply (safe_rangeFrom start).bind
    intro range _
    exact (safe_expect _).bind
      fun _ _ => yields_pure (Expr.namedAll_iff.mpr hItems)

------------------------------------------------------------
-- Primaries
------------------------------------------------------------

/- An atom has valid names. -/
theorem yields_atom : Yields Expr.Named (g.atom p) := by
  unfold atom
  apply safe_here.bind
  intro start _
  apply yields_peek.bind
  intro t ht
  split
  · exact yields_unexpected
  · rename_i id
    apply safe_advance.seq
    exact (safe_rangeFrom start).bind
      fun _ _ => yields_pure (ht (.name id) rfl)
  · exact (safe_followOfAtom start).bind
      fun _ _ => yields_stringAtom g _
  · exact yields_roundDisplay hg hp
  · exact yields_listDisplay hg hp
  · exact yields_braceDisplay hg hp
  · split
    · apply safe_advance.seq
      exact (safe_rangeFrom start).bind
        fun _ _ => yields_pure trivial
    · exact yields_unexpected

/- Members, calls and subscripts have valid names. -/
theorem yields_trailers
    (start fuel : Nat)
    {value : Expr}
    (hValue : value.Named) :
    Yields Expr.Named (g.trailers p start fuel value) := by
  induction fuel generalizing value with
  | zero => exact yields_unexpected
  | succ fuel ih =>
      unfold trailers
      apply yields_peek.bind
      intro t _
      split
      · apply (yields_arguments hg hp).bind
        intro args hArgs
        apply (safe_rangeFrom start).bind
        intro range _
        exact ih ⟨hValue, Expr.namedAll_iff.mpr hArgs.args,
          Keyword.namedAll_iff.mpr hArgs.keywords⟩
      · apply (yields_indices hg hp).bind
        intro item hItem
        exact (safe_rangeFrom start).bind
          fun _ _ => ih ⟨hValue, hItem⟩
      · apply safe_advance.seq
        apply yields_identifier.bind
        intro name hName
        exact (safe_rangeFrom start).bind
          fun _ _ => ih ⟨hValue, hName⟩
      · exact yields_pure hValue

/- A primary has valid names. -/
theorem yields_primary : Yields Expr.Named (g.primary p) := by
  unfold primary
  apply safe_here.bind
  intro start _
  apply (safe_accept _).bind
  intro awaited _
  apply safe_here.bind
  intro from_ _
  apply (yields_atom hg hp).bind
  intro first hFirst
  apply (yields_trailers hg hp from_ g.fuel hFirst).bind
  intro value hValue
  split
  · exact (safe_rangeFrom start).bind
      fun _ _ => yields_pure hValue
  · exact yields_pure hValue

/- A power has valid names. -/
theorem yields_power : Yields Expr.Named (g.power p) := by
  unfold power
  apply safe_here.bind
  intro start _
  apply (yields_primary hg hp).bind
  intro base hBase
  apply (safe_accept _).ite
  · apply (hg .factor).bind
    intro exponent hExponent
    exact (safe_rangeFrom start).bind
      fun _ _ => yields_pure ⟨hBase, hExponent⟩
  · exact yields_pure hBase

end Displays

------------------------------------------------------------
-- Tests
------------------------------------------------------------

section Tests

variable {g : Rules}
variable (hg : g.Named)

include hg

/- The readers inside brackets give valid names. -/
theorem named_innerParts : g.innerParts.Named := by
  have hOperand :=
    yields_binaryAt (hg .factor) g.fuel binaryLevels
  have hNot :
      Yields Expr.Named (do
        if ← atSign "not" then g.inner .notTest
        else
          comparison
            (binaryAt (g.inner .factor) g.fuel binaryLevels)
            g) := by
    apply (safe_atSign _).ite
    · exact hg .notTest
    · exact yields_comparison hOperand g
  exact ⟨hOperand,
    yields_joined (yields_joined hNot "and" g.fuel) "or"
      g.fuel⟩

/- A factor has valid names. -/
theorem yields_factorExpr :
    Yields Expr.Named g.factorExpr :=
  yields_factor (yields_power hg (named_innerParts hg)) hg

/- Operands have valid names. -/
theorem yields_operand : Yields Expr.Named g.operand :=
  yields_binaryAt (yields_factorExpr hg) g.fuel binaryLevels

/- A test without a condition has valid names. -/
theorem yields_orTest : Yields Expr.Named g.orTest :=
  yields_orTestOf (yields_operand hg) hg

omit hg in
/- A bare parameter has a valid name. -/
theorem yields_bareParam : Yields ParamDef.Named bareParam := by
  unfold bareParam
  apply safe_here.bind
  intro start _
  apply yields_identifier.bind
  intro name hName
  exact (safe_rangeFrom start).bind
    fun _ _ => yields_pure ⟨hName, by simp⟩

/- A default does not change the names of a parameter. -/
theorem yields_withDefault
    {reader : Parse ParamDef}
    (hReader : Yields ParamDef.Named reader) :
    Yields ParamDef.Named (g.withDefault reader) := by
  unfold withDefault
  apply hReader.bind
  intro param hParam
  apply (safe_accept _).ite
  · exact (hg .test).bind
      fun _ _ => yields_pure ⟨hParam.name, hParam.typeExpr⟩
  · exact yields_pure hParam

/- A lambda has valid names. -/
theorem yields_lambda : Yields Expr.Named g.lambda := by
  have hReaders : ParamReaders.Named
      ⟨g.withDefault bareParam, bareParam, bareParam⟩ :=
    ⟨yields_withDefault hg yields_bareParam,
      yields_bareParam, yields_bareParam⟩
  unfold lambda
  apply safe_here.bind
  intro start _
  apply (safe_expect _).seq
  apply (yields_parameterList hReaders _ g.fuel).bind
  intro params hParams
  apply (safe_expect _).seq
  apply (hg .test).bind
  intro body hBody
  apply (safe_checkParamNames _ params).seq
  apply (safe_rangeFrom start).bind
  intro range _
  refine yields_pure ⟨?_, hBody⟩
  intro q hq
  rcases List.mem_map.mp hq with ⟨p, hp, rfl⟩
  apply ParamDef.Named.name
  apply hParams
  unfold ParamDefs.all
  simp [hp]

/- A test has valid names. -/
theorem yields_test : Yields Expr.Named g.test := by
  unfold test
  apply (safe_atSign _).ite
  · exact yields_lambda hg
  · apply safe_here.bind
    intro start _
    apply (yields_orTest hg).bind
    intro body hBody
    apply (safe_accept _).ite
    · apply (yields_orTest hg).bind
      intro condition hCondition
      apply (safe_expect _).seq
      apply (hg .test).bind
      intro orelse hOrelse
      exact (safe_rangeFrom start).bind
        fun _ _ => yields_pure ⟨hCondition, hBody, hOrelse⟩
    · exact yields_pure hBody

/- Every kind of inner expression has valid names. -/
theorem Named.goal (goal : Goal) :
    Yields Expr.Named (g.goal goal) := by
  cases goal with
  | test => exact yields_test hg
  | notTest => exact yields_notTest (yields_operand hg) hg
  | factor => exact yields_factorExpr hg

/- Tests between commas have valid names. -/
theorem yields_testList : YieldsElement g.testList :=
  yields_testListOf hg (yields_operand hg)

/- What is assigned has valid names. -/
theorem yields_assigned : Yields Expr.Named g.assigned := by
  unfold assigned
  apply (safe_atSign _).ite
  · exact yields_yieldExpr hg (yields_operand hg)
  · exact (yields_testList hg).bind fun _ he => yields_pure he

end Tests

end Rules

------------------------------------------------------------
-- Nesting
------------------------------------------------------------

/- Nested expressions have valid names. -/
theorem yields_exprAt
    (check : Format.ExprCheck)
    (depth : Nat)
    (goal : Goal) :
    Yields Expr.Named (exprAt check depth goal) := by
  induction depth generalizing goal with
  | zero => exact yields_unexpected
  | succ depth ih =>
      have hRules : Rules.Named ⟨exprAt check depth, check, depth⟩ :=
        ih
      exact hRules.goal goal

/- The rules for a text give valid names. -/
theorem named_rulesFor
    (check : Format.ExprCheck)
    (size : Nat) : (rulesFor check size).Named :=
  yields_exprAt check (size + 2)

end SigCheck
