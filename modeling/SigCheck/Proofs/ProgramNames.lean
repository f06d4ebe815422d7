import SigCheck.Grammar.Program
import SigCheck.Proofs.TreeNames

/-
  Names in programs. Whatever text is read, be it a module
  or an expression in a string, the tree has names of
  something only.

  Key definitions include:
    * `Stmt.Named`
    * `FunctionHead.Named`, `ClassHead.Named`

  Correctness is proven by:
    * `named_of_parseExpression`
    * `named_of_parseModule`
-/

namespace SigCheck

open Parse

------------------------------------------------------------
-- Statements
------------------------------------------------------------

/- Every name in the header of a function is valid. -/
structure FunctionHead.Named (head : FunctionHead) : Prop where
  params : head.params.Named
  decorators : ∀ e ∈ head.decorators, e.Named
  returns : ∀ e ∈ head.returns, e.Named

/- Every name in the header of a class is valid. -/
structure ClassHead.Named (head : ClassHead) : Prop where
  name : IsName head.name
  bases : ∀ e ∈ head.bases, e.Named
  keywords : ∀ k ∈ head.keywords, k.Named
  decorators : ∀ e ∈ head.decorators, e.Named

/- Every name in an item of a `with` statement is valid. -/
structure WithItem.Named (item : WithItem) : Prop where
  context : item.context.Named
  target : ∀ e ∈ item.target, e.Named

mutual

/- Every name in the statement is valid. -/
def Stmt.Named : Stmt → Prop
  | .function head body => head.Named ∧ Stmt.NamedAll body
  | .cls head body => head.Named ∧ Stmt.NamedAll body
  | .assign targets value =>
      (∀ e ∈ targets, e.Named) ∧ value.Named
  | .annotated target typeExpr value =>
      target.Named ∧ typeExpr.Named ∧ ∀ e ∈ value, e.Named
  | .augmented value => value.Named
  | .ret value _ => ∀ e ∈ value, e.Named
  | .expr value => value.Named
  | .branch test body orelse =>
      test.Named ∧ Stmt.NamedAll body ∧ Stmt.NamedAll orelse
  | .whileLoop test body orelse =>
      test.Named ∧ Stmt.NamedAll body ∧ Stmt.NamedAll orelse
  | .forLoop _ target iter body orelse =>
      (target.Named ∧ iter.Named)
        ∧ Stmt.NamedAll body ∧ Stmt.NamedAll orelse
  | .withBlock items body =>
      (∀ item ∈ items, item.Named) ∧ Stmt.NamedAll body
  | .tryBlock body handlers orelse finalbody =>
      (Stmt.NamedAll body ∧ Handler.NamedAll handlers)
        ∧ Stmt.NamedAll orelse ∧ Stmt.NamedAll finalbody
  | .raise exc => ∀ e ∈ exc, e.Named
  | .assert test => test.Named
  | .importModules _ => True
  | .importNames _ _ => True
  | .inert => True

/- Every name in the statements is valid. -/
def Stmt.NamedAll : List Stmt → Prop
  | [] => True
  | s :: rest => s.Named ∧ Stmt.NamedAll rest

/- Every name in the handlers is valid. -/
def Handler.NamedAll : List Handler → Prop
  | [] => True
  | ⟨_, body⟩ :: rest =>
      Stmt.NamedAll body ∧ Handler.NamedAll rest

end

/- Statements one after the other have valid names. -/
theorem Stmt.namedAll_append
    {ss ts : List Stmt}
    (hs : Stmt.NamedAll ss)
    (ht : Stmt.NamedAll ts) : Stmt.NamedAll (ss ++ ts) := by
  induction ss with
  | nil => exact ht
  | cons s ss ih => exact ⟨hs.1, ih hs.2⟩

/- A statement alone. -/
theorem Stmt.namedAll_singleton
    {s : Stmt}
    (h : s.Named) : Stmt.NamedAll [s] :=
  ⟨h, trivial⟩

/- Handlers that all have valid names. -/
theorem Handler.namedAll_of_forall
    {handlers : List Handler}
    (h : ∀ k ∈ handlers, Stmt.NamedAll k.body) :
    Handler.NamedAll handlers := by
  induction handlers with
  | nil => trivial
  | cons k handlers ih =>
      rw [List.forall_mem_cons] at h
      cases k
      exact ⟨h.1, ih h.2⟩

------------------------------------------------------------
-- Patterns
------------------------------------------------------------

namespace Pattern

/- A number is read and dropped. -/
theorem safe_plainNumber : Safe plainNumber := by
  unfold plainNumber
  apply yields_peek.ite
  · exact safe_advance
  · exact yields_unexpected

/- A number is read and dropped. -/
theorem safe_number : Safe number := by
  unfold number
  apply (safe_accept _).seq
  apply safe_plainNumber.seq
  apply (safe_acceptAny _).ite
  · exact safe_plainNumber
  · exact yields_pure trivial

/- Names with dots are read and dropped. -/
theorem safe_memberNames (fuel : Nat) :
    Safe (memberNames fuel) := by
  induction fuel with
  | zero => exact yields_unexpected
  | succ fuel ih =>
      unfold memberNames
      apply (safe_accept _).ite
      · exact yields_identifier.bind fun _ _ => ih
      · exact yields_pure trivial

/- Names with dots are read and dropped. -/
theorem safe_dotted (fuel : Nat) : Safe (dotted fuel) := by
  unfold dotted
  apply yields_identifier.seq
  apply (safe_expect _).seq
  exact yields_identifier.bind
    fun _ _ => safe_memberNames fuel

/- A constant is read and dropped. -/
theorem safe_constant? (g : Rules) (follow : Follow) :
    Safe (constant? g follow) := by
  unfold constant?
  apply yields_peek.bind
  intro t _
  split
  · exact safe_advance.bind fun _ _ => yields_pure trivial
  · split
    · exact safe_number.bind fun _ _ => yields_pure trivial
    · split
      · exact (Rules.yields_stringAtom g follow).bind
          fun _ _ => yields_pure trivial
      · exact yields_pure trivial

section Inner

variable {inner : Parse Unit}
variable (hInner : Safe inner)

include hInner

/- Patterns in a row are read and dropped. -/
theorem safe_sequenceUpTo (closing : String) (fuel : Nat) :
    Safe (sequenceUpTo inner closing fuel) := by
  unfold sequenceUpTo
  apply (safe_accept closing).ite
  · exact (yields_separated hInner fuel _).bind
      fun _ _ => safe_expect closing
  · exact yields_pure trivial

/- Entries of a mapping are read and dropped. -/
theorem safe_entries (g : Rules) (fuel : Nat) :
    Safe (entries g inner fuel) := by
  induction fuel with
  | zero => exact yields_unexpected
  | succ fuel ih =>
      have hRest : Safe (do
          expect ":"
          inner
          if ← accept "," then
            if (← peek).any startsEntry then
              entries g inner fuel) := by
        apply (safe_expect _).seq
        apply hInner.seq
        apply (safe_accept _).ite
        · apply yields_peek.ite
          · exact ih
          · exact yields_pure trivial
        · exact yields_pure trivial
      unfold entries
      apply (safe_accept _).ite
      · apply yields_identifier.seq
        exact (safe_accept _).bind
          fun _ _ => yields_pure trivial
      · apply (safe_constant? g _).bind
        intro b _
        dsimp only
        split
        · exact (safe_dotted g.fuel).bind fun _ _ => hRest
        · exact hRest

/- Arguments with names are read and dropped. -/
theorem safe_namedArgs (fuel : Nat) :
    Safe (namedArgs inner fuel) := by
  induction fuel with
  | zero => exact yields_unexpected
  | succ fuel ih =>
      unfold namedArgs
      apply yields_identifier.seq
      apply (safe_expect _).seq
      apply hInner.seq
      apply (safe_accept _).ite
      · apply (safe_atSign _).ite
        · exact ih
        · exact yields_pure trivial
      · exact yields_pure trivial

/- Arguments of a class are read and dropped. -/
theorem safe_classArgs (fuel : Nat) :
    Safe (classArgs inner fuel) := by
  induction fuel with
  | zero => exact yields_unexpected
  | succ fuel ih =>
      unfold classArgs
      apply safe_peekSecond.ite
      · exact safe_namedArgs hInner _
      · apply hInner.seq
        apply (safe_accept _).ite
        · apply (safe_atSign _).ite
          · exact ih
          · exact yields_pure trivial
        · exact yields_pure trivial

/- A closed pattern is read and dropped. -/
theorem safe_closed (g : Rules) : Safe (closed g inner) := by
  unfold closed
  apply (safe_accept _).ite
  · exact yields_identifier.bind fun _ _ => yields_pure trivial
  · apply (safe_accept _).ite
    · exact safe_sequenceUpTo hInner _ _
    · apply (safe_accept _).ite
      · exact safe_sequenceUpTo hInner _ _
      · apply (safe_accept _).ite
        · apply (safe_accept _).ite
          · exact (safe_entries hInner g g.fuel).bind
              fun _ _ => safe_expect _
          · exact yields_pure trivial
        · apply (safe_constant? g _).ite
          · exact yields_pure trivial
          · apply yields_identifier.seq
            apply (safe_memberNames g.fuel).seq
            apply (safe_accept _).ite
            · apply (safe_accept _).ite
              · exact (safe_classArgs hInner g.fuel).bind
                  fun _ _ => safe_expect _
              · exact yields_pure trivial
            · exact yields_pure trivial

/- Alternatives are read and dropped. -/
theorem safe_alternatives (g : Rules) (fuel : Nat) :
    Safe (alternatives g inner fuel) := by
  induction fuel with
  | zero => exact yields_unexpected
  | succ fuel ih =>
      unfold alternatives
      apply (safe_closed hInner g).seq
      apply (safe_accept _).ite
      · exact ih
      · exact yields_pure trivial

/- A whole pattern is read and dropped. -/
theorem safe_whole (g : Rules) : Safe (whole g inner) := by
  unfold whole
  apply safe_here.bind
  intro start _
  apply (safe_alternatives hInner g g.fuel).seq
  apply (safe_accept _).ite
  · apply yields_identifier.bind
    intro name _
    split
    · exact yields_failBefore _ _ _
    · exact yields_pure trivial
  · exact yields_pure trivial

end Inner

/- Nested patterns are read and dropped. -/
theorem safe_reader (g : Rules) (depth : Nat) :
    Safe (reader g depth) := by
  induction depth with
  | zero => exact yields_unexpected
  | succ depth ih => exact safe_whole ih g

/- The patterns of a case are read and dropped. -/
theorem safe_caseList (g : Rules) : Safe (caseList g) := by
  unfold caseList
  exact (yields_separated (safe_reader g g.fuel)
    g.fuel _).bind fun _ _ => yields_pure trivial

end Pattern

------------------------------------------------------------
-- Small Statements
------------------------------------------------------------

namespace Rules

section Small

variable {g : Rules}
variable (hg : g.Named)

include hg

/- What is assigned in a chain has valid names. -/
theorem yields_assignedRest (fuel : Nat) :
    YieldsAll (g.assignedRest fuel) := by
  induction fuel with
  | zero => exact yields_unexpected
  | succ fuel ih =>
      unfold assignedRest
      apply (safe_accept _).ite
      · apply (yields_assigned hg).bind
        intro next hNext
        apply ih.bind
        intro rest hRest
        exact yields_pure
          (List.forall_mem_cons.mpr ⟨hNext, hRest⟩)
      · exact yields_pure (by simp)

omit hg in
/- A chain of assignments has the names of its parts. -/
theorem named_assignment
    {first : Expr} {rest : List Expr}
    (hFirst : first.Named)
    (hRest : ∀ e ∈ rest, e.Named) :
    (assignment first rest).Named := by
  cases rest with
  | nil => exact hFirst
  | cons next rest =>
      rw [List.forall_mem_cons] at hRest
      constructor
      · intro e he
        have hMem := List.dropLast_subset _ he
        simp only [List.mem_cons] at hMem
        rcases hMem with rfl | rfl | hMem
        · exact hFirst
        · exact hRest.1
        · exact hRest.2 e hMem
      · cases hLast : rest.getLast? with
        | none => exact hRest.1
        | some last =>
            exact hRest.2 last (List.mem_of_getLast? hLast)

/- An expression as a statement has valid names. -/
theorem yields_expressionStatement :
    Yields Stmt.Named g.expressionStatement := by
  unfold expressionStatement
  apply (yields_testList hg).bind
  intro first hFirst
  apply (safe_atSign _).ite
  · apply safe_advance.seq
    apply (hg .test).bind
    intro typeExpr hType
    apply (safe_accept _).ite
    · apply (yields_assigned hg).bind
      intro value hValue
      exact yields_pure ⟨hFirst, hType, by simpa using hValue⟩
    · exact yields_pure ⟨hFirst, hType, by simp⟩
  · apply yields_peek.ite
    · apply safe_advance.seq
      exact (yields_assigned hg).bind
        fun _ he => yields_pure he
    · exact (yields_assignedRest hg g.fuel).bind
        fun _ hRest =>
          yields_pure (named_assignment hFirst hRest)

omit hg in
/- Names behind dots are read. -/
theorem safe_dottedRest (fuel : Nat) :
    Safe (dottedRest fuel) := by
  induction fuel with
  | zero => exact yields_unexpected
  | succ fuel ih =>
      unfold dottedRest
      apply (safe_accept _).ite
      · apply yields_identifier.bind
        intro next _
        exact ih.bind fun _ _ => yields_pure trivial
      · exact yields_pure trivial

omit hg in
/- Names with dots are read. -/
theorem safe_dottedName (g : Rules) : Safe g.dottedName := by
  unfold dottedName
  apply yields_identifier.bind
  intro first _
  exact (safe_dottedRest g.fuel).bind
    fun _ _ => yields_pure trivial

omit hg in
/- An imported name is read. -/
theorem safe_importAlias
    {name : Parse String}
    (hName : Safe name) : Safe (importAlias name) := by
  unfold importAlias
  apply hName.bind
  intro name _
  apply (safe_accept _).ite
  · exact yields_identifier.bind fun _ _ => yields_pure trivial
  · exact yields_pure trivial

omit hg in
/- An import binds no names of its own making. -/
theorem yields_importModules (g : Rules) :
    Yields Stmt.Named g.importModules := by
  unfold importModules
  apply (safe_expect _).seq
  exact (yields_sequence
    (safe_importAlias (safe_dottedName g)) g.fuel).bind
      fun _ _ => yields_pure trivial

omit hg in
/- Dots in front of a module are read. -/
theorem safe_leadingDots (fuel : Nat) :
    Safe (leadingDots fuel) := by
  induction fuel with
  | zero => exact yields_unexpected
  | succ fuel ih =>
      unfold leadingDots
      apply (safe_acceptAny _).ite
      · exact ih.bind fun _ _ => yields_pure trivial
      · exact yields_pure trivial

omit hg in
/- The names to import are read. -/
theorem safe_importedNames (g : Rules) :
    Safe g.importedNames := by
  have hAlias : Safe (importAlias identifier) :=
    safe_importAlias (yields_identifier.imp fun _ _ => trivial)
  unfold importedNames
  apply (safe_accept _).ite
  · exact yields_pure trivial
  · apply (safe_accept _).ite
    · apply (yields_separated hAlias g.fuel _).bind
      rintro ⟨names, trailing⟩ _
      exact (safe_expect _).bind fun _ _ => yields_pure trivial
    · exact (yields_sequence hAlias g.fuel).imp
        fun _ _ => trivial

omit hg in
/- An import binds no names of its own making. -/
theorem yields_importNames (g : Rules) :
    Yields Stmt.Named g.importNames := by
  have hRest (module : String) :
      Yields Stmt.Named (do
        expect "import"
        return .importNames module (← g.importedNames)) := by
    apply (safe_expect _).seq
    exact (safe_importedNames g).bind
      fun _ _ => yields_pure trivial
  unfold importNames
  apply (safe_expect _).seq
  apply (safe_leadingDots g.fuel).bind
  intro relative _
  apply (safe_atSign _).bind
  intro b _
  dsimp only
  split
  · exact hRest ""
  · exact (safe_dottedName g).bind fun module _ => hRest module

/- A `return` has valid names. -/
theorem yields_returnStatement :
    Yields Stmt.Named g.returnStatement := by
  unfold returnStatement
  apply safe_here.bind
  intro start _
  apply (safe_expect _).seq
  apply yields_peek.ite
  · apply (yields_testList hg).bind
    intro value hValue
    exact (safe_rangeFrom start).bind
      fun _ _ => yields_pure
        (show ∀ e ∈ some value.value, e.Named by
          simpa using hValue)
  · exact (safe_rangeFrom start).bind
      fun _ _ => yields_pure
        (show ∀ e ∈ none, Expr.Named e by simp)

/- A `raise` has valid names. -/
theorem yields_raiseStatement :
    Yields Stmt.Named g.raiseStatement := by
  unfold raiseStatement
  apply (safe_expect _).seq
  apply yields_peek.ite
  · apply (hg .test).bind
    intro exc hExc
    have hDone : Stmt.Named (.raise (some exc)) := by
      simpa [Stmt.Named] using hExc
    apply (safe_accept _).bind
    intro b _
    dsimp only
    split
    · exact (hg .test).bind fun _ _ => yields_pure hDone
    · exact yields_pure hDone
  · exact yields_pure (by simp [Stmt.Named])

/- An assertion has valid names. -/
theorem yields_assertStatement :
    Yields Stmt.Named g.assertStatement := by
  unfold assertStatement
  apply (safe_expect _).seq
  apply (hg .test).bind
  intro test hTest
  apply (safe_accept _).bind
  intro b _
  dsimp only
  split
  · exact (hg .test).bind fun _ _ => yields_pure hTest
  · exact yields_pure hTest

/- A type parameter is read and dropped. -/
theorem safe_typeParam : Safe g.typeParam := by
  unfold typeParam
  apply (safe_acceptAny _).ite
  · exact yields_identifier.bind fun _ _ => yields_pure trivial
  · apply yields_identifier.seq
    apply (safe_accept _).ite
    · exact (hg .test).bind fun _ _ => yields_pure trivial
    · exact yields_pure trivial

/- Type parameters are read and dropped. -/
theorem safe_typeParams : Safe g.typeParams := by
  unfold typeParams
  apply (safe_accept _).ite
  · exact (yields_separated (safe_typeParam hg)
      g.fuel _).bind fun _ _ => safe_expect _
  · exact yields_pure trivial

/- Nothing is kept of a name for a type. -/
theorem yields_typeAlias : Yields Stmt.Named g.typeAlias := by
  unfold typeAlias
  apply (safe_expect _).seq
  apply yields_identifier.seq
  apply (safe_typeParams hg).seq
  apply (safe_expect _).seq
  exact (hg .test).bind fun _ _ => yields_pure trivial

/- A statement that fits on a line has valid names. -/
theorem yields_smallStatement :
    Yields Stmt.Named g.smallStatement := by
  unfold smallStatement
  apply yields_peek.bind
  intro t _
  split
  · exact yields_returnStatement hg
  · exact yields_raiseStatement hg
  · exact yields_assertStatement hg
  · exact yields_importModules g
  · exact yields_importNames g
  · exact yields_typeAlias hg
  · exact (yields_yieldExpr hg (yields_operand hg)).bind
      fun _ he => yields_pure he
  · apply safe_advance.seq
    exact (yields_targetList (yields_operand hg) g.fuel).bind
      fun _ _ => yields_pure trivial
  · split
    · exact safe_advance.bind fun _ _ => yields_pure trivial
    · split
      · apply safe_advance.seq
        exact (yields_sequence yields_identifier g.fuel).bind
          fun _ _ => yields_pure trivial
      · exact yields_expressionStatement hg
  · exact yields_expressionStatement hg

/- Small statements on a line have valid names. -/
theorem yields_smallRest (fuel : Nat) :
    Yields Stmt.NamedAll (g.smallRest fuel) := by
  induction fuel with
  | zero => exact yields_unexpected
  | succ fuel ih =>
      unfold smallRest
      apply (yields_smallStatement hg).bind
      intro first hFirst
      have hOne := Stmt.namedAll_singleton hFirst
      apply (safe_accept _).ite
      · apply (safe_acceptToken _).ite
        · exact yields_pure hOne
        · exact ih.bind
            fun _ hRest => yields_pure ⟨hFirst, hRest⟩
      · exact (safe_expectToken _).bind
          fun _ _ => yields_pure hOne

/- A line of statements has valid names. -/
theorem yields_simpleLine :
    Yields Stmt.NamedAll g.simpleLine :=
  yields_smallRest hg g.fuel

end Small

end Rules

------------------------------------------------------------
-- Blocks
------------------------------------------------------------

section Blocks

variable {g : Rules} {line : Parse (List Stmt)}
variable (hLine : Yields Stmt.NamedAll line)

include hLine

/- Lines of a block have valid names. -/
theorem yields_blockLines (fuel : Nat) :
    Yields Stmt.NamedAll (blockLines line fuel) := by
  induction fuel with
  | zero => exact yields_unexpected
  | succ fuel ih =>
      unfold blockLines
      apply hLine.bind
      intro first hFirst
      apply (safe_acceptToken _).ite
      · exact yields_pure hFirst
      · exact ih.bind
          fun _ hRest =>
            yields_pure (Stmt.namedAll_append hFirst hRest)

omit hLine in
/- The indent of a block is read. -/
theorem safe_openBlock : Safe openBlock := by
  unfold openBlock
  apply (safe_acceptToken _).ite
  · exact yields_unexpectedBlock
  · exact yields_pure trivial

/- A block has valid names. -/
theorem yields_blockOf (hg : g.Named) :
    Yields Stmt.NamedAll (blockOf g line) := by
  unfold blockOf
  apply (safe_expect _).seq
  apply (safe_acceptToken _).ite
  · exact safe_openBlock.bind
      fun _ _ => yields_blockLines hLine g.fuel
  · exact Rules.yields_simpleLine hg

end Blocks

------------------------------------------------------------
-- Compound Statements
------------------------------------------------------------

namespace Rules

section Compound

variable {g : Rules} {block : Parse (List Stmt)}
variable (hg : g.Named)
variable (hBlock : Yields Stmt.NamedAll block)

include hBlock

/- A block that may be missing has valid names. -/
theorem yields_optionalBlock (word : String) :
    Yields Stmt.NamedAll (optionalBlock word block) := by
  unfold optionalBlock
  apply (safe_accept _).ite
  · exact hBlock
  · exact yields_pure trivial

include hg

/- Further branches have valid names. -/
theorem yields_branchRest (fuel : Nat) :
    Yields Stmt.NamedAll (g.branchRest block fuel) := by
  induction fuel with
  | zero => exact yields_unexpected
  | succ fuel ih =>
      unfold branchRest
      apply (safe_accept _).ite
      · apply (yields_namedTest hg).bind
        intro test hTest
        apply hBlock.bind
        intro body hBody
        exact ih.bind
          fun _ hRest =>
            yields_pure
              (Stmt.namedAll_singleton ⟨hTest, hBody, hRest⟩)
      · exact yields_optionalBlock hBlock _

/- An `if` has valid names. -/
theorem yields_branch :
    Yields Stmt.Named (g.branch block) := by
  unfold branch
  apply (safe_expect _).seq
  apply (yields_namedTest hg).bind
  intro test hTest
  apply hBlock.bind
  intro body hBody
  exact (yields_branchRest hg hBlock g.fuel).bind
    fun _ hRest => yields_pure ⟨hTest, hBody, hRest⟩

/- A `while` loop has valid names. -/
theorem yields_whileLoop :
    Yields Stmt.Named (g.whileLoop block) := by
  unfold whileLoop
  apply (safe_expect _).seq
  apply (yields_namedTest hg).bind
  intro test hTest
  apply hBlock.bind
  intro body hBody
  exact (yields_optionalBlock hBlock _).bind
    fun _ hRest => yields_pure ⟨hTest, hBody, hRest⟩

/- A `for` loop has valid names. -/
theorem yields_forLoop (isAsync : Bool) :
    Yields Stmt.Named (g.forLoop block isAsync) := by
  unfold forLoop
  apply (safe_expect _).seq
  apply (yields_targetList (yields_operand hg) g.fuel).bind
  intro target hTarget
  apply (safe_expect _).seq
  apply (yields_testList hg).bind
  intro iter hIter
  apply hBlock.bind
  intro body hBody
  exact (yields_optionalBlock hBlock _).bind
    fun _ hRest =>
      yields_pure ⟨⟨hTarget, hIter⟩, hBody, hRest⟩

omit hBlock in
/- An item of a `with` statement has valid names. -/
theorem yields_withItem :
    Yields WithItem.Named g.withItem := by
  unfold withItem
  apply (hg .test).bind
  intro context hContext
  apply (safe_accept _).ite
  · exact (yields_operand hg).bind
      fun _ he => yields_pure ⟨hContext, by simpa using he⟩
  · exact yields_pure ⟨hContext, by simp⟩

omit hBlock in
/- The items of a `with` statement have valid names. -/
theorem yields_withItems :
    Yields (fun items => ∀ item ∈ items, item.Named)
      g.withItems := by
  have hUpToColon {items : Parse (List WithItem)}
      (h :
        Yields (fun items => ∀ item ∈ items, item.Named)
          items) :
      Yields (fun items => ∀ item ∈ items, item.Named) (do
        let found ← items
        if !(← atSign ":") then unexpected
        return found) := by
    apply h.bind
    intro found hFound
    apply (safe_atSign _).bind
    intro b _
    dsimp only
    split
    · exact yields_unexpected.bind
        (P := fun _ => True) fun _ _ => yields_pure hFound
    · exact yields_pure hFound
  have hPlain :=
    yields_sequence (yields_withItem hg) g.fuel
  have hBracketed :
      Yields (fun items => ∀ item ∈ items, item.Named)
        g.bracketedItems := by
    unfold bracketedItems
    apply (safe_expect _).seq
    apply (yields_separated (yields_withItem hg)
      g.fuel _).bind
    rintro ⟨items, trailing⟩ hItems
    exact (safe_expect _).bind fun _ _ => yields_pure hItems
  unfold withItems
  apply safe_startItems.seq
  apply (safe_atSign _).ite
  · exact yields_orElseFurther (hUpToColon hBracketed)
      (hUpToColon hPlain)
  · exact hUpToColon hPlain

/- A `with` statement has valid names. -/
theorem yields_withBlock :
    Yields Stmt.Named (g.withBlock block) := by
  unfold withBlock
  apply (safe_expect _).seq
  apply (yields_withItems hg).bind
  intro items hItems
  exact hBlock.bind fun _ hBody => yields_pure ⟨hItems, hBody⟩

/- A handler has valid names. -/
theorem yields_handler (isGroup : Bool) :
    Yields (fun h : Handler => Stmt.NamedAll h.body)
      (g.handler block isGroup) := by
  have hDone (name : Option String) :
      Yields (fun h : Handler => Stmt.NamedAll h.body) (do
        return ⟨name, ← block⟩) :=
    hBlock.bind fun _ hBody => yields_pure hBody
  have hRest :
      Yields (fun h : Handler => Stmt.NamedAll h.body) (do
        if isGroup || (← peek).any startsTest then
          let _ ← g.plainTest
          if ← accept "as" then
            return ⟨some (← identifier), ← block⟩
          else return ⟨none, ← block⟩
        else return ⟨none, ← block⟩) := by
    apply yields_peek.ite
    · apply (hg .test).seq
      apply (safe_accept _).ite
      · exact yields_identifier.bind fun name _ => hDone name
      · exact hDone none
    · exact hDone none
  unfold handler
  apply (safe_expect _).seq
  dsimp only
  split
  · exact (safe_expect _).bind fun _ _ => hRest
  · exact hRest

/- A `try` statement has valid names. -/
theorem yields_tryBlock :
    Yields Stmt.Named (g.tryBlock block) := by
  unfold tryBlock
  apply (safe_expect _).seq
  apply hBlock.bind
  intro body hBody
  apply (safe_atSign _).ite
  · apply safe_peekSecond.bind
    intro t _
    apply (yields_many (yields_handler hg hBlock _)
      startsHandler g.fuel).bind
    intro handlers hHandlers
    apply (yields_optionalBlock hBlock _).bind
    intro orelse hOrelse
    apply (yields_optionalBlock hBlock _).bind
    intro finalbody hFinal
    split
    · exact yields_pure trivial
    · exact yields_pure
        ⟨⟨hBody, Handler.namedAll_of_forall hHandlers⟩,
          hOrelse, hFinal⟩
  · apply (safe_expect _).seq
    exact hBlock.bind
      fun _ hFinal =>
        yields_pure ⟨⟨hBody, trivial⟩, trivial, hFinal⟩

omit hg hBlock in
/- A parameter with its annotation has valid names. -/
theorem yields_annotatedParam
    {reader : Parse Expr}
    (hReader : Yields Expr.Named reader) :
    Yields ParamDef.Named (annotatedParam reader) := by
  unfold annotatedParam
  apply safe_here.bind
  intro start _
  apply yields_identifier.bind
  intro name hName
  apply (safe_accept _).bind
  intro b _
  dsimp only
  split
  · apply (hReader.map
      (Q := fun e : Option Expr => ∀ f ∈ e, f.Named)
      (fun e he => by simpa using he)).bind
    intro typeExpr hType
    exact (safe_rangeFrom start).bind
      fun _ _ => yields_pure ⟨hName, hType⟩
  · exact (safe_rangeFrom start).bind
      fun _ _ => yields_pure ⟨hName, by simp⟩

/- A function has valid names. -/
theorem yields_function
    {decorators : List Expr}
    (hDecorators : ∀ e ∈ decorators, e.Named)
    (isAsync : Bool) :
    Yields Stmt.Named
      (g.function block decorators isAsync) := by
  have hStar : Yields Expr.Named g.starTest := by
    unfold starTest
    apply (safe_atSign _).ite
    · exact yields_starredOf (yields_operand hg)
    · exact hg .test
  have hPlain := yields_annotatedParam (hg .test)
  have hReaders : ParamReaders.Named
      ⟨g.withDefault (annotatedParam g.plainTest),
        annotatedParam g.starTest,
        annotatedParam g.plainTest⟩ :=
    ⟨yields_withDefault hg hPlain,
      yields_annotatedParam hStar, hPlain⟩
  unfold function
  apply (safe_expect _).seq
  apply yields_identifier.bind
  intro name _
  apply (safe_typeParams hg).seq
  apply (safe_expect _).seq
  apply (yields_parameterList hReaders _ g.fuel).bind
  intro params hParams
  apply (safe_expect _).seq
  apply (safe_checkParamNames _ params).seq
  apply (safe_accept _).bind
  intro b _
  dsimp only
  split
  · apply ((hg .test).map
      (Q := fun e : Option Expr => ∀ f ∈ e, f.Named)
      (fun e he => by simpa using he)).bind
    intro returns hReturns
    exact hBlock.bind
      fun _ hBody =>
        yields_pure ⟨⟨hParams, hDecorators, hReturns⟩, hBody⟩
  · exact hBlock.bind
      fun _ hBody =>
        yields_pure ⟨⟨hParams, hDecorators, by simp⟩, hBody⟩

/- A class has valid names. -/
theorem yields_classDef
    {decorators : List Expr}
    (hDecorators : ∀ e ∈ decorators, e.Named) :
    Yields Stmt.Named (g.classDef block decorators) := by
  have hRest (name : String) (hName : IsName name)
      (args : ArgList) (hArgs : args.Named) :
      Yields Stmt.Named (do
        return .cls
          ⟨name, args.args, args.keywords, decorators⟩
          (← block)) :=
    hBlock.bind fun _ hBody =>
      yields_pure
        ⟨⟨hName, hArgs.args, hArgs.keywords, hDecorators⟩,
          hBody⟩
  unfold classDef
  apply (safe_expect _).seq
  apply yields_identifier.bind
  intro name hName
  apply (safe_typeParams hg).seq
  apply (safe_atSign _).bind
  intro b _
  dsimp only
  split
  · exact (yields_arguments hg (named_innerParts hg)).bind
      fun args hArgs => hRest name hName args hArgs
  · exact hRest name hName {} ⟨by simp, by simp⟩

omit hBlock in
/- A decorator has valid names. -/
theorem yields_decorator :
    Yields Expr.Named g.decorator := by
  unfold decorator
  apply (safe_expect _).seq
  apply (yields_namedTest hg).bind
  intro value hValue
  exact (safe_expectToken _).bind fun _ _ => yields_pure hValue

/- A definition behind its decorators has valid names. -/
theorem yields_definition :
    Yields Stmt.Named (g.definition block) := by
  unfold definition
  apply (yields_many (yields_decorator hg) _ g.fuel).bind
  intro decorators hDecorators
  apply (safe_atSign _).ite
  · exact yields_classDef hg hBlock hDecorators
  · exact (safe_accept _).bind
      fun isAsync _ =>
        yields_function hg hBlock hDecorators isAsync

/- Nothing is kept of a `match` statement. -/
theorem yields_matchBlock :
    Yields Stmt.Named (g.matchBlock block) := by
  have hCase :
      Yields Stmt.NamedAll (g.matchCase block) := by
    have hBody : Yields Stmt.NamedAll (do
        let _ ← block
        return []) :=
      hBlock.bind fun _ _ => yields_pure trivial
    unfold matchCase
    apply (safe_expect _).seq
    apply (Pattern.safe_caseList g).seq
    apply (safe_accept _).bind
    intro b _
    dsimp only
    split
    · exact (yields_namedTest hg).bind fun _ _ => hBody
    · exact hBody
  unfold matchBlock
  apply (safe_expect _).seq
  apply (yields_separated
    (yields_element hg (yields_operand hg)) g.fuel _).seq
  apply (safe_expect _).seq
  apply (safe_expectToken _).seq
  apply safe_openBlock.seq
  exact (yields_blockLines hCase g.fuel).bind
    fun _ _ => yields_pure trivial

/- A statement that starts with `async` has valid names. -/
theorem yields_asyncStatement :
    Yields Stmt.Named (g.asyncStatement block) := by
  unfold asyncStatement
  apply (safe_expect _).seq
  apply (safe_atSign _).ite
  · exact yields_forLoop hg hBlock true
  · apply (safe_atSign _).ite
    · exact yields_withBlock hg hBlock
    · exact yields_function hg hBlock (by simp) true

/- A compound statement has valid names. -/
theorem yields_compound :
    Yields (fun r => ∀ s ∈ r, Stmt.Named s)
      (g.compound block) := by
  have hSome {reader : Parse Stmt}
      (h : Yields Stmt.Named reader) :
      Yields (fun r => ∀ s ∈ r, Stmt.Named s)
        (some <$> reader) :=
    h.map fun s hs => by simpa using hs
  unfold compound
  apply yields_peek.bind
  intro t _
  split
  · exact hSome (yields_branch hg hBlock)
  · exact hSome (yields_whileLoop hg hBlock)
  · exact hSome (yields_forLoop hg hBlock false)
  · exact hSome (yields_withBlock hg hBlock)
  · exact hSome (yields_tryBlock hg hBlock)
  · exact hSome (yields_definition hg hBlock)
  · exact hSome (yields_definition hg hBlock)
  · exact hSome (yields_definition hg hBlock)
  · exact hSome (yields_asyncStatement hg hBlock)
  · exact hSome (yields_matchBlock hg hBlock)
  · exact yields_pure (by simp)

end Compound

end Rules

------------------------------------------------------------
-- Texts
------------------------------------------------------------

/- Nested lines have valid names. -/
theorem yields_statementAt
    {g : Rules}
    (hg : g.Named)
    (depth : Nat) :
    Yields Stmt.NamedAll (statementAt g depth) := by
  induction depth with
  | zero => exact yields_unexpected
  | succ depth ih =>
      unfold statementAt
      apply (Rules.yields_compound hg
        (yields_blockOf ih hg)).bind
      intro r hr
      split
      · rename_i statement
        exact yields_pure
          (Stmt.namedAll_singleton (hr statement rfl))
      · exact Rules.yields_simpleLine hg

/- The end of a text is checked. -/
theorem safe_expectEnd : Safe expectEnd := by
  unfold expectEnd
  apply safe_failIfBroken.seq
  apply yields_peek.ite
  · exact yields_unexpected
  · exact yields_pure trivial

/- Ends of lines are skipped. -/
theorem safe_skipNewlines (fuel : Nat) :
    Safe (skipNewlines fuel) := by
  induction fuel with
  | zero => exact yields_pure trivial
  | succ fuel ih =>
      unfold skipNewlines
      apply (safe_acceptToken _).ite
      · exact ih
      · exact yields_pure trivial

/- The lines of a program have valid names. -/
theorem yields_programLines
    {line : Parse (List Stmt)}
    (hLine : Yields Stmt.NamedAll line)
    (fuel : Nat) :
    Yields Stmt.NamedAll (programLines line fuel) := by
  induction fuel with
  | zero => exact yields_unexpected
  | succ fuel ih =>
      unfold programLines
      apply yields_peek.ite
      · exact safe_failIfBroken.bind
          fun _ _ => yields_pure trivial
      · apply (safe_acceptToken _).ite
        · exact ih
        · apply hLine.bind
          intro first hFirst
          exact ih.bind
            fun _ hRest =>
              yields_pure (Stmt.namedAll_append hFirst hRest)

/- What is read from the tokens of a text is of its kind. -/
theorem holds_of_runOn
    {α : Type} {P : α → Prop} {reader : Parse α}
    (h : Yields P reader)
    {isModule : Bool} {text : String} {a : α}
    (hRun :
      runOn (TokenStream.ofText isModule text) reader =
        .ok a) : P a := by
  unfold runOn at hRun
  dsimp only at hRun
  cases hReader :
      reader
        { rest :=
            (TokenStream.ofText isModule text).lexemes
          stop := 0
          failure :=
            (TokenStream.ofText isModule text).failure } with
  | error e =>
      rw [hReader] at hRun
      cases hRun
  | ok r =>
      rw [hReader] at hRun
      cases hRun
      have hCursor : Cursor.Named
          { rest :=
              (TokenStream.ofText isModule text).lexemes
            stop := 0
            failure :=
              (TokenStream.ofText isModule text).failure } :=
        TokenStream.named_ofText isModule text
      exact (h _ _ _ hCursor hReader).1

/- An expression in a string has valid names. -/
theorem named_of_parseExpression
    {text : String} {e : Expr}
    (h : parseExpression text = .ok e) : e.Named := by
  unfold parseExpression expressionWith at h
  apply holds_of_runOn _ h
  apply (Rules.yields_testList (named_rulesFor _ _)).bind
  intro value hValue
  apply (safe_skipNewlines _).seq
  exact safe_expectEnd.bind fun _ _ => yields_pure hValue

/- A module has valid names. -/
theorem named_of_parseModule
    {text : String} {body : List Stmt}
    (h : parseModule text = .ok body) :
    Stmt.NamedAll body := by
  unfold parseModule at h
  apply holds_of_runOn _ h
  exact yields_programLines
    (yields_statementAt (named_rulesFor _ _) _) _

end SigCheck
