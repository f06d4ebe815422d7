import SigCheck.Grammar.Parameters
import SigCheck.Proofs.BindingRule
import SigCheck.Proofs.NameUse

/-
  Names among the tokens of a text, and steps of reading
  that keep to them: whatever the text, a token that is a
  name has characters of names only, and the sign of fresh
  names is none of them.

  Key definitions include:
    * `Token.Named`, `Cursor.Named`
    * `Parse.Yields`

  Correctness is proven by:
    * `TokenStream.named_ofText`
    * `Parse.Yields.bind`
    * `Parse.yields_identifier`
    * `Parse.yields_separated`
-/

namespace SigCheck

open Binding (bind_eq_ok_iff)

------------------------------------------------------------
-- Tokens
------------------------------------------------------------

/- The token is the name of something, if it is a name. -/
def Token.Named : Token → Prop
  | .name id => IsName id
  | _ => True

/- The characters of names are those of words but the sign. -/
theorem isName_of_forall
    {cs : List Char}
    (h :
      ∀ c ∈ cs,
        isNameRest c = true ∨ isPictograph c = true) :
    IsName (String.ofList cs) := by
  constructor
  · intro c hc
    rw [String.toList_ofList] at hc
    rcases h c hc with h | h <;> simp [isWordChar, h]
  · intro hSign
    rw [String.toList_ofList] at hSign
    have hNone :
        isNameRest '@' = false
          ∧ isPictograph '@' = false := by
      decide
    rcases h _ hSign with h | h
    · rw [hNone.1] at h
      cases h
    · rw [hNone.2] at h
      cases h

/- What is read while a test holds satisfies it. -/
theorem forall_readWhile
    (test : Char → Bool)
    (pos : Nat)
    (gs : List Glyph) :
    ∀ c ∈ (readWhile test pos gs).value, test c = true := by
  induction gs generalizing pos with
  | nil => simp [readWhile]
  | cons g gs ih =>
      unfold readWhile
      split
      · rename_i hTest
        exact List.forall_mem_cons.mpr ⟨hTest, ih _⟩
      · simp

/- A string literal is no name. -/
theorem named_of_readLiteral
    {kind : StringKind} {quote : Char} {pos : Nat}
    {gs : List Glyph} {r : Reading Token}
    (h : readLiteral kind quote pos gs = .ok r) :
    r.value.Named := by
  unfold readLiteral at h
  rcases bind_eq_ok_iff.mp h with ⟨body, -, hDone⟩
  cases hDone
  trivial

/- A number is no name. -/
theorem named_readImaginary
    {value : Decimal} {real : Token} {pos : Nat}
    {gs : List Glyph}
    (h : real.Named) :
    (readImaginary value real pos gs).value.Named := by
  unfold readImaginary
  split
  · trivial
  · trivial
  · exact h

/- A number is no name. -/
theorem named_of_readDecimal
    {pos : Nat} {gs : List Glyph} {r : Reading Token}
    (h : readDecimal pos gs = .ok r) : r.value.Named := by
  unfold readDecimal at h
  dsimp only at h
  split at h
  · rcases bind_eq_ok_iff.mp h with ⟨fraction, -, hMore⟩
    rcases bind_eq_ok_iff.mp hMore with ⟨size, -, hDone⟩
    cases hDone
    exact named_readImaginary trivial
  · split at h
    · cases h
    · cases h
      exact named_readImaginary trivial

/- A number is no name. -/
theorem named_of_readNumber
    {pos : Nat} {gs : List Glyph} {r : Reading Token}
    (h : readNumber pos gs = .ok r) : r.value.Named := by
  have hBased {base : Nat}
      (h : readBased base pos gs = .ok r) :
      r.value.Named := by
    unfold readBased at h
    dsimp only at h
    split at h
    · cases h
    · cases h
      trivial
  unfold readNumber at h
  split at h
  · split at h
    · exact hBased h
    · exact hBased h
    · exact hBased h
    · exact named_of_readDecimal h
  · exact named_of_readDecimal h

------------------------------------------------------------
-- Steps of the Lexer
------------------------------------------------------------

/- The names among tokens are names of something. -/
def NamedTokens (ls : List Lexeme) : Prop :=
  ∀ l ∈ ls, l.token.Named

namespace LexState

variable {s : LexState} {r : LexStep}

/- A word is a keyword or a name. -/
theorem named_word (s : LexState) : NamedTokens s.word.1 := by
  intro l hl
  rw [List.mem_singleton.mp hl]
  change Token.Named (if _ then _ else _)
  split
  · trivial
  · apply isName_of_forall
    intro c hc
    exact Or.inl (forall_readWhile _ _ _ c hc)

/- A sign is no name, and a picture is one. -/
theorem named_of_sign
    {g : Glyph} {rest : List Glyph}
    (h : s.sign g rest = .ok r) : NamedTokens r.1 := by
  have hSymbol (op : String) (a b : Nat) :
      NamedTokens [Lexeme.mk (.symbol op) a b] := by
    intro l hl
    rw [List.mem_singleton.mp hl]
    trivial
  unfold LexState.sign at h
  split at h
  · dsimp only at h
    split at h
    · cases h
      exact hSymbol _ _ _
    · split at h
      · split at h
        · cases h
        · cases h
          exact hSymbol _ _ _
      · cases h
        exact hSymbol _ _ _
  · split at h
    · cases h
    · split at h
      · rename_i hPicture
        cases h
        intro l hl
        rw [List.mem_singleton.mp hl]
        apply isName_of_forall
        intro c hc
        rw [List.mem_singleton.mp hc]
        exact Or.inr hPicture
      · cases h

/- The end of a text has no names. -/
theorem named_of_finish
    (h : s.finish = .ok r) : NamedTokens r.1 := by
  unfold LexState.finish at h
  split at h
  · cases h
  · cases h
    intro l hl
    rcases List.mem_append.mp hl with hl | hl
    · split at hl
      · cases hl
      · rw [List.mem_singleton.mp hl]
        trivial
    · rcases List.mem_map.mp hl with ⟨level, -, rfl⟩
      trivial

/- One token is the name of something, if it is a name. -/
theorem named_of_token
    (h : s.token = .ok r) : NamedTokens r.1 := by
  have hEmit {t : Reading Token} (ht : t.value.Named) :
      NamedTokens (s.emit t).1 := by
    intro l hl
    rw [List.mem_singleton.mp hl]
    exact ht
  have hNone : NamedTokens [] := by
    intro l hl
    cases hl
  unfold LexState.token at h
  split at h
  · exact named_of_finish h
  · split at h
    · rcases bind_eq_ok_iff.mp h with ⟨t, ht, hDone⟩
      cases hDone
      exact hEmit (named_of_readLiteral ht)
    · split at h
      · cases h
        exact s.named_word
      · split at h
        · rcases bind_eq_ok_iff.mp h with ⟨t, ht, hDone⟩
          cases hDone
          exact hEmit (named_of_readLiteral ht)
        · split at h
          · rcases bind_eq_ok_iff.mp h with ⟨t, ht, hDone⟩
            cases hDone
            exact hEmit (named_of_readNumber ht)
          · split at h
            · cases h
              unfold LexState.lineEnd
              dsimp only
              split
              · intro l hl
                rw [List.mem_singleton.mp hl]
                trivial
              · exact hNone
            · split at h
              · cases h
                exact hNone
              · split at h
                · cases h
                  exact hNone
                · split at h
                  · unfold LexState.joinLines at h
                    split at h
                    · split at h
                      · dsimp only at h
                        split at h
                        · cases h
                        · cases h
                          exact hNone
                      · cases h
                    · cases h
                  · exact named_of_sign h

/- Indents and dedents are no names. -/
theorem named_of_closeLevels
    {level : Indentation} {pos : Nat}
    {stack : List Indentation}
    {r : List Lexeme × List Indentation}
    (h : closeLevels level pos stack = .ok r) :
    NamedTokens r.1 := by
  induction stack generalizing r with
  | nil =>
      unfold closeLevels at h
      split at h <;> cases h <;> intro l hl <;> cases hl
  | cons top outer ih =>
      unfold closeLevels at h
      split at h
      · cases h
        intro l hl
        cases hl
      · cases h
      · cases h
      · rcases bind_eq_ok_iff.mp h with
          ⟨⟨tokens, stack⟩, hRest, hDone⟩
        cases hDone
        exact List.forall_mem_cons.mpr ⟨trivial, ih hRest⟩

/- The blanks of a line stand for no names. -/
theorem named_of_indentTokens
    {level : Indentation} {pos : Nat}
    {stack : List Indentation}
    {r : List Lexeme × List Indentation}
    (h : indentTokens level pos stack = .ok r) :
    NamedTokens r.1 := by
  unfold indentTokens at h
  split at h
  · cases h
    intro l hl
    cases hl
  · cases h
    intro l hl
    rw [List.mem_singleton.mp hl]
    trivial
  · exact named_of_closeLevels h
  · cases h

/- A step of the lexer gives names of something. -/
theorem named_of_step
    (h : s.step = .ok r) : NamedTokens r.1 := by
  unfold LexState.step at h
  split at h
  · rcases bind_eq_ok_iff.mp h with ⟨line, -, hMore⟩
    rcases bind_eq_ok_iff.mp hMore with
      ⟨⟨levels, indents⟩, hLevels, hMore⟩
    rcases bind_eq_ok_iff.mp hMore with
      ⟨⟨tokens, next⟩, hToken, hDone⟩
    cases hDone
    exact List.forall_mem_append.mpr
      ⟨named_of_indentTokens hLevels, named_of_token hToken⟩
  · exact named_of_token h

end LexState

/- All steps of the lexer give names of something. -/
theorem named_lexSteps
    (fuel : Nat)
    (s : LexState)
    {done : List Lexeme}
    (hDone : NamedTokens done) :
    NamedTokens (lexSteps fuel s done).1 := by
  have hReverse {ls : List Lexeme} (h : NamedTokens ls) :
      NamedTokens ls.reverse :=
    fun l hl => h l (List.mem_reverse.mp hl)
  induction fuel generalizing s done with
  | zero => exact hReverse hDone
  | succ fuel ih =>
      unfold lexSteps
      split
      · exact hReverse hDone
      · rename_i hStep
        have hTokens := LexState.named_of_step hStep
        exact hReverse
          (List.forall_mem_append.mpr
            ⟨hReverse hTokens, hDone⟩)
      · rename_i hStep
        have hTokens := LexState.named_of_step hStep
        exact ih _
          (List.forall_mem_append.mpr
            ⟨hReverse hTokens, hDone⟩)

/- Keywords at the start of lines are no names. -/
theorem named_markSoftKeywords
    {ls : List Lexeme}
    (h : NamedTokens ls)
    (lineStart : Bool) :
    NamedTokens (markSoftKeywords lineStart ls) := by
  induction ls generalizing lineStart with
  | nil => exact h
  | cons l ls ih =>
      have hBoth := List.forall_mem_cons.mp h
      refine List.forall_mem_cons.mpr ⟨?_, ih hBoth.2 _⟩
      dsimp only
      split
      · split
        · trivial
        · exact hBoth.1
      · exact hBoth.1

/- Whatever the text, its names are names of something. -/
theorem TokenStream.named_ofText
    (isModule : Bool)
    (text : String) :
    NamedTokens (TokenStream.ofText isModule text).lexemes := by
  have hNone : NamedTokens [] := by
    intro l hl
    cases hl
  unfold TokenStream.ofText
  dsimp only
  exact named_markSoftKeywords (named_lexSteps _ _ hNone) _

------------------------------------------------------------
-- Steps of Reading
------------------------------------------------------------

/- The names still to be read are names of something. -/
def Cursor.Named (c : Cursor) : Prop :=
  NamedTokens c.rest

namespace Parse

variable {α β : Type} {P : α → Prop} {Q : β → Prop}

/-
  Among named tokens the step gives results of a kind, and
  leaves named tokens.
-/
def Yields (P : α → Prop) (step : Parse α) : Prop :=
  ∀ c a d, c.Named → step c = .ok (a, d) → P a ∧ d.Named

/- The step leaves named tokens, whatever its result. -/
abbrev Safe (step : Parse α) : Prop :=
  Yields (fun _ => True) step

/- Giving a result reads no token. -/
theorem yields_pure
    {a : α}
    (h : P a) : Yields P (pure a) := by
  intro c b d hc hStep
  cases hStep
  exact ⟨h, hc⟩

/- Steps in a row, the second given what the first gives. -/
theorem Yields.bind
    {step : Parse α} {next : α → Parse β}
    (hStep : Yields P step)
    (hNext : ∀ a, P a → Yields Q (next a)) :
    Yields Q (step >>= next) := by
  intro c b e hc hRun
  rcases bind_eq_ok_iff.mp hRun with ⟨⟨a, d⟩, hFirst, hRest⟩
  have hBoth := hStep c a d hc hFirst
  exact hNext a hBoth.1 d b e hBoth.2 hRest

/- A step may run whose result is not looked at. -/
theorem Yields.seq
    {step : Parse β} {next : Parse α}
    (hStep : Yields Q step)
    (hNext : Yields P next) :
    Yields P (step >>= fun _ => next) :=
  hStep.bind fun _ _ => hNext

/- A test chooses between two steps of one kind. -/
theorem Yields.ite
    {test : Parse β} {holds : β → Bool}
    {next other : Parse α}
    (hTest : Yields Q test)
    (hNext : Yields P next)
    (hOther : Yields P other) :
    Yields P
      (test >>= fun b => if holds b then next else other) := by
  apply hTest.bind
  intro b _
  split
  · exact hNext
  · exact hOther

/- A step gives also results of a wider kind. -/
theorem Yields.imp
    {P' : α → Prop} {step : Parse α}
    (hStep : Yields P step)
    (h : ∀ a, P a → P' a) : Yields P' step :=
  fun c a d hc hRun =>
    (hStep c a d hc hRun).imp_left (h a)

/- A result is made into another one. -/
theorem Yields.map
    {step : Parse α} {f : α → β}
    (hStep : Yields P step)
    (h : ∀ a, P a → Q (f a)) : Yields Q (f <$> step) := by
  rw [map_eq_pure_bind]
  exact hStep.bind fun a ha => yields_pure (h a ha)

/- A step that fails gives nothing. -/
theorem yields_failAt (fault : ParseFault) (offset : Nat) :
    Yields P (failAt fault offset) := by
  intro c a d _ hRun
  cases hRun

/- Looking at the cursor gives named tokens. -/
theorem yields_get :
    Yields Cursor.Named (get : Parse Cursor) := by
  intro c a d hc hRun
  cases hRun
  exact ⟨hc, hc⟩

/- The next token is named. -/
theorem yields_peek :
    Yields (fun t => ∀ u ∈ t, u.Named) peek := by
  apply yields_get.bind
  intro c hc
  apply yields_pure
  intro u hu
  rcases Option.map_eq_some_iff.mp hu with ⟨l, hl, rfl⟩
  exact hc l (List.mem_of_mem_head? hl)

/- Looking at the second token reads nothing. -/
theorem safe_peekSecond : Safe peekSecond :=
  yields_get.bind fun _ _ => yields_pure trivial

/- Looking for the place reads nothing. -/
theorem safe_here : Safe here :=
  yields_get.bind fun _ _ => yields_pure trivial

/- Looking for a stretch reads nothing. -/
theorem safe_rangeFrom (start : Nat) : Safe (rangeFrom start) :=
  yields_get.bind fun _ _ => yields_pure trivial

/- Looking for a fault reads nothing. -/
theorem safe_failIfBroken : Safe failIfBroken := by
  unfold failIfBroken
  apply yields_get.bind
  intro c _
  split
  · exact yields_failAt _ _
  · exact yields_pure trivial

/- A token that is not expected gives nothing. -/
theorem yields_unexpected :
    Yields P (unexpected : Parse α) := by
  unfold unexpected
  apply yields_get.bind
  intro c _
  split
  · exact safe_failIfBroken.bind fun _ _ => yields_failAt _ _
  · split
    · exact yields_failAt _ _
    · exact yields_failAt _ _

/- A missing block gives nothing. -/
theorem yields_unexpectedBlock :
    Yields P (unexpectedBlock : Parse α) := by
  unfold unexpectedBlock
  apply yields_get.bind
  intro c _
  split
  · exact safe_failIfBroken.bind fun _ _ => yields_failAt _ _
  · exact yields_failAt _ _

/- Behind the next token the others are left. -/
theorem safe_advance : Safe advance := by
  intro c a d hc hRun
  cases hRun
  refine ⟨trivial, ?_⟩
  dsimp only
  split
  · exact hc
  · rename_i l ls hRest
    intro k hk
    apply hc
    rw [hRest]
    exact List.mem_cons_of_mem _ hk

/- A test of the next token reads nothing. -/
theorem safe_nextIs (token : Token) : Safe (nextIs token) :=
  yields_peek.bind fun _ _ => yields_pure trivial

/- A test of the next sign reads nothing. -/
theorem safe_atSign (sign : String) : Safe (atSign sign) :=
  safe_nextIs _

/- Accepting a token leaves the others. -/
theorem safe_acceptToken (token : Token) :
    Safe (acceptToken token) := by
  unfold acceptToken
  apply (safe_nextIs token).ite
  · exact safe_advance.bind fun _ _ => yields_pure trivial
  · exact yields_pure trivial

/- Accepting a sign leaves the other tokens. -/
theorem safe_accept (sign : String) : Safe (accept sign) :=
  safe_acceptToken _

/- Accepting one of some signs leaves the other tokens. -/
theorem safe_acceptAny (signs : List String) :
    Safe (acceptAny signs) := by
  unfold acceptAny
  apply yields_peek.bind
  intro t _
  split
  · split
    · exact safe_advance.bind fun _ _ => yields_pure trivial
    · exact yields_pure trivial
  · exact yields_pure trivial

/- A token that has to come leaves the others. -/
theorem safe_expectToken (token : Token) :
    Safe (expectToken token) := by
  unfold expectToken
  apply (safe_acceptToken token).ite
  · exact yields_unexpected
  · exact yields_pure trivial

/- A sign that has to come leaves the other tokens. -/
theorem safe_expect (sign : String) : Safe (expect sign) :=
  safe_expectToken _

/- What is read as a name is the name of something. -/
theorem yields_identifier : Yields IsName identifier := by
  unfold identifier
  apply yields_peek.bind
  intro t ht
  split
  · rename_i id
    exact safe_advance.bind
      fun _ _ => yields_pure (ht (.name id) rfl)
  · exact yields_unexpected

/- Items between commas are all of one kind. -/
theorem yields_separated
    {item : Parse α}
    (hItem : Yields P item)
    (fuel : Nat)
    (starts : Token → Bool) :
    Yields (fun r => ∀ a ∈ r.1, P a)
      (separated fuel starts item) := by
  unfold separated
  induction fuel with
  | zero => exact yields_unexpected
  | succ fuel ih =>
      unfold separatedFrom
      apply hItem.bind
      intro first hFirst
      have hOne : ∀ a ∈ [first], P a := by
        simpa using hFirst
      apply (safe_accept ",").ite
      · apply yields_peek.ite
        · apply ih.bind
          rintro ⟨rest, trailing⟩ hRest
          exact yields_pure
            (List.forall_mem_cons.mpr ⟨hFirst, hRest⟩)
        · exact yields_pure hOne
      · exact yields_pure hOne

/- Items in a sequence are all of one kind. -/
theorem yields_sequence
    {item : Parse α}
    (hItem : Yields P item)
    (fuel : Nat) :
    Yields (fun as => ∀ a ∈ as, P a)
      (sequence item fuel) := by
  induction fuel with
  | zero => exact yields_unexpected
  | succ fuel ih =>
      unfold sequence
      apply hItem.bind
      intro first hFirst
      apply (safe_accept ",").ite
      · apply ih.bind
        intro rest hRest
        exact yields_pure
          (List.forall_mem_cons.mpr ⟨hFirst, hRest⟩)
      · exact yields_pure (by simpa using hFirst)

/- As many items as there are, all of one kind. -/
theorem yields_many
    {item : Parse α}
    (hItem : Yields P item)
    (starts : Token → Bool)
    (fuel : Nat) :
    Yields (fun as => ∀ a ∈ as, P a)
      (many starts item fuel) := by
  induction fuel with
  | zero => exact yields_unexpected
  | succ fuel ih =>
      unfold many
      apply yields_peek.ite
      · apply hItem.bind
        intro first hFirst
        apply ih.bind
        intro rest hRest
        exact yields_pure
          (List.forall_mem_cons.mpr ⟨hFirst, hRest⟩)
      · exact yields_pure (by simp)

/- Two ways of reading that give results of one kind. -/
theorem yields_orElseFurther
    {first second : Parse α}
    (hFirst : Yields P first)
    (hSecond : Yields P second) :
    Yields P (orElseFurther first second) := by
  intro c a d hc hRun
  unfold orElseFurther at hRun
  split at hRun
  · rename_i r hFirstRun
    cases hRun
    exact hFirst c a d hc hFirstRun
  · split at hRun
    · rename_i r hSecondRun
      cases hRun
      exact hSecond c a d hc hSecondRun
    · cases hRun

/- A fault of a part gives nothing. -/
theorem yields_failBefore
    (follow : Follow)
    (fault : ParseFault)
    (offset : Nat) :
    Yields P (failBefore follow fault offset : Parse α) := by
  unfold failBefore
  apply yields_peek.ite
  · exact yields_failAt _ _
  · exact yields_unexpected

/- Looking for what may follow reads nothing. -/
theorem safe_followOfAtom (start : Nat) :
    Safe (followOfAtom start) := by
  unfold followOfAtom
  apply yields_get.bind
  intro c _
  split <;> exact yields_pure trivial

/- Marking the start of items reads nothing. -/
theorem safe_startItems : Safe startItems := by
  apply safe_here.bind
  intro start _ c a d hc hRun
  cases hRun
  exact ⟨trivial, hc⟩

end Parse

end SigCheck
