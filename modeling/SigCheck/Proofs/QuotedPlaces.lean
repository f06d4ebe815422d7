import SigCheck.Proofs.AnnotationParts
import SigCheck.Proofs.TextPositions

/-
  Where the check of use sites finds what it reports inside
  string literals.

  A literal that holds its text as it is written stands in
  the source, or in the text of another literal, with letters
  and quotes around that text. The parts of an annotation
  count their places from the start of the text that they
  were read from. From the source down to a part a trail of
  literals is opened; all that stands in front of the text of
  the last one stands in front of the part.

  The check moves a place by the opening of the outermost
  literal alone. So it points at the first character of what
  it reports if at most one literal was opened, and in front
  of it otherwise.

  Key definitions include:
    * `Encloses`, `ByteRange.Quotes`
    * `TypeExpr.WrittenIn`, `Expr.VerbatimIn`
    * `Uncovers`
    * `WrittenPart`

  Correctness is proven by:
    * `Encloses.openingLength`
    * `Expr.VerbatimIn.writtenIn`
    * `UseSite.location_of_mem_own`
    * `TypeExpr.Trail.exists_uncovers`
    * `TypeExpr.Trail.length_le`
    * `WrittenPart.exists_start_eq`
    * `Expr.useSiteErrors_point`
-/

namespace SigCheck

open String (utf8Len)

------------------------------------------------------------
-- Literals as They Are Written
------------------------------------------------------------

/- The characters that enclose the text of a literal. -/
inductive IsQuote : Char → Prop
  | double : IsQuote '"'
  | single : IsQuote '\''

/-
  What opens a literal around a text that is written as it
  is, and what follows the text. One quote encloses a text
  that does not have it, three of them enclose any text. Two
  quotes with nothing between them open no third one.
-/
inductive Encloses : List Char → List Char → List Char → Prop
  | one
      {letters body behind : List Char} {q : Char} :
      (∀ c ∈ letters, c.isAlpha = true) →
      IsQuote q → q ∉ body →
      (body = [] → behind.head? ≠ some q) →
      Encloses (letters ++ [q]) body (q :: behind)
  | three
      {letters body behind : List Char} {q : Char} :
      (∀ c ∈ letters, c.isAlpha = true) →
      IsQuote q →
      Encloses (letters ++ [q, q, q]) body
        (q :: q :: q :: behind)

/- A letter takes one byte. -/
theorem utf8Size_of_isAlpha
    {c : Char}
    (h : c.isAlpha = true) : c.utf8Size = 1 := by
  have hCase : c.isUpper = true ∨ c.isLower = true :=
    (Bool.or_eq_true _ _).mp h
  rw [Char.utf8Size_eq_one_iff]
  rcases hCase with hUpper | hLower
  · have hBounds : 'A'.val ≤ c.val ∧ c.val ≤ 'Z'.val :=
      of_decide_eq_true hUpper
    exact UInt32.le_trans hBounds.2 (by decide)
  · have hBound : c.val ≤ 'z'.val :=
      of_decide_eq_true ((Bool.and_eq_true _ _).mp hLower).2
    exact UInt32.le_trans hBound (by decide)

/- Letters take a byte each. -/
theorem utf8Len_of_isAlpha
    {letters : List Char}
    (h : ∀ c ∈ letters, c.isAlpha = true) :
    utf8Len letters = letters.length := by
  induction letters with
  | nil => rfl
  | cons c cs ih =>
      rw [String.utf8Len_cons, List.length_cons,
        utf8Size_of_isAlpha (h c (List.mem_cons_self ..)),
        ih fun d hd => h d (List.mem_cons_of_mem c hd)]

namespace IsQuote

variable {q : Char}

theorem isAlpha_eq_false (h : IsQuote q) :
    q.isAlpha = false := by
  cases h <;> decide

theorem utf8Size_eq (h : IsQuote q) : q.utf8Size = 1 := by
  cases h <;> decide

theorem eq_or (h : IsQuote q) : q = '"' ∨ q = '\'' := by
  cases h
  · exact .inl rfl
  · exact .inr rfl

/- The letters in front of a quote end there. -/
theorem span_letters
    (h : IsQuote q)
    {letters : List Char}
    (hLetters : ∀ c ∈ letters, c.isAlpha = true)
    (behind : List Char) :
    (letters ++ q :: behind).takeWhile Char.isAlpha =
        letters ∧
      (letters ++ q :: behind).dropWhile Char.isAlpha =
        q :: behind := by
  have hStop : ¬ q.isAlpha = true := by
    simp [h.isAlpha_eq_false]
  rw [List.takeWhile_append_of_pos hLetters,
    List.dropWhile_append_of_pos hLetters,
    List.takeWhile_cons_of_neg hStop,
    List.dropWhile_cons_of_neg hStop]
  simp

end IsQuote

namespace Encloses

variable {opening body rest : List Char}

/- One quote without letters in front of it. -/
theorem bare
    {q : Char} {behind : List Char}
    (hQuote : IsQuote q)
    (hFree : q ∉ body)
    (hEmpty : body = [] → behind.head? ≠ some q) :
    Encloses [q] body (q :: behind) := by
  have hLetters : ∀ c ∈ ([] : List Char), c.isAlpha = true := by
    simp
  exact .one hLetters hQuote hFree hEmpty

/- Something opens a literal. -/
theorem opening_ne_nil (h : Encloses opening body rest) :
    opening ≠ [] := by
  cases h <;> simp

/- The length of what opens a literal is found again. -/
theorem openingLength (h : Encloses opening body rest) :
    LineIndex.openingLength (opening ++ body ++ rest) =
      utf8Len opening := by
  cases h with
  | @one letters body behind q hLetters hQuote hFree hEmpty =>
      have hSplit :
          letters ++ [q] ++ body ++ q :: behind =
            letters ++ q :: (body ++ q :: behind) := by
        simp
      have hLength : utf8Len (letters ++ [q]) =
          letters.length + 1 := by
        rw [String.utf8Len_append, utf8Len_of_isAlpha hLetters,
          String.utf8Len_cons, hQuote.utf8Size_eq]
        rfl
      rcases hQuote.span_letters hLetters (body ++ q :: behind)
        with ⟨hTake, hDrop⟩
      rw [hSplit, hLength, LineIndex.openingLength, hTake,
        hDrop]
      -- The quote is not repeated twice right behind itself.
      split
      · rename_i a b c tail hParts
        rw [if_neg]
        rintro ⟨-, rfl, rfl⟩
        cases body with
        | nil => simp_all
        | cons d body => simp_all
      · rfl
  | @three letters body behind q hLetters hQuote =>
      have hSplit :
          letters ++ [q, q, q] ++ body
              ++ q :: q :: q :: behind =
            letters
              ++ q :: q :: q
                :: (body ++ q :: q :: q :: behind) := by
        simp
      have hLength : utf8Len (letters ++ [q, q, q]) =
          letters.length + 3 := by
        rw [String.utf8Len_append, utf8Len_of_isAlpha hLetters]
        simp only [String.utf8Len_cons, hQuote.utf8Size_eq]
        rfl
      rcases hQuote.span_letters hLetters
          (q :: q :: (body ++ q :: q :: q :: behind))
        with ⟨hTake, hDrop⟩
      rw [hSplit, hLength, LineIndex.openingLength, hTake,
        hDrop]
      exact if_pos ⟨hQuote.eq_or, rfl, rfl⟩

end Encloses

------------------------------------------------------------
-- Annotations as They Are Written
------------------------------------------------------------

namespace ByteRange

/- A stretch starts where a character of a text does. -/
def StartsIn (r : ByteRange) (text : List Char) : Prop :=
  ∃ before behind,
    text = before ++ behind ∧ utf8Len before = r.start

/- A literal around its text starts where a stretch does. -/
def Quotes (r : ByteRange) (text body : List Char) : Prop :=
  ∃ before opening rest,
    text = before ++ (opening ++ body ++ rest) ∧
      utf8Len before = r.start ∧
      Encloses opening body rest

/- A literal starts where a character of the text does. -/
theorem Quotes.startsIn
    {r : ByteRange} {text body : List Char}
    (h : r.Quotes text body) : r.StartsIn text := by
  rcases h with ⟨before, opening, rest, hText, hStart, -⟩
  exact ⟨before, opening ++ body ++ rest, hText, hStart⟩

end ByteRange

namespace Expr

/- A text in quotes. -/
def isText : Expr → Bool
  | .literal (.str _) _ => true
  | _ => false

/- The expressions in which an annotation goes on. -/
def typeParts : Expr → List Expr
  | .member value _ _ => [value]
  | .subscript value (.tuple items _) _ => value :: items
  | .subscript value index _ => [value, index]
  | .binary left .bitOr right _ => [left, right]
  | .list items _ => items
  | .tuple items _ => items
  | _ => []

/-
  An annotation stands in a text as its places say, and the
  text of each literal in it is written as it is. If that
  text is an expression, then so is this one in it.
-/
inductive VerbatimIn : List Char → Expr → Prop
  | plain
      {text : List Char} {e : Expr} :
      e.isText = false →
      e.range.StartsIn text →
      (∀ part ∈ e.typeParts, VerbatimIn text part) →
      VerbatimIn text e
  | quoted
      {text : List Char} {body : String} {r : ByteRange} :
      r.Quotes text body.toList →
      (∀ e, parseExpression body = .ok e →
        VerbatimIn body.toList e) →
      VerbatimIn text (.literal (.str body) r)

end Expr

namespace TypeExpr

/- The annotation is a literal that was opened. -/
def isQuoted : TypeExpr → Bool
  | .quoted _ _ => true
  | _ => false

/-
  An annotation stands in a text as its places say, those in
  a literal in the text of that literal.
-/
inductive WrittenIn : List Char → TypeExpr → Prop
  | plain
      {text : List Char} {t : TypeExpr} :
      t.isQuoted = false →
      t.range.StartsIn text →
      (∀ u ∈ t.children, WrittenIn text u) →
      WrittenIn text t
  | quoted
      {text body : List Char} {t : TypeExpr} {r : ByteRange} :
      r.Quotes text body →
      WrittenIn body t →
      WrittenIn text (.quoted t r)

/- A written annotation starts where a character does. -/
theorem WrittenIn.startsIn
    {text : List Char} {t : TypeExpr}
    (h : t.WrittenIn text) : t.range.StartsIn text := by
  cases h with
  | plain _ hStart _ => exact hStart
  | quoted hQuotes _ => exact hQuotes.startsIn

end TypeExpr

namespace Expr

variable {quote : String → ByteRange → TypeExpr}

theorem typeExprsWith_eq_map (es : List Expr) :
    typeExprsWith quote es = es.map (typeExprWith quote) := by
  induction es with
  | nil => rfl
  | cons e es ih => simp [typeExprsWith, ih]

/-
  The annotation that an expression is stands at its place,
  is a literal only if the expression is, and goes on in the
  same parts.
-/
theorem typeExprWith_of_plain
    {e : Expr}
    (hPlain : e.isText = false) :
    (e.typeExprWith quote).range = e.range ∧
      (e.typeExprWith quote).isQuoted = false ∧
      (e.typeExprWith quote).children =
        e.typeParts.map (typeExprWith quote) := by
  cases e with
  | literal value r =>
      cases value with
      | str text => cases hPlain
      | _ => exact ⟨rfl, rfl, rfl⟩
  | subscript value index r =>
      cases index with
      | tuple items r' =>
          refine ⟨rfl, rfl, ?_⟩
          simp [typeExprWith, TypeExpr.children, typeParts,
            typeExprsWith_eq_map]
      | _ => exact ⟨rfl, rfl, rfl⟩
  | binary left op right r =>
      cases op <;> exact ⟨rfl, rfl, rfl⟩
  | list items r =>
      exact ⟨rfl, rfl, typeExprsWith_eq_map items⟩
  | tuple items r =>
      exact ⟨rfl, rfl, typeExprsWith_eq_map items⟩
  | _ => exact ⟨rfl, rfl, rfl⟩

/- The literals are opened to some number of levels. -/
def OpensTexts
    (quote : String → ByteRange → TypeExpr) : Prop :=
  ∀ text r, ∃ depth,
    quote text r =
      TypeExpr.ofText parseExpression depth text r

/-
  If an expression stands in a text with its literals as
  they are written, then so does the annotation it is.
-/
theorem VerbatimIn.writtenIn_typeExprWith
    {text : List Char} {e : Expr}
    (h : e.VerbatimIn text)
    (hQuote : OpensTexts quote) :
    (e.typeExprWith quote).WrittenIn text := by
  induction h generalizing quote with
  | @plain text e hPlain hStart _ ih =>
      rcases typeExprWith_of_plain hPlain with
        ⟨hRange, hQuoted, hChildren⟩
      refine .plain hQuoted (hRange ▸ hStart) ?_
      intro u hu
      rw [hChildren] at hu
      rcases List.mem_map.mp hu with ⟨part, hPart, rfl⟩
      exact ih part hPart hQuote
  | @quoted text body r hQuotes _ ih =>
      rcases hQuote body r with ⟨depth, hDepth⟩
      have hEmpty {t : TypeExpr}
          (hRange : t.range = r)
          (hQuoted : t.isQuoted = false)
          (hChildren : t.children = []) :
          t.WrittenIn text := by
        refine .plain hQuoted (hRange ▸ hQuotes.startsIn) ?_
        simp [hChildren]
      rw [typeExprWith, hDepth]
      cases depth with
      | zero => exact hEmpty rfl rfl rfl
      | succ depth =>
          rw [TypeExpr.ofText]
          cases hParse : parseExpression body with
          | error fault => exact hEmpty rfl rfl rfl
          | ok e =>
              exact .quoted hQuotes
                (ih e hParse fun _ _ => ⟨depth, rfl⟩)

theorem VerbatimIn.writtenIn
    {text : List Char} {e : Expr}
    (h : e.VerbatimIn text) : e.typeExpr.WrittenIn text :=
  h.writtenIn_typeExprWith fun body _ =>
    ⟨body.length + 1, rfl⟩

end Expr

------------------------------------------------------------
-- Places of Reports
------------------------------------------------------------

namespace UseSite

variable {site : UseSite} {d : Diagnostic}

theorem location_of_mem_report
    {cause : Cause} {range : ByteRange}
    (h : d ∈ site.report cause range) :
    d.location = site.location range := by
  rw [report, List.mem_singleton] at h
  rw [h]

theorem location_of_mem_place
    {slot : Slot} {t : TypeExpr}
    (h : d ∈ site.place slot t) :
    d.location = site.location t.range := by
  unfold place path at h
  split at h
  · split at h
    · unfold misplacedProjection at h
      split at h
      · exact location_of_mem_report h
      · cases h
    · split at h
      · unfold misplacedSpec at h
        split at h
        · exact location_of_mem_report h
        · cases h
      · cases h
  · cases h

theorem location_of_mem_ownParams
    {t : TypeExpr}
    (h : d ∈ site.ownParams t) :
    d.location = site.location t.range := by
  have hSpec (h : d ∈ site.specParams t) :
      d.location = site.location t.range := by
    unfold specParams at h
    split at h
    · cases h
    · split at h
      · exact location_of_mem_place h
      · exact location_of_mem_report h
  unfold ownParams at h
  split at h
  · cases h
  · exact location_of_mem_report h
  · cases h
  · cases h
  · exact hSpec h

theorem location_of_mem_ownSpec
    {target param : String} {t : TypeExpr}
    (h : d ∈ site.ownSpec target param t) :
    d.location = site.location t.range := by
  unfold ownSpec at h
  split at h
  · cases h
  · cases h
  · exact location_of_mem_report h
  · unfold specPath at h
    split at h
    · cases h
    · exact location_of_mem_report h

theorem location_of_mem_ownArgs
    {args : List TypeExpr} {range : ByteRange} {m : Meaning}
    (h : d ∈ site.ownArgs args range m) :
    d.location = site.location range := by
  unfold ownArgs at h
  split at h
  · split at h
    · cases h
    · exact location_of_mem_report h
  · split at h
    · exact location_of_mem_report h
    · split at h
      · exact location_of_mem_report h
      · cases h
  · cases h

theorem location_of_mem_ownType
    {slot : Slot} {t : TypeExpr}
    (h : d ∈ site.ownType slot t) :
    d.location = site.location t.range := by
  unfold ownType at h
  split at h
  · exact location_of_mem_place h
  · exact location_of_mem_place h
  · exact location_of_mem_report h
  · exact location_of_mem_ownArgs h
  · cases h

/- What is wrong with a part is reported at its place. -/
theorem location_of_mem_own
    {p : PartPlace} {t : TypeExpr}
    (h : d ∈ site.own p t) :
    d.location = site.location t.range := by
  cases hSlot : p.slot? with
  | some slot =>
      rw [own_of_slot site hSlot] at h
      exact location_of_mem_ownType h
  | none =>
      cases p with
      | paramList => exact location_of_mem_ownParams h
      | classSpec target param =>
          exact location_of_mem_ownSpec h
      | _ => simp [own, PartPlace.slot?] at h hSlot

/- Only the outermost literal is remembered. -/
theorem along_eq
    {outer : ByteRange}
    (hOuter : site.outer = some outer)
    (trail : List ByteRange) : site.along trail = site := by
  induction trail with
  | nil => rfl
  | cons r trail ih =>
      have hEnter : site.enter r = site := by
        cases site
        simp_all [enter]
      change (site.enter r).along trail = site
      rw [hEnter, ih]

end UseSite

------------------------------------------------------------
-- Opened Literals
------------------------------------------------------------

/-
  After the literals of a trail are opened, one in the text
  of the other, a text is what the last of them holds, and
  all that stands in front of it begins the first text.
-/
inductive Uncovers :
    List Char → List ByteRange → List Char → List Char → Prop
  | here (text : List Char) : Uncovers text [] [] text
  | enter
      {text body inner before opening rest front : List Char}
      {r : ByteRange} {trail : List ByteRange} :
      text = before ++ (opening ++ body ++ rest) →
      utf8Len before = r.start →
      Encloses opening body rest →
      Uncovers body trail front inner →
      Uncovers text (r :: trail) (before ++ opening ++ front)
        inner

namespace Uncovers

variable {text front inner : List Char}
  {trail : List ByteRange}

/- What is opened stands in the first text. -/
theorem exists_append (h : Uncovers text trail front inner) :
    ∃ rest, text = front ++ inner ++ rest := by
  induction h with
  | here text => exact ⟨[], by simp⟩
  | @enter text body inner before opening rest front r trail
      hText _ _ _ ih =>
      rcases ih with ⟨behind, hBody⟩
      refine ⟨behind ++ rest, ?_⟩
      rw [hText, hBody]
      simp

/- Nothing stands in front only if nothing was opened. -/
theorem front_eq_nil_iff (h : Uncovers text trail front inner) :
    front = [] ↔ trail = [] := by
  cases h with
  | here text => simp
  | enter hText hStart hEncloses hInner =>
      simp [hEncloses.opening_ne_nil]

end Uncovers

namespace TypeExpr

/- What is no literal opens none. -/
theorem opened_of_plain
    {t : TypeExpr}
    (h : t.isQuoted = false) : t.opened = [] := by
  cases t <;> first | rfl | cases h

variable {names : NameEnv} {p q : PartPlace}
  {t u : TypeExpr} {trail : List ByteRange}

/-
  On the way to a part of a written annotation literals are
  opened, and the part is written in the text of the last.
-/
theorem Trail.exists_uncovers
    {text : List Char}
    (hTrail : Trail names p t trail q u)
    (hWritten : t.WrittenIn text) :
    ∃ front inner,
      Uncovers text trail front inner ∧ u.WrittenIn inner := by
  induction hTrail generalizing text with
  | here p t => exact ⟨[], text, .here text, hWritten⟩
  | @step p q r t u v trail hPart _ ih =>
      have hChild := mem_children_of_mem_partsAt hPart
      cases hWritten with
      | plain hPlain _ hChildren =>
          rw [opened_of_plain hPlain]
          exact ih (hChildren u hChild)
      | @quoted text body t range hQuotes hBody =>
          rcases hQuotes with
            ⟨before, opening, rest, hText, hStart, hEncloses⟩
          have hSame : u = t := List.mem_singleton.mp hChild
          rcases ih (hSame ▸ hBody) with
            ⟨front, inner, hUncovers, hInner⟩
          exact ⟨before ++ opening ++ front, inner,
            .enter hText hStart hEncloses hUncovers, hInner⟩

/- Literals in an annotation are nested so many times. -/
inductive NestedUpTo : Nat → TypeExpr → Prop
  | plain
      {n : Nat} {t : TypeExpr} :
      t.isQuoted = false →
      (∀ u ∈ t.children, NestedUpTo n u) →
      NestedUpTo n t
  | quoted
      {n : Nat} {t : TypeExpr} {r : ByteRange} :
      NestedUpTo n t →
      NestedUpTo (n + 1) (.quoted t r)

/- No more literals are opened than are nested. -/
theorem Trail.length_le
    {n : Nat}
    (hTrail : Trail names p t trail q u)
    (hNested : t.NestedUpTo n) : trail.length ≤ n := by
  induction hTrail generalizing n with
  | here p t => exact Nat.zero_le n
  | @step p q r t u v trail hPart _ ih =>
      have hChild := mem_children_of_mem_partsAt hPart
      cases hNested with
      | plain hPlain hChildren =>
          rw [opened_of_plain hPlain]
          exact ih (hChildren u hChild)
      | @quoted n t range hBody =>
          have hSame : u = t := List.mem_singleton.mp hChild
          have hShort := ih (hSame ▸ hBody)
          simp only [opened, List.length_append,
            List.length_singleton]
          omega

end TypeExpr

------------------------------------------------------------
-- Moved Places
------------------------------------------------------------

/- The position at which a stretch starts. -/
def Location.start (l : Location) : Nat × Nat :=
  (l.line, l.col)

/-
  A stretch in a literal is counted from the byte at which
  the text of the literal starts.
-/
theorem LineIndex.start_relocate
    {text before opening body rest : List Char}
    {outer : ByteRange}
    (hText : text = before ++ (opening ++ body ++ rest))
    (hStart : utf8Len before = outer.start)
    (hEncloses : Encloses opening body rest)
    (inner : ByteRange) :
    ((⟨text⟩ : LineIndex).relocate inner outer).start =
      (⟨text⟩ : LineIndex).position
        (utf8Len (before ++ opening) + inner.start) := by
  have hLiteral :
      dropBytes? outer.start text =
        some (opening ++ body ++ rest) := by
    rw [hText, ← hStart]
    exact dropBytes?_append before _
  rw [String.utf8Len_append, hStart]
  simp only [relocate, hLiteral, hEncloses.openingLength]
  rfl

namespace Uncovers

variable {text front inner : List Char}
  {trail : List ByteRange}

/-
  The check counts from the start of the text of the
  outermost literal: what stands in front of the texts of
  the literals in that one is left out.
-/
theorem start_location
    (h : Uncovers text trail front inner)
    (names : NameEnv)
    (range : ByteRange) :
    ∃ outer mid literal,
      Uncovers text (trail.take 1) outer literal ∧
        front = outer ++ mid ∧
        (mid = [] ↔ trail.length ≤ 1) ∧
        ((UseSite.along ⟨names, ⟨text⟩, none⟩ trail).location
            range).start =
          (⟨text⟩ : LineIndex).position
            (utf8Len outer + range.start) := by
  cases h with
  | here text =>
      refine ⟨[], [], text, .here text, rfl, by simp, ?_⟩
      rw [String.utf8Len_nil, Nat.zero_add]
      rfl
  | @enter text body inner before opening rest front r trail
      hText hStart hEncloses hInner =>
      have hOuter :
          Uncovers text [r] (before ++ opening ++ []) body :=
        .enter hText hStart hEncloses (.here body)
      have hMid : front = [] ↔ (r :: trail).length ≤ 1 := by
        rw [hInner.front_eq_nil_iff]
        cases trail <;> simp
      rw [List.append_nil] at hOuter
      refine ⟨before ++ opening, front, body, hOuter, rfl,
        hMid, ?_⟩
      have hAlong :
          UseSite.along ⟨names, ⟨text⟩, none⟩ (r :: trail) =
            ⟨names, ⟨text⟩, some r⟩ :=
        UseSite.along_eq rfl trail
      rw [hAlong]
      exact LineIndex.start_relocate hText hStart hEncloses
        range

end Uncovers

/- Where a text is cut, a character starts or the text ends. -/
theorem mem_boundaries_of_toList_eq
    {text : String} {front back : List Char}
    (h : text.toList = front ++ back) :
    utf8Len front ∈ boundaries text := by
  refine String.Pos.Raw.isValid_iff_exists_append.mpr
    ⟨.ofList front, .ofList back, ?_, ?_⟩
  · rw [← String.ofList_append, ← h, String.ofList_toList]
  · have hBytes := String.utf8Len_toList (String.ofList front)
    rw [String.toList_ofList] at hBytes
    rw [hBytes]
    rfl

/-
  A part of an annotation as it is written in a source, with
  the literals that are opened on the way to it: what stands
  in front of the text of the last literal, and that text,
  cut where the part starts.
-/
structure WrittenPart
    (names : NameEnv)
    (source : String)
    (p : PartPlace)
    (t : TypeExpr) where
  trail : List ByteRange
  place : PartPlace
  part : TypeExpr
  front : List Char
  before : List Char
  behind : List Char
  onTrail : TypeExpr.Trail names p t trail place part
  uncovers :
    Uncovers source.toList trail front (before ++ behind)
  starts : utf8Len before = part.range.start

namespace WrittenPart

variable {names : NameEnv} {source : String}
  {p : PartPlace} {t : TypeExpr}

/- The walk at the part. -/
def site (w : WrittenPart names source p t) : UseSite :=
  UseSite.along ⟨names, .ofText source, none⟩ w.trail

/- The line and column of the first character of the part. -/
def position (w : WrittenPart names source p t) : Nat × Nat :=
  endPosition (w.front ++ w.before)

variable (w : WrittenPart names source p t)

/- The text up to the part begins the source. -/
theorem exists_toList_eq :
    ∃ back, source.toList = w.front ++ w.before ++ back := by
  rcases w.uncovers.exists_append with ⟨rest, hText⟩
  refine ⟨w.behind ++ rest, ?_⟩
  rw [hText]
  simp

/- The position of the part is the one of its byte. -/
theorem position_eq :
    (LineIndex.ofText source).position
        (utf8Len (w.front ++ w.before)) =
      w.position := by
  rcases w.exists_toList_eq with ⟨back, hText⟩
  rw [LineIndex.ofText, hText]
  exact LineIndex.position_append (w.front ++ w.before) back

/-
  What is wrong with the part is reported at the position
  of a byte that is counted from the text of the outermost
  literal: what stands in front of the texts of the literals
  in that one is left out.
-/
theorem exists_start_eq
    {d : Diagnostic}
    (hOwn : d ∈ w.site.own w.place w.part) :
    ∃ outer mid literal,
      Uncovers source.toList (w.trail.take 1) outer literal ∧
        w.front = outer ++ mid ∧
        (mid = [] ↔ w.trail.length ≤ 1) ∧
        d.location.start =
          (LineIndex.ofText source).position
            (utf8Len outer + utf8Len w.before) := by
  rcases w.uncovers.start_location names w.part.range with
    ⟨outer, mid, literal, hOuter, hFront, hMid, hPlace⟩
  refine ⟨outer, mid, literal, hOuter, hFront, hMid, ?_⟩
  rw [UseSite.location_of_mem_own hOwn, w.starts]
  exact hPlace

/- Without anything left out the position is the right one. -/
theorem position_eq_of_front
    {outer : List Char}
    (hFront : w.front = outer) :
    (LineIndex.ofText source).position
        (utf8Len outer + utf8Len w.before) =
      w.position := by
  rw [← w.position_eq, String.utf8Len_append, hFront]

/- With something left out the position is too far in front. -/
theorem position_lt_of_front
    {outer mid : List Char}
    (hFront : w.front = outer ++ mid)
    (hMid : mid ≠ [])
    (hBoundary :
      utf8Len outer + utf8Len w.before ∈ boundaries source) :
    toLex
        ((LineIndex.ofText source).position
          (utf8Len outer + utf8Len w.before)) <
      toLex w.position := by
  rcases w.exists_toList_eq with ⟨back, hText⟩
  rw [← w.position_eq]
  apply LineIndex.strictMonoOn_position source hBoundary
    (mem_boundaries_of_toList_eq hText)
  rw [hFront]
  simp only [String.utf8Len_append]
  cases mid with
  | nil => exact absurd rfl hMid
  | cons c mid =>
      have := c.utf8Size_pos
      rw [String.utf8Len_cons]
      omega

end WrittenPart

/- What is reported is wrong with a part as it is written. -/
theorem UseSite.exists_writtenPart
    {names : NameEnv} {source : String}
    {p : PartPlace} {t : TypeExpr} {d : Diagnostic}
    (hWritten : t.WrittenIn source.toList)
    (h : d ∈ check ⟨names, .ofText source, none⟩ p t) :
    ∃ w : WrittenPart names source p t,
      d ∈ w.site.own w.place w.part := by
  rcases exists_trail_of_mem_check h with
    ⟨trail, place, part, hTrail, hOwn⟩
  rcases hTrail.exists_uncovers hWritten with
    ⟨front, inner, hUncovers, hPart⟩
  rcases hPart.startsIn with ⟨before, behind, rfl, hStarts⟩
  exact ⟨⟨trail, place, part, front, before, behind, hTrail,
    hUncovers, hStarts⟩, hOwn⟩

/-
  What the check of use sites reports in an annotation that
  is written in a source is wrong with a part of it. At most
  one literal opened, it points at the first character of
  that part. It always counts from the text of the outermost
  literal, so with more literals opened it points in front
  of the part, if a character starts there at all.
-/
theorem Expr.useSiteErrors_point
    {names : NameEnv} {source : String} {e : Expr}
    {position : Position} {d : Diagnostic}
    (hVerbatim : e.VerbatimIn source.toList)
    (hReported :
      d ∈ e.typeExpr.useSiteErrors names (.ofText source)
        position) :
    ∃ w : WrittenPart names source
        (.within (.topLevel position)) e.typeExpr,
      d ∈ w.site.own w.place w.part ∧
        (w.trail.length ≤ 1 →
          d.location.start = w.position) ∧
        (1 < w.trail.length →
          ∃ outer mid literal,
            Uncovers source.toList (w.trail.take 1) outer
                literal ∧
              w.front = outer ++ mid ∧ mid ≠ [] ∧
              d.location.start =
                (LineIndex.ofText source).position
                  (utf8Len outer + utf8Len w.before) ∧
              (utf8Len outer + utf8Len w.before ∈
                  boundaries source →
                toLex d.location.start <
                  toLex w.position)) := by
  have hCheck :
      d ∈ UseSite.check ⟨names, .ofText source, none⟩
        (.within (.topLevel position)) e.typeExpr :=
    hReported
  rcases UseSite.exists_writtenPart hVerbatim.writtenIn
      hCheck with ⟨w, hOwn⟩
  rcases w.exists_start_eq hOwn with
    ⟨outer, mid, literal, hOuter, hFront, hMid, hStart⟩
  refine ⟨w, hOwn, ?_, ?_⟩
  · intro hFew
    rw [hMid.mpr hFew, List.append_nil] at hFront
    rw [hStart, w.position_eq_of_front hFront]
  · intro hMany
    have hNonempty : mid ≠ [] := by
      intro hNil
      have hFew := hMid.mp hNil
      omega
    refine ⟨outer, mid, literal, hOuter, hFront, hNonempty,
      hStart, ?_⟩
    intro hBoundary
    rw [hStart]
    exact w.position_lt_of_front hFront hNonempty hBoundary

------------------------------------------------------------
-- One Literal and Two
------------------------------------------------------------

/- One parameter specification and the form `list`. -/
def specAndList : NameEnv
  | "P" => .paramSpec "P"
  | "list" => .special .list
  | _ => .unknown

/- The annotation `list['P']`. -/
def listOfLiteral : Expr :=
  .subscript (.name "list" ⟨0, 4⟩)
    (.literal (.str "P") ⟨5, 8⟩) ⟨0, 9⟩

/-
  Two expressions of names, texts and subscripts are the same
  one: a test, so that reading a given text is evaluated.
-/
def Expr.agrees : Expr → Expr → Bool
  | .name x r, .name y s => x = y ∧ r = s
  | .literal (.str x) r, .literal (.str y) s =>
      x = y ∧ r = s
  | .subscript f a r, .subscript g b s =>
      f.agrees g && a.agrees b && decide (r = s)
  | _, _ => false

theorem Expr.eq_of_agrees
    {e e' : Expr}
    (h : e.agrees e' = true) : e = e' := by
  fun_induction agrees e e' with
  | case1 x r y s => simp_all
  | case2 x r y s => simp_all
  | case3 f a r g b s ihHead ihArg =>
      simp only [Bool.and_eq_true, decide_eq_true_eq] at h
      rw [ihHead h.1.1, ihArg h.1.2, h.2]
  | case4 => cases h

/- A text is read as an expression. -/
def readsAs (text : String) (e : Expr) : Bool :=
  match parseExpression text with
  | .ok read => read.agrees e
  | .error _ => false

theorem parseExpression_of_readsAs
    {text : String} {e : Expr}
    (h : readsAs text e = true) :
    parseExpression text = .ok e := by
  unfold readsAs at h
  split at h
  · rename_i hRead
    rw [hRead, Expr.eq_of_agrees h]
  · cases h

/- The text of the literal in the annotation is a name. -/
theorem parseExpression_name :
    parseExpression "P" = .ok (.name "P" ⟨0, 1⟩) :=
  parseExpression_of_readsAs (by decide +kernel)

/- The annotation as a text is read as that annotation. -/
theorem parseExpression_listOfLiteral :
    parseExpression "list['P']" = .ok listOfLiteral :=
  parseExpression_of_readsAs (by decide +kernel)

/- A name stands in a text where its place says. -/
theorem Expr.VerbatimIn.name
    {before behind : List Char} {id : String} {r : ByteRange}
    (hStart : utf8Len before = r.start) :
    (Expr.name id r).VerbatimIn (before ++ behind) := by
  refine .plain rfl ⟨before, behind, rfl, hStart⟩ ?_
  intro part hPart
  cases hPart

/- The annotation stands in its own text. -/
theorem listOfLiteral_verbatim :
    listOfLiteral.VerbatimIn "list['P']".toList := by
  refine .plain rfl ⟨[], _, rfl, rfl⟩ ?_
  intro part hPart
  simp only [listOfLiteral, Expr.typeParts, List.mem_cons,
    List.not_mem_nil, or_false] at hPart
  rcases hPart with rfl | rfl
  · exact @Expr.VerbatimIn.name [] _ _ _ rfl
  · refine .quoted
      ⟨"list[".toList, ['\''], "']".toList, by decide,
        by decide, .bare .single (by decide) (by decide)⟩ ?_
    intro body hBody
    rw [parseExpression_name] at hBody
    cases hBody
    exact @Expr.VerbatimIn.name [] _ _ _ rfl

/- The literal in the annotation is opened. -/
theorem typeExpr_listOfLiteral :
    listOfLiteral.typeExpr =
      .subscript (.ident "list" ⟨0, 4⟩)
        [.quoted (.ident "P" ⟨0, 1⟩) ⟨5, 8⟩] ⟨0, 9⟩ := by
  simp [listOfLiteral, Expr.typeExpr, Expr.typeExprWith,
    TypeExpr.ofText, parseExpression_name]

/- No literal in the annotation stands in another one. -/
theorem listOfLiteral_nested :
    listOfLiteral.typeExpr.NestedUpTo 1 := by
  have hLeaf {n : Nat} {id : String} {r : ByteRange} :
      (TypeExpr.ident id r).NestedUpTo n := by
    refine .plain rfl ?_
    intro u hu
    cases hu
  rw [typeExpr_listOfLiteral]
  refine .plain rfl ?_
  simp only [TypeExpr.children, List.forall_mem_cons]
  refine ⟨hLeaf, .quoted hLeaf, ?_⟩
  intro u hu
  cases hu

/-
  In one literal the specification is reported where it
  stands.
-/
theorem Expr.useSiteErrors_point_literal :
    let d : Diagnostic :=
      { cause := .invalidUseSite "P" "inside list[...]"
        location := ⟨1, 6, 1, 7⟩ }
    listOfLiteral.VerbatimIn "list['P']".toList ∧
      d ∈ listOfLiteral.typeExpr.useSiteErrors specAndList
        (.ofText "list['P']") .parameter ∧
      ∃ w : WrittenPart specAndList "list['P']"
          (.within (.topLevel .parameter))
          listOfLiteral.typeExpr,
        d ∈ w.site.own w.place w.part ∧
          w.position = (1, 6) := by
  intro d
  have hReported :
      d ∈ listOfLiteral.typeExpr.useSiteErrors specAndList
        (.ofText "list['P']") .parameter := by
    decide +kernel
  rcases useSiteErrors_point listOfLiteral_verbatim hReported
    with ⟨w, hOwn, hFew, -⟩
  have hLength : w.trail.length ≤ 1 :=
    w.onTrail.length_le listOfLiteral_nested
  exact ⟨listOfLiteral_verbatim, hReported, w, hOwn,
    (hFew hLength).symm⟩

/- The annotation in a literal of its own. -/
def listInLiteral : Expr :=
  .literal (.str "list['P']") ⟨0, 11⟩

/- The inner literal is opened in the outer one. -/
theorem typeExpr_listInLiteral :
    listInLiteral.typeExpr =
      .quoted
        (.subscript (.ident "list" ⟨0, 4⟩)
          [.quoted (.ident "P" ⟨0, 1⟩) ⟨5, 8⟩] ⟨0, 9⟩)
        ⟨0, 11⟩ := by
  have hLength : "list['P']".length = 8 + 1 := by decide
  rw [Expr.typeExpr, listInLiteral, Expr.typeExprWith,
    TypeExpr.ofText, parseExpression_listOfLiteral, hLength]
  simp [listOfLiteral, Expr.typeExprWith, TypeExpr.ofText,
    parseExpression_name]

/- The specification behind two openings. -/
def specInLiterals :
    WrittenPart specAndList "\"list['P']\""
      (.within (.topLevel .parameter))
      listInLiteral.typeExpr where
  trail := [⟨0, 11⟩, ⟨5, 8⟩]
  place := .within (.container "list[...]")
  part := .ident "P" ⟨0, 1⟩
  front := [] ++ ['"'] ++ ("list[".toList ++ ['\''] ++ [])
  before := []
  behind := ['P']
  onTrail := by
    rw [typeExpr_listInLiteral]
    refine .step (List.mem_cons_self ..) ?_
    refine .step
      (List.mem_cons_of_mem _ (List.mem_cons_self ..)) ?_
    exact .step (List.mem_cons_self ..) (.here _ _)
  uncovers := by
    have hOuter :
        Encloses ['"'] "list['P']".toList ['"'] :=
      .bare .double (by decide) (by decide)
    have hInner : Encloses ['\''] ['P'] "']".toList :=
      .bare .single (by decide) (by decide)
    refine .enter (by decide) rfl hOuter ?_
    exact .enter (by decide) rfl hInner (.here _)
  starts := rfl

/-
  In two literals the specification is reported where the
  text of the outer one starts, six columns in front of where
  it stands.
-/
theorem Expr.useSiteErrors_miss_nested :
    let d : Diagnostic :=
      { cause := .invalidUseSite "P" "inside list[...]"
        location := ⟨1, 1, 1, 2⟩ }
    listInLiteral.VerbatimIn "\"list['P']\"".toList ∧
      listInLiteral.typeExpr.useSiteErrors specAndList
          (.ofText "\"list['P']\"") .parameter = [d] ∧
      ∃ w : WrittenPart specAndList "\"list['P']\""
          (.within (.topLevel .parameter))
          listInLiteral.typeExpr,
        d ∈ w.site.own w.place w.part ∧
          w.part.spec? specAndList = some "P" ∧
          w.position = (1, 7) ∧
          d.location.start ≠ w.position := by
  refine ⟨?_, by decide +kernel, specInLiterals, by decide,
    by decide, by decide, by decide⟩
  refine .quoted
    ⟨[], ['"'], ['"'], by decide, by decide,
      .bare .double (by decide) (by decide)⟩ ?_
  intro body hBody
  rw [parseExpression_listOfLiteral] at hBody
  cases hBody
  exact listOfLiteral_verbatim

end SigCheck
