import SigCheck.Proofs.CallNames
import SigCheck.Ty.Renaming

/-
  What the user reads in the place of fresh names. The text
  of a type is restored to the text of the type in which
  every fresh name is replaced by the variable that it
  stands for, and likewise for the faults of calls.

  Texts are put together at characters that no name has, so
  each name in a type is a word of its text, or keeps to its
  own words.

  Key definitions include:
    * `CheckState.Knows`
    * `Retold`
    * `CallFault.rename`

  Correctness is proven by:
    * `Retold.append`
    * `Retold.restoreNames_eq`
    * `Ty.retold_text`
    * `CallFault.restoreCause_eq`
-/

namespace SigCheck

------------------------------------------------------------
-- Known Variables
------------------------------------------------------------

namespace CheckState

/- A name of a program, or a fresh name that was given. -/
def Knows (s : CheckState) (v : String) : Prop :=
  IsName v ∨ ∃ f ∈ s.fresh, f.name = v

/- Every fresh name is made of the name of a program. -/
def HasFresh (s : CheckState) : Prop :=
  ∀ f ∈ s.fresh, f.IsFresh

end CheckState

------------------------------------------------------------
-- Texts Put Together
------------------------------------------------------------

/- No name stands across the border of the two texts. -/
def Apart (a b : List Char) : Prop :=
  (∀ c ∈ a.getLast?, isWordChar c = false)
    ∨ ∀ c ∈ b.head?, isWordChar c = false

section Apart

variable {f : List Char → List Char}
variable {a b : List Char}

/- Texts that are apart have words of their own. -/
theorem Apart.mem_wordsFrom
    (h : Apart a b)
    {w : List Char}
    (hw : w ∈ wordsFrom [] (a ++ b)) :
    w ∈ wordsFrom [] a ∨ w ∈ wordsFrom [] b := by
  rcases h with h | h
  · rcases List.eq_nil_or_concat a with rfl | ⟨front, c, rfl⟩
    · exact Or.inr hw
    · have hChar : isWordChar c = false := h c (by simp)
      rw [List.concat_eq_append, List.append_assoc,
        List.singleton_append, wordsFrom_append_cons hChar,
        List.mem_append] at hw
      rw [List.concat_eq_append,
        wordsFrom_append_cons hChar, List.mem_append]
      exact hw.imp Or.inl id
  · cases b with
    | nil => exact Or.inl (by simpa using hw)
    | cons c b =>
        have hChar : isWordChar c = false := h c rfl
        rw [wordsFrom_append_cons hChar,
          List.mem_append] at hw
        apply hw.imp_right
        intro hw
        simp [wordsFrom, hChar, hw]

/- Words of texts that are apart are replaced on their own. -/
theorem Apart.mapWordsFrom
    (h : Apart a b)
    (hNil : f [] = []) :
    SigCheck.mapWordsFrom f [] (a ++ b) =
      SigCheck.mapWordsFrom f [] a
        ++ SigCheck.mapWordsFrom f [] b := by
  rcases h with h | h
  · rcases List.eq_nil_or_concat a with rfl | ⟨front, c, rfl⟩
    · simp [SigCheck.mapWordsFrom, hNil]
    · have hChar : isWordChar c = false := h c (by simp)
      rw [List.concat_eq_append, List.append_assoc,
        List.singleton_append,
        mapWordsFrom_append_cons hChar,
        mapWordsFrom_append_cons hChar]
      simp [SigCheck.mapWordsFrom, hNil]
  · cases b with
    | nil => simp [SigCheck.mapWordsFrom, hNil]
    | cons c b =>
        have hChar : isWordChar c = false := h c rfl
        rw [mapWordsFrom_append_cons hChar]
        simp [SigCheck.mapWordsFrom, hChar, hNil]

end Apart

/- The words of a text have its characters. -/
theorem mem_of_mem_wordsFrom
    {w cs u : List Char} {c : Char}
    (hu : u ∈ wordsFrom w cs)
    (hc : c ∈ u) : c ∈ w ∨ c ∈ cs := by
  induction cs generalizing w with
  | nil =>
      rw [List.mem_singleton.mp hu] at hc
      exact Or.inl hc
  | cons d cs ih =>
      unfold wordsFrom at hu
      split at hu
      · rcases ih hu with h | h
        · rcases List.mem_append.mp h with h | h
          · exact Or.inl h
          · rw [List.mem_singleton.mp h]
            exact Or.inr (List.mem_cons_self ..)
        · exact Or.inr (List.mem_cons_of_mem _ h)
      · rcases List.mem_cons.mp hu with rfl | hu
        · exact Or.inl hc
        · rcases ih hu with h | h
          · cases h
          · exact Or.inr (List.mem_cons_of_mem _ h)

/- Characters of a text with words replaced by others. -/
theorem mem_mapWordsFrom
    {f : List Char → List Char}
    {w cs : List Char} {c : Char}
    (hc : c ∈ mapWordsFrom f w cs) :
    (∃ u ∈ wordsFrom w cs, c ∈ f u)
      ∨ isWordChar c = false := by
  induction cs generalizing w with
  | nil => exact Or.inl ⟨w, List.mem_singleton.mpr rfl, hc⟩
  | cons d cs ih =>
      unfold mapWordsFrom at hc
      unfold wordsFrom
      split at hc
      · rw [if_pos ‹_›]
        exact ih hc
      · rename_i hd
        rw [if_neg hd]
        rcases List.mem_append.mp hc with hc | hc
        · exact Or.inl ⟨w, List.mem_cons_self .., hc⟩
        · rcases List.mem_cons.mp hc with rfl | hc
          · exact Or.inr (by simpa using hd)
          · rcases ih hc with ⟨u, hu, hc⟩ | hc
            · exact Or.inl
                ⟨u, List.mem_cons_of_mem _ hu, hc⟩
            · exact Or.inr hc

------------------------------------------------------------
-- Retold Texts
------------------------------------------------------------

/-
  The second text is the first one with each word replaced
  by what it stands for.
-/
structure Retold
    (s : CheckState)
    (a b : String) : Prop where
  restorable : FreshName.Restorable s.fresh a
  text :
    mapWordsFrom (FreshName.restoreWord s.fresh) []
      a.toList = b.toList

namespace Retold

variable {s : CheckState} {a b c d : String}

/- Texts that are apart are retold one after the other. -/
theorem append
    (hFresh : s.HasFresh)
    (hab : Retold s a b)
    (hcd : Retold s c d)
    (hApart : Apart a.toList c.toList) :
    Retold s (a ++ c) (b ++ d) where
  restorable := by
    intro w hw
    rw [String.toList_append] at hw
    rcases hApart.mem_wordsFrom hw with hw | hw
    · exact hab.restorable w hw
    · exact hcd.restorable w hw
  text := by
    have hNil : FreshName.restoreWord s.fresh [] = [] :=
      FreshName.restoreWord_plain hFresh (by simp)
    rw [String.toList_append, String.toList_append,
      hApart.mapWordsFrom hNil, hab.text, hcd.text]

/- A text without the sign is retold as it is. -/
theorem of_signless
    (hFresh : s.HasFresh)
    (h : IsSignless a) : Retold s a a := by
  have hWords : ∀ w ∈ wordsFrom [] a.toList, '@' ∉ w := by
    intro w hw hSign
    rcases mem_of_mem_wordsFrom hw hSign with hSign | hSign
    · cases hSign
    · exact h hSign
  refine ⟨fun w hw => Or.inl (hWords w hw), ?_⟩
  rw [mapWordsFrom_congr (g := fun u => u),
    mapWordsFrom_id, List.nil_append]
  intro w hw
  exact FreshName.restoreWord_plain hFresh (hWords w hw)

/- A known variable is retold as what it stands for. -/
theorem of_knows
    (hFresh : s.HasFresh)
    {v : String}
    (h : s.Knows v) : Retold s v (s.declaredName v) := by
  have hWord : IsWord v.toList := by
    rcases h with h | ⟨f, hf, rfl⟩
    · exact h.word
    · exact (hFresh f hf).word
  have hWords := wordsFrom_append_word hWord [] []
  have hMap :=
    mapWordsFrom_append_word
      (f := FreshName.restoreWord s.fresh) hWord [] []
  simp only [List.append_nil, List.nil_append] at hWords hMap
  constructor
  · intro w hw
    rw [hWords] at hw
    rw [List.mem_singleton.mp hw]
    rcases h with h | ⟨f, hf, rfl⟩
    · exact Or.inl h.plain
    · exact Or.inr ⟨f, hf, rfl⟩
  · rw [hMap]
    exact FreshName.restoreWord_toList s v

/- What is retold has the sign of fresh names no more. -/
theorem isSignless
    (hFresh : s.HasFresh)
    (h : Retold s a b) : IsSignless b := by
  intro hSign
  rw [← h.text] at hSign
  rcases mem_mapWordsFrom hSign with ⟨w, hw, hSign⟩ | hChar
  · rcases h.restorable w hw with hPlain | ⟨f, hf, rfl⟩
    · rw [FreshName.restoreWord_plain hFresh hPlain] at hSign
      exact hPlain hSign
    · rw [FreshName.restoreWord_name hFresh hf] at hSign
      exact (hFresh f hf).plain hSign
  · cases hChar

/- Restoring names in a text retells it. -/
theorem restoreNames_eq
    (hFresh : s.HasFresh)
    (h : Retold s a b) : s.restoreNames a = b := by
  apply String.toList_injective
  rw [← h.text]
  unfold CheckState.restoreNames
  split
  · have hLongest :
        ∀ f ∈ FreshName.longestFirst s.fresh, f.IsFresh :=
      fun f hf =>
        hFresh f ((FreshName.mem_longestFirst f _).mp hf)
    have hText :
        FreshName.Restorable
          (FreshName.longestFirst s.fresh) a := by
      intro w hw
      rcases h.restorable w hw with hPlain | ⟨f, hf, hName⟩
      · exact Or.inl hPlain
      · exact Or.inr
          ⟨f, (FreshName.mem_longestFirst f _).mpr hf, hName⟩
    rw [FreshName.foldl_replaceAll_toList hLongest
      (FreshName.pairwise_longestFirst _) hText]
    -- The order of fresh names does not matter to a word.
    apply mapWordsFrom_congr
    intro w hw
    rcases h.restorable w hw with hPlain | ⟨f, hf, rfl⟩
    · rw [FreshName.restoreWord_plain hLongest hPlain,
        FreshName.restoreWord_plain hFresh hPlain]
    · rw [FreshName.restoreWord_name hFresh hf,
        FreshName.restoreWord_name hLongest
          ((FreshName.mem_longestFirst f _).mpr hf)]
  · rename_i hSign
    have hSignless : IsSignless a := by
      simpa [IsSignless] using hSign
    exact (of_signless hFresh hSignless).text.symm

end Retold

------------------------------------------------------------
-- Literals
------------------------------------------------------------

/- A literal behind which a name may stand. -/
def Opens (text : String) : Prop :=
  IsSignless text
    ∧ (text.toList.getLast?.any fun c => !isWordChar c) = true

/- A literal in front of which a name may stand. -/
def Closes (text : String) : Prop :=
  IsSignless text
    ∧ (text.toList.head?.any fun c => !isWordChar c) = true

instance (text : String) : Decidable (Opens text) :=
  inferInstanceAs (Decidable (_ ∧ _))

instance (text : String) : Decidable (Closes text) :=
  inferInstanceAs (Decidable (_ ∧ _))

namespace Retold

variable {s : CheckState} {a b c d text : String}
variable (hFresh : s.HasFresh)

include hFresh

/- A text behind a literal that opens. -/
theorem behind
    (hOpens : Opens text)
    (h : Retold s a b) : Retold s (text ++ a) (text ++ b) := by
  apply (of_signless hFresh hOpens.1).append hFresh h
  left
  intro c hc
  simpa [Option.mem_def.mp hc] using hOpens.2

/- A text in front of a literal that closes. -/
theorem before
    (h : Retold s a b)
    (hCloses : Closes text) :
    Retold s (a ++ text) (b ++ text) := by
  apply h.append hFresh (of_signless hFresh hCloses.1)
  right
  intro c hc
  simpa [Option.mem_def.mp hc] using hCloses.2

/- Two texts with a literal between them. -/
theorem between
    (hab : Retold s a b)
    (hcd : Retold s c d)
    (hText : Closes text ∧ Opens text) :
    Retold s (a ++ text ++ c) (b ++ text ++ d) := by
  apply (before hFresh hab hText.1).append hFresh hcd
  left
  intro e he
  rw [String.toList_append, List.getLast?_append] at he
  have hLast := hText.2.2
  cases hText : text.toList.getLast? with
  | none =>
      rw [hText] at hLast
      cases hLast
  | some e' =>
      rw [hText] at hLast he
      cases he
      simpa using hLast

/- Texts with a literal between any two of them. -/
theorem intercalate
    (hText : Closes text ∧ Opens text)
    {as bs : List String}
    (h : List.Forall₂ (Retold s) as bs) :
    Retold s (text.intercalate as) (text.intercalate bs) := by
  induction h with
  | nil =>
      rw [String.intercalate_nil]
      exact of_signless hFresh (by decide)
  | @cons a b as bs hFirst hRest ih =>
      cases hRest with
      | nil =>
          rw [String.intercalate_singleton,
            String.intercalate_singleton]
          exact hFirst
      | cons hSecond hRest =>
          rw [String.intercalate_cons_cons,
            String.intercalate_cons_cons]
          exact between hFresh hFirst ih hText

end Retold

------------------------------------------------------------
-- Parameter Lists
------------------------------------------------------------

namespace ParameterText

variable {s : CheckState}
variable (hFresh : s.HasFresh)

include hFresh

/- A parameter is retold with its type. -/
theorem retold_entry
    {p : Parameter} {a b : String}
    (hName : ∀ n ∈ p.name, IsSignless n)
    (h : Retold s a b) :
    Retold s (entry p a) (entry p b) := by
  have hLabel (n : String) (hDefault : IsSignless n) :
      IsSignless (p.name.getD n) := by
    cases hp : p.name with
    | none => exact hDefault
    | some m => exact hName m hp
  have hMark {a b : String} (h : Retold s a b) :
      Retold s (a ++ defaultMark p) (b ++ defaultMark p) := by
    unfold defaultMark
    split
    · exact h.before hFresh (by decide)
    · simpa using h
  have hNamed {n : String} (hn : IsSignless n) :
      Retold s (n ++ ": " ++ a) (n ++ ": " ++ b) :=
    (Retold.of_signless hFresh hn).between hFresh h
      (by decide)
  have hStarred {n : String} (hn : IsSignless n)
      {stars : String} (hStars : IsSignless stars) :
      IsSignless (stars ++ n) := by
    simp [hStars, hn]
  unfold entry
  split
  · exact hMark h
  · rename_i hSome
    exact hNamed
      (hStarred (hLabel "args" (by decide)) (by decide))
  · exact hNamed
      (hStarred (hLabel "kwargs" (by decide)) (by decide))
  · exact hMark (hNamed (hLabel "_" (by decide)))

omit hFresh in
/- A test on parameters does not look at types beside them. -/
theorem any_zip_eq
    (test : Parameter → Bool)
    {ps : List Parameter} {as bs : List String}
    (hLength : as.length = bs.length) :
    ((ps.zip as).any fun q => test q.1) =
      (ps.zip bs).any fun q => test q.1 := by
  induction ps generalizing as bs with
  | nil => rfl
  | cons p ps ih =>
      match as, bs with
      | [], [] => rfl
      | a :: as, b :: bs =>
          simp [ih (Nat.succ.inj hLength)]

/- The parameters of a list are retold with their types. -/
theorem retold_layOut
    {ps : List Parameter} {as bs : List String}
    (hps : ∀ p ∈ ps, ∀ n ∈ p.name, IsSignless n)
    (h : List.Forall₂ (Retold s) as bs)
    (starred : Bool) :
    List.Forall₂ (Retold s)
      (layOut starred (ps.zip as))
      (layOut starred (ps.zip bs)) := by
  have hMarks {opens : Bool} {text : String}
      (hText : IsSignless text) :
      List.Forall₂ (Retold s)
        (if opens then [text] else [])
        (if opens then [text] else []) := by
    split
    · exact .cons (Retold.of_signless hFresh hText) .nil
    · exact .nil
  induction ps generalizing as bs starred with
  | nil => simp [layOut]
  | cons p ps ih =>
      rw [List.forall_mem_cons] at hps
      cases h with
      | nil => simp [layOut]
      | @cons a b as bs hFirst hRest =>
          rw [List.zip_cons_cons, List.zip_cons_cons]
          unfold layOut
          dsimp only
          rw [any_zip_eq isNamedOnly hRest.length_eq]
          have hEntry :=
            retold_entry hFresh hps.1 hFirst
          exact List.rel_append (List.rel_append
            (List.rel_append (hMarks (by decide))
              (.cons hEntry .nil)) (hMarks (by decide)))
            (ih hps.2 hRest _)

omit hFresh in
/- Renaming variables leaves the marks of a list alone. -/
theorem layOut_renameAll
    (f : String → String)
    (ps : List Parameter)
    (types : List String)
    (starred : Bool) :
    layOut starred ((Parameter.renameAll f ps).zip types) =
      layOut starred (ps.zip types) := by
  have hAny (ps : List Parameter) (types : List String) :
      (((Parameter.renameAll f ps).zip types).any
          fun q => isNamedOnly q.1) =
        (ps.zip types).any fun q => isNamedOnly q.1 := by
    induction ps generalizing types with
    | nil => rfl
    | cons p ps ih =>
        cases types with
        | nil => rfl
        | cons t types =>
            simp only [Parameter.renameAll,
              List.zip_cons_cons, List.any_cons, ih]
            cases p
            rfl
  induction ps generalizing types starred with
  | nil => rfl
  | cons p ps ih =>
      cases types with
      | nil => rfl
      | cons t types =>
          simp only [Parameter.renameAll, List.zip_cons_cons,
            layOut, ih, hAny]
          cases p
          rfl

/- A parameter list is retold with its types. -/
theorem retold_ofTypes
    {ps : List Parameter} {as bs : List String}
    (f : String → String)
    (hps : ∀ p ∈ ps, ∀ n ∈ p.name, IsSignless n)
    (h : List.Forall₂ (Retold s) as bs) :
    Retold s (ofTypes ps as)
      (ofTypes (Parameter.renameAll f ps) bs) := by
  have hStarred :
      ((Parameter.renameAll f ps).any
          (·.kind == .varPositional)) =
        ps.any (·.kind == .varPositional) := by
    clear hps h
    induction ps with
    | nil => rfl
    | cons p ps ih =>
        simp only [Parameter.renameAll, List.any_cons, ih]
        cases p
        rfl
  unfold ofTypes
  dsimp only
  rw [hStarred, layOut_renameAll]
  exact Retold.intercalate hFresh (by decide)
    (retold_layOut hFresh hps h _)

end ParameterText

------------------------------------------------------------
-- Types
------------------------------------------------------------

section Types

variable {s : CheckState}

mutual

/- A type is retold as the type with its variables restored. -/
theorem Ty.retold_text
    (hFresh : s.HasFresh)
    (t : Ty) (h : t.Uses s.Knows) :
    Retold s t.text (t.rename s.declaredName).text := by
  have hPlain (text : String) (hText : IsSignless text) :
      Retold s text text :=
    Retold.of_signless hFresh hText
  cases t with
  | typeVar name => exact Retold.of_knows hFresh h
  | specArgs name =>
      exact (Retold.of_knows hFresh h).before hFresh
        (by decide)
  | specKwargs name =>
      exact (Retold.of_knows hFresh h).before hFresh
        (by decide)
  | cls name => exact hPlain name h.plain
  | generic name args =>
      have hArgs := TypeArg.retold_texts hFresh args h.2
      have hInner :=
        Retold.intercalate hFresh
          (by decide : Closes ", " ∧ Opens ", ") hArgs
      exact ((hPlain name h.1.plain).between hFresh hInner
        (by decide : Closes "[" ∧ Opens "[")).before hFresh
          (by decide)
  | list t =>
      exact ((Ty.retold_text hFresh t h).behind hFresh
        (by decide)).before hFresh (by decide)
  | set t =>
      exact ((Ty.retold_text hFresh t h).behind hFresh
        (by decide)).before hFresh (by decide)
  | dict k v =>
      have hKey :=
        (Ty.retold_text hFresh k h.1).behind hFresh
          (by decide : Opens "dict[")
      exact (hKey.between hFresh
        (Ty.retold_text hFresh v h.2) (by decide)).before
          hFresh (by decide)
  | tuple ts =>
      cases ts with
      | nil => exact hPlain _ (by decide)
      | cons t ts =>
          have hItems :=
            Retold.intercalate hFresh
              (by decide : Closes ", " ∧ Opens ", ")
              (Ty.retold_texts hFresh (t :: ts) h)
          exact (hItems.behind hFresh (by decide)).before
            hFresh (by decide)
  | union ts =>
      exact Retold.intercalate hFresh (by decide)
        (Ty.retold_texts hFresh ts h.2)
  | callable sig ret =>
      exact (Signature.retold_text hFresh sig h.1).between
        hFresh (Ty.retold_text hFresh ret h.2) (by decide)
  | _ => exact hPlain _ (by decide)

/- Types are retold one by one. -/
theorem Ty.retold_texts
    (hFresh : s.HasFresh)
    (ts : List Ty) (h : Ty.UsesAll s.Knows ts) :
    List.Forall₂ (Retold s) (Ty.texts ts)
      (Ty.texts (Ty.renameAll s.declaredName ts)) := by
  cases ts with
  | nil => exact .nil
  | cons t ts =>
      exact .cons (Ty.retold_text hFresh t h.1)
        (Ty.retold_texts hFresh ts h.2)

/- A class argument is retold with its variables restored. -/
theorem TypeArg.retold_text
    (hFresh : s.HasFresh)
    (a : TypeArg) (h : a.Uses s.Knows) :
    Retold s a.text (a.rename s.declaredName).text := by
  cases a with
  | type t => exact Ty.retold_text hFresh t h
  | params sig => exact Signature.retold_text hFresh sig h

/- Class arguments are retold one by one. -/
theorem TypeArg.retold_texts
    (hFresh : s.HasFresh)
    (args : List TypeArg) (h : TypeArg.UsesAll s.Knows args) :
    List.Forall₂ (Retold s) (TypeArg.texts args)
      (TypeArg.texts
        (TypeArg.renameAll s.declaredName args)) := by
  cases args with
  | nil => exact .nil
  | cons a args =>
      exact .cons (TypeArg.retold_text hFresh a h.1)
        (TypeArg.retold_texts hFresh args h.2)

/- The type of a parameter is retold. -/
theorem Parameter.retold_typeText
    (hFresh : s.HasFresh)
    (p : Parameter) (h : p.Uses s.Knows) :
    Retold s p.typeText
      (p.rename s.declaredName).typeText := by
  cases p with
  | mk name kind ty hasDefault =>
      exact Ty.retold_text hFresh ty h.2

/- The types of parameters are retold one by one. -/
theorem Parameter.retold_typeTexts
    (hFresh : s.HasFresh)
    (ps : List Parameter)
    (h : Parameter.UsesAll s.Knows ps) :
    List.Forall₂ (Retold s) (Parameter.typeTexts ps)
      (Parameter.typeTexts
        (Parameter.renameAll s.declaredName ps)) := by
  cases ps with
  | nil => exact .nil
  | cons p ps =>
      exact .cons (Parameter.retold_typeText hFresh p h.1)
        (Parameter.retold_typeTexts hFresh ps h.2)

/- A signature is retold with its variables restored. -/
theorem Signature.retold_text
    (hFresh : s.HasFresh)
    (sig : Signature) (h : sig.Uses s.Knows) :
    Retold s sig.text (sig.rename s.declaredName).text := by
  have hNames (ps : List Parameter)
      (hps : Parameter.UsesAll s.Knows ps) :
      ∀ p ∈ ps, ∀ n ∈ p.name, IsSignless n :=
    fun p hp n hn =>
      ((Parameter.uses_iff.mp
        (Parameter.usesAll_iff.mp hps p hp)).1 n hn).plain
  cases sig with
  | gradual => exact Retold.of_signless hFresh (by decide)
  | params ps =>
      have hList :=
        ParameterText.retold_ofTypes hFresh s.declaredName
          (hNames ps h)
          (Parameter.retold_typeTexts hFresh ps h)
      exact (hList.behind hFresh (by decide)).before hFresh
        (by decide)
  | spec lead var =>
      have hVar := Retold.of_knows hFresh h.2
      cases lead with
      | nil =>
          exact (hVar.behind hFresh (by decide)).before
            hFresh (by decide)
      | cons p lead =>
          have hList :=
            ParameterText.retold_ofTypes hFresh
              s.declaredName (hNames (p :: lead) h.1)
              (Parameter.retold_typeTexts hFresh (p :: lead)
                h.1)
          have hBoth :=
            (hList.behind hFresh (by decide : Opens "(")).between
              hFresh hVar
              (by decide : Closes ", **" ∧ Opens ", **")
          exact hBoth.before hFresh (by decide)

end

end Types

------------------------------------------------------------
-- Faults
------------------------------------------------------------

/- Rename the variable in a mismatch. -/
def CallMismatch.rename
    (f : String → String) : CallMismatch → CallMismatch
  | .forwardingRequired var => .forwardingRequired (f var)
  | m => m

/- Rename the variables in a fault. -/
def CallFault.rename
    (f : String → String) : CallFault → CallFault
  | .mismatch callee reason =>
      .mismatch callee (reason.rename f)
  | .unsatisfiable var first second =>
      .unsatisfiable (f var) (first.rename f)
        (second.rename f)
  | .wrongType param expected found =>
      .wrongType param (expected.rename f) (found.rename f)

/- Texts with plain ones between them are plain. -/
theorem isSignless_intercalate
    {text : String} {texts : List String}
    (hText : IsSignless text)
    (hTexts : ∀ t ∈ texts, IsSignless t) :
    IsSignless (text.intercalate texts) := by
  induction texts with
  | nil =>
      rw [String.intercalate_nil]
      decide
  | cons t texts ih =>
      rw [List.forall_mem_cons] at hTexts
      cases texts with
      | nil =>
          rw [String.intercalate_singleton]
          exact hTexts.1
      | cons u texts =>
          rw [String.intercalate_cons_cons,
            isSignless_append, isSignless_append]
          exact ⟨⟨hTexts.1, hText⟩, ih hTexts.2⟩

namespace CallMismatch

/- A name between quotes is plain if the name is. -/
theorem isSignless_quoted
    {name : String}
    (h : IsSignless name) : IsSignless (quoted name) := by
  have hQuote : IsSignless "'" := by decide
  simp only [quoted, isSignless_append, h, hQuote, and_self]

/- The ending of a noun is plain. -/
theorem isSignless_plural (count : Nat) :
    IsSignless (plural count) := by
  unfold plural
  split <;> decide

/- Only a variable may bring the sign into a message. -/
theorem isSignless_message
    {known : String → Prop} {m : CallMismatch}
    (hNone : ∀ var, m ≠ .forwardingRequired var)
    (h : m.Uses known) : IsSignless m.message := by
  cases m with
  | forwardingRequired var => exact absurd rfl (hNone var)
  | tooManyPositional expected found =>
      unfold message
      simp only [isSignless_append,
        isSignless_toString]
      decide
  | unexpectedKeyword name =>
      unfold message
      simp only [isSignless_append,
        isSignless_quoted h]
      decide
  | multipleValues name =>
      unfold message
      simp only [isSignless_append,
        isSignless_quoted h]
      decide
  | positionalOnlyAsKeyword name =>
      unfold message
      simp only [isSignless_append,
        isSignless_quoted h]
      decide
  | missing names =>
      have hNames :
          ∀ t ∈ names.map quoted, IsSignless t := by
        intro t ht
        rcases List.mem_map.mp ht with ⟨name, hName, rfl⟩
        exact isSignless_quoted (h name hName)
      have hList :=
        isSignless_intercalate
          (by decide : IsSignless ", ") hNames
      unfold message
      simp only [isSignless_append,
        isSignless_plural, hList]
      decide
  | leadMismatch expected found =>
      unfold message
      simp only [isSignless_append,
        isSignless_toString, isSignless_plural]
      decide

end CallMismatch

section Faults

variable {s : CheckState}
variable (hFresh : s.HasFresh)

include hFresh

/- A mismatch is retold with its variable restored. -/
theorem CallMismatch.retold_message
    (m : CallMismatch) (h : m.Uses s.Knows) :
    Retold s m.message (m.rename s.declaredName).message := by
  cases m with
  | forwardingRequired var =>
      have hVar := Retold.of_knows hFresh h
      have hFront :=
        hVar.behind hFresh
          (by decide :
            Opens "arguments must be forwarded as (*args: ")
      have hBoth :=
        hFront.between hFresh hVar
          (by decide :
            Closes ".args, **kwargs: "
              ∧ Opens ".args, **kwargs: ")
      exact hBoth.before hFresh (by decide)
  | _ =>
      exact Retold.of_signless hFresh
        (isSignless_message nofun h)

/- The cause of a fault is restored by its variables. -/
theorem CallFault.restoreCause_eq
    (fault : CallFault) (h : fault.Uses s.Knows) :
    s.restoreCause fault.cause =
      (fault.rename s.declaredName).cause := by
  cases fault with
  | mismatch callee reason =>
      have hReason :=
        (CallMismatch.retold_message hFresh reason
          h.2).restoreNames_eq hFresh
      exact congrArg (Cause.callSiteMismatch callee) hReason
  | unsatisfiable var first second =>
      have hVar :=
        (Retold.of_knows hFresh h.1).restoreNames_eq hFresh
      have hFirst :=
        (Signature.retold_text hFresh first
          h.2.1).restoreNames_eq hFresh
      have hSecond :=
        (Signature.retold_text hFresh second
          h.2.2).restoreNames_eq hFresh
      simp only [CallFault.cause, CheckState.restoreCause,
        CallFault.rename, hVar, hFirst, hSecond]
  | wrongType param expected found =>
      have hExpected :=
        (Ty.retold_text hFresh expected
          h.2.1).restoreNames_eq hFresh
      have hFound :=
        (Ty.retold_text hFresh found
          h.2.2).restoreNames_eq hFresh
      simp only [CallFault.cause, CheckState.restoreCause,
        CallFault.rename, hExpected, hFound]

/- What is revealed is the type with its variables restored. -/
theorem Ty.restoreNames_text
    {t : Ty} (h : t.Uses s.Knows) :
    s.restoreNames t.text =
      (t.rename s.declaredName).text :=
  (Ty.retold_text hFresh t h).restoreNames_eq hFresh

end Faults

end SigCheck
