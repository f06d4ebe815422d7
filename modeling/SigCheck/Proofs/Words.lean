import SigCheck.Check.State

/-
  Texts as runs of word characters between other characters,
  and replacement of whole words.

  Fresh names are words that contain a sign no other word
  contains. Replacing them in a text one after the other,
  longer ones first, replaces every word that is a fresh name
  and leaves the other words as they are.

  Key definitions include:
    * `isWordChar`
    * `wordsFrom`, `mapWordsFrom`
    * `FreshName.replaceWord`, `FreshName.restoreWord`

  Correctness is proven by:
    * `mapWordsFrom_mapWordsFrom`
    * `replaceIn_eq_mapWordsFrom`
    * `FreshName.foldl_replaceAll_toList`
-/

namespace SigCheck

------------------------------------------------------------
-- Words
------------------------------------------------------------

/- A character of a name, be it fresh or not. -/
def isWordChar (c : Char) : Bool :=
  c == '@' || isNameRest c || isPictograph c

/- A run of characters that may stand in a name. -/
def IsWord (w : List Char) : Prop :=
  ∀ c ∈ w, isWordChar c = true

instance (w : List Char) : Decidable (IsWord w) :=
  decidable_of_iff (w.all isWordChar = true) List.all_eq_true

/- The words of a text behind the beginning of a word. -/
def wordsFrom (w : List Char) : List Char → List (List Char)
  | [] => [w]
  | c :: cs =>
      if isWordChar c then wordsFrom (w ++ [c]) cs
      else w :: wordsFrom [] cs

/- A text with every word replaced by another text. -/
def mapWordsFrom
    (f : List Char → List Char)
    (w : List Char) : List Char → List Char
  | [] => f w
  | c :: cs =>
      if isWordChar c then mapWordsFrom f (w ++ [c]) cs
      else f w ++ c :: mapWordsFrom f [] cs

/- A word with one more character is a word. -/
theorem IsWord.concat
    {w : List Char} {c : Char}
    (hWord : IsWord w)
    (hChar : isWordChar c = true) :
    IsWord (w ++ [c]) := by
  intro d hd
  rcases List.mem_append.mp hd with hd | hd
  · exact hWord d hd
  · rw [List.mem_singleton] at hd
    rw [hd]
    exact hChar

/- No character is no character outside of names. -/
theorem isWord_nil : IsWord [] := by
  intro c hc
  cases hc

section Map

variable {f g : List Char → List Char}

/- Word characters go on with the word in front. -/
theorem mapWordsFrom_append_word
    {u : List Char}
    (hWord : IsWord u)
    (w cs : List Char) :
    mapWordsFrom f w (u ++ cs) = mapWordsFrom f (w ++ u) cs := by
  induction u generalizing w with
  | nil => simp
  | cons c u ih =>
      have hChar := hWord c (List.mem_cons_self ..)
      have hRest : IsWord u :=
        fun d hd => hWord d (List.mem_cons_of_mem _ hd)
      simp [mapWordsFrom, hChar, ih hRest]

/- Word characters go on with the word in front. -/
theorem wordsFrom_append_word
    {u : List Char}
    (hWord : IsWord u)
    (w cs : List Char) :
    wordsFrom w (u ++ cs) = wordsFrom (w ++ u) cs := by
  induction u generalizing w with
  | nil => simp
  | cons c u ih =>
      have hChar := hWord c (List.mem_cons_self ..)
      have hRest : IsWord u :=
        fun d hd => hWord d (List.mem_cons_of_mem _ hd)
      simp [wordsFrom, hChar, ih hRest]

/- Another character ends a word. -/
theorem mapWordsFrom_append_cons
    {c : Char}
    (hChar : isWordChar c = false)
    (w a b : List Char) :
    mapWordsFrom f w (a ++ c :: b) =
      mapWordsFrom f w a ++ c :: mapWordsFrom f [] b := by
  induction a generalizing w with
  | nil => simp [mapWordsFrom, hChar]
  | cons d a ih =>
      by_cases hd : isWordChar d = true
      · simp [mapWordsFrom, hd, ih]
      · simp [mapWordsFrom, hd, ih]

/- Another character ends a word. -/
theorem wordsFrom_append_cons
    {c : Char}
    (hChar : isWordChar c = false)
    (w a b : List Char) :
    wordsFrom w (a ++ c :: b) =
      wordsFrom w a ++ wordsFrom [] b := by
  induction a generalizing w with
  | nil => simp [wordsFrom, hChar]
  | cons d a ih =>
      by_cases hd : isWordChar d = true
      · simp [wordsFrom, hd, ih]
      · simp [wordsFrom, hd, ih]

/- Only the words of a text count. -/
theorem mapWordsFrom_congr
    {w cs : List Char}
    (h : ∀ u ∈ wordsFrom w cs, f u = g u) :
    mapWordsFrom f w cs = mapWordsFrom g w cs := by
  induction cs generalizing w with
  | nil => exact h w (List.mem_singleton.mpr rfl)
  | cons c cs ih =>
      by_cases hc : isWordChar c = true
      · simp only [wordsFrom, hc, if_true] at h
        simp only [mapWordsFrom, hc, if_true]
        exact ih h
      · simp only [wordsFrom, hc, if_false,
          Bool.false_eq_true, List.mem_cons] at h
        simp only [mapWordsFrom, hc, if_false,
          Bool.false_eq_true]
        rw [h w (Or.inl rfl),
          ih fun u hu => h u (Or.inr hu)]

/- Keeping every word keeps the text. -/
theorem mapWordsFrom_id (w cs : List Char) :
    mapWordsFrom (fun u => u) w cs = w ++ cs := by
  induction cs generalizing w with
  | nil => simp [mapWordsFrom]
  | cons c cs ih =>
      by_cases hc : isWordChar c = true <;>
        simp [mapWordsFrom, hc, ih]

/- What words become are words of the new text. -/
theorem wordsFrom_mapWordsFrom
    (hWords : ∀ u, IsWord u → IsWord (f u))
    {w : List Char}
    (hWord : IsWord w)
    (cs : List Char) :
    wordsFrom [] (mapWordsFrom f w cs) =
      (wordsFrom w cs).map f := by
  induction cs generalizing w with
  | nil =>
      have h :=
        wordsFrom_append_word (hWords w hWord) [] []
      simpa [mapWordsFrom, wordsFrom] using h
  | cons c cs ih =>
      by_cases hc : isWordChar c = true
      · simp [mapWordsFrom, wordsFrom, hc,
          ih (hWord.concat hc)]
      · have hChar : isWordChar c = false := by
          simpa using hc
        have h :=
          wordsFrom_append_word (hWords w hWord) [] []
        simp only [List.append_nil, List.nil_append] at h
        simp [mapWordsFrom, wordsFrom, hChar,
          wordsFrom_append_cons hChar, ih isWord_nil, h]

/- Replacing words twice is replacing them once. -/
theorem mapWordsFrom_mapWordsFrom
    (hWords : ∀ u, IsWord u → IsWord (f u))
    {w : List Char}
    (hWord : IsWord w)
    (cs : List Char) :
    mapWordsFrom g [] (mapWordsFrom f w cs) =
      mapWordsFrom (fun u => g (f u)) w cs := by
  induction cs generalizing w with
  | nil =>
      have h :=
        mapWordsFrom_append_word (f := g) (hWords w hWord)
          [] []
      simpa [mapWordsFrom] using h
  | cons c cs ih =>
      by_cases hc : isWordChar c = true
      · simp [mapWordsFrom, hc, ih (hWord.concat hc)]
      · have hChar : isWordChar c = false := by
          simpa using hc
        have h :=
          mapWordsFrom_append_word (f := g) (hWords w hWord)
            [] []
        simp only [List.append_nil, List.nil_append] at h
        simp [mapWordsFrom, hChar,
          mapWordsFrom_append_cons hChar, ih isWord_nil, h]

end Map

------------------------------------------------------------
-- Replacing One Word
------------------------------------------------------------

section Replace

variable {n v : List Char}

/- Behind an occurrence as much of the text is skipped. -/
theorem replaceIn_append
    (u cs : List Char) :
    replaceIn n v u.length (u ++ cs) = replaceIn n v 0 cs := by
  induction u with
  | nil => rfl
  | cons c u ih => simpa [replaceIn] using ih

/- A word in front of a text ends where the text begins. -/
theorem prefix_of_prefix_append
    {w cs : List Char}
    (hWord : IsWord n)
    (hEnd : ∀ c ∈ cs.head?, isWordChar c = false)
    (h : n <+: w ++ cs) :
    n <+: w := by
  rcases h with ⟨more, hMore⟩
  rcases List.append_eq_append_iff.mp hMore with
    ⟨rest, hRest, -⟩ | ⟨rest, hRest, hText⟩
  · exact ⟨rest, hRest.symm⟩
  · cases rest with
    | nil =>
        rw [List.append_nil] at hRest
        subst hRest
        exact List.prefix_rfl
    | cons c rest =>
        exfalso
        have hIn : isWordChar c = true := by
          apply hWord
          simp [hRest]
        have hOut : isWordChar c = false := by
          apply hEnd
          simp [hText]
        rw [hIn] at hOut
        cases hOut

/- A pattern that does not occur in a word leaves it alone. -/
theorem replaceIn_of_not_infix
    {w cs : List Char}
    (hWord : IsWord n)
    (hEnd : ∀ c ∈ cs.head?, isWordChar c = false)
    (h : ¬ n <:+: w) :
    replaceIn n v 0 (w ++ cs) = w ++ replaceIn n v 0 cs := by
  induction w with
  | nil => rfl
  | cons c w ih =>
      have hPrefix : ¬ n <+: c :: (w ++ cs) := by
        intro hPrefix
        rw [← List.cons_append] at hPrefix
        exact h
          (prefix_of_prefix_append hWord hEnd
            hPrefix).isInfix
      have hRest : ¬ n <:+: w :=
        fun hInfix => h (hInfix.trans
          (List.suffix_cons c w).isInfix)
      simp [replaceIn, hPrefix, ih hRest]

/- A pattern in front of a text is replaced. -/
theorem replaceIn_self
    (hNonempty : n ≠ [])
    (cs : List Char) :
    replaceIn n v 0 (n ++ cs) = v ++ replaceIn n v 0 cs := by
  cases hPattern : n with
  | nil => exact absurd hPattern hNonempty
  | cons c rest =>
      rw [List.cons_append, replaceIn]
      simp [replaceIn_append]

/- A pattern does not begin with another character. -/
theorem replaceIn_cons
    {c : Char}
    (hNonempty : n ≠ [])
    (hWord : IsWord n)
    (hChar : isWordChar c = false)
    (cs : List Char) :
    replaceIn n v 0 (c :: cs) = c :: replaceIn n v 0 cs := by
  have hPrefix : ¬ n <+: c :: cs := by
    intro h
    have hHead : ∀ d ∈ (c :: cs).head?, isWordChar d = false := by
      simpa using hChar
    have hEmpty : n <+: [] :=
      prefix_of_prefix_append (w := []) hWord hHead h
    exact hNonempty (List.prefix_nil.mp hEmpty)
  simp [replaceIn, hPrefix]

/- A word is replaced if the pattern occurs in no other one. -/
theorem replaceIn_word
    {w cs : List Char}
    (hNonempty : n ≠ [])
    (hWord : IsWord n)
    (hEnd : ∀ c ∈ cs.head?, isWordChar c = false)
    (hSelf : n <:+: w → w = n) :
    replaceIn n v 0 (w ++ cs) =
      (if w = n then v else w) ++ replaceIn n v 0 cs := by
  by_cases hSame : w = n
  · rw [if_pos hSame, hSame]
    exact replaceIn_self hNonempty cs
  · rw [if_neg hSame]
    exact replaceIn_of_not_infix hWord hEnd
      fun h => hSame (hSelf h)

/-
  If a word occurs in no other word of a text, replacing it
  as a pattern replaces the words that are equal to it.
-/
theorem replaceIn_eq_mapWordsFrom
    (hNonempty : n ≠ [])
    (hWord : IsWord n)
    (w cs : List Char)
    (hOnly : ∀ u ∈ wordsFrom w cs, n <:+: u → u = n) :
    replaceIn n v 0 (w ++ cs) =
      mapWordsFrom (fun u => if u = n then v else u) w cs := by
  induction cs generalizing w with
  | nil =>
      rw [replaceIn_word hNonempty hWord (by simp)
        (hOnly w (by simp [wordsFrom]))]
      simp [mapWordsFrom, replaceIn]
  | cons c cs ih =>
      by_cases hc : isWordChar c = true
      · simp only [wordsFrom, hc, if_true] at hOnly
        simp only [mapWordsFrom, hc, if_true]
        rw [← ih (w ++ [c]) hOnly]
        simp
      · have hChar : isWordChar c = false := by
          simpa using hc
        simp only [wordsFrom, hChar, Bool.false_eq_true,
          if_false, List.mem_cons] at hOnly
        simp only [mapWordsFrom, hChar, Bool.false_eq_true,
          if_false]
        rw [replaceIn_word hNonempty hWord
            (by simpa using hChar) (hOnly w (Or.inl rfl)),
          replaceIn_cons hNonempty hWord hChar]
        have hRest :=
          ih [] fun u hu => hOnly u (Or.inr hu)
        rw [List.nil_append] at hRest
        rw [hRest]

end Replace

------------------------------------------------------------
-- Restoring Names
------------------------------------------------------------

/- A part of a text is shorter, unless it is all of it. -/
theorem eq_of_infix_of_byteLength_le
    {a b : String}
    (hInfix : a.toList <:+: b.toList)
    (hLength : byteLength b ≤ byteLength a) :
    b.toList = a.toList := by
  rcases hInfix with ⟨front, back, hWhole⟩
  have hSum (text : String) :
      byteLength text =
        (text.toList.map Char.utf8Size).sum :=
    List.foldr_map.symm
  rw [hSum, hSum, ← hWhole] at hLength
  simp only [List.map_append, List.sum_append] at hLength
  have hPositive (cs : List Char)
      (hZero : (cs.map Char.utf8Size).sum = 0) : cs = [] := by
    cases cs with
    | nil => rfl
    | cons c cs =>
        have := c.utf8Size_pos
        simp at hZero
        omega
  have hFront := hPositive front (by omega)
  have hBack := hPositive back (by omega)
  rw [← hWhole, hFront, hBack]
  simp

namespace FreshName

/- A variable behind which the sign of fresh names stands. -/
structure IsFresh (f : FreshName) : Prop where
  word : IsWord f.name.toList
  var : IsWord f.var.toList
  plain : '@' ∉ f.var.toList
  tail : ∃ more, f.name.toList = f.var.toList ++ '@' :: more

/- What stands before the sign is the variable. -/
theorem takeWhile_name
    {f : FreshName}
    (hFresh : f.IsFresh) :
    f.name.toList.takeWhile (· != '@') = f.var.toList := by
  rcases hFresh.tail with ⟨more, hMore⟩
  have hVar :
      ∀ c ∈ f.var.toList, (c != '@') = true := by
    intro c hc
    simp only [bne_iff_ne]
    rintro rfl
    exact hFresh.plain hc
  rw [hMore, List.takeWhile_append_of_pos hVar]
  simp

/- The name determines the variable. -/
theorem IsFresh.var_eq
    {f g : FreshName}
    (hf : f.IsFresh)
    (hg : g.IsFresh)
    (hName : f.name = g.name) :
    f.var = g.var := by
  apply String.toList_injective
  rw [← takeWhile_name hf, ← takeWhile_name hg, hName]

/- A fresh name contains the sign. -/
theorem IsFresh.mem_name
    {f : FreshName}
    (hFresh : f.IsFresh) :
    '@' ∈ f.name.toList := by
  rcases hFresh.tail with ⟨more, hMore⟩
  simp [hMore]

/- The word that stands for another one, if it is fresh. -/
def restoreWord
    (fresh : List FreshName)
    (w : List Char) : List Char :=
  ((fresh.find? fun f => f.name.toList = w).map
    (·.var.toList)).getD w

/- A word stands for what its name is declared to be. -/
theorem restoreWord_toList (s : CheckState) (v : String) :
    restoreWord s.fresh v.toList =
      (s.declaredName v).toList := by
  have hSame :
      (fun f : FreshName => decide (f.name.toList = v.toList)) =
        fun f => f.name == v := by
    funext f
    rw [Bool.eq_iff_iff]
    simp [String.toList_inj]
  unfold restoreWord CheckState.declaredName
  rw [hSame]
  cases s.fresh.find? fun f => f.name == v <;> rfl

section Restore

variable {fresh : List FreshName}

/- A fresh name stands for its variable. -/
theorem restoreWord_name
    (hFresh : ∀ f ∈ fresh, f.IsFresh)
    {f : FreshName}
    (hf : f ∈ fresh) :
    restoreWord fresh f.name.toList = f.var.toList := by
  unfold restoreWord
  cases hFind :
      fresh.find? fun g => g.name.toList = f.name.toList with
  | none =>
      rw [List.find?_eq_none] at hFind
      exact absurd (by simp) (hFind f hf)
  | some g =>
      have hName : g.name = f.name := by
        apply String.toList_injective
        simpa using List.find?_some hFind
      have hg := hFresh g (List.mem_of_find?_eq_some hFind)
      rw [Option.map_some, Option.getD_some,
        hg.var_eq (hFresh f hf) hName]

/- A word without the sign stands for itself. -/
theorem restoreWord_plain
    (hFresh : ∀ f ∈ fresh, f.IsFresh)
    {w : List Char}
    (hPlain : '@' ∉ w) :
    restoreWord fresh w = w := by
  unfold restoreWord
  have hFind :
      fresh.find? (fun f => f.name.toList = w) = none := by
    rw [List.find?_eq_none]
    intro f hf hName
    have hMem := (hFresh f hf).mem_name
    rw [of_decide_eq_true hName] at hMem
    exact hPlain hMem
  rw [hFind]
  rfl

/- The words of a text are fresh names or have no sign. -/
def Restorable
    (fresh : List FreshName)
    (text : String) : Prop :=
  ∀ w ∈ wordsFrom [] text.toList,
    '@' ∉ w ∨ ∃ f ∈ fresh, f.name.toList = w

/- The word that stands for another one, if it is this name. -/
def replaceWord (f : FreshName) (w : List Char) : List Char :=
  if w = f.name.toList then f.var.toList else w

section Step

variable {f : FreshName} {text : String}

theorem isWord_replaceWord
    (hf : f.IsFresh)
    {w : List Char}
    (hWord : IsWord w) : IsWord (f.replaceWord w) := by
  unfold replaceWord
  split
  · exact hf.var
  · exact hWord

/- Names are replaced one at a time. -/
theorem restoreWord_replaceWord
    (hFresh : ∀ g ∈ f :: fresh, g.IsFresh)
    (w : List Char) :
    restoreWord fresh (f.replaceWord w) =
      restoreWord (f :: fresh) w := by
  rcases List.forall_mem_cons.mp hFresh with ⟨hf, hRest⟩
  unfold replaceWord
  by_cases hSame : w = f.name.toList
  · rw [if_pos hSame, hSame, restoreWord_plain hRest hf.plain,
      restoreWord_name hFresh (List.mem_cons_self ..)]
  · rw [if_neg hSame]
    have hSkip : ¬ f.name.toList = w := fun h => hSame h.symm
    simp [restoreWord, hSkip]

variable (hf : f.IsFresh)
variable
  (hLongest :
    ∀ g ∈ fresh, byteLength g.name ≤ byteLength f.name)
variable (hText : Restorable (f :: fresh) text)

include hf hLongest hText

/-
  No other word contains the longest name: a word with the
  sign is a fresh name that is not longer.
-/
theorem eq_name_of_infix
    {w : List Char}
    (hw : w ∈ wordsFrom [] text.toList)
    (hInfix : f.name.toList <:+: w) : w = f.name.toList := by
  rcases hText w hw with hPlain | ⟨g, hg, rfl⟩
  · exact absurd (hInfix.subset hf.mem_name) hPlain
  · apply eq_of_infix_of_byteLength_le hInfix
    rcases List.mem_cons.mp hg with rfl | hg
    · exact Nat.le_refl _
    · exact hLongest g hg

/- Replacing the longest name replaces whole words. -/
theorem replaceAll_toList :
    (replaceAll f.name f.var text).toList =
      mapWordsFrom f.replaceWord [] text.toList := by
  rw [replaceAll, String.toList_ofList]
  exact
    replaceIn_eq_mapWordsFrom
      (List.ne_nil_of_mem hf.mem_name) hf.word [] text.toList
      fun _ => eq_name_of_infix hf hLongest hText

/- The other names remain to be replaced. -/
theorem restorable_replaceAll :
    Restorable fresh (replaceAll f.name f.var text) := by
  intro w hw
  rw [replaceAll_toList hf hLongest hText,
    wordsFrom_mapWordsFrom (fun _ => isWord_replaceWord hf)
      isWord_nil, List.mem_map] at hw
  rcases hw with ⟨u, hu, rfl⟩
  unfold replaceWord
  by_cases hSame : u = f.name.toList
  · rw [if_pos hSame]
    exact Or.inl hf.plain
  · rw [if_neg hSame]
    rcases hText u hu with hPlain | ⟨g, hg, rfl⟩
    · exact Or.inl hPlain
    · rcases List.mem_cons.mp hg with rfl | hg
      · exact absurd rfl hSame
      · exact Or.inr ⟨g, hg, rfl⟩

end Step

/-
  Replacing fresh names one after the other, none of them
  before a longer one, replaces each word by what it stands
  for.
-/
theorem foldl_replaceAll_toList
    (hFresh : ∀ f ∈ fresh, f.IsFresh)
    (hSorted :
      fresh.Pairwise fun f g =>
        byteLength g.name ≤ byteLength f.name)
    {text : String}
    (hText : Restorable fresh text) :
    (fresh.foldl
        (fun text f => replaceAll f.name f.var text)
        text).toList =
      mapWordsFrom (restoreWord fresh) [] text.toList := by
  induction fresh generalizing text with
  | nil =>
      have h : restoreWord [] = fun u => u := rfl
      rw [h, mapWordsFrom_id]
      rfl
  | cons f rest ih =>
      rcases List.pairwise_cons.mp hSorted with
        ⟨hLongest, hSorted⟩
      rcases List.forall_mem_cons.mp hFresh with ⟨hf, hRest⟩
      rw [List.foldl_cons,
        ih hRest hSorted
          (restorable_replaceAll hf hLongest hText),
        replaceAll_toList hf hLongest hText,
        mapWordsFrom_mapWordsFrom
          (fun _ => isWord_replaceWord hf) isWord_nil]
      exact
        mapWordsFrom_congr fun w _ =>
          restoreWord_replaceWord hFresh w

end Restore

------------------------------------------------------------
-- Order
------------------------------------------------------------

/- Inserting a name adds it. -/
theorem mem_insertByLength
    (f g : FreshName)
    (fs : List FreshName) :
    g ∈ f.insertByLength fs ↔ g = f ∨ g ∈ fs := by
  induction fs with
  | nil => simp [insertByLength]
  | cons h fs ih =>
      unfold insertByLength
      split
      · simp
      · simp only [List.mem_cons, ih]
        exact or_left_comm

/- Sorting keeps the names. -/
theorem mem_longestFirst
    (g : FreshName)
    (fs : List FreshName) :
    g ∈ longestFirst fs ↔ g ∈ fs := by
  have hFold (done : List FreshName) :
      g ∈ fs.foldl (fun done f => f.insertByLength done) done ↔
        g ∈ done ∨ g ∈ fs := by
    induction fs generalizing done with
    | nil => simp
    | cons f fs ih =>
        rw [List.foldl_cons, ih, mem_insertByLength,
          List.mem_cons]
        grind
  unfold longestFirst
  simp [hFold]

/- A name is put where no longer one follows. -/
theorem pairwise_insertByLength
    (f : FreshName)
    {fs : List FreshName}
    (h :
      fs.Pairwise fun f g =>
        byteLength g.name ≤ byteLength f.name) :
    (f.insertByLength fs).Pairwise fun f g =>
      byteLength g.name ≤ byteLength f.name := by
  induction fs with
  | nil => simp [insertByLength]
  | cons g fs ih =>
      have hRest := ih (List.pairwise_cons.mp h).2
      have hFirst := (List.pairwise_cons.mp h).1
      unfold insertByLength
      split
      · rename_i hShorter
        rw [List.pairwise_cons]
        refine ⟨?_, h⟩
        intro k hk
        rcases List.mem_cons.mp hk with rfl | hk
        · omega
        · have := hFirst k hk
          omega
      · rename_i hLonger
        rw [List.pairwise_cons]
        refine ⟨?_, hRest⟩
        intro k hk
        rcases (mem_insertByLength f k fs).mp hk with rfl | hk
        · omega
        · exact hFirst k hk

/- No name stands before a longer one. -/
theorem pairwise_longestFirst (fs : List FreshName) :
    (longestFirst fs).Pairwise fun f g =>
      byteLength g.name ≤ byteLength f.name := by
  have hFold (done : List FreshName)
      (hDone :
        done.Pairwise fun f g =>
          byteLength g.name ≤ byteLength f.name) :
      (fs.foldl (fun done f => f.insertByLength done)
          done).Pairwise fun f g =>
        byteLength g.name ≤ byteLength f.name := by
    induction fs generalizing done with
    | nil => exact hDone
    | cons f fs ih =>
        exact ih _ (pairwise_insertByLength f hDone)
  exact hFold [] List.Pairwise.nil

end FreshName

end SigCheck
