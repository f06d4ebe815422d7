import Mathlib.Algebra.BigOperators.Ring.List
import Mathlib.Algebra.Ring.Nat
import SigCheck.Command.Options

/-
  How much an accepted command line asks to be told. Each
  argument of a dash and letters v asks for more, unless it
  is the value of the option in front of it.

  An argument counts for the number of its letters modulo
  256, and the sum of what the arguments count for stops at
  255. So the sum of all letters stops at 255 as well if no
  argument has more than 255 of them. With such an argument
  it does exactly if the arguments count for 255 even so.

  Key definitions include:
    * `isValueAt`, `standing`
    * `loudness`, `requests`

  Correctness is proven by:
    * `standing_append`
    * `Argument.letters_ofText`
    * `Options.verbosity_read`
    * `min_sum_mod_eq_iff`
    * `Options.verbosity_saturates_iff`
-/

namespace SigCheck

------------------------------------------------------------
-- Values of Options
------------------------------------------------------------

/- The options that take the next argument as their value. -/
def valueOptions : List String :=
  ["--config", "--format", "--log-format", "--max-errors",
    "--jobs", "-j"]

/-
  The argument at a place is the value of the option in
  front of it, which is itself no value.
-/
def isValueAt (arguments : List String) : Nat → Bool
  | 0 => false
  | i + 1 =>
      !isValueAt arguments i &&
        arguments[i]?.any valueOptions.contains

/- The arguments that are no values of options. -/
def standing (arguments : List String) : List String :=
  arguments.zipIdx.filterMap fun a =>
    if isValueAt arguments a.2 then none else some a.1

section Standing

variable {front rest : List String} {i : Nat}

/- What comes later does not make an argument a value. -/
theorem isValueAt_append_left (h : i ≤ front.length) :
    isValueAt (front ++ rest) i = isValueAt front i := by
  induction i with
  | zero => rfl
  | succ i ih =>
      have hFront : (front ++ rest)[i]? = front[i]? :=
        List.getElem?_append_left h
      simp only [isValueAt, ih (Nat.le_of_succ_le h), hFront]

/- Arguments behind a complete front are read afresh. -/
theorem isValueAt_append_right
    (hFront : isValueAt front front.length = false) :
    isValueAt (front ++ rest) (front.length + i) =
      isValueAt rest i := by
  induction i with
  | zero =>
      rw [Nat.add_zero, isValueAt_append_left le_rfl, hFront]
      rfl
  | succ i ih =>
      have hRest :
          (front ++ rest)[front.length + i]? = rest[i]? := by
        rw [List.getElem?_append_right (Nat.le_add_right ..),
          Nat.add_sub_cancel_left]
      rw [← Nat.add_assoc]
      simp only [isValueAt, ih, hRest]

/-
  If the last of some arguments does not take what follows,
  they can be read apart from it.
-/
theorem standing_append
    (hFront : isValueAt front front.length = false) :
    standing (front ++ rest) =
      standing front ++ standing rest := by
  rw [standing, List.zipIdx_append, List.filterMap_append]
  congr 1
  · apply List.filterMap_congr
    intro a ha
    have hPlace : a.2 < front.length := by
      simpa using List.snd_lt_add_of_mem_zipIdx ha
    rw [isValueAt_append_left hPlace.le]
  · rw [Nat.zero_add, List.zipIdx_eq_map_add,
      List.filterMap_map]
    apply List.filterMap_congr
    intro a _
    simp only [Function.comp, isValueAt_append_right hFront]

/- An argument that takes no value stands alone. -/
theorem standing_cons
    {text : String}
    (hText : text ∉ valueOptions) :
    standing (text :: rest) = text :: standing rest := by
  have hFront : isValueAt [text] [text].length = false := by
    simp [isValueAt, hText]
  exact standing_append hFront

/- An option takes whatever follows it. -/
theorem standing_cons_cons
    {option : String}
    (hOption : option ∈ valueOptions)
    (value : String) :
    standing (option :: value :: rest) =
      option :: standing rest := by
  have hFront :
      isValueAt [option, value] [option, value].length =
        false := by
    simp [isValueAt, hOption]
  have hOwn : standing [option, value] = [option] := by
    simp [standing, isValueAt, hOption]
  calc
    standing (option :: value :: rest) =
        standing [option, value] ++ standing rest :=
      standing_append hFront
    _ = option :: standing rest := by
      rw [hOwn, List.singleton_append]

/- An option that is a value takes none. -/
example :
    standing ["--config", "--jobs", "-v", "src"] =
      ["--config", "-v", "src"] := by
  decide

end Standing

------------------------------------------------------------
-- Letters of Arguments
------------------------------------------------------------

/-
  How many letters v stand behind a dash, in a text that has
  nothing else.
-/
def loudness (text : String) : Nat :=
  match text.toList with
  | '-' :: letters =>
      if letters.all (· == 'v') then letters.length else 0
  | _ => 0

/- How much each argument asks for that is no value. -/
def requests (arguments : List String) : List Nat :=
  (standing arguments).map loudness

section Loudness

variable {text : String}

/- A text behind a dash counts if it is letters v alone. -/
theorem loudness_of_dash
    {cs : List Char}
    (hText : text.toList = '-' :: cs) :
    loudness text =
      if cs.all (· == 'v') then cs.length else 0 := by
  simp only [loudness, hText]

/- Only a dash and letters v make an argument count. -/
theorem loudness_eq_iff {n : Nat} (hSome : 0 < n) :
    loudness text = n ↔
      text.toList = '-' :: List.replicate n 'v' := by
  constructor
  · intro h
    unfold loudness at h
    split at h
    next cs hText =>
      split at h
      next hAll =>
        have hLetters : cs = List.replicate n 'v' :=
          List.eq_replicate_iff.2 ⟨h, by simpa using hAll⟩
        rw [hText, hLetters]
      next => omega
    next => omega
  · intro hText
    rw [loudness_of_dash hText]
    simp

end Loudness

namespace Argument

/- The letters of an argument that asks to be told more. -/
def letters : Argument → Nat
  | louder n => n
  | _ => 0

variable {text : String}

theorem letters_ofOther :
    (ofOther text).letters = loudness text := by
  unfold ofOther
  split
  next rest hText =>
    rw [loudness_of_dash hText]
    split
    next hAll => simp [letters, hAll]
    next hAll => simp [letters, hAll]
  next rest hNoV hText =>
    rw [loudness_of_dash hText]
    cases rest with
    | nil => rfl
    | cons c cs =>
        have hC : c ≠ 'v' := by
          rintro rfl
          exact hNoV cs rfl
        simp [letters, hC]
  next hNoDash =>
    unfold loudness
    split
    next cs hText => exact absurd hText (hNoDash cs)
    next => rfl

/- An argument is read with the letters that it has. -/
theorem letters_ofText :
    (ofText text).letters = loudness text := by
  unfold ofText
  split
  case h_12 => exact letters_ofOther
  all_goals rfl

/- Letters v behind a dash are read as what they are. -/
theorem ofText_eq_louder
    {n : Nat}
    (hSome : 0 < n)
    (hText : text.toList = '-' :: List.replicate n 'v') :
    ofText text = .louder n := by
  have hLetters : (ofText text).letters = n := by
    rw [letters_ofText, loudness_eq_iff hSome]
    exact hText
  cases hKind : ofText text with
  | louder k =>
      rw [hKind] at hLetters
      exact congrArg louder hLetters
  | _ =>
      rw [hKind] at hLetters
      exact absurd hLetters (Nat.ne_of_lt hSome)

/- An argument without a fixed text takes no value. -/
theorem ofOther_ne_setting (s : Setting) :
    ofOther text ≠ .setting s := by
  unfold ofOther
  repeat' split
  all_goals simp

/- The options that take a value are those of the list. -/
theorem exists_ofText_eq_setting_iff :
    (∃ s, ofText text = .setting s) ↔ text ∈ valueOptions := by
  constructor
  · rintro ⟨s, h⟩
    unfold ofText at h
    split at h
    case h_12 => exact absurd h (ofOther_ne_setting s)
    all_goals simp_all [valueOptions]
  · intro h
    simp only [valueOptions, List.mem_cons, List.not_mem_nil,
      or_false] at h
    rcases h with rfl | rfl | rfl | rfl | rfl | rfl
    all_goals exact ⟨_, rfl⟩

end Argument

section Requests

variable {text : String} {rest : List String}

/- An argument that takes no value asks for its letters. -/
theorem requests_cons
    {kind : Argument}
    (hText : Argument.ofText text = kind)
    (hAlone : ∀ s, kind ≠ .setting s) :
    requests (text :: rest) =
      kind.letters :: requests rest := by
  have hNoOption : text ∉ valueOptions := by
    rw [← Argument.exists_ofText_eq_setting_iff, hText]
    rintro ⟨s, h⟩
    exact hAlone s h
  rw [requests, standing_cons hNoOption, List.map_cons,
    ← Argument.letters_ofText, hText]
  rfl

/- An option and its value ask for nothing. -/
theorem requests_cons_cons
    {s : Setting}
    (hText : Argument.ofText text = .setting s)
    (value : String) :
    requests (text :: value :: rest) =
      0 :: requests rest := by
  have hOption : text ∈ valueOptions :=
    Argument.exists_ofText_eq_setting_iff.1 ⟨s, hText⟩
  have hQuiet : loudness text = 0 := by
    rw [← Argument.letters_ofText, hText]
    rfl
  rw [requests, standing_cons_cons hOption, List.map_cons,
    hQuiet]
  rfl

end Requests

------------------------------------------------------------
-- Reading Arguments
------------------------------------------------------------

namespace Options

variable {o p : Options}

/- A switch does not change how much is told. -/
theorem verbosity_set (s : Switch) :
    (o.set s).verbosity = o.verbosity := by
  cases s <;> rfl

/- A value does not change how much is told. -/
theorem verbosity_setValue
    {s : Setting}
    {value : String}
    (h : o.setValue s value = .ok p) :
    p.verbosity = o.verbosity := by
  unfold setValue at h
  repeat' split at h
  all_goals cases h
  all_goals rfl

/-
  Reading adds what each argument counts for that is no
  value of an option.
-/
theorem verbosity_read
    {arguments : List String}
    (hStart : o.verbosity ≤ 255)
    (h : o.read arguments = .ok p) :
    p.verbosity =
      min 255
        (o.verbosity +
          ((requests arguments).map (· % 256)).sum) := by
  -- Each step leaves the rest with the number reached so far.
  induction o, arguments using read.induct with
  | case1 o =>
      cases h
      simp [requests, standing, hStart]
  | case2 o text rest s hText ih =>
      simp only [read, hText] at h
      have hRest := ih (by rwa [verbosity_set]) h
      rw [requests_cons hText (by simp)]
      simpa [Argument.letters, verbosity_set] using hRest
  | case3 o text rest n hText ih =>
      -- Stopping at 255 now or at the end is the same.
      simp only [read, hText] at h
      have hRest := ih (Nat.min_le_left ..) h
      rw [requests_cons hText (by simp)]
      simp only [List.map_cons, List.sum_cons, louder,
        Argument.letters] at hRest ⊢
      omega
  | case4 o text rest flag hText =>
      simp [read, hText] at h
  | case5 o text rest path hText ih =>
      simp only [read, hText] at h
      have hRest := ih hStart h
      rw [requests_cons hText (by simp)]
      simpa [Argument.letters] using hRest
  | case6 o text s hText =>
      simp [read, hText] at h
  | case7 o text s hText value rest fault hValue =>
      simp [read, hText, hValue] at h
  | case8 o text s hText value rest q hValue ih =>
      simp only [read, hText, hValue] at h
      have hKept := verbosity_setValue hValue
      have hRest := ih (by rwa [hKept]) h
      rw [requests_cons_cons hText]
      simpa [hKept] using hRest

/- What is accepted is what was read. -/
theorem read_of_ofArguments
    {arguments : List String}
    (h : ofArguments arguments = .ok o) :
    Options.read {} arguments = .ok o := by
  unfold ofArguments at h
  split at h
  next => cases h
  next q hRead =>
    split at h
    · cases h
      exact hRead
    · cases h

end Options

------------------------------------------------------------
-- Sums
------------------------------------------------------------

/-
  A sum of remainders differs from the sum by a multiple of
  the divisor.
-/
theorem sum_map_mod_add (ns : List Nat) (m : Nat) :
    (ns.map (· % m)).sum + m * (ns.map (· / m)).sum =
      ns.sum := by
  calc
    (ns.map (· % m)).sum + m * (ns.map (· / m)).sum =
        (ns.map (· % m)).sum +
          (ns.map fun n => m * (n / m)).sum := by
      rw [List.sum_map_mul_left ns (· / m) m]
    _ = (ns.map fun n => n % m + m * (n / m)).sum :=
      List.sum_map_add.symm
    _ = ns.sum := by
      simp [Nat.mod_add_div]

/-
  Remainders of 256 reach 255 just as the numbers do, unless
  a number loses something and the remainders are too few.
-/
theorem min_sum_mod_eq_iff (ns : List Nat) :
    min 255 (ns.map (· % 256)).sum = min 255 ns.sum ↔
      (∀ n ∈ ns, n < 256) ∨ 255 ≤ (ns.map (· % 256)).sum := by
  have hSum := sum_map_mod_add ns 256
  have hSmall :
      (∀ n ∈ ns, n < 256) ↔ (ns.map (· / 256)).sum = 0 := by
    simp [List.sum_eq_zero_iff_forall_eq_nat,
      Nat.div_eq_zero_iff]
  rw [hSmall]
  omega

namespace Options

/-
  An accepted command line asks to be told as much as its
  arguments count for, up to 255. That is what their letters
  come to, up to 255, exactly if no argument has more than
  255 letters or the arguments count for 255 even so.
-/
theorem verbosity_saturates_iff
    {arguments : List String}
    {o : Options}
    (h : ofArguments arguments = .ok o) :
    let asked := requests arguments
    let counted := (asked.map (· % 256)).sum
    o.verbosity = min 255 counted ∧
      (o.verbosity = min 255 asked.sum ↔
        (∀ n ∈ asked, n < 256) ∨ 255 ≤ counted) := by
  intro asked counted
  have hCounted : o.verbosity = min 255 counted := by
    simpa using
      verbosity_read (Nat.zero_le 255) (read_of_ofArguments h)
  refine ⟨hCounted, ?_⟩
  rw [hCounted]
  exact min_sum_mod_eq_iff asked

/- A value does not count, whatever it looks like. -/
theorem verbosity_saturates_iff_value :
    let arguments := ["-vv", "--config", "-vvv", "-v", "src"]
    let o : Options :=
      { paths := ["src"], settingsPath := some "-vvv",
        verbosity := 3 }
    ofArguments arguments = .ok o ∧
      requests arguments = [2, 0, 1, 0] ∧
      o.verbosity = min 255 (requests arguments).sum := by
  intro arguments o
  have hAccepted : ofArguments arguments = .ok o := by decide
  have hAsked : requests arguments = [2, 0, 1, 0] := by decide
  have hExact := (verbosity_saturates_iff hAccepted).2.2
  refine ⟨hAccepted, hAsked, hExact (.inl ?_)⟩
  rw [hAsked]
  decide

section OneLoudArgument

variable {loud path : String} {n : Nat}

/- A path makes a command line complete. -/
theorem ofArguments_louder
    (hLoud : Argument.ofText loud = .louder n)
    (hPath : Argument.ofText path = .path path) :
    ofArguments [loud, path] =
      .ok { paths := [path], verbosity := min 255 (n % 256) } := by
  have hRead :
      Options.read {} [loud, path] =
        .ok { paths := [path],
              verbosity := min 255 (0 + n % 256) } := by
    simp only [read, hLoud, hPath]
    rfl
  rw [ofArguments, hRead, Nat.zero_add]
  rfl

theorem requests_louder
    (hLoud : Argument.ofText loud = .louder n)
    (hPath : Argument.ofText path = .path path) :
    requests [loud, path] = [n, 0] := by
  rw [requests_cons hLoud (by simp),
    requests_cons hPath (by simp)]
  rfl

end OneLoudArgument

/-
  An argument of 256 letters, which alone asks for all that
  can be told, counts for nothing.
-/
theorem verbosity_wraps :
    let loud := String.ofList ('-' :: List.replicate 256 'v')
    let o : Options := { paths := ["src"] }
    ofArguments [loud, "src"] = .ok o ∧
      requests [loud, "src"] = [256, 0] ∧
      o.verbosity ≠ min 255 (requests [loud, "src"]).sum := by
  intro loud o
  have hLoud : Argument.ofText loud = .louder 256 :=
    Argument.ofText_eq_louder (by decide) String.toList_ofList
  have hPath : Argument.ofText "src" = .path "src" := rfl
  have hAsked := requests_louder hLoud hPath
  refine ⟨ofArguments_louder hLoud hPath, hAsked, ?_⟩
  rw [hAsked]
  decide

end Options

end SigCheck
