import Mathlib.Data.List.Nodup
import Mathlib.Data.List.Perm.Subperm
import SigCheck.Call.Inference
import SigCheck.Proofs.BindingRule

/-
  The arguments that the reports of a call point at.

  Matching gives every argument one record, with the place
  where it stands in the call; the arguments behind leading
  parameters are matched apart, with places counted from
  there and shifted back. Each record is checked once, so a
  wrong type is reported at the argument that has it, and no
  argument is reported twice.

  Key definitions include:
    * `CallArgs.at?`
    * `BoundArg.place`, `CallIssue.typeReports`
    * `Candidates.From`, `CallIssue.IsClashAt`
    * `CallIssue.IsPlaced`
    * `CallArgs.BlamedBy`

  Correctness is proven by:
    * `Ty.collect_from`
    * `Candidates.isClashAt_reconcile`
    * `sublist_place_bindCall`
    * `Ty.typeReports_inferCall`
    * `Ty.isPlaced_inferCall`
    * `Ty.inferCall_blames`
-/

------------------------------------------------------------
-- Arguments and Reports
------------------------------------------------------------

namespace SigCheck

namespace CallArgs

/- The type of the argument that stands at a place. -/
def at? (args : CallArgs) : ArgSource → Option Ty
  | .positional index => args.positional[index]?
  | .keyword name =>
      (args.keywords.find? (·.1 == name)).map (·.2)

/- Positional arguments with places counted from an index. -/
def positionalsFrom
    (first : Nat)
    (args : List Ty) : List (ArgSource × Ty) :=
  (args.zipIdx first).map
    fun (arg, index) => (.positional index, arg)

/- Keyword arguments with their places. -/
def keywordPlaces
    (keywords : List (String × Ty)) : List (ArgSource × Ty) :=
  keywords.map fun (name, arg) => (.keyword name, arg)

/- The same arguments, with places counted from further left. -/
def shiftPlaces
    (offset : Nat)
    (entries : List (ArgSource × Ty)) : List (ArgSource × Ty) :=
  entries.map fun (source, arg) => (source.shift offset, arg)

/- An argument of the call stands at the place. -/
def HasPlace (args : CallArgs) (source : ArgSource) : Prop :=
  ∃ arg, (source, arg) ∈ args.listed

theorem listed_eq (args : CallArgs) :
    args.listed =
      positionalsFrom 0 args.positional
        ++ keywordPlaces args.keywords :=
  rfl

end CallArgs

/- The place of a matched argument, with its type. -/
def BoundArg.place (b : BoundArg) : ArgSource × Ty :=
  (b.source, b.arg)

namespace CallIssue

/- The argument whose type the issue reports, with the type. -/
def typeReport? (issue : CallIssue) : Option (ArgSource × Ty) :=
  match issue with
  | ⟨.wrongType _ _ found, .arg source⟩ => some (source, found)
  | _ => none

/- The arguments whose types issues report, with the types. -/
def typeReports
    (issues : List CallIssue) : List (ArgSource × Ty) :=
  issues.filterMap typeReport?

/- The user reads about the type of an argument. -/
def IsTypeIssue (issue : CallIssue) : Prop :=
  ∃ param expected found,
    issue.fault.cause = .invalidArgType param expected found

end CallIssue

end SigCheck

------------------------------------------------------------
-- Places of Arguments
------------------------------------------------------------

namespace SigCheck

namespace CallArgs

variable {args : CallArgs}

/- The arguments of a call stand at different places. -/
theorem nodup_listed
    (hNames : (args.keywords.map (·.1)).Nodup) :
    (args.listed.map (·.1)).Nodup := by
  have hPositional :
      (positionalsFrom 0 args.positional).map (·.1) =
        (List.range' 0 args.positional.length).map
          .positional := by
    rw [← List.zipIdx_map_snd 0 args.positional,
      positionalsFrom, List.map_map, List.map_map]
    rfl
  have hKeyword :
      (keywordPlaces args.keywords).map (·.1) =
        (args.keywords.map (·.1)).map .keyword := by
    rw [keywordPlaces, List.map_map, List.map_map]
    rfl
  rw [listed_eq, List.map_append, hPositional, hKeyword,
    List.nodup_append]
  refine ⟨?_, ?_, ?_⟩
  · have hIndices :
        (List.range' 0 args.positional.length).Nodup :=
      List.nodup_range'
    exact hIndices.map fun _ _ => ArgSource.positional.inj
  · exact hNames.map fun _ _ => ArgSource.keyword.inj
  · intro a ha b hb
    rcases List.mem_map.mp ha with ⟨i, -, rfl⟩
    rcases List.mem_map.mp hb with ⟨n, -, rfl⟩
    nofun

/- What is listed at a place is the argument there. -/
theorem at?_of_mem_listed
    (hNames : (args.keywords.map (·.1)).Nodup)
    {source : ArgSource} {arg : Ty}
    (h : (source, arg) ∈ args.listed) :
    args.at? source = some arg := by
  rcases List.mem_append.mp h with h | h
  · rcases List.mem_map.mp h with ⟨⟨t, index⟩, hMem, hSame⟩
    cases hSame
    exact List.mem_zipIdx_iff_getElem?.mp hMem
  · rcases List.mem_map.mp h with ⟨⟨name, t⟩, hMem, hSame⟩
    cases hSame
    have hUnique :
        ∀ x ∈ args.keywords, ∀ y ∈ args.keywords,
          (x.1 == name) = true → (y.1 == name) = true →
            x = y := by
      intro x hx y hy hxName hyName
      have hSameName : x.1 = y.1 :=
        (eq_of_beq hxName).trans (eq_of_beq hyName).symm
      exact List.inj_on_of_nodup_map hNames hx hy hSameName
    have hFind :=
      (find?_eq_some_iff_of_unique hUnique).mpr
        ⟨hMem, beq_self_eq_true name⟩
    simp only [at?, hFind, Option.map_some]

/-
  The arguments of a call are those at leading parameters
  and, with their places counted back, those behind.
-/
theorem listed_eq_lead_append
    (args : CallArgs)
    (count : Nat) :
    args.listed =
      positionalsFrom 0 (args.positional.take count)
        ++ shiftPlaces count (args.dropLead count).listed := by
  have hSplit :
      positionalsFrom 0 args.positional =
        positionalsFrom 0 (args.positional.take count)
          ++ positionalsFrom count
            (args.positional.drop count) := by
    rcases Nat.le_total count args.positional.length with
      hLe | hLe
    · have hParts :=
        List.take_append_drop count args.positional
      conv_lhs => rw [← hParts]
      rw [positionalsFrom, List.zipIdx_append, List.map_append,
        List.length_take, Nat.min_eq_left hLe, Nat.zero_add]
      rfl
    · rw [List.take_of_length_le hLe,
        List.drop_eq_nil_of_le hLe]
      simp [positionalsFrom]
  have hShift (ts : List Ty) (first : Nat) :
      shiftPlaces count (positionalsFrom first ts) =
        positionalsFrom (first + count) ts := by
    induction ts generalizing first with
    | nil => rfl
    | cons t ts ih =>
        have hNext : first + count + 1 = first + 1 + count := by
          omega
        simp only [shiftPlaces, positionalsFrom,
          List.zipIdx_cons, List.map_cons, hNext] at ih ⊢
        rw [ih]
        rfl
  have hKeywords :
      shiftPlaces count (keywordPlaces args.keywords) =
        keywordPlaces args.keywords := by
    rw [shiftPlaces, keywordPlaces, List.map_map]
    rfl
  have hTail :
      shiftPlaces count (args.dropLead count).listed =
        positionalsFrom count (args.positional.drop count)
          ++ keywordPlaces args.keywords := by
    have hFrom := hShift (args.positional.drop count) 0
    rw [Nat.zero_add] at hFrom
    rw [listed_eq, shiftPlaces, List.map_append]
    exact congrArg₂ (· ++ ·) hFrom hKeywords
  rw [listed_eq, hSplit, hTail, List.append_assoc]

end CallArgs

end SigCheck

------------------------------------------------------------
-- Places of Matched Arguments
------------------------------------------------------------

namespace SigCheck

namespace Binding

variable {ps : List Parameter}

/- Positional arguments are matched one by one. -/
theorem map_place_placePositionals
    {total first : Nat} {args : List Ty}
    {bound : List BoundArg}
    (h : placePositionals ps total first args = .ok bound) :
    bound.map BoundArg.place =
      CallArgs.positionalsFrom first args := by
  induction args generalizing first bound with
  | nil =>
      cases h
      rfl
  | cons arg args ih =>
      unfold placePositionals at h
      split at h
      · cases h
      · rcases bind_eq_ok_iff.mp h with ⟨rest, hRest, hDone⟩
        cases hDone
        rw [List.map_cons, ih hRest]
        rfl

/- Keyword arguments are matched one by one. -/
theorem map_place_placeKeywords
    {filled after : List Nat}
    {keywords : List (String × Ty)}
    {bound : List BoundArg}
    (h :
      placeKeywords ps filled keywords =
        .ok (bound, after)) :
    bound.map BoundArg.place =
      CallArgs.keywordPlaces keywords := by
  induction keywords generalizing filled after bound with
  | nil =>
      cases h
      rfl
  | cons keyword keywords ih =>
      rcases bind_eq_ok_iff.mp h with ⟨slot, -, hTail⟩
      rcases bind_eq_ok_iff.mp hTail with
        ⟨⟨rest, filled'⟩, hRest, hDone⟩
      cases hDone
      rw [List.map_cons, ih hRest]
      rfl

/- A list takes every argument of a call once. -/
theorem map_place_bindParams
    {args : CallArgs} {bound : List BoundArg}
    (h : bindParams ps args = .ok bound) :
    bound.map BoundArg.place = args.listed := by
  rcases bindParams_eq_ok_iff_passes.mp h with
    ⟨leading, named, filled, hLeading, hNamed, -, rfl⟩
  rw [List.map_append, map_place_placePositionals hLeading,
    map_place_placeKeywords hNamed]
  rfl

end Binding

/- Leading parameters take the first positional arguments. -/
theorem map_place_bindLead
    (lead : List Parameter)
    (args : CallArgs) :
    (bindLead lead args).map BoundArg.place =
      CallArgs.positionalsFrom 0
        (args.positional.take lead.length) := by
  have hRun (ts : List Ty) (first : Nat) :
      ((lead.zip ts).zipIdx first).map
          (fun entry =>
            (ArgSource.positional entry.2, entry.1.2)) =
        CallArgs.positionalsFrom first
          (ts.take lead.length) := by
    induction lead generalizing ts first with
    | nil => rfl
    | cons p lead ih =>
        cases ts with
        | nil => rfl
        | cons t ts =>
            simp only [CallArgs.positionalsFrom,
              List.zip_cons_cons, List.zipIdx_cons,
              List.length_cons, List.take_succ_cons,
              List.map_cons] at ih ⊢
            rw [ih]
  rw [bindLead, List.map_map, ← hRun]
  rfl

/- Leading parameters take each of their arguments once. -/
theorem sublist_place_bindLead
    (lead : List Parameter)
    (args : CallArgs) :
    ((bindLead lead args).map BoundArg.place).Sublist
      args.listed := by
  rw [map_place_bindLead,
    CallArgs.listed_eq_lead_append args lead.length]
  exact List.sublist_append_left _ _

/- So do those of a call that forwards. -/
theorem sublist_place_bindForwarding
    {lead : List Parameter} {var : String} {args : CallArgs}
    {bound : List BoundArg}
    (h : bindForwarding lead var args = .ok bound) :
    (bound.map BoundArg.place).Sublist args.listed := by
  unfold bindForwarding at h
  split at h
  · cases h
  · split at h
    · cases h
      exact sublist_place_bindLead lead args
    · cases h

/- A call matches each of its arguments once at most. -/
theorem sublist_place_bindCall
    (rigid : RigidVars)
    (callee : String)
    (sig : Signature)
    (args : CallArgs) :
    ((bindCall rigid callee sig args).1.map
      BoundArg.place).Sublist args.listed := by
  have hNone :
      ([] : List (ArgSource × Ty)).Sublist args.listed :=
    List.nil_sublist _
  unfold bindCall
  cases sig with
  | gradual => exact hNone
  | params ps =>
      dsimp only
      cases hBind : Binding.bindParams ps args with
      | error m => exact hNone
      | ok bound =>
          dsimp only
          rw [Binding.map_place_bindParams hBind]
  | spec lead var =>
      dsimp only
      split
      · cases hBind : bindForwarding lead var args with
        | error m => exact hNone
        | ok bound => exact sublist_place_bindForwarding hBind
      · exact sublist_place_bindLead lead args

end SigCheck

------------------------------------------------------------
-- Sources of Clashes
------------------------------------------------------------

namespace SigCheck

/- Candidates for parameter lists come from such arguments. -/
def Candidates.From
    (P : ArgSource → Prop)
    (found : Candidates) : Prop :=
  ∀ entry ∈ found.specs, P entry.2.2

namespace Candidates

variable {P : ArgSource → Prop} {a b : Candidates}

theorem from_empty : Candidates.From P {} := by
  intro entry hEntry
  cases hEntry

theorem From.append
    (ha : a.From P)
    (hb : b.From P) : (a ++ b).From P :=
  fun entry hEntry =>
    (List.mem_append.mp hEntry).elim (ha entry) (hb entry)

end Candidates

section Collect

variable {P : ArgSource → Prop}
variable (rigid : RigidVars) {source : ArgSource}

mutual

/- An argument is the source of all that its type says. -/
theorem Ty.collect_from
    (h : P source)
    (t actual : Ty) :
    (Ty.collect rigid source t actual).From P := by
  unfold Ty.collect
  split
  · exact Candidates.from_empty
  · split <;> exact Candidates.from_empty
  · exact (Signature.collect_from h _ _).append
      (Ty.collect_from h _ _)
  · exact Ty.collect_from h _ _
  · exact Ty.collect_from h _ _
  · exact (Ty.collect_from h _ _).append
      (Ty.collect_from h _ _)
  · split
    · exact Ty.collectAll_from h _ _
    · exact Candidates.from_empty
  · split
    · exact TypeArg.collectAll_from h _ _
    · exact Candidates.from_empty
  · split
    · exact Candidates.from_empty
    · exact Ty.collectFirst_from h _ _
  · exact Candidates.from_empty

/- So it is for the first type with a free variable. -/
theorem Ty.collectFirst_from
    (h : P source)
    (ts : List Ty) (actual : Ty) :
    (Ty.collectFirst rigid source ts actual).From P := by
  cases ts with
  | nil => exact Candidates.from_empty
  | cons t ts =>
      unfold Ty.collectFirst
      split
      · exact Ty.collect_from h t actual
      · exact Ty.collectFirst_from h ts actual

/- So it is for types place by place. -/
theorem Ty.collectAll_from
    (h : P source)
    (ts actuals : List Ty) :
    (Ty.collectAll rigid source ts actuals).From P := by
  unfold Ty.collectAll
  split
  · exact (Ty.collect_from h _ _).append
      (Ty.collectAll_from h _ _)
  · exact Candidates.from_empty

/- So it is for a class argument. -/
theorem TypeArg.collect_from
    (h : P source)
    (a actual : TypeArg) :
    (TypeArg.collect rigid source a actual).From P := by
  unfold TypeArg.collect
  split
  · exact Ty.collect_from h _ _
  · exact Signature.collect_from h _ _
  · exact Candidates.from_empty

/- So it is for class arguments place by place. -/
theorem TypeArg.collectAll_from
    (h : P source)
    (args actuals : List TypeArg) :
    (TypeArg.collectAll rigid source args actuals).From P := by
  unfold TypeArg.collectAll
  split
  · exact (TypeArg.collect_from h _ _).append
      (TypeArg.collectAll_from h _ _)
  · exact Candidates.from_empty

/- So it is for a parameter list. -/
theorem Signature.collect_from
    (h : P source)
    (sig actual : Signature) :
    (Signature.collect rigid source sig actual).From P := by
  unfold Signature.collect
  split
  · split
    · exact Candidates.from_empty
    · split
      · intro entry hEntry
        cases List.mem_singleton.mp hEntry
        exact h
      · exact Candidates.from_empty
  · exact Parameter.collectAll_from h _ _
  · exact Candidates.from_empty

/- So it is for one parameter. -/
theorem Parameter.collect_from
    (h : P source)
    (p actual : Parameter) :
    (Parameter.collect rigid source p actual).From P := by
  cases p with
  | mk name kind ty hasDefault =>
      unfold Parameter.collect
      split
      · exact Ty.collect_from h ty actual.ty
      · exact Candidates.from_empty

/- So it is for parameters place by place. -/
theorem Parameter.collectAll_from
    (h : P source)
    (ps actuals : List Parameter) :
    (Parameter.collectAll rigid source ps actuals).From P := by
  unfold Parameter.collectAll
  split
  · exact (Parameter.collect_from h _ _).append
      (Parameter.collectAll_from h _ _)
  · exact Candidates.from_empty

end

end Collect

/- A clash of two candidates, blamed on such an argument. -/
def CallIssue.IsClashAt
    (P : ArgSource → Prop)
    (issue : CallIssue) : Prop :=
  ∃ var first second source,
    issue = ⟨.unsatisfiable var first second, .arg source⟩ ∧
      P source

section Clashes

variable {P : ArgSource → Prop}

/- What matched arguments say comes from them. -/
theorem Candidates.From.foldl_collect
    (rigid : RigidVars)
    {bound : List BoundArg}
    (hBound : ∀ b ∈ bound, P b.source)
    {found : Candidates}
    (hFound : found.From P) :
    (bound.foldl
      (fun found arg =>
        found
          ++ Ty.collect rigid arg.source arg.param.ty arg.arg)
      found).From P := by
  induction bound generalizing found with
  | nil => exact hFound
  | cons b bound ih =>
      rw [List.forall_mem_cons] at hBound
      have hOne :=
        Ty.collect_from rigid hBound.1 b.param.ty b.arg
      exact ih hBound.2 (hFound.append hOne)

/- Taking in a candidate blames its argument for a clash. -/
theorem SpecSolving.isClashAt_add
    (strategy : JoinStrategy)
    {state : SpecSolving}
    {entry : String × Signature × ArgSource}
    (hState : ∀ issue ∈ state.issues, issue.IsClashAt P)
    (hEntry : P entry.2.2) :
    ∀ issue ∈ (state.add strategy entry).issues,
      issue.IsClashAt P := by
  rcases entry with ⟨var, sig, source⟩
  unfold SpecSolving.add
  dsimp only
  split
  · exact hState
  · split
    · exact hState
    · rename_i current hCurrent
      split
      · exact hState
      · intro issue hIssue
        rcases List.mem_append.mp hIssue with hOld | hNew
        · exact hState issue hOld
        · rw [List.mem_singleton.mp hNew]
          exact ⟨var, current, sig, source, rfl, hEntry⟩

/- Every clash is blamed on the source of a candidate. -/
theorem Candidates.isClashAt_reconcile
    (strategy : JoinStrategy)
    {found : Candidates}
    (hFound : found.From P) :
    ∀ issue ∈ (found.reconcile strategy).2,
      issue.IsClashAt P := by
  have hRun
      (entries : List (String × Signature × ArgSource))
      (hEntries : ∀ entry ∈ entries, P entry.2.2)
      (state : SpecSolving)
      (hState : ∀ issue ∈ state.issues, issue.IsClashAt P) :
      ∀ issue ∈
          (entries.foldl (SpecSolving.add strategy)
            state).issues,
        issue.IsClashAt P := by
    induction entries generalizing state with
    | nil => exact hState
    | cons entry entries ih =>
        rw [List.forall_mem_cons] at hEntries
        exact
          ih hEntries.2 _
            (SpecSolving.isClashAt_add strategy hState
              hEntries.1)
  exact hRun found.specs hFound {} nofun

end Clashes

end SigCheck

------------------------------------------------------------
-- Reports of Types
------------------------------------------------------------

namespace SigCheck

open CallIssue (typeReports)

@[simp]
theorem CallIssue.typeReports_append
    (first second : List CallIssue) :
    typeReports (first ++ second) =
      typeReports first ++ typeReports second :=
  List.filterMap_append

/- Checking reports matched arguments, each once at most. -/
theorem typeReports_check
    (bound : List BoundArg)
    (expected : BoundArg → Ty) :
    (typeReports
        (bound.flatMap fun b => b.check (expected b))).Sublist
      (bound.map BoundArg.place) := by
  induction bound with
  | nil => exact .slnil
  | cons b bound ih =>
      rw [List.flatMap_cons, CallIssue.typeReports_append,
        List.map_cons, ← List.singleton_append]
      refine List.Sublist.append ?_ ih
      unfold BoundArg.check
      split
      · exact List.nil_sublist _
      · exact List.Sublist.refl _

/- Shifted arguments are reported where they stand then. -/
theorem typeReports_checkShifted
    {bound : List BoundArg} {tail : CallArgs}
    (hBound : (bound.map BoundArg.place).Sublist tail.listed)
    (offset : Nat) :
    (typeReports
      (bound.flatMap fun arg =>
        let shifted : BoundArg :=
          { arg with source := arg.source.shift offset }
        shifted.check arg.param.ty)).Sublist
      (CallArgs.shiftPlaces offset tail.listed) := by
  let shifted (b : BoundArg) : BoundArg :=
    { b with source := b.source.shift offset }
  have hReports :=
    typeReports_check (bound.map shifted) (·.param.ty)
  rw [List.flatMap_map, List.map_map] at hReports
  refine hReports.trans ?_
  have hShifted := hBound.map
    fun (source, arg) => (source.shift offset, arg)
  rw [List.map_map] at hShifted
  exact hShifted

/- Arguments are reported where they stand in the whole call. -/
theorem typeReports_checkTail
    (options : InferOptions)
    (rigid : RigidVars)
    (callee : String)
    (target : Signature)
    (tail : CallArgs)
    (offset : Nat) :
    (typeReports
      (checkTail options rigid callee target tail
        offset)).Sublist
      (CallArgs.shiftPlaces offset tail.listed) := by
  unfold checkTail
  dsimp only
  split
  · exact List.nil_sublist _
  · rename_i bound hBound
    split
    · apply typeReports_checkShifted
      split at hBound
      · cases hBound
        exact List.nil_sublist _
      · rw [Binding.map_place_bindParams hBound]
      · split at hBound
        · exact sublist_place_bindForwarding hBound
        · cases hBound
          exact List.nil_sublist _
    · exact List.nil_sublist _

/- Matching arguments reports mismatches only. -/
theorem exists_mismatch_of_mem_bindCall
    {rigid : RigidVars} {callee : String}
    {sig : Signature} {args : CallArgs} {issue : CallIssue}
    (h : issue ∈ (bindCall rigid callee sig args).2) :
    ∃ m, issue = .ofMismatch callee m := by
  unfold bindCall at h
  cases sig with
  | gradual => cases h
  | params ps =>
      dsimp only at h
      cases hBind : Binding.bindParams ps args with
      | ok bound =>
          rw [hBind] at h
          cases h
      | error m =>
          rw [hBind] at h
          exact ⟨m, List.mem_singleton.mp h⟩
  | spec lead var =>
      dsimp only at h
      split at h
      · cases hBind : bindForwarding lead var args with
        | ok bound =>
            rw [hBind] at h
            cases h
        | error m =>
            rw [hBind] at h
            exact ⟨m, List.mem_singleton.mp h⟩
      · split at h
        · exact ⟨_, List.mem_singleton.mp h⟩
        · cases h

/-
  Arguments behind solved leading parameters are not among
  those matched to the leading ones.
-/
theorem typeReports_tailIssues
    (options : InferOptions)
    (rigid : RigidVars)
    (callee : String)
    (sig : Signature)
    (solved : Substitution)
    (args : CallArgs) :
    (typeReports
        (tailIssues options rigid callee sig solved args)
      ++ (bindCall rigid callee sig args).1.map
        BoundArg.place).Subperm args.listed := by
  have hMatched :=
    (sublist_place_bindCall rigid callee sig args).subperm
  unfold tailIssues
  cases sig with
  | gradual => exact hMatched
  | params ps => exact hMatched
  | spec lead var =>
      dsimp only
      cases hRigid : rigid.specs.contains var with
      | true => exact hMatched
      | false =>
          simp only [Bool.false_eq_true, if_false]
          split
          · exact hMatched
          · rename_i target _
            have hTail :=
              typeReports_checkTail options rigid callee
                target (args.dropLead lead.length) lead.length
            have hLead :
                (bindCall rigid callee (.spec lead var)
                    args).1.map BoundArg.place =
                  CallArgs.positionalsFrom 0
                    (args.positional.take lead.length) := by
              simp only [bindCall, hRigid, Bool.false_eq_true,
                if_false, map_place_bindLead]
            rw [hLead,
              CallArgs.listed_eq_lead_append args lead.length]
            -- What is behind the lead is reported before it,
            -- so the reports are no sublist.
            exact
              List.perm_append_comm.subperm.trans
                ((List.Sublist.refl _).append hTail).subperm

/- Mismatches are no reports of types. -/
theorem typeReports_bindCall
    (rigid : RigidVars)
    (callee : String)
    (sig : Signature)
    (args : CallArgs) :
    typeReports (bindCall rigid callee sig args).2 = [] := by
  apply List.filterMap_eq_nil_iff.mpr
  intro issue hIssue
  rcases exists_mismatch_of_mem_bindCall hIssue with ⟨m, rfl⟩
  rfl

/- Clashes are no reports of types. -/
theorem typeReports_reconcile
    (strategy : JoinStrategy)
    (found : Candidates) :
    typeReports (found.reconcile strategy).2 = [] := by
  have hFrom : found.From fun _ => True := fun _ _ => trivial
  apply List.filterMap_eq_nil_iff.mpr
  intro issue hIssue
  rcases Candidates.isClashAt_reconcile strategy hFrom issue
      hIssue with ⟨var, first, second, source, rfl, -⟩
  rfl

/-
  The arguments reported for their types are arguments of
  the call, each reported once at most.
-/
theorem Ty.typeReports_inferCall
    (options : InferOptions)
    (rigid : RigidVars)
    (callee : String)
    (ty : Ty)
    (args : CallArgs) :
    (typeReports
      (ty.inferCall options rigid callee
        args).issues).Subperm args.listed := by
  unfold Ty.inferCall
  split
  case h_2 => exact List.nil_subperm
  case h_1 sig ret =>
    have hWrong (bound : List BoundArg)
        (expected : BoundArg → Ty) :
        (typeReports
          (if options.checkTypes then
            bound.flatMap fun b => b.check (expected b)
          else [])).Sublist
          (bound.map BoundArg.place) := by
      split
      · exact typeReports_check bound expected
      · exact List.nil_sublist _
    simp only [CallIssue.typeReports_append,
      typeReports_bindCall, typeReports_reconcile,
      List.nil_append]
    exact
      ((List.Sublist.refl _).append
        (hWrong _ _)).subperm.trans
          (typeReports_tailIssues options rigid callee sig _
            args)

end SigCheck

------------------------------------------------------------
-- Places of Issues
------------------------------------------------------------

namespace SigCheck

/-
  Where issues stand: a mismatch at the whole call, a clash
  at an argument that may cause one, a wrong type at an
  argument.
-/
def CallIssue.IsPlaced
    (P : ArgSource → Prop)
    (issue : CallIssue) : Prop :=
  match issue.fault with
  | .mismatch _ _ => issue.site = .call
  | .unsatisfiable _ _ _ =>
      ∃ source, issue.site = .arg source ∧ P source
  | .wrongType _ _ _ => ∃ source, issue.site = .arg source

section Places

variable {P : ArgSource → Prop}

/- A placed type issue is a report of its argument's type. -/
theorem CallIssue.IsPlaced.exists_typeReport
    {issue : CallIssue} {param expected found : String}
    (h : issue.IsPlaced P)
    (hCause :
      issue.fault.cause =
        .invalidArgType param expected found) :
    ∃ source arg,
      issue.site = .arg source ∧
        issue.typeReport? = some (source, arg) ∧
        found = arg.text := by
  rcases issue with ⟨fault, site⟩
  cases fault with
  | wrongType own takes arg =>
      rcases h with ⟨source, hSite⟩
      cases hSite
      cases hCause
      exact ⟨source, arg, rfl, rfl, rfl⟩
  | _ => cases hCause

/- A placed clash points at an argument that may cause it. -/
theorem CallIssue.IsPlaced.exists_source
    {issue : CallIssue} {var first second : String}
    (h : issue.IsPlaced P)
    (hCause :
      issue.fault.cause =
        .unsatisfiableBinding var first second) :
    ∃ source, issue.site = .arg source ∧ P source := by
  rcases issue with ⟨fault, site⟩
  cases fault with
  | unsatisfiable own s t => exact h
  | _ => cases hCause

/- A wrong type is reported at its argument. -/
theorem BoundArg.isPlaced_check
    (b : BoundArg)
    (expected : Ty) :
    ∀ issue ∈ b.check expected, issue.IsPlaced P := by
  unfold BoundArg.check
  split
  · nofun
  · intro issue hIssue
    cases List.mem_singleton.mp hIssue
    exact ⟨b.source, rfl⟩

/- Checking what is behind leading parameters does so. -/
theorem isPlaced_tailIssues
    (options : InferOptions)
    (rigid : RigidVars)
    (callee : String)
    (sig : Signature)
    (solved : Substitution)
    (args : CallArgs) :
    ∀ issue ∈
        tailIssues options rigid callee sig solved args,
      issue.IsPlaced P := by
  unfold tailIssues
  split
  · split
    · nofun
    · split
      · nofun
      · unfold checkTail
        dsimp only
        split
        · intro issue hIssue
          rw [List.mem_singleton.mp hIssue]
          rfl
        · split
          · intro issue hIssue
            rcases List.mem_flatMap.mp hIssue with
              ⟨b, -, hIssue⟩
            exact BoundArg.isPlaced_check _ _ issue hIssue
          · nofun
  · nofun

/- Clashes are blamed on arguments of the call. -/
theorem Ty.isPlaced_inferCall
    (options : InferOptions)
    (rigid : RigidVars)
    (callee : String)
    (ty : Ty)
    (args : CallArgs) :
    ∀ issue ∈
        (ty.inferCall options rigid callee args).issues,
      issue.IsPlaced args.HasPlace := by
  unfold Ty.inferCall
  split
  case h_2 => nofun
  case h_1 sig ret =>
    have hBound :
        ∀ b ∈ (bindCall rigid callee sig args).1,
          args.HasPlace b.source := by
      intro b hb
      have hPlace := List.mem_map_of_mem (f := BoundArg.place) hb
      exact
        ⟨b.arg,
          (sublist_place_bindCall rigid callee sig args).subset
            hPlace⟩
    have hFound :=
      Candidates.from_empty.foldl_collect rigid hBound
    dsimp only
    intro issue hIssue
    rcases List.mem_append.mp hIssue with hIssue | hWrong
    · rcases List.mem_append.mp hIssue with hIssue | hTail
      · rcases List.mem_append.mp hIssue with hBind | hClash
        · rcases exists_mismatch_of_mem_bindCall hBind with
            ⟨m, rfl⟩
          rfl
        · rcases
            Candidates.isClashAt_reconcile options.join hFound
              issue hClash with
            ⟨var, first, second, source, rfl, hSource⟩
          exact ⟨source, rfl, hSource⟩
      · exact
          isPlaced_tailIssues options rigid callee sig _ args
            issue hTail
    · split at hWrong
      · rcases List.mem_flatMap.mp hWrong with ⟨b, -, hIssue⟩
        exact b.isPlaced_check _ issue hIssue
      · cases hWrong

end Places

end SigCheck

------------------------------------------------------------
-- Exact Blame
------------------------------------------------------------

namespace SigCheck

/-
  Issues blame the arguments of a call exactly: each names
  an argument of the call, wrong types with the type it has
  and no argument twice.
-/
structure CallArgs.BlamedBy
    (args : CallArgs)
    (issues : List CallIssue) : Prop where
  wrongTypes :
    ∀ issue ∈ issues, ∀ param expected found,
      issue.fault.cause =
          .invalidArgType param expected found →
        ∃ source arg,
          issue.site = .arg source ∧
            args.at? source = some arg ∧ found = arg.text
  clashes :
    ∀ issue ∈ issues, ∀ var first second,
      issue.fault.cause =
          .unsatisfiableBinding var first second →
        ∃ source arg,
          issue.site = .arg source ∧
            args.at? source = some arg
  once :
    issues.Pairwise fun a b =>
      a.IsTypeIssue → b.IsTypeIssue → a.site ≠ b.site

/- The issues of a call blame its arguments exactly. -/
theorem Ty.inferCall_blames
    (options : InferOptions)
    (rigid : RigidVars)
    (callee : String)
    (ty : Ty)
    {args : CallArgs}
    (hNames : (args.keywords.map (·.1)).Nodup) :
    args.BlamedBy
      (ty.inferCall options rigid callee args).issues := by
  have hPlaced :=
    ty.isPlaced_inferCall options rigid callee args
  have hReports :=
    ty.typeReports_inferCall options rigid callee args
  generalize
    (ty.inferCall options rigid callee args).issues = issues
    at hPlaced hReports ⊢
  refine ⟨?_, ?_, ?_⟩
  · intro issue hIssue param expected found hCause
    rcases (hPlaced issue hIssue).exists_typeReport hCause with
      ⟨source, arg, hSite, hReport, hFound⟩
    have hListed : (source, arg) ∈ args.listed :=
      hReports.subset
        (List.mem_filterMap.mpr ⟨issue, hIssue, hReport⟩)
    exact
      ⟨source, arg, hSite,
        CallArgs.at?_of_mem_listed hNames hListed, hFound⟩
  · intro issue hIssue var first second hCause
    rcases (hPlaced issue hIssue).exists_source hCause with
      ⟨source, hSite, arg, hListed⟩
    exact
      ⟨source, arg, hSite,
        CallArgs.at?_of_mem_listed hNames hListed⟩
  · have hOnce :
        ((CallIssue.typeReports issues).map (·.1)).Nodup := by
      have hAll := CallArgs.nodup_listed hNames
      rcases hReports with ⟨reported, hPerm, hSub⟩
      exact
        (hPerm.map (·.1)).nodup_iff.mp
          (hAll.sublist (hSub.map (·.1)))
    have hApart :=
      List.pairwise_filterMap.mp (List.pairwise_map.mp hOnce)
    refine hApart.imp_of_mem ?_
    intro a b ha hb hDiffer hTypeA hTypeB
    rcases hTypeA with ⟨_, _, _, hCauseA⟩
    rcases hTypeB with ⟨_, _, _, hCauseB⟩
    rcases (hPlaced a ha).exists_typeReport hCauseA with
      ⟨sourceA, argA, hSiteA, hReportA, -⟩
    rcases (hPlaced b hb).exists_typeReport hCauseB with
      ⟨sourceB, argB, hSiteB, hReportB, -⟩
    have hSources : sourceA ≠ sourceB :=
      hDiffer _ hReportA _ hReportB
    rw [hSiteA, hSiteB]
    exact fun hSame => hSources (IssueSite.arg.inj hSame)

/-
  A wrong type before the list that a variable is solved to,
  and two behind it, each at its place in the whole call.
-/
theorem Ty.inferCall_blames_forwarded :
    let ty : Ty :=
      .callable
        (.spec
          [.anonymous (.callable (.ofVar "P") .noneType),
            .anonymous .int] "P")
        .str
    let run : Signature :=
      .params
        [⟨some "x", .positionalOrKeyword, .int, false⟩,
          ⟨some "y", .keywordOnly, .str, false⟩]
    let args : CallArgs :=
      { positional := [.callable run .noneType, .str, .bytes]
        keywords := [("y", .int)] }
    let issues := (ty.inferCall {} {} "call" args).issues
    issues.map (·.site) =
        [.arg (.positional 2), .arg (.keyword "y"),
          .arg (.positional 1)] ∧
      (args.keywords.map (·.1)).Nodup ∧
      args.BlamedBy issues := by
  intro ty run args issues
  have hNames : (args.keywords.map (·.1)).Nodup := by decide
  exact
    ⟨by decide, hNames,
      Ty.inferCall_blames {} {} "call" ty hNames⟩

end SigCheck
