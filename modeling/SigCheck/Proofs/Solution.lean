import SigCheck.Call.Inference

/-
  Look-ups in the solution of a call.

  A type variable is solved from its own candidates only.
  Defaults fill in what the arguments leave open. They change
  no solved variable, and they reach exactly the variables
  of the callee that no enclosing scope holds rigid.

  Main statements:
    * `Table.find?_insertNew`
    * `Candidates.find?_foldl_addType_filter`
    * `Substitution.find?_types_withDefaults`
    * `Substitution.find?_specs_withDefaults`
    * `Ty.substitute_eq_replaceVars`
-/

namespace SigCheck

namespace Table

variable {α : Type}

/- Setting a name that may have a value keeps that value. -/
theorem find?_insertNew
    (t : Table α)
    (name key : String)
    (value : α) :
    (t.insertNew name value).find? key =
      (t.find? key).or
        (if name = key then some value else none) := by
  unfold insertNew
  cases hOld : t.find? name with
  | some old =>
      by_cases hKey : name = key
      · subst hKey
        simp [hOld]
      · simp [hKey]
  | none =>
      by_cases hKey : name = key
      · subst hKey
        simp [hOld]
      · simp [hKey]

/- Setting several names to one value, where they have none. -/
theorem find?_foldl_insertNew
    (names : List String)
    (t : Table α)
    (key : String)
    (value : α) :
    (names.foldl (fun t name => t.insertNew name value)
        t).find? key =
      (t.find? key).or
        (if key ∈ names then some value else none) := by
  induction names generalizing t with
  | nil => simp
  | cons name names ih =>
      rw [List.foldl_cons, ih, find?_insertNew,
        Option.or_assoc]
      congr 1
      by_cases hKey : name = key
      · subst hKey
        simp
      · have hOther : ¬ key = name := fun h => hKey h.symm
        simp [hKey, hOther]

/- A table with a value is not empty. -/
theorem isEmpty_eq_false
    {t : Table α} {name : String} {value : α}
    (h : t.find? name = some value) :
    t.isEmpty = false := by
  rcases t with ⟨entries⟩
  cases entries with
  | nil => cases h
  | cons _ _ => rfl

end Table

namespace Candidates

/- Take in one more candidate of a type variable. -/
def addOwn : Option Ty → Ty → Option Ty
  | none, ty => some ty
  | some known, ty => some (Ty.unionOf [known, ty])

/- A type variable is solved from its own candidates. -/
theorem find?_foldl_addType_filter
    (name : String)
    (entries : List (String × Ty))
    (solved : Table Ty) :
    (entries.foldl addType solved).find? name =
      ((entries.filter (·.1 == name)).map (·.2)).foldl addOwn
        (solved.find? name) := by
  induction entries generalizing solved with
  | nil => rfl
  | cons entry entries ih =>
      rcases entry with ⟨own, ty⟩
      rw [List.foldl_cons, ih]
      unfold addType
      dsimp only
      by_cases hOwn : own = name
      · subst hOwn
        cases solved.find? own <;> simp [addOwn]
      · cases solved.find? own <;> simp [hOwn]

end Candidates

namespace VarName

variable {v : VarName} {name : String}

@[simp] theorem type?_eq_some_iff :
    v.type? = some name ↔ v = .type name := by
  cases v <;> simp [type?]

@[simp] theorem spec?_eq_some_iff :
    v.spec? = some name ↔ v = .spec name := by
  cases v <;> simp [spec?]

end VarName

namespace Ty

variable {t : Ty} {name : String}

/- The type variables are those that are mentioned. -/
theorem mem_typeVars_iff :
    name ∈ t.typeVars ↔ .type name ∈ t.mentions := by
  simp [typeVars, List.mem_eraseDups]

/- So are the parameter specification variables. -/
theorem mem_specVars_iff :
    name ∈ t.specVars ↔ .spec name ∈ t.mentions := by
  simp [specVars, List.mem_eraseDups]

end Ty

namespace Substitution

variable (solved : Substitution) (rigid : RigidVars)
variable (callee : Ty) (name : String)

/- Unsolved type variables of the callee become `Any`. -/
theorem find?_types_withDefaults :
    (solved.withDefaults rigid callee).types.find? name =
      (solved.types.find? name).or
        (if .type name ∈ callee.mentions
            ∧ name ∉ rigid.types then
          some .any
        else none) := by
  rw [withDefaults, Table.find?_foldl_insertNew]
  simp [Ty.mem_typeVars_iff]

/- Unsolved parameter specifications become gradual. -/
theorem find?_specs_withDefaults :
    (solved.withDefaults rigid callee).specs.find? name =
      (solved.specs.find? name).or
        (if .spec name ∈ callee.mentions
            ∧ name ∉ rigid.specs then
          some .gradual
        else none) := by
  rw [withDefaults, Table.find?_foldl_insertNew]
  simp [Ty.mem_specVars_iff]

end Substitution

section Substitute

variable {subst : Substitution} {var : String}
variable {sig : Signature}
variable (h : subst.specs.find? var = some sig)

include h

theorem Substitution.isEmpty_eq_false :
    subst.isEmpty = false := by
  rw [Substitution.isEmpty, Table.isEmpty_eq_false h,
    Bool.and_false]

/- A substitution with a solved variable is carried out. -/
theorem Ty.substitute_eq_replaceVars (t : Ty) :
    t.substitute subst = t.replaceVars subst := by
  rw [substitute, Substitution.isEmpty_eq_false h]
  rfl

/- So it is in a signature. -/
theorem Signature.substitute_eq_replaceVars (s : Signature) :
    s.substitute subst = s.replaceVars subst := by
  rw [substitute, Substitution.isEmpty_eq_false h]
  rfl

end Substitute

/- Nothing in front of a signature leaves it as it is. -/
@[simp] theorem Signature.behindLead_nil
    (sig : Signature) : sig.behindLead [] = sig := by
  cases sig <;> rfl

end SigCheck
