import Mathlib.Logic.Equiv.Basic
import SigCheck.Proofs.Solution

/-
  One-to-one renaming of variables. Type variables and
  parameter specifications are renamed apart from each
  other, and the form of a type stays as it is.

  What a type mentions is renamed with it. A renaming that
  leaves these variables alone leaves the type alone, and no
  two types are renamed to the same one.

  Key definitions include:
    * `VarRenaming`
    * `Ty.renameVars`, `Signature.renameVars`
    * `Parameter.mapTy`

  Correctness is proven by:
    * `Ty.renameVars_inj`
    * `Ty.size_renameVars`
    * `Ty.mentions_renameVars`
    * `Ty.renameVars_of_fixed`
-/

namespace SigCheck

------------------------------------------------------------
-- Renamings
------------------------------------------------------------

/- New names for type variables and for specifications. -/
structure VarRenaming where
  types : Equiv.Perm String
  specs : Equiv.Perm String

namespace VarRenaming

/- Every variable keeps its name. -/
def refl : VarRenaming where
  types := Equiv.refl String
  specs := Equiv.refl String

/- Every variable gets its old name back. -/
def symm (ρ : VarRenaming) : VarRenaming where
  types := ρ.types.symm
  specs := ρ.specs.symm

/- The new name of a variable. -/
def apply (ρ : VarRenaming) : VarName → VarName
  | .type name => .type (ρ.types name)
  | .spec name => .spec (ρ.specs name)

/- No two variables get the same name. -/
theorem apply_injective (ρ : VarRenaming) :
    Function.Injective ρ.apply := by
  intro v w h
  cases v <;> cases w <;> simp_all [apply]

@[simp] theorem beq_types (ρ : VarRenaming) (v w : String) :
    (ρ.types v == ρ.types w) = (v == w) := by
  rw [Bool.eq_iff_iff]
  simp

@[simp] theorem beq_specs (ρ : VarRenaming) (v w : String) :
    (ρ.specs v == ρ.specs w) = (v == w) := by
  rw [Bool.eq_iff_iff]
  simp

@[simp] theorem apply_refl (v : VarName) :
    refl.apply v = v := by
  cases v <;> rfl

end VarRenaming

------------------------------------------------------------
-- Types and Signatures
------------------------------------------------------------

mutual

/- Rename the variables of a type. -/
def Ty.renameVars (ρ : VarRenaming) : Ty → Ty
  | .typeVar name => .typeVar (ρ.types name)
  | .list t => .list (t.renameVars ρ)
  | .set t => .set (t.renameVars ρ)
  | .dict k v => .dict (k.renameVars ρ) (v.renameVars ρ)
  | .tuple ts => .tuple (Ty.renameVarsAll ρ ts)
  | .union ts => .union (Ty.renameVarsAll ρ ts)
  | .generic name args =>
      .generic name (TypeArg.renameVarsAll ρ args)
  | .callable sig ret =>
      .callable (sig.renameVars ρ) (ret.renameVars ρ)
  | .any => .any
  | .never => .never
  | .noneType => .noneType
  | .bool => .bool
  | .int => .int
  | .float => .float
  | .str => .str
  | .bytes => .bytes
  | .object => .object
  | .cls name => .cls name
  | .specArgs name => .specArgs name
  | .specKwargs name => .specKwargs name

/- Rename the variables in a list of types. -/
def Ty.renameVarsAll (ρ : VarRenaming) : List Ty → List Ty
  | [] => []
  | t :: ts => t.renameVars ρ :: Ty.renameVarsAll ρ ts

/- Rename the variables in a class argument. -/
def TypeArg.renameVars (ρ : VarRenaming) : TypeArg → TypeArg
  | .type t => .type (t.renameVars ρ)
  | .params sig => .params (sig.renameVars ρ)

/- Rename the variables in a list of class arguments. -/
def TypeArg.renameVarsAll
    (ρ : VarRenaming) : List TypeArg → List TypeArg
  | [] => []
  | a :: args => a.renameVars ρ :: TypeArg.renameVarsAll ρ args

/- Rename the variables in the type of a parameter. -/
def Parameter.renameVars
    (ρ : VarRenaming) : Parameter → Parameter
  | ⟨name, kind, ty, hasDefault⟩ =>
      ⟨name, kind, ty.renameVars ρ, hasDefault⟩

/- Rename the variables in a parameter list. -/
def Parameter.renameVarsAll
    (ρ : VarRenaming) : List Parameter → List Parameter
  | [] => []
  | p :: ps => p.renameVars ρ :: Parameter.renameVarsAll ρ ps

/- Rename the variables in a signature. -/
def Signature.renameVars
    (ρ : VarRenaming) : Signature → Signature
  | .gradual => .gradual
  | .params ps => .params (Parameter.renameVarsAll ρ ps)
  | .spec lead var =>
      .spec (Parameter.renameVarsAll ρ lead) (ρ.specs var)

end

/- Change the type of a parameter. -/
def Parameter.mapTy (f : Ty → Ty) (p : Parameter) : Parameter :=
  { p with ty := f p.ty }

section Lists

variable (ρ : VarRenaming)

@[simp] theorem Ty.renameVarsAll_eq (ts : List Ty) :
    Ty.renameVarsAll ρ ts = ts.map (Ty.renameVars ρ) := by
  induction ts with
  | nil => rfl
  | cons t ts ih => rw [Ty.renameVarsAll, ih, List.map_cons]

@[simp] theorem TypeArg.renameVarsAll_eq (args : List TypeArg) :
    TypeArg.renameVarsAll ρ args =
      args.map (TypeArg.renameVars ρ) := by
  induction args with
  | nil => rfl
  | cons a args ih =>
      rw [TypeArg.renameVarsAll, ih, List.map_cons]

/- Renaming changes nothing of a parameter but its type. -/
theorem Parameter.renameVars_eq (p : Parameter) :
    p.renameVars ρ = p.mapTy (Ty.renameVars ρ) := by
  cases p
  rfl

@[simp] theorem Parameter.renameVarsAll_eq
    (ps : List Parameter) :
    Parameter.renameVarsAll ρ ps =
      ps.map (Parameter.mapTy (Ty.renameVars ρ)) := by
  induction ps with
  | nil => rfl
  | cons p ps ih =>
      rw [Parameter.renameVarsAll, ih, List.map_cons,
        Parameter.renameVars_eq]

end Lists

------------------------------------------------------------
-- Renaming Back
------------------------------------------------------------

section Back

variable (ρ : VarRenaming)

mutual

/- Renaming back gives the type that was there. -/
theorem Ty.renameVars_symm (t : Ty) :
    (t.renameVars ρ).renameVars ρ.symm = t := by
  cases t with
  | typeVar name =>
      exact congrArg Ty.typeVar (ρ.types.symm_apply_apply name)
  | list t => exact congrArg Ty.list (Ty.renameVars_symm t)
  | set t => exact congrArg Ty.set (Ty.renameVars_symm t)
  | dict k v =>
      exact congrArg₂ Ty.dict (Ty.renameVars_symm k)
        (Ty.renameVars_symm v)
  | tuple ts =>
      exact congrArg Ty.tuple (Ty.renameVarsAll_symm ts)
  | union ts =>
      exact congrArg Ty.union (Ty.renameVarsAll_symm ts)
  | generic name args =>
      exact congrArg (Ty.generic name)
        (TypeArg.renameVarsAll_symm args)
  | callable sig ret =>
      exact congrArg₂ Ty.callable
        (Signature.renameVars_symm sig)
        (Ty.renameVars_symm ret)
  | _ => rfl

/- So it does for each of a list of types. -/
theorem Ty.renameVarsAll_symm (ts : List Ty) :
    Ty.renameVarsAll ρ.symm (Ty.renameVarsAll ρ ts) = ts := by
  cases ts with
  | nil => rfl
  | cons t ts =>
      exact congrArg₂ List.cons (Ty.renameVars_symm t)
        (Ty.renameVarsAll_symm ts)

/- Renaming back gives the class argument that was there. -/
theorem TypeArg.renameVars_symm (a : TypeArg) :
    (a.renameVars ρ).renameVars ρ.symm = a := by
  cases a with
  | type t => exact congrArg TypeArg.type (Ty.renameVars_symm t)
  | params sig =>
      exact congrArg TypeArg.params
        (Signature.renameVars_symm sig)

/- So it does for each of a list of class arguments. -/
theorem TypeArg.renameVarsAll_symm (args : List TypeArg) :
    TypeArg.renameVarsAll ρ.symm
      (TypeArg.renameVarsAll ρ args) = args := by
  cases args with
  | nil => rfl
  | cons a args =>
      exact congrArg₂ List.cons (TypeArg.renameVars_symm a)
        (TypeArg.renameVarsAll_symm args)

/- Renaming back gives the parameter that was there. -/
theorem Parameter.renameVars_symm (p : Parameter) :
    (p.renameVars ρ).renameVars ρ.symm = p := by
  cases p with
  | mk name kind ty hasDefault =>
      exact congrArg (Parameter.mk name kind · hasDefault)
        (Ty.renameVars_symm ty)

/- So it does for each of a parameter list. -/
theorem Parameter.renameVarsAll_symm (ps : List Parameter) :
    Parameter.renameVarsAll ρ.symm
      (Parameter.renameVarsAll ρ ps) = ps := by
  cases ps with
  | nil => rfl
  | cons p ps =>
      exact congrArg₂ List.cons (Parameter.renameVars_symm p)
        (Parameter.renameVarsAll_symm ps)

/- Renaming back gives the signature that was there. -/
theorem Signature.renameVars_symm (sig : Signature) :
    (sig.renameVars ρ).renameVars ρ.symm = sig := by
  cases sig with
  | gradual => rfl
  | params ps =>
      exact congrArg Signature.params
        (Parameter.renameVarsAll_symm ps)
  | spec lead var =>
      exact congrArg₂ Signature.spec
        (Parameter.renameVarsAll_symm lead)
        (ρ.specs.symm_apply_apply var)

end

/- No two types are renamed to the same one. -/
@[simp] theorem Ty.renameVars_inj {a b : Ty} :
    a.renameVars ρ = b.renameVars ρ ↔ a = b :=
  Function.Injective.eq_iff
    (Function.LeftInverse.injective (Ty.renameVars_symm ρ))

/- Renaming both sides does not change a comparison. -/
@[simp] theorem Ty.beq_renameVars (a b : Ty) :
    (a.renameVars ρ == b.renameVars ρ) = (a == b) := by
  rw [Bool.eq_iff_iff]
  simp

end Back

------------------------------------------------------------
-- Size
------------------------------------------------------------

section Size

variable (ρ : VarRenaming)

mutual

/- Renaming does not change the size of a type. -/
theorem Ty.size_renameVars (t : Ty) :
    (t.renameVars ρ).size = t.size := by
  cases t with
  | list t => exact congrArg (· + 1) (Ty.size_renameVars t)
  | set t => exact congrArg (· + 1) (Ty.size_renameVars t)
  | dict k v =>
      exact congrArg₂ (· + · + 1) (Ty.size_renameVars k)
        (Ty.size_renameVars v)
  | tuple ts =>
      exact congrArg (· + 1) (Ty.sizeAll_renameVarsAll ts)
  | union ts =>
      exact congrArg (· + 1) (Ty.sizeAll_renameVarsAll ts)
  | generic name args =>
      exact congrArg (· + 1)
        (TypeArg.sizeAll_renameVarsAll args)
  | callable sig ret =>
      exact congrArg₂ (· + · + 1)
        (Signature.size_renameVars sig)
        (Ty.size_renameVars ret)
  | _ => rfl

/- Nor that of a list of types. -/
theorem Ty.sizeAll_renameVarsAll (ts : List Ty) :
    Ty.sizeAll (Ty.renameVarsAll ρ ts) = Ty.sizeAll ts := by
  cases ts with
  | nil => rfl
  | cons t ts =>
      exact congrArg₂ (· + ·) (Ty.size_renameVars t)
        (Ty.sizeAll_renameVarsAll ts)

/- Nor that of a class argument. -/
theorem TypeArg.size_renameVars (a : TypeArg) :
    (a.renameVars ρ).size = a.size := by
  cases a with
  | type t => exact congrArg (· + 1) (Ty.size_renameVars t)
  | params sig =>
      exact congrArg (· + 1) (Signature.size_renameVars sig)

/- Nor that of a list of class arguments. -/
theorem TypeArg.sizeAll_renameVarsAll (args : List TypeArg) :
    TypeArg.sizeAll (TypeArg.renameVarsAll ρ args) =
      TypeArg.sizeAll args := by
  cases args with
  | nil => rfl
  | cons a args =>
      exact congrArg₂ (· + ·) (TypeArg.size_renameVars a)
        (TypeArg.sizeAll_renameVarsAll args)

/- Nor that of a parameter. -/
theorem Parameter.size_renameVars (p : Parameter) :
    (p.renameVars ρ).size = p.size := by
  cases p with
  | mk name kind ty hasDefault =>
      exact congrArg (· + 1) (Ty.size_renameVars ty)

/- Nor that of a parameter list. -/
theorem Parameter.sizeAll_renameVarsAll (ps : List Parameter) :
    Parameter.sizeAll (Parameter.renameVarsAll ρ ps) =
      Parameter.sizeAll ps := by
  cases ps with
  | nil => rfl
  | cons p ps =>
      exact congrArg₂ (· + ·) (Parameter.size_renameVars p)
        (Parameter.sizeAll_renameVarsAll ps)

/- Nor that of a signature. -/
theorem Signature.size_renameVars (sig : Signature) :
    (sig.renameVars ρ).size = sig.size := by
  cases sig with
  | gradual => rfl
  | params ps =>
      exact congrArg (· + 1)
        (Parameter.sizeAll_renameVarsAll ps)
  | spec lead var =>
      exact congrArg (· + 1)
        (Parameter.sizeAll_renameVarsAll lead)

end

end Size

------------------------------------------------------------
-- Mentions
------------------------------------------------------------

section Mentions

variable (ρ : VarRenaming)

mutual

/- What a type mentions is renamed with it. -/
theorem Ty.mentions_renameVars (t : Ty) :
    (t.renameVars ρ).mentions = t.mentions.map ρ.apply := by
  cases t with
  | typeVar name => rfl
  | list t => exact Ty.mentions_renameVars t
  | set t => exact Ty.mentions_renameVars t
  | dict k v =>
      exact (congrArg₂ (· ++ ·) (Ty.mentions_renameVars k)
        (Ty.mentions_renameVars v)).trans List.map_append.symm
  | tuple ts => exact Ty.mentionsAll_renameVarsAll ts
  | union ts => exact Ty.mentionsAll_renameVarsAll ts
  | generic name args =>
      exact TypeArg.mentionsAll_renameVarsAll args
  | callable sig ret =>
      exact (congrArg₂ (· ++ ·)
        (Signature.mentions_renameVars sig)
        (Ty.mentions_renameVars ret)).trans
          List.map_append.symm
  | _ => rfl

/- So is what a list of types mentions. -/
theorem Ty.mentionsAll_renameVarsAll (ts : List Ty) :
    Ty.mentionsAll (Ty.renameVarsAll ρ ts) =
      (Ty.mentionsAll ts).map ρ.apply := by
  cases ts with
  | nil => rfl
  | cons t ts =>
      exact (congrArg₂ (· ++ ·) (Ty.mentions_renameVars t)
        (Ty.mentionsAll_renameVarsAll ts)).trans
          List.map_append.symm

/- So is what a class argument mentions. -/
theorem TypeArg.mentions_renameVars (a : TypeArg) :
    (a.renameVars ρ).mentions = a.mentions.map ρ.apply := by
  cases a with
  | type t => exact Ty.mentions_renameVars t
  | params sig => exact Signature.mentions_renameVars sig

/- So is what a list of class arguments mentions. -/
theorem TypeArg.mentionsAll_renameVarsAll
    (args : List TypeArg) :
    TypeArg.mentionsAll (TypeArg.renameVarsAll ρ args) =
      (TypeArg.mentionsAll args).map ρ.apply := by
  cases args with
  | nil => rfl
  | cons a args =>
      exact (congrArg₂ (· ++ ·) (TypeArg.mentions_renameVars a)
        (TypeArg.mentionsAll_renameVarsAll args)).trans
          List.map_append.symm

/- So is what a parameter mentions. -/
theorem Parameter.mentions_renameVars (p : Parameter) :
    (p.renameVars ρ).mentions = p.mentions.map ρ.apply := by
  cases p with
  | mk name kind ty hasDefault =>
      exact Ty.mentions_renameVars ty

/- So is what a parameter list mentions. -/
theorem Parameter.mentionsAll_renameVarsAll
    (ps : List Parameter) :
    Parameter.mentionsAll (Parameter.renameVarsAll ρ ps) =
      (Parameter.mentionsAll ps).map ρ.apply := by
  cases ps with
  | nil => rfl
  | cons p ps =>
      exact (congrArg₂ (· ++ ·)
        (Parameter.mentions_renameVars p)
        (Parameter.mentionsAll_renameVarsAll ps)).trans
          List.map_append.symm

/- So is what a signature mentions. -/
theorem Signature.mentions_renameVars (sig : Signature) :
    (sig.renameVars ρ).mentions =
      sig.mentions.map ρ.apply := by
  cases sig with
  | gradual => rfl
  | params ps => exact Parameter.mentionsAll_renameVarsAll ps
  | spec lead var =>
      exact congrArg (VarName.spec (ρ.specs var) :: ·)
        (Parameter.mentionsAll_renameVarsAll lead)

end

end Mentions

------------------------------------------------------------
-- Fixed Variables
------------------------------------------------------------

section Fixed

variable {ρ : VarRenaming}

mutual

/- A type whose variables keep their names stays as it is. -/
theorem Ty.renameVars_of_fixed
    (t : Ty) (h : ∀ v ∈ t.mentions, ρ.apply v = v) :
    t.renameVars ρ = t := by
  cases t with
  | typeVar name =>
      have hName := h (.type name) (List.mem_cons_self ..)
      exact congrArg Ty.typeVar (VarName.type.inj hName)
  | list t => exact congrArg Ty.list (t.renameVars_of_fixed h)
  | set t => exact congrArg Ty.set (t.renameVars_of_fixed h)
  | dict k v =>
      have hBoth := List.forall_mem_append.mp h
      exact congrArg₂ Ty.dict (k.renameVars_of_fixed hBoth.1)
        (v.renameVars_of_fixed hBoth.2)
  | tuple ts =>
      exact congrArg Ty.tuple (Ty.renameVarsAll_of_fixed ts h)
  | union ts =>
      exact congrArg Ty.union (Ty.renameVarsAll_of_fixed ts h)
  | generic name args =>
      exact congrArg (Ty.generic name)
        (TypeArg.renameVarsAll_of_fixed args h)
  | callable sig ret =>
      have hBoth := List.forall_mem_append.mp h
      exact congrArg₂ Ty.callable
        (sig.renameVars_of_fixed hBoth.1)
        (ret.renameVars_of_fixed hBoth.2)
  | _ => rfl

/- So does each of a list of types. -/
theorem Ty.renameVarsAll_of_fixed
    (ts : List Ty)
    (h : ∀ v ∈ Ty.mentionsAll ts, ρ.apply v = v) :
    Ty.renameVarsAll ρ ts = ts := by
  cases ts with
  | nil => rfl
  | cons t ts =>
      have hBoth := List.forall_mem_append.mp h
      exact congrArg₂ List.cons
        (t.renameVars_of_fixed hBoth.1)
        (Ty.renameVarsAll_of_fixed ts hBoth.2)

/- So does a class argument. -/
theorem TypeArg.renameVars_of_fixed
    (a : TypeArg) (h : ∀ v ∈ a.mentions, ρ.apply v = v) :
    a.renameVars ρ = a := by
  cases a with
  | type t => exact congrArg TypeArg.type (t.renameVars_of_fixed h)
  | params sig =>
      exact congrArg TypeArg.params (sig.renameVars_of_fixed h)

/- So does each of a list of class arguments. -/
theorem TypeArg.renameVarsAll_of_fixed
    (args : List TypeArg)
    (h : ∀ v ∈ TypeArg.mentionsAll args, ρ.apply v = v) :
    TypeArg.renameVarsAll ρ args = args := by
  cases args with
  | nil => rfl
  | cons a args =>
      have hBoth := List.forall_mem_append.mp h
      exact congrArg₂ List.cons
        (a.renameVars_of_fixed hBoth.1)
        (TypeArg.renameVarsAll_of_fixed args hBoth.2)

/- So does a parameter. -/
theorem Parameter.renameVars_of_fixed
    (p : Parameter) (h : ∀ v ∈ p.mentions, ρ.apply v = v) :
    p.renameVars ρ = p := by
  cases p with
  | mk name kind ty hasDefault =>
      exact congrArg (Parameter.mk name kind · hasDefault)
        (ty.renameVars_of_fixed h)

/- So does each of a parameter list. -/
theorem Parameter.renameVarsAll_of_fixed
    (ps : List Parameter)
    (h : ∀ v ∈ Parameter.mentionsAll ps, ρ.apply v = v) :
    Parameter.renameVarsAll ρ ps = ps := by
  cases ps with
  | nil => rfl
  | cons p ps =>
      have hBoth := List.forall_mem_append.mp h
      exact congrArg₂ List.cons
        (p.renameVars_of_fixed hBoth.1)
        (Parameter.renameVarsAll_of_fixed ps hBoth.2)

/- So does a signature. -/
theorem Signature.renameVars_of_fixed
    (sig : Signature)
    (h : ∀ v ∈ sig.mentions, ρ.apply v = v) :
    sig.renameVars ρ = sig := by
  cases sig with
  | gradual => rfl
  | params ps =>
      exact congrArg Signature.params
        (Parameter.renameVarsAll_of_fixed ps h)
  | spec lead var =>
      have hBoth := List.forall_mem_cons.mp h
      exact congrArg₂ Signature.spec
        (Parameter.renameVarsAll_of_fixed lead hBoth.2)
        (VarName.spec.inj hBoth.1)

end

end Fixed

end SigCheck
