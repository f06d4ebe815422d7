/-
  Finite maps from names, in the order in which the names
  were first entered.

  Key definitions include:
    * `Table`
    * `Table.find?`
    * `Table.insert`
    * `Table.names`
  The main statement is `Table.find?_insert`.
-/

namespace SigCheck

/- Names with their values, each name at most once. -/
structure Table (α : Type) where
  entries : List (String × α)

namespace Table

variable {α : Type}

instance : EmptyCollection (Table α) := ⟨⟨[]⟩⟩
instance : Inhabited (Table α) := ⟨∅⟩

/- The value at a name in a list of entries. -/
def findIn
    (name : String) : List (String × α) → Option α
  | [] => none
  | (key, value) :: rest =>
      if key = name then some value else findIn name rest

/- Replace the value at a name, or add it at the end. -/
def insertIn
    (name : String)
    (value : α) :
    List (String × α) → List (String × α)
  | [] => [(name, value)]
  | (key, old) :: rest =>
      if key = name then (key, value) :: rest
      else (key, old) :: insertIn name value rest

/- The value at a name. -/
def find? (t : Table α) (name : String) : Option α :=
  findIn name t.entries

/- The table with the name set to the value. -/
def insert
    (t : Table α)
    (name : String)
    (value : α) : Table α :=
  ⟨insertIn name value t.entries⟩

/- The table with the name set unless it has a value. -/
def insertNew
    (t : Table α)
    (name : String)
    (value : α) : Table α :=
  match t.find? name with
  | some _ => t
  | none => t.insert name value

/- The name has a value. -/
def contains (t : Table α) (name : String) : Bool :=
  (t.find? name).isSome

/- The names, in order of first entry. -/
def names (t : Table α) : List String :=
  t.entries.map (·.1)

/- The number of names. -/
def size (t : Table α) : Nat :=
  t.entries.length

/- No name has a value. -/
def isEmpty (t : Table α) : Bool :=
  t.entries.isEmpty

/- Enter pairs one after the other. -/
def ofPairs (pairs : List (String × α)) : Table α :=
  pairs.foldl (fun t (name, value) => t.insert name value) ∅

/- Entering a name changes its own value only. -/
theorem findIn_insertIn
    (name key : String)
    (value : α)
    (entries : List (String × α)) :
    findIn key (insertIn name value entries) =
      if name = key then some value
      else findIn key entries := by
  induction entries with
  | nil => simp [insertIn, findIn]
  | cons entry rest ih =>
      obtain ⟨first, old⟩ := entry
      by_cases hFirst : first = name
      · subst hFirst
        by_cases hKey : first = key <;>
          simp [insertIn, findIn, hKey]
      · by_cases hKey : first = key
        · subst hKey
          have hName : name ≠ first := fun h => hFirst h.symm
          simp [insertIn, findIn, hFirst, hName]
        · simp [insertIn, findIn, hFirst, hKey, ih]

/- A look-up after an insertion. -/
@[simp]
theorem find?_insert
    (t : Table α)
    (name key : String)
    (value : α) :
    (t.insert name value).find? key =
      if name = key then some value else t.find? key :=
  findIn_insertIn name key value t.entries

/- The empty table has no values. -/
@[simp]
theorem find?_empty (key : String) :
    (∅ : Table α).find? key = none :=
  rfl

end Table

end SigCheck
