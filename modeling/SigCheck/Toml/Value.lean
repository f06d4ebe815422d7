import SigCheck.Table

/-
  Values of configuration texts.

  Key definitions include:
    * `TomlValue`
    * `TomlValue.isRecord`, `TomlValue.part?`
-/

namespace SigCheck

/-
  A value. Numbers with a fraction and moments in time keep
  the words that write them. Tables keep their order.
-/
inductive TomlValue where
  | text (value : String)
  | integer (value : Int)
  | float (word : String)
  | boolean (value : Bool)
  | moment (word : String)
  | array (items : List TomlValue)
  | table (entries : List (String × TomlValue))
  deriving Repr

instance : Inhabited TomlValue := ⟨.table []⟩

namespace TomlValue

/- The value can stand for a record. -/
def isRecord : TomlValue → Bool
  | table _ => true
  | array _ => true
  | moment _ => true
  | _ => false

/-
  A part of a value that stands for a record: by its name in
  a table, by its place in a list. A moment has no parts.
-/
def part?
    (v : TomlValue)
    (place : Nat)
    (name : String) : Option TomlValue :=
  match v with
  | table entries => Table.findIn name entries
  | array items => items[place]?
  | _ => none

end TomlValue

end SigCheck
