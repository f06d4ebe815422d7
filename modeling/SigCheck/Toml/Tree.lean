import SigCheck.Table
import SigCheck.Toml.Value

/-
  Tables as they grow while a text is read. How a table came
  about decides what may still be added to it.

  Key definitions include:
    * `TableOrigin`, `TomlNode`
    * `TomlNode.changeAt`
    * `TomlNode.addEntry`, `TomlNode.addTable`,
      `TomlNode.addItem`
    * `TomlNode.value`
-/

namespace SigCheck

------------------------------------------------------------
-- Nodes
------------------------------------------------------------

/-
  A table has a header or braces of its own, is implied by
  the header of a table inside it, or by a key with points.
-/
inductive TableOrigin where
  | header
  | implied
  | dotted
  deriving DecidableEq, Repr

/- A value, a table that may grow, or a list of them. -/
inductive TomlNode where
  | leaf (value : TomlValue)
  | table
      (origin : TableOrigin)
      (entries : List (String × TomlNode))
  | tables (items : List TomlNode)

namespace TomlNode

/- A table before anything is entered. -/
def empty : TomlNode :=
  .table .header []

mutual

/- The value that a node has grown to. -/
def value : TomlNode → TomlValue
  | leaf v => v
  | table _ entries => .table (entryValues entries)
  | tables items => .array (itemValues items)

/- The values of entries. -/
def entryValues :
    List (String × TomlNode) → List (String × TomlValue)
  | [] => []
  | (key, node) :: rest =>
      (key, value node) :: entryValues rest

/- The values of items. -/
def itemValues : List TomlNode → List TomlValue
  | [] => []
  | node :: rest => value node :: itemValues rest

end

------------------------------------------------------------
-- Growth
------------------------------------------------------------

/-
  Change the table at a path. A list of tables stands for
  its last one. Missing tables are made on the way; a key
  with points does not lead into tables with a header.
-/
def changeAt
    (dotted : Bool)
    (change : TomlNode → Option TomlNode) :
    List String → TomlNode → Option TomlNode
  | [], node => change node
  | key :: path, table origin entries => do
      let replace := fun (node : TomlNode) =>
        table origin (Table.insertIn key node entries)
      match Table.findIn key entries with
      | none =>
          let made := if dotted then .dotted else .implied
          return replace
            (← changeAt dotted change path (table made []))
      | some (leaf _) => none
      | some (tables items) => do
          let last ← items.getLast?
          return replace
            (.tables
              (items.dropLast
                ++ [← changeAt dotted change path last]))
      | some (table inner more) =>
          if dotted && inner == .header then none
          else
            return replace
              (← changeAt dotted change path
                (table inner more))
  | _ :: _, _ => none

/-
  Enter a value in a table. The table has been made by keys
  with points exactly when the key has some.
-/
def enter
    (dotted : Bool)
    (key : String)
    (v : TomlValue) : TomlNode → Option TomlNode
  | table origin entries =>
      if (origin == .dotted) != dotted then none
      else if (Table.findIn key entries).isSome then none
      else
        some
          (table origin (Table.insertIn key (leaf v) entries))
  | _ => none

/- Enter a value at a key below a node. -/
def addEntry
    (path : List String)
    (v : TomlValue)
    (node : TomlNode) : Option TomlNode := do
  let key ← path.getLast?
  let owners := path.dropLast
  changeAt true (enter (!owners.isEmpty) key v) owners node

/- Give a table a header. Only an implied one has none yet. -/
def addTable
    (path : List String)
    (node : TomlNode) : Option TomlNode := do
  let key ← path.getLast?
  changeAt false
    (fun owner =>
      match owner with
      | table origin entries =>
          match Table.findIn key entries with
          | none =>
              some
                (table origin
                  (Table.insertIn key empty entries))
          | some (table .implied inner) =>
              some
                (table origin
                  (Table.insertIn key (table .header inner)
                    entries))
          | some _ => none
      | _ => none)
    path.dropLast node

/- Add a table to a list of tables. -/
def addItem
    (path : List String)
    (node : TomlNode) : Option TomlNode := do
  let key ← path.getLast?
  changeAt false
    (fun owner =>
      match owner with
      | table origin entries =>
          match Table.findIn key entries with
          | none =>
              some
                (table origin
                  (Table.insertIn key (tables [empty])
                    entries))
          | some (tables items) =>
              some
                (table origin
                  (Table.insertIn key
                    (tables (items ++ [empty])) entries))
          | some _ => none
      | _ => none)
    path.dropLast node

/- The table with the given entries, in order. -/
def ofEntries
    (entries : List (List String × TomlValue)) :
    Option TomlNode :=
  entries.foldlM (fun node (path, v) => node.addEntry path v)
    empty

end TomlNode

end SigCheck
