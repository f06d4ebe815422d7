import SigCheck.Decimal.Digits

/-
  Values of a report in a form for other programs, and their
  layout over several lines.

  Key definitions include:
    * `JsonValue`
    * `JsonValue.quoted`
    * `JsonValue.pretty`
-/

namespace SigCheck

/- A value of the report. Members keep their order. -/
inductive JsonValue where
  | num (value : Nat)
  | text (value : String)
  | list (items : List JsonValue)
  | object (members : List (String × JsonValue))

instance : Inhabited JsonValue := ⟨.list []⟩

namespace JsonValue

------------------------------------------------------------
-- Texts
------------------------------------------------------------

/-
  A character between quotes. Quotes, backslashes and
  control characters are escaped.
-/
def escaped (c : Char) : List Char :=
  match c with
  | '"' => ['\\', '"']
  | '\\' => ['\\', '\\']
  | '\n' => ['\\', 'n']
  | '\r' => ['\\', 'r']
  | '\t' => ['\\', 't']
  | c =>
      if c.toNat = 8 then ['\\', 'b']
      else if c.toNat = 12 then ['\\', 'f']
      else if c.toNat < 32 then
        ['\\', 'u', '0', '0', hexDigit (c.toNat / 16),
          hexDigit (c.toNat % 16)]
      else [c]

/- A text between quotes. -/
def quoted (text : String) : String :=
  "\"" ++ String.ofList (text.toList.flatMap escaped) ++ "\""

------------------------------------------------------------
-- Layout
------------------------------------------------------------

/- The blanks in front of a line at a depth. -/
def indent (depth : Nat) : String :=
  String.ofList (List.replicate (2 * depth) ' ')

/- Items on lines of their own between two signs. -/
def block
    (opening closing : String)
    (depth : Nat)
    (lines : List String) : String :=
  match lines with
  | [] => opening ++ closing
  | lines =>
      opening ++ "\n"
        ++ String.intercalate ",\n"
          (lines.map fun line => indent (depth + 1) ++ line)
        ++ "\n" ++ indent depth ++ closing

mutual

/- A value at a depth. -/
def prettyAt (depth : Nat) : JsonValue → String
  | num value => toString value
  | text value => quoted value
  | list items =>
      block "[" "]" depth (prettyItems (depth + 1) items)
  | object members =>
      block "\x7b" "\x7d" depth
        (prettyMembers (depth + 1) members)

/- The items of a list at a depth. -/
def prettyItems
    (depth : Nat) : List JsonValue → List String
  | [] => []
  | v :: vs => prettyAt depth v :: prettyItems depth vs

/- The members of an object at a depth. -/
def prettyMembers
    (depth : Nat) :
    List (String × JsonValue) → List String
  | [] => []
  | (name, v) :: rest =>
      (quoted name ++ ": " ++ prettyAt depth v)
        :: prettyMembers depth rest

end

/- A value over several lines. -/
def pretty (value : JsonValue) : String :=
  value.prettyAt 0

end JsonValue

end SigCheck
