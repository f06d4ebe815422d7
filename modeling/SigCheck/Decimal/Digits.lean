/-
  Digits of numerals in bases up to sixteen.

  Key definitions include:
    * `digitValue`, `digitsValue`
    * `isHexDigit`, `isDigitOf`
    * `hexDigit`
-/

namespace SigCheck

/- The value of a digit in any base up to sixteen. -/
def digitValue (c : Char) : Nat :=
  if c.isDigit then c.toNat - '0'.toNat
  else c.toLower.toNat - 'a'.toNat + 10

/- The number that digits write in a base. -/
def digitsValue (base : Nat) (digits : List Char) : Nat :=
  digits.foldl (fun n c => n * base + digitValue c) 0

/- The character is a hexadecimal digit. -/
def isHexDigit (c : Char) : Bool :=
  c.isDigit || ('a' ≤ c.toLower && c.toLower ≤ 'f')

/- The character is a digit of the base. -/
def isDigitOf (base : Nat) (c : Char) : Bool :=
  isHexDigit c && digitValue c < base

/- The hexadecimal digit of a number below sixteen. -/
def hexDigit (n : Nat) : Char :=
  if n < 10 then Char.ofNat ('0'.toNat + n)
  else Char.ofNat ('a'.toNat + (n - 10))

end SigCheck
