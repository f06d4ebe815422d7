/-
  Decimal numerals and the text of the double nearest to
  one: the fewest digits that read back as the same double,
  written without an exponent.

  Key definitions include:
    * `Decimal`
    * `Ratio`
    * `Double.nearest?`
    * `Double.shortest`
    * `Decimal.nearestText`
-/

namespace SigCheck

------------------------------------------------------------
-- Ratios
------------------------------------------------------------

/- A quotient of natural numbers. -/
structure Ratio where
  num : Nat
  den : Nat
  deriving DecidableEq, Repr

namespace Ratio

/- A power of a base, of either sign. -/
def power (base : Nat) (exponent : Int) : Ratio :=
  if exponent < 0 then ⟨1, Nat.pow base exponent.natAbs⟩
  else ⟨Nat.pow base exponent.natAbs, 1⟩

/- The product of two ratios. -/
def mul (a b : Ratio) : Ratio :=
  ⟨a.num * b.num, a.den * b.den⟩

/- A ratio divided by another. -/
def div (a b : Ratio) : Ratio :=
  ⟨a.num * b.den, a.den * b.num⟩

/- The first ratio is less than the second. -/
def lt (a b : Ratio) : Bool :=
  a.num * b.den < b.num * a.den

/- The whole part. -/
def floor (a : Ratio) : Nat :=
  a.num / a.den

/- The nearest whole number, a tie going to the even one. -/
def round (a : Ratio) : Nat :=
  let whole := a.num / a.den
  let twice := 2 * (a.num % a.den)
  if twice < a.den then whole
  else if a.den < twice then whole + 1
  else if whole % 2 = 0 then whole
  else whole + 1

/- The greatest power of a base that is not above the ratio. -/
def logFloor (base : Nat) (a : Ratio) : Int :=
  let guess : Int :=
    (Nat.log2 a.num : Int) - (Nat.log2 a.den : Int)
  let start : Int :=
    if base = 2 then guess - 1
    else guess * 30103 / 100000 - 2
  let steps := (List.range 5).map fun (k : Nat) => start + (k : Int)
  let fitting := steps.filter fun e => !a.lt (power base e)
  fitting.getLastD start

end Ratio

------------------------------------------------------------
-- Doubles
------------------------------------------------------------

/- A positive double: the mantissa times a power of two. -/
structure Double where
  mantissa : Nat
  exponent : Int
  deriving DecidableEq, Repr

namespace Double

/- The least exponent of a double. -/
def leastExponent : Int := -1074

/- The greatest exponent of a finite double. -/
def greatestExponent : Int := 971

/-
  The double nearest to a ratio; none when the ratio lies
  beyond the finite ones.
-/
def nearest? (a : Ratio) : Option Double :=
  let exponent :=
    max (a.logFloor 2 - 52) leastExponent
  let mantissa := (a.div (.power 2 exponent)).round
  let d : Double :=
    if mantissa = Nat.pow 2 53 then ⟨Nat.pow 2 52, exponent + 1⟩
    else ⟨mantissa, exponent⟩
  if greatestExponent < d.exponent then none else some d

/- The value of a double. -/
def value (d : Double) : Ratio :=
  Ratio.mul ⟨d.mantissa, 1⟩ (.power 2 d.exponent)

/- Half the way down to the double below. -/
def lower (d : Double) : Ratio :=
  let quarters :=
    if d.mantissa = Nat.pow 2 52 ∧ leastExponent < d.exponent then
      4 * d.mantissa - 1
    else 4 * d.mantissa - 2
  Ratio.mul ⟨quarters, 4⟩ (.power 2 d.exponent)

/- Half the way up to the double above. -/
def upper (d : Double) : Ratio :=
  Ratio.mul ⟨4 * d.mantissa + 2, 4⟩ (.power 2 d.exponent)

/- A ratio that rounds to the double. -/
def rounds (d : Double) (a : Ratio) : Bool :=
  if d.mantissa % 2 = 0 then
    !a.lt d.lower && !d.upper.lt a
  else d.lower.lt a && a.lt d.upper

/-
  The multiple of a power of ten next to the double that
  rounds to it, the nearer one if there are two.
-/
def onGrid?
    (d : Double)
    (exponent : Int) : Option (Nat × Int) :=
  let step := Ratio.power 10 exponent
  let below := (d.value.div step).floor
  let low := Ratio.mul ⟨below, 1⟩ step
  let high := Ratio.mul ⟨below + 1, 1⟩ step
  let middle := Ratio.mul ⟨2 * below + 1, 2⟩ step
  let lowFits := d.rounds low
  let highFits := d.rounds high
  if lowFits && (!highFits || !middle.lt d.value) then
    some (below, exponent)
  else if highFits then some (below + 1, exponent)
  else none

/- The fewest digits that read back, and their exponent. -/
def shortest (d : Double) : Nat × Int :=
  let top := d.value.logFloor 10
  let grids :=
    (List.range 18).map fun (k : Nat) => top - (k : Int)
  (grids.findSome? d.onGrid?).getD (0, 0)

end Double

------------------------------------------------------------
-- Decimals
------------------------------------------------------------

/- A numeral: its digits times a power of ten. -/
structure Decimal where
  digits : Nat
  exponent : Int
  deriving DecidableEq, Repr, Inhabited

namespace Decimal

/- The text without the zeros at its end. -/
def dropTrailingZeros (cs : List Char) : List Char :=
  (cs.reverse.dropWhile (· == '0')).reverse

/- Digits times a power of ten, written with a point only. -/
def positional (digits : Nat) (exponent : Int) : String :=
  let text := (toString digits).toList
  if 0 ≤ exponent then
    String.ofList (text ++ List.replicate exponent.natAbs '0')
  else
    let places := exponent.natAbs
    let padded :=
      List.replicate (places + 1 - text.length) '0' ++ text
    let whole := padded.take (padded.length - places)
    let fraction :=
      dropTrailingZeros
        (padded.drop (padded.length - places))
    if fraction.isEmpty then String.ofList whole
    else String.ofList (whole ++ '.' :: fraction)

/- The exact value of the numeral. -/
def value (d : Decimal) : Ratio :=
  Ratio.mul ⟨d.digits, 1⟩ (.power 10 d.exponent)

/- The number of its places in front of the point. -/
def places (d : Decimal) : Int :=
  d.exponent + (toString d.digits).length

/- So small that its double is zero, whatever its digits. -/
def isTiny (d : Decimal) : Bool :=
  d.places < -400

/- So large that no double is near, whatever its digits. -/
def isHuge (d : Decimal) : Bool :=
  400 < d.places

/- The double nearest to the numeral is infinite. -/
def isInfinite (d : Decimal) : Bool :=
  d.digits != 0
    && (d.isHuge
      || (!d.isTiny && (Double.nearest? d.value).isNone))

/- The text of the double nearest to the numeral. -/
def nearestText (d : Decimal) : String :=
  if d.digits = 0 || d.isTiny then "0"
  else if d.isHuge then "inf"
  else
    match Double.nearest? d.value with
    | none => "inf"
    | some double =>
        if double.mantissa = 0 then "0"
        else
          let (digits, exponent) := double.shortest
          positional digits exponent

end Decimal

end SigCheck
