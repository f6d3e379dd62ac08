/-
This file finds the shortest decimal that reads back as a given binary floating-point number.
For each count of digits the two neighbours of the number on the decimal grid of that count are
tried, in exact arithmetic; the first grid with a neighbour inside the interval of reals that
round to the number wins, and of two neighbours the nearer, a tie going to the even digit.
-/

import ContractClient.Decimal.Binary64

namespace ContractClient

/-- A positive decimal: the digits and the power of ten of the first of them. -/
structure ShortDecimal where
  digits : List Char
  exponent : Int
deriving Repr, DecidableEq

/-- The number of decimal digits of a natural number. -/
def decimalLength (number : Nat) : Nat :=
  (Nat.toDigits 10 number).length

/-- The power of ten of the first digit of the quotient of two positive numbers. -/
def leadingExponent (numerator denominator : Nat) : Int :=
  if denominator ≤ numerator then decimalLength (numerator / denominator) - 1
  else -(decimalLength ((denominator - 1) / numerator) : Int)

/-- The interval of reals that round to one number: the number itself and its two ends over one
denominator, and whether the ends belong to it. -/
structure RoundingInterval where
  low : Nat
  value : Nat
  high : Nat
  denominator : Nat
  closed : Bool
deriving Repr, DecidableEq

/-- The interval of the number `significand * 2 ^ (exponent - 1075)`. -/
def RoundingInterval.ofFinite (significand exponent : Nat) (narrow : Bool) : RoundingInterval :=
  let factor := powerOfTwo (exponent - 1077)
  { low := (4 * significand - (if narrow then 1 else 2)) * factor
    value := 4 * significand * factor
    high := (4 * significand + 2) * factor
    denominator := powerOfTwo (1077 - exponent)
    closed := significand % 2 == 0 }

/-- Whether the quotient lies in the interval. -/
def RoundingInterval.holds (interval : RoundingInterval) (numerator denominator : Nat) : Bool :=
  let point := numerator * interval.denominator
  let low := interval.low * denominator
  let high := interval.high * denominator
  (low < point && point < high) || (interval.closed && (point == low || point == high))

/-- The best decimal with `count` digits in the interval, as a number of grid steps and the power
of ten of one step; `none` if neither neighbour lies in it. -/
def RoundingInterval.onGrid? (interval : RoundingInterval) (leading : Int) (count : Nat) :
    Option (Nat × Int) :=
  let power : Int := leading + 1 - count
  let up := powerOfTen power.toNat
  let down := powerOfTen (-power).toNat
  let numerator := interval.value * down
  let denominator := interval.denominator * up
  let below := numerator / denominator
  let holds (steps : Nat) : Bool := interval.holds (steps * up) down
  if holds below && holds (below + 1) then
    some (roundQuotient numerator denominator, power)
  else if holds below then some (below, power)
  else if holds (below + 1) then some (below + 1, power)
  else none

/-- The digits of a number without the zeros at its end. -/
def significantDigits (number : Nat) : List Char :=
  ((Nat.toDigits 10 number).reverse.dropWhile (· == '0')).reverse

/-- The shortest decimal that reads back as the positive number
`significand * 2 ^ (exponent - 1075)`. Seventeen digits always suffice. -/
def shortestDecimal (significand exponent : Nat) (narrow : Bool) : ShortDecimal :=
  let interval := RoundingInterval.ofFinite significand exponent narrow
  let leading := leadingExponent interval.value interval.denominator
  match (List.range 17).findSome? fun count => interval.onGrid? leading (count + 1) with
  | some (steps, power) => ⟨significantDigits steps, power + decimalLength steps - 1⟩
  | none => ⟨['0'], 0⟩

/-! ### Writing it -/

/-- The decisions of one written form: the texts of the values that are no number. -/
structure FloatSpelling where
  undefinedText : String
  infiniteText : String

/-- The exponent with its sign and two digits at least. -/
def exponentText (exponent : Int) : String :=
  let digits := toString exponent.natAbs
  let padded := if digits.length < 2 then "0" ++ digits else digits
  (if exponent < 0 then "e-" else "e+") ++ padded

/-- The decimal with a point among or beside its digits, and a digit on either side of it. -/
def positionalText (decimal : ShortDecimal) : String :=
  let count := decimal.digits.length
  if decimal.exponent < 0 then
    "0." ++ String.ofList (List.replicate (decimal.exponent.natAbs - 1) '0' ++ decimal.digits)
  else
    let before := decimal.exponent.toNat + 1
    if count ≤ before then
      String.ofList (decimal.digits ++ List.replicate (before - count) '0') ++ ".0"
    else
      String.ofList (decimal.digits.take before) ++ "." ++
        String.ofList (decimal.digits.drop before)

/-- The decimal with one digit before the point and a power of ten behind. -/
def scientificText (decimal : ShortDecimal) : String :=
  let mantissa := match decimal.digits with
    | [] => ""
    | [digit] => String.ofList [digit]
    | digit :: rest => String.ofList (digit :: '.' :: rest)
  mantissa ++ exponentText decimal.exponent

/-- The decimal as it is written: with a point alone while the first digit stands between the
ten-thousandths and the sixteenth place before the point, and with a power of ten otherwise. -/
def ShortDecimal.text (decimal : ShortDecimal) : String :=
  if -4 ≤ decimal.exponent && decimal.exponent < 16 then positionalText decimal
  else scientificText decimal

/-- The written form of a floating-point number. -/
def floatText (spelling : FloatSpelling) (bits : UInt64) : String :=
  let signed (negative : Bool) (text : String) := if negative then "-" ++ text else text
  match Binary64.ofBits bits with
  | .undefinedValue => spelling.undefinedText
  | .infinite negative => signed negative spelling.infiniteText
  | .finite negative significand exponent narrow =>
    if significand == 0 then signed negative "0.0"
    else signed negative (shortestDecimal significand exponent narrow).text

end ContractClient
