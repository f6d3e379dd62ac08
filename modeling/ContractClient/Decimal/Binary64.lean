/-
This file reads the sixty-four bits of a binary floating-point number as an exact value, and
rounds an exact decimal or a product of such numbers back to bits. All arithmetic is on natural
numbers: a finite number is `significand * 2 ^ exponent`, and rounding goes to the nearest number,
a tie to the even significand.
-/

namespace ContractClient

/-! ### Powers -/

/-- The given power of two. -/
def powerOfTwo (exponent : Nat) : Nat :=
  Nat.pow 2 exponent

/-- The given power of ten. -/
def powerOfTen (exponent : Nat) : Nat :=
  Nat.pow 10 exponent

/-! ### Taking the bits apart -/

/-- What sixty-four bits stand for. The value of a finite number is
`significand * 2 ^ (exponent - 1075)`; `narrow` holds where the gap below it is half the gap
above. -/
inductive Binary64 where
  | finite (negative : Bool) (significand exponent : Nat) (narrow : Bool)
  | infinite (negative : Bool)
  | undefinedValue
deriving Repr, DecidableEq

/-- The meaning of the bits. -/
def Binary64.ofBits (bits : UInt64) : Binary64 :=
  let word := bits.toNat
  let negative := word / powerOfTwo 63 == 1
  let exponent := word / powerOfTwo 52 % powerOfTwo 11
  let fraction := word % powerOfTwo 52
  if exponent == 0x7ff then
    if fraction == 0 then .infinite negative else .undefinedValue
  else if exponent == 0 then .finite negative fraction 1 false
  else .finite negative (powerOfTwo 52 + fraction) exponent (fraction == 0 && exponent != 1)

/-! ### Putting the bits together -/

/-- The bits of the value that is not a number. -/
def undefinedBits : UInt64 := 0x7ff8000000000000

/-- The bits of the positive infinity. -/
def infiniteBits : UInt64 := 0x7ff0000000000000

/-- The bits of a number with the given sign and the given bits beside it. -/
def signedBits (negative : Bool) (magnitude : Nat) : UInt64 :=
  UInt64.ofNat ((if negative then powerOfTwo 63 else 0) + magnitude)

/-! ### Rounding -/

/-- The quotient rounded to the nearest natural number, a tie to the even one. -/
def roundQuotient (numerator denominator : Nat) : Nat :=
  let whole := numerator / denominator
  let rest := 2 * (numerator % denominator)
  if rest < denominator then whole
  else if denominator < rest then whole + 1
  else whole + whole % 2

/-- The bits, without a sign, of the number nearest to the quotient. -/
def nearestMagnitude (numerator denominator : Nat) : Nat :=
  let numeratorLength := Nat.log2 numerator
  let denominatorLength := Nat.log2 denominator
  -- The quotient lies strictly between `2 ^ (scale - 1)` and `2 ^ (scale + 1)`.
  let atLeast (scale : Int) : Bool :=
    denominator * powerOfTwo scale.toNat ≤ numerator * powerOfTwo (-scale).toNat
  let estimate : Int := (numeratorLength : Int) - denominatorLength
  let scale : Int := if atLeast estimate then estimate else estimate - 1
  let shift : Int := max (scale - 52) (-1074)
  let significand :=
    roundQuotient (numerator * powerOfTwo (-shift).toNat) (denominator * powerOfTwo shift.toNat)
  let bits := if significand < powerOfTwo 52 then significand
    else (shift + 1074).toNat * powerOfTwo 52 + significand
  min bits (0x7ff * powerOfTwo 52)

/-- The bits of the number nearest to `digits * 10 ^ exponent`, with the given sign. Beyond four
hundred places on either side of the point nothing but zero and infinity is left. -/
def nearestBinary64 (negative : Bool) (digits : Nat) (exponent : Int) : UInt64 :=
  let place : Int := exponent + (Nat.toDigits 10 digits).length
  let magnitude :=
    if digits == 0 || place < -400 then 0
    else if 400 < place then 0x7ff * powerOfTwo 52
    else nearestMagnitude (digits * powerOfTen exponent.toNat) (powerOfTen (-exponent).toNat)
  signedBits negative magnitude

/-- The bits of the number nearest to the whole number. -/
def wholeBits (value : Int) : UInt64 :=
  nearestBinary64 (decide (value < 0)) value.natAbs 0

/-- Whether the bits are those of a finite number. -/
def isFiniteBits (bits : UInt64) : Bool :=
  match Binary64.ofBits bits with
  | .finite _ _ _ _ => true
  | _ => false

/-- The bits of the number nearest to the product of the numbers of the given bits. -/
def productBits (left right : UInt64) : UInt64 :=
  match Binary64.ofBits left, Binary64.ofBits right with
  | .undefinedValue, _ => left
  | _, .undefinedValue => right
  | .infinite negative, .infinite other => signedBits (negative != other) infiniteBits.toNat
  | .infinite negative, .finite other significand _ _ =>
    if significand = 0 then undefinedBits
    else signedBits (negative != other) infiniteBits.toNat
  | .finite negative significand _ _, .infinite other =>
    if significand = 0 then undefinedBits
    else signedBits (negative != other) infiniteBits.toNat
  | .finite negative significand exponent _, .finite other times timesExponent _ =>
    let scale := exponent + timesExponent
    signedBits (negative != other)
      (nearestMagnitude (significand * times * powerOfTwo (scale - 2150))
        (powerOfTwo (2150 - scale)))

/-- The bits of the number nearest to the product of the number of the given bits and the one
nearest to the factor. -/
def multipleBits (bits : UInt64) (factor : Int) : UInt64 :=
  productBits bits (wholeBits factor)

end ContractClient
