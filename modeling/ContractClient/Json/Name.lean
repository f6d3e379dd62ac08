/-
This file compares values that stand where names are expected. A name should be a text. Any other
plain value counts as what it amounts to: true as one, false as zero, and a floating-point number
as the fraction of its size, so that values of one size count as one name. Lists and objects
cannot be compared.
-/

import ContractClient.Decimal.Binary64
import ContractClient.Json.Basic

namespace ContractClient

/-! ### Keys -/

/-- What a plain value amounts to where names are compared. -/
inductive NameKey where
  | nothing
  /-- The fraction `numerator / 2 ^ places` in lowest terms. -/
  | fraction (numerator : Int) (places : Nat)
  | infinite (negative : Bool)
  | undefinedValue
  | text (value : String)
deriving Repr, DecidableEq

/-- The fraction in lowest terms. -/
def NameKey.ofFraction (negative : Bool) (numerator : Nat) : Nat → NameKey
  | 0 => .fraction (if negative then -numerator else numerator) 0
  | places + 1 =>
    if numerator % 2 = 0 then ofFraction negative (numerator / 2) places
    else .fraction (if negative then -numerator else numerator) (places + 1)

/-- What a floating-point number amounts to. -/
def NameKey.ofBits (bits : UInt64) : NameKey :=
  match Binary64.ofBits bits with
  | .undefinedValue => .undefinedValue
  | .infinite negative => .infinite negative
  | .finite negative significand exponent _ =>
    ofFraction negative (significand * powerOfTwo (exponent - 1075)) (1075 - exponent)

namespace Json

/-- What a value amounts to as a name, if it is a plain one. -/
def nameKey? : Json → Option NameKey
  | null => some .nothing
  | boolean value => some (.fraction (if value then 1 else 0) 0)
  | integer value => some (.fraction value 0)
  | float bits => some (.ofBits bits)
  | text value => some (.text value)
  | array _ => none
  | object _ => none

/-- Whether the value can be compared with others as a name. -/
def isPlain (value : Json) : Bool :=
  value.nameKey?.isSome

/-- Whether two values count as one name. -/
def sameName : Json → Json → Bool
  | text left, text right => left == right
  | left, right => left.isPlain && left.nameKey? == right.nameKey?

/-- Whether the name is among the others. -/
def isAmong (name : Json) (others : List Json) : Bool :=
  others.any name.sameName

/-- The names with every name once, at its first place. -/
def distinctNames (names : List Json) : List Json :=
  names.foldl (fun kept name => if name.isAmong kept then kept else kept ++ [name]) []

@[simp] theorem sameName_text (left right : String) :
    sameName (.text left) (.text right) = decide (left = right) :=
  rfl

/-- Two values count as one name if they are plain and amount to the same. -/
theorem sameName_eq (left right : Json) :
    sameName left right = (left.isPlain && left.nameKey? == right.nameKey?) := by
  unfold sameName
  split
  · rename_i left right
    rw [Bool.eq_iff_iff]
    simp [isPlain, nameKey?]
  · rfl

end Json

end ContractClient
