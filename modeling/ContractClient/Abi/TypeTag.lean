/-
This file reads the type tags of an ABI, such as `uint256`, `bytes32[]` or `tuple[2]`, and
writes them back in their full form. A tag is a base type followed by array suffixes, each with
a length or without one. Blanks around a tag are ignored, and a line break may end a tag or
stand before an array suffix.
-/

import ContractClient.Text.Blank
import ContractClient.Text.DecimalDigit

namespace ContractClient

/-! ### Tags -/

/-- The base types of the ABI. -/
inductive BaseType where
  | bool
  | bytes
  | fixedBytes (size : Nat)
  | unsigned (bits : Nat)
  | signed (bits : Nat)
  | string
  | address
  | tuple
deriving Repr, DecidableEq, Inhabited

/-- A type tag: its base type and its array suffixes in written order, where an array of any
length has no number. -/
structure TypeTag where
  base : BaseType
  dimensions : List (Option Nat)
deriving Repr, DecidableEq, Inhabited

/-! ### Writing -/

/-- The text of a base type, integers with their width. -/
def BaseType.text : BaseType → String
  | bool => "bool"
  | bytes => "bytes"
  | fixedBytes size => "bytes" ++ toString size
  | unsigned bits => "uint" ++ toString bits
  | signed bits => "int" ++ toString bits
  | string => "string"
  | address => "address"
  | tuple => "tuple"

/-- The text of one array suffix. -/
def dimensionText : Option Nat → String
  | none => "[]"
  | some length => "[" ++ toString length ++ "]"

/-- The full text of a tag. -/
def TypeTag.text (tag : TypeTag) : String :=
  tag.base.text ++ String.join (tag.dimensions.map dimensionText)

/-- Why a text is no tag. -/
inductive TagFault where
  | unsupported
  /-- A number in the text has more digits than a number may have. -/
  | longNumber
deriving Repr, DecidableEq

/-- The numbers in the text of a base type. -/
def BaseType.numbers : BaseType → List Nat
  | fixedBytes size => [size]
  | unsigned bits => [bits]
  | signed bits => [bits]
  | _ => []

/-- The numbers in the full text of a tag, from left to right. -/
def TypeTag.numbers (tag : TypeTag) : List Nat :=
  tag.base.numbers ++ tag.dimensions.filterMap id

/-- Whether a number has no more digits than a number may have. -/
def isShortNumber (number : Nat) : Bool :=
  (Nat.toDigits 10 number).length ≤ digitLimit

/-- The full text of a tag, which is not written if a number in it has more digits than a number
may have. -/
def TypeTag.write (tag : TypeTag) : Except TagFault String :=
  if tag.numbers.all isShortNumber then .ok tag.text else .error .longNumber

/-! ### Reading numbers -/

/-- The number that digits write, zeros in front of it among them. -/
def readNumber (digits : List Char) : Except TagFault Nat :=
  if digitLimit < digits.length then .error .longNumber else .ok (decimalNumber digits)

/-! ### Reading the base type -/

/-- The number that remains of a tag behind its letters: nothing, or digits to the end. -/
def readSize (characters : List Char) : Except TagFault (Option Nat) :=
  match dropFinalBreak characters with
  | [] => .ok none
  | digits =>
    if digits.all isDecimalDigit then (readNumber digits).map some else .error .unsupported

/-- Whether integers of this width exist. -/
def isIntegerWidth (bits : Nat) : Bool :=
  8 ≤ bits && bits ≤ 256 && bits % 8 == 0

/-- The width of an integer type, the largest one if the tag gives none. -/
def readWidth (characters : List Char) : Except TagFault Nat := do
  let size ← readSize characters
  let bits := size.getD 256
  if isIntegerWidth bits then .ok bits else .error .unsupported

/-- The length of a type of fixed bytes. -/
def readByteCount (characters : List Char) : Except TagFault Nat := do
  match ← readSize characters with
  | none => .error .unsupported
  | some count => if 1 ≤ count && count ≤ 32 then .ok count else .error .unsupported

/-- The base type that the characters name. -/
def BaseType.ofChars (characters : List Char) : Except TagFault BaseType :=
  if characters = "bool".toList then .ok bool
  else if characters = "bytes".toList then .ok bytes
  else if characters = "string".toList then .ok string
  else if characters = "address".toList then .ok address
  else if characters = "tuple".toList then .ok tuple
  else
    match characters with
    | 'u' :: 'i' :: 'n' :: 't' :: rest => (readWidth rest).map unsigned
    | 'i' :: 'n' :: 't' :: rest => (readWidth rest).map signed
    | 'b' :: 'y' :: 't' :: 'e' :: 's' :: rest => (readByteCount rest).map fixedBytes
    | _ => .error .unsupported

/-! ### Reading the array suffixes -/

/-- The length that a suffix gives; a length of zero is no suffix at all. -/
def readDimension (digits : List Char) : Except TagFault (Option Nat) :=
  if digits.isEmpty then .ok none
  else do
    let length ← readNumber digits
    if length = 0 then .error .unsupported else .ok (some length)

/-- The base of a tag that is read backwards, in written order, and its suffixes, followed by
those already read. Behind a closing bracket, `inside?` holds the digits read so far of its
suffix. A line break behind a suffix is passed over. -/
def splitSuffixes (dimensions : List (Option Nat)) (inside? : Option (List Char)) :
    List Char → Except TagFault (List Char × List (Option Nat))
  | [] => if inside?.isNone then .ok ([], dimensions) else .error .unsupported
  | character :: rest =>
    match inside? with
    | none =>
      if character = ']' then splitSuffixes dimensions (some []) rest
      else if character = '\n' ∧ rest.head? = some ']' then splitSuffixes dimensions none rest
      else .ok ((character :: rest).reverse, dimensions)
    | some digits =>
      if isDecimalDigit character then splitSuffixes dimensions (some (character :: digits)) rest
      else if character = '[' then
        match readDimension digits with
        | .error fault => .error fault
        | .ok dimension => splitSuffixes (dimension :: dimensions) none rest
      else .error .unsupported

/-- The tag that the text writes, if it writes one. -/
def TypeTag.parse (text : String) : Except TagFault TypeTag := do
  let (characters, dimensions) ← splitSuffixes [] none (stripChars text.toList).reverse
  let base ← BaseType.ofChars characters
  return ⟨base, dimensions⟩

end ContractClient
