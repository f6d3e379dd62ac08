/-
This file reads decimal digits. Every script writes its ten digits in one block, from zero to
nine, so a list of the code points of the zeros is the whole table.
-/

namespace ContractClient

/-- Code points of the digit zero, one for each block of ten decimal digits. -/
def digitZeros : List Nat := [
  0x30, 0x660, 0x6f0, 0x7c0, 0x966, 0x9e6, 0xa66, 0xae6, 0xb66, 0xbe6, 0xc66, 0xce6, 0xd66,
  0xde6, 0xe50, 0xed0, 0xf20, 0x1040, 0x1090, 0x17e0, 0x1810, 0x1946, 0x19d0, 0x1a80, 0x1a90,
  0x1b50, 0x1bb0, 0x1c40, 0x1c50, 0xa620, 0xa8d0, 0xa900, 0xa9d0, 0xa9f0, 0xaa50, 0xabf0, 0xff10,
  0x104a0, 0x10d30, 0x11066, 0x110f0, 0x11136, 0x111d0, 0x112f0, 0x11450, 0x114d0, 0x11650,
  0x116c0, 0x11730, 0x118e0, 0x11950, 0x11c50, 0x11d50, 0x11da0, 0x16a60, 0x16ac0, 0x16b50,
  0x1d7ce, 0x1d7d8, 0x1d7e2, 0x1d7ec, 0x1d7f6, 0x1e140, 0x1e2f0, 0x1e950, 0x1fbf0]

/-- The value of a decimal digit of any script. -/
def digitValue? (character : Char) : Option Nat :=
  (digitZeros.find? fun start => start ≤ character.toNat && character.toNat < start + 10).map
    (character.toNat - ·)

/-- Whether the character is a decimal digit of some script. -/
def isDecimalDigit (character : Char) : Bool :=
  (digitValue? character).isSome

/-- A digit of ASCII has the value that its place among them gives. -/
theorem digitValue?_of_isDigit {character : Char} (digit : character.isDigit = true) :
    digitValue? character = some (character.toNat - '0'.toNat) := by
  have bounds : 0x30 ≤ character.toNat ∧ character.toNat ≤ 0x39 := by
    rw [Char.isDigit, Bool.and_eq_true, decide_eq_true_eq, decide_eq_true_eq] at digit
    exact digit
  have below : character.toNat < 0x30 + 10 := Nat.lt_succ_of_le bounds.2
  simp only [digitValue?, digitZeros, List.find?_cons, bounds.1, below, decide_true,
    Bool.and_self, Option.map_some]
  rfl

theorem isDecimalDigit_of_isDigit {character : Char} (digit : character.isDigit = true) :
    isDecimalDigit character = true := by
  rw [isDecimalDigit, digitValue?_of_isDigit digit]
  rfl

theorem isDigit_of_mem_toDigits {number : Nat} {character : Char}
    (isIn : character ∈ Nat.toDigits 10 number) : character.isDigit :=
  Nat.isDigit_of_mem_toDigits (by decide) (by decide) isIn

/-- The most digits that a number may have which is read from a text. -/
def digitLimit : Nat := 4300

/-- The number that the digits write in base ten; characters that are no digits count as zero. -/
def decimalNumber (digits : List Char) : Nat :=
  digits.foldl (fun number digit => 10 * number + (digitValue? digit).getD 0) 0

end ContractClient
