/-
This file trims texts. A blank is any character that Unicode counts as white space, and the
four separators of ASCII.
-/

namespace ContractClient

/-- Whether the character is blank. -/
def isBlank (character : Char) : Bool :=
  let point := character.toNat
  (0x09 ≤ point && point ≤ 0x0d) || (0x1c ≤ point && point ≤ 0x20) || point == 0x85 ||
    point == 0xa0 || point == 0x1680 || (0x2000 ≤ point && point ≤ 0x200a) || point == 0x2028 ||
    point == 0x2029 || point == 0x202f || point == 0x205f || point == 0x3000

theorem isBlank_of_isDigit {character : Char} (digit : character.isDigit = true) :
    isBlank character = false := by
  have bounds : 0x30 ≤ character.toNat ∧ character.toNat ≤ 0x39 := by
    rw [Char.isDigit, Bool.and_eq_true, decide_eq_true_eq, decide_eq_true_eq] at digit
    exact digit
  simp only [isBlank, Bool.or_eq_false_iff, Bool.and_eq_false_iff, decide_eq_false_iff_not,
    beq_eq_false_iff_ne]
  omega

/-- The characters without the blanks at the end. -/
def stripEndChars (characters : List Char) : List Char :=
  (characters.reverse.dropWhile isBlank).reverse

/-- The characters without the blanks at either end. -/
def stripChars (characters : List Char) : List Char :=
  stripEndChars (characters.dropWhile isBlank)

/-- The characters without a line break at the end. -/
def dropFinalBreak (characters : List Char) : List Char :=
  if characters.getLast? = some '\n' then characters.dropLast else characters

/-- The text without the blanks at the end. -/
def stripEnd (text : String) : String :=
  String.ofList (stripEndChars text.toList)

/-- The text without the blanks at either end. -/
def strip (text : String) : String :=
  String.ofList (stripChars text.toList)

end ContractClient
