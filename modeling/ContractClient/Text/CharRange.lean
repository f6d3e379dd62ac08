/-
This file holds sets of code points written as lists of closed ranges. The character classes of
the neighbouring files are such lists above the ASCII range, and plain conditions inside it.
-/

namespace ContractClient

/-- Whether the code point lies in one of the closed ranges. -/
def inRanges (ranges : List (Nat × Nat)) (point : Nat) : Bool :=
  ranges.any fun range => range.1 ≤ point && point ≤ range.2

/-- Whether the character's code point is below the end of ASCII. -/
def isAscii (character : Char) : Bool :=
  character.toNat < 0x80

end ContractClient
