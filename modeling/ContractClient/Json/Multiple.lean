/-
This file takes values a number of times. A text or a list is repeated, and less often than once
it is empty; a number is multiplied, where true counts as one and false as zero. Nothing else can
be taken more than once. What would become too large to be counted or held is refused.
-/

import ContractClient.Fault

namespace ContractClient

namespace Json

/-! ### Multiples -/

/-- The text repeated the given number of times. -/
def repeatedText (text : String) (times : Nat) : String :=
  if text == "" then "" else String.join (List.replicate times text)

/-- The list repeated the given number of times. -/
def repeatedItems (items : List Json) (times : Nat) : List Json :=
  if items.isEmpty then [] else (List.replicate times items).flatten

/-- Repeating the empty text needs no exception, which only saves the work. -/
theorem repeatedText_eq (text : String) (times : Nat) :
    repeatedText text times = String.join (List.replicate times text) := by
  rw [repeatedText]
  split
  · rename_i same
    rw [eq_of_beq same]
    induction times with
    | zero => rfl
    | succ times inductionHypothesis =>
      rw [List.replicate_succ, String.join_cons, ← inductionHypothesis]
      rfl
  · rfl

/-- The value taken the given number of times. What cannot be repeated stays as it is. -/
def multiple (value : Json) (count : Int) : Json :=
  match value with
  | boolean value => .integer (if value then count else 0)
  | integer value => .integer (value * count)
  | float bits => .float (multipleBits bits count)
  | text value => .text (repeatedText value count.toNat)
  | array items => .array (repeatedItems items count.toNat)
  | null => .null
  | object members => .object members

/-! ### Limits -/

/-- The largest number of parts that a text or a list can be counted to. -/
def largestCount : Nat := powerOfTwo 63 - 1

/-- The largest number of parts of a text or a list that can be held. -/
def largestSize : Nat := powerOfTwo 33

/-- Fails if something of the given size cannot be repeated so often. One that could be repeated
but not be counted any more fails by the given defect. -/
def requireSize (size : Nat) (count : Int) (uncountable : Defect) : Except Fault Unit :=
  if largestCount < count ∨ count < -largestCount - 1 then .error (.defect .countTooLarge)
  else if largestCount < size * count then .error (.defect uncountable)
  else if largestSize < size * count then .error (.defect .sizeTooLarge)
  else .ok ()

/-- Fails if the value cannot be taken the given number of times. -/
def requireMultiple (value : Json) (count : Int) : Except Fault Unit :=
  match value with
  | boolean _ => .ok ()
  | integer _ => .ok ()
  | float _ => if isFiniteBits (wholeBits count) then .ok () else .error (.defect .countTooLarge)
  | text value => requireSize (textPieces value.toList).length count .countTooLarge
  | array items => requireSize items.length count .sizeTooLarge
  | null => .error (.defect .notRepeatable)
  | object _ => .error (.defect .notRepeatable)

end Json

end ContractClient
