/-
This file holds the limits that values keep when they are read, written or shown: the digits of a
whole number, and the lists and objects that stand in each other. A value is gone through from its
beginning, so of several parts that go beyond a limit the first one counts.
-/

import ContractClient.Fault
import ContractClient.Text.DecimalDigit

namespace ContractClient

namespace Json

/-! ### Limits -/

/-- The digits that a whole number may have, and the levels of lists and objects that may stand in
each other; any number of them where nothing is set. -/
structure Limits where
  digits : Option Nat
  levels : Option Nat
deriving Repr, DecidableEq

namespace Limits

/-- No limits at all. -/
def unlimited : Limits := ⟨none, none⟩

/-- The limits where the levels of lists and objects are as many as given. -/
def ofLevels (levels : Nat) : Limits := ⟨some digitLimit, some levels⟩

/-- The limits for the texts of files, both when they are read and when they are written. -/
def ofFiles : Limits := ofLevels 989

/-- The limits inside one more list or object. -/
def inside (limits : Limits) : Except Defect Limits :=
  match limits.levels with
  | none => .ok limits
  | some 0 => .error .tooDeep
  | some (levels + 1) => .ok { limits with levels := some levels }

/-- Whether the value is a whole number of more digits than the limits leave it. -/
def excludes (limits : Limits) : Json → Bool
  | integer value => limits.digits.any fun digits => powerOfTen digits ≤ value.natAbs
  | _ => false

end Limits

/-! ### Values within limits -/

mutual

/-- Fails where the value goes beyond the limits, with the limit that is met first. -/
def checkLimits (limits : Limits) : Json → Except Defect Unit
  | array items => do
    let inner ← limits.inside
    checkItems inner items
  | object members => do
    let inner ← limits.inside
    checkMembers inner members
  | integer value => if limits.excludes (.integer value) then .error .longNumber else .ok ()
  | _ => .ok ()
termination_by structural value => value

/-- Checks the items of a list in their order. -/
def checkItems (limits : Limits) : List Json → Except Defect Unit
  | [] => .ok ()
  | item :: rest => do
    checkLimits limits item
    checkItems limits rest
termination_by structural items => items

/-- Checks the values of the members of an object in their order. -/
def checkMembers (limits : Limits) : List (String × Json) → Except Defect Unit
  | [] => .ok ()
  | (_, value) :: rest => do
    checkLimits limits value
    checkMembers limits rest
termination_by structural members => members

end

/-- Fails if the value goes beyond the limits. -/
def requireWithin (limits : Limits) (value : Json) : Except Fault Unit :=
  (checkLimits limits value).mapError .defect

/-- The text of a value inside a message, where there is room for the given levels of lists and
objects. -/
def shown (levels : Nat) (value : Json) : Except Fault String := do
  value.requireWithin (.ofLevels levels)
  return value.display

end Json

end ContractClient
