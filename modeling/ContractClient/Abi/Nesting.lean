/-
This file bounds how deep the tuples of an ABI may be nested. A walk down the levels carries the
number of those that are left; with none left, it fails where it would go further down, and not
before, so a fault that it meets on its way there comes first. The fewer levels are left, the less
room there is to show what is met on the way.
-/

import ContractClient.Abi.Basic
import ContractClient.Fault

namespace ContractClient

/-- The levels of parameters that can be read. -/
def readableLevels : Nat := 329

/-- The levels of tuples that can be mapped. -/
def mappableLevels : Nat := 196

/-- The levels of tuples that can be spelled out in a signature. -/
def spellableLevels : Nat := 328

/-- The levels of lists and objects that can be shown of a part of a parameter, below which the given
levels of parameters are left. -/
def shownLevels (levels : Nat) : Nat := 3 * levels + 2

/-- The levels of lists and objects that can be shown of the type of an entry. -/
def shownKindLevels : Nat := 987

/-- The levels of lists and objects that can be shown of the state of an entry. -/
def shownStateLevels : Nat := 988

/-- The levels that are left one level further down, if there is one. -/
def levelBelow : Nat → Except Fault Nat
  | 0 => .error (.defect .tooDeep)
  | levels + 1 => .ok levels

mutual

/-- The levels of tuples that are spelled out for a parameter. -/
def Parameter.spelledLevels : Parameter → Nat
  | ⟨_, _, _, none⟩ => 0
  | ⟨_, tag, _, some components⟩ => if isTupleTag tag then spelledLevels components + 1 else 0
termination_by structural parameter => parameter

/-- The levels of tuples that are spelled out for the deepest of the parameters. -/
def spelledLevels : List Parameter → Nat
  | [] => 0
  | parameter :: rest => max parameter.spelledLevels (spelledLevels rest)
termination_by structural parameters => parameters

end

/-- Fails if the signature of the member cannot be spelled out. -/
def Member.requireSignature (member : Member) : Except Fault Unit :=
  if spellableLevels < spelledLevels member.inputs then .error (.defect .tooDeep) else .ok ()

end ContractClient
