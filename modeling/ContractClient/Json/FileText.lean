/-
This file reads the texts of JSON files, which keep within limits. A text that is no JSON text
is told apart from one that goes beyond them.
-/

import ContractClient.Fault
import ContractClient.Json.Reader

namespace ContractClient

namespace Json

/-- The value that the text of a file writes, if it is a JSON text. -/
def ofFileText (text : String) : Except Fault (Option Json) :=
  match readWithin .ofFiles text with
  | .ok value => .ok (some value)
  | .error .malformed => .ok none
  | .error (.beyond limit) => .error (.defect limit)

end Json

end ContractClient
