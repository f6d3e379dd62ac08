/-
This file reads what a compiler gives: the entries of its error list, and the contracts of its
output. Missing keys count as empty objects; a present value of the wrong kind is a defect.
-/

import ContractClient.Abi.Basic
import ContractClient.Json.Limits
import ContractClient.Text.Blank

namespace ContractClient

/-! ### Objects -/

/-- The members of an object. -/
def requireMembers : Json → Except Fault (List (String × Json))
  | .object members => .ok members
  | _ => .error (.defect .notObject)

/-- The members of the object under the given key; none if the key is missing. -/
def membersAt (members : List (String × Json)) (key : String) :
    Except Fault (List (String × Json)) :=
  match Json.member? members key with
  | none => .ok []
  | some value => requireMembers value

/-- What is met when a value is gone through: the items of a list, the keys of an object, the
characters of a text. -/
def entriesOf : Json → Except Fault (List Json)
  | .array items => .ok items
  | .object members => .ok (members.map fun entry => .text entry.1)
  | .text text => .ok ((textPieces text.toList).map fun piece => .text (String.ofList piece.held))
  | _ => .error (.defect .notIterable)

/-! ### Error entries -/

/-- Whether the entry is an error. -/
def isErrorEntry (members : List (String × Json)) : Bool :=
  match Json.member? members "severity" with
  | some (.text severity) => severity == "error"
  | _ => false

/-- The value under the key if it says something. -/
def filledMember? (members : List (String × Json)) (key : String) : Option Json :=
  (Json.member? members key).filter fun value => !value.isVacant

/-- The levels of lists and objects that can be shown of an error entry. -/
def shownErrorLevels : Nat := 988

/-- The text of an error entry without the blanks at its end: its formatted message, else its
message, else the entry itself. -/
def entryLine (members : List (String × Json)) : Except Fault String :=
  match (filledMember? members "formattedMessage").or (filledMember? members "message") with
  | some (.text message) => .ok (stripEnd message)
  | some _ => .error (.defect .notText)
  | none => do
    let shown ← (Json.object members).shown shownErrorLevels
    return stripEnd shown

/-- The fault of a compilation with the given error entries. Its message has a line for every
entry that is an error, or for every entry if none is. -/
def compilationFault (entries : List Json) : Fault :=
  let lines : Except Fault (List String) := do
    let objects ← entries.mapM requireMembers
    let errors := objects.filter isErrorEntry
    (if errors.isEmpty then objects else errors).mapM entryLine
  match lines with
  | .error fault => fault
  | .ok lines => .compilation (orElseText ("\n".intercalate lines) "Compilation failed") entries

/-! ### Contracts -/

/-- The value under the key, or the other one where it is missing. -/
def memberOr (members : List (String × Json)) (key : String) (other : Json) : Json :=
  (Json.member? members key).getD other

/-- The contract of the given name in the output. -/
def contractOfOutput (name : String) (value : Json) : Except Fault Contract := do
  let members ← requireMembers value
  let machine ← membersAt members "evm"
  let bytecode ← membersAt machine "bytecode"
  return ⟨.text name, memberOr members "abi" (.array []), memberOr bytecode "object" (.text "")⟩

/-- The contracts of one file of the output. -/
def contractsOfFile (value : Json) : Except Fault (List Contract) := do
  let members ← requireMembers value
  members.mapM fun entry => contractOfOutput entry.1 entry.2

/-- The contracts of an output, file after file. -/
def contractsOfOutput (output : List (String × Json)) : Except Fault (List Contract) := do
  let files ← membersAt output "contracts"
  let contracts ← files.mapM fun entry => contractsOfFile entry.2
  return contracts.flatten

end ContractClient
