/-
This file reads an ABI from JSON. Functions and the constructor become members; events, errors
and the fallback entries are skipped with a notice; anything malformed is a fault. The entries
are read in their order, and the first fault ends the reading.
-/

import ContractClient.Abi.Nesting
import ContractClient.Diagnostic
import ContractClient.Fault
import ContractClient.Text.Blank

namespace ContractClient

/-! ### Parameters -/

/-- The text of a value that a parameter gives, or nothing if it says nothing. The given levels of
parameters are left below the parameter. -/
def givenText (levels : Nat) (value : Option Json) : Except Fault String :=
  match value with
  | none => .ok ""
  | some value => if value.isVacant then .ok "" else value.shown (shownLevels levels)

/-- The owner of the components of a parameter, as messages call it: by its name or else its
place. -/
def componentOwner (levels : Nat) (owner : String) (index : Nat) (name : Option Json) :
    Except Fault String := do
  let name ← givenText levels name
  return owner ++ "." ++ orElseText name (toString index)

/-- The tag of a parameter, without the blanks around it. -/
def readTag (owner : String) (index : Nat) (members : List (String × Json)) :
    Except Fault String :=
  match Json.member? members "type" with
  | some (.text tag) =>
    if tag == "" then .error (.shape (.parameterWithoutType index owner)) else .ok (strip tag)
  | _ => .error (.shape (.parameterWithoutType index owner))

mutual

/-- Reads one parameter, which stands at the given index and below which the given levels are
left. -/
def readParameter (levels : Nat) (owner : String) (index : Nat) : Json → Except Fault Parameter
  | .object members => do
    let tag ← readTag owner index members
    let components ← readComponents levels owner index (Json.member? members "name") members
    let name ← givenText levels (Json.member? members "name")
    let internalType ← givenText levels (Json.member? members "internalType")
    return ⟨name, tag, internalType, components⟩
  | _ => throw (.shape (.parameterNotObject index owner))
termination_by structural value => value

/-- Reads the components of a parameter of the given name from its members, if it has any. -/
def readComponents (levels : Nat) (owner : String) (index : Nat) (name : Option Json) :
    List (String × Json) → Except Fault (Option (List Parameter))
  | [] => return none
  | (key, value) :: rest =>
    if key = "components" then do
      let owner ← componentOwner levels owner index name
      let components ← readParameterList levels owner value
      return some components
    else readComponents levels owner index name rest
termination_by structural members => members

/-- Reads a list of parameters; nothing at all is the empty list. -/
def readParameterList (levels : Nat) (owner : String) : Json → Except Fault (List Parameter)
  | .null => return []
  | .array items => readParametersFrom levels owner 0 items
  | _ => throw (.shape (.parametersNotList owner))
termination_by structural value => value

/-- Reads parameters, the first of which stands at the given index and for which the given levels
are left. -/
def readParametersFrom (levels : Nat) (owner : String) (index : Nat) :
    List Json → Except Fault (List Parameter)
  | [] => return []
  | item :: rest => do
    let below ← levelBelow levels
    let parameter ← readParameter below owner index item
    let parameters ← readParametersFrom levels owner (index + 1) rest
    return parameter :: parameters
termination_by structural items => items

end

/-- Reads the parameters that an entry has under the given key. -/
def readParameters (owner : String) (value : Option Json) : Except Fault (List Parameter) :=
  readParameterList readableLevels owner (value.getD .null)

/-! ### Members -/

/-- The kinds of entries that give no method. -/
def skippedKinds : List String := ["event", "error", "fallback", "receive"]

/-- The kind of an entry; an entry without one is a function. -/
def entryKind (entry : List (String × Json)) : Json :=
  (Json.member? entry "type").getD (.text "function")

/-- Whether the entry says yes under the given key. -/
def isFlagged (entry : List (String × Json)) (key : String) : Bool :=
  match Json.member? entry key with
  | none => false
  | some value => !value.isVacant

/-- The state of an entry that does not give one: two flags tell it. -/
def flaggedState (entry : List (String × Json)) : String :=
  if isFlagged entry "constant" then "view"
  else if isFlagged entry "payable" then "payable"
  else "nonpayable"

/-- What an entry says of the states it reads and changes. -/
def readState (owner : String) (entry : List (String × Json)) : Except Fault String :=
  match Json.member? entry "stateMutability" with
  | none => .ok (flaggedState entry)
  | some .null => .ok (flaggedState entry)
  | some (.text state) =>
    if (readOnlyStates ++ mutatingStates).contains state then .ok state
    else .error (.shape (.unknownMutability state owner))
  | some value => do
    let state ← value.shown shownStateLevels
    .error (.shape (.unknownMutability state owner))

/-- The kind of member that an entry becomes. -/
def readKind (index : Int) (entry : List (String × Json)) : Except Fault MemberKind :=
  match entryKind entry with
  | .text "function" => .ok .function
  | .text "constructor" => .ok .constructor
  | value => do
    let type ← value.shown shownKindLevels
    .error (.shape (.unknownEntryType type index))

/-- The name of an entry, which a function must have. -/
def readName (index : Int) (kind : MemberKind) (entry : List (String × Json)) :
    Except Fault String :=
  match (Json.member? entry "name").getD (.text "") with
  | .text name =>
    if kind = .function ∧ name = "" then .error (.shape (.functionWithoutName index)) else .ok name
  | _ => .error (.shape (.entryNameNotText index))

/-- Reads a function or a constructor, which stands at the given index. -/
def readMember (index : Int) (entry : List (String × Json)) : Except Fault Member := do
  let kind ← readKind index entry
  let name ← readName index kind entry
  let owner := orElseText name "constructor"
  let inputs ← readParameters owner (Json.member? entry "inputs")
  match kind with
  | .function =>
    let outputs ← readParameters name (Json.member? entry "outputs")
    let state ← readState owner entry
    return ⟨.function, name, inputs, outputs, state⟩
  | .constructor =>
    let state ← readState owner entry
    return ⟨.constructor, "", inputs, [], state⟩

/-! ### Whole ABIs -/

/-- Whether an entry is of a kind that gives no method, and of which. -/
def skippedKind? (entry : List (String × Json)) : Option String :=
  match entryKind entry with
  | .text kind => if skippedKinds.contains kind then some kind else none
  | _ => none

/-- What a skipped entry gives for its name. -/
def skippedName (entry : List (String × Json)) : Json :=
  (Json.member? entry "name").getD (.text "")

/-- Fails if the members hold a constructor already, or a function of the same signature. -/
def requireNew (known : List Member) (member : Member) : Except Fault Unit :=
  match member.kind with
  | .constructor =>
    if known.any (·.kind == .constructor) then .error (.shape .severalConstructors) else .ok ()
  | .function =>
    if (functionsAmong known).any (·.signature == member.signature) then
      .error (.shape (.duplicateSignature member.signature))
    else .ok ()

/-- Reads entries, the first of which stands at the given index, behind the members already
read. -/
def readEntries (contract : Json) (known : List Member) (index : Nat) :
    List Json → Collector → Except Fault (List Member) × Collector
  | [], collector => (.ok known, collector)
  | .object entry :: rest, collector =>
    match skippedKind? entry with
    | some kind =>
      match collector.addSkipped (.text kind) (skippedName entry) contract with
      | .error fault => (.error fault, collector)
      | .ok told => readEntries contract known (index + 1) rest told
    | none =>
      match (do let member ← readMember index entry; requireNew known member; return member) with
      | .error fault => (.error fault, collector)
      | .ok member => readEntries contract (known ++ [member]) (index + 1) rest collector
  | _ :: _, collector => (.error (.shape (.entryNotObject index)), collector)

/-- Reads an ABI: its members in their order, and whoever listens to the notices. -/
def readAbi (contract abi : Json) (collector : Collector) :
    Except Fault (List Member) × Collector :=
  match abi with
  | .array items => readEntries contract [] 0 items collector
  | _ => (.error (.shape (.abiNotList abi.kindName)), collector)

end ContractClient
