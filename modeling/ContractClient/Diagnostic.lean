/-
This file holds the notices given during a generation: entries that were skipped, names that had
to change, warnings of the compiler. Nothing here touches the generated text.
-/

import ContractClient.Json.Limits
import ContractClient.Json.NameOrder
import ContractClient.Text.Blank

namespace ContractClient

/-! ### Notices -/

/-- How grave a notice is. -/
inductive Severity where
  | warning
  | info
deriving Repr, DecidableEq

/-- The word for a severity. -/
def Severity.text : Severity → String
  | warning => "warning"
  | info => "info"

/-- What a notice tells, each with the contract it belongs to. Contracts, and the kinds and names of
skipped entries, are kept as they were given. -/
inductive Notice where
  /-- An entry of the ABI gave no method. -/
  | skipped (kind name contract : Json)
  /-- An interface got another name than the one requested. -/
  | interfaceRenamed (requested assigned : String) (contract : Json)
  /-- A function got another method name than its own. -/
  | overloadRenamed (signature assigned : String) (contract : Json)
  /-- The compiler warned. -/
  | compilerWarning (message : String) (contract : Json)
  /-- The ABI has no constructor. -/
  | defaultDeploy (contract : Json)
deriving Repr, BEq

namespace Notice

/-- How grave the notice is. -/
def severity : Notice → Severity
  | defaultDeploy _ => .info
  | _ => .warning

/-- The code of the notice. -/
def code : Notice → String
  | skipped _ _ _ => "W001"
  | interfaceRenamed _ _ _ => "W002"
  | overloadRenamed _ _ _ => "W003"
  | compilerWarning _ _ => "W004"
  | defaultDeploy _ => "I001"

/-- The message of the notice. -/
def message : Notice → String
  | skipped kind name _ =>
    (if name.isVacant then kind.display ++ "()"
      else kind.display ++ " " ++ inQuotes name.display) ++
      " was skipped (no client method is generated)."
  | interfaceRenamed requested assigned _ =>
    "Declaration " ++ inQuotes requested ++ " already exists with a different shape; emitted as " ++
      inQuotes assigned ++ "."
  | overloadRenamed signature assigned _ =>
    "Overloaded function " ++ signature ++ " is exposed as " ++ inQuotes assigned ++ "."
  | compilerWarning message _ => strip message
  | defaultDeploy _ => "No constructor in ABI; emitted default deploy()."

/-- The contract the notice belongs to. -/
def contract : Notice → Json
  | skipped _ _ contract => contract
  | interfaceRenamed _ _ contract => contract
  | overloadRenamed _ _ contract => contract
  | compilerWarning _ contract => contract
  | defaultDeploy contract => contract

/-- The kind of construct the notice is about. -/
def construct : Notice → Json
  | skipped kind _ _ => kind
  | interfaceRenamed _ _ _ => .text "declaration"
  | overloadRenamed _ _ _ => .text "overload"
  | compilerWarning _ _ => .text "compiler"
  | defaultDeploy _ => .text "deploy"

/-- The notice on one line. -/
def text (notice : Notice) : String :=
  let place := if notice.contract.isVacant then "" else notice.contract.display ++ ": "
  "[" ++ notice.severity.text ++ "] " ++ place ++ notice.message ++ " (" ++ notice.code ++ ")"

/-- The notice for a warning of the compiler, whose message must be a text. -/
def ofCompiler (message contract : Json) : Except Fault Notice :=
  match message with
  | .text message => .ok (.compilerWarning message contract)
  | _ => .error (.defect .notText)

end Notice

/-! ### Collectors -/

/-- The levels of lists and objects that can be shown of the name of a skipped entry. -/
def noticeLevels : Nat := 989

/-- Whoever listens to the notices: nobody, or a list that grows at its end. -/
inductive Collector where
  | absent
  | keeping (notices : List Notice)
deriving Repr, BEq, Inhabited

namespace Collector

/-- The notices kept so far. -/
def notices : Collector → List Notice
  | absent => []
  | keeping notices => notices

/-- Whether somebody listens. -/
def isPresent : Collector → Bool
  | absent => false
  | keeping _ => true

/-- The collector after one more notice. -/
def add (collector : Collector) (notice : Notice) : Collector :=
  match collector with
  | absent => absent
  | keeping notices => keeping (notices ++ [notice])

/-- The collector after the notice that an entry was skipped. Its message is put together for
whoever listens, so it fails if the kind or the name of the entry cannot be shown in it. -/
def addSkipped (collector : Collector) (kind name contract : Json) : Except Fault Collector :=
  match collector with
  | absent => .ok absent
  | keeping _ => do
    kind.requireWithin (.ofLevels noticeLevels)
    name.requireWithin (.ofLevels noticeLevels)
    return collector.add (.skipped kind name contract)

end Collector

/-! ### Summaries -/

/-- The notices that are warnings. -/
def warnings (notices : List Notice) : List Notice :=
  notices.filter fun notice => notice.severity == .warning

/-- The construct a warning is counted under. -/
def countedConstruct (notice : Notice) : Json :=
  if notice.construct.isVacant then .text "other" else notice.construct

/-- The constructs that the warnings are counted under, as often as there are warnings. -/
def countedConstructs (notices : List Notice) : List Json :=
  (warnings notices).map countedConstruct

/-- The numbers of warnings with one more warning of the construct. -/
def countOne (counts : List (Json × Nat)) (construct : Json) : List (Json × Nat) :=
  match counts with
  | [] => [(construct, 1)]
  | (first, number) :: rest =>
    if first.sameName construct then (first, number + 1) :: rest
    else (first, number) :: countOne rest construct

/-- How many warnings there are of each construct, by the constructs as they come. -/
def constructCounts (notices : List Notice) : List (Json × Nat) :=
  (countedConstructs notices).foldl countOne []

/-- How many warnings there are of each construct, by the constructs in order. -/
def warningCounts (notices : List Notice) : List (Json × Nat) :=
  Json.inNameOrder (·.1) (constructCounts notices)

/-- Fails if the constructs of the warnings cannot be told apart or put in order. -/
def requireCounts (notices : List Notice) : Except Fault Unit :=
  if (countedConstructs notices).all Json.isPlain &&
      Json.canBeOrdered ((constructCounts notices).map (·.1)) then .ok ()
  else .error (.defect .notComparable)

/-- One line on how many warnings there are of each construct. -/
def countsText (counts : List (Json × Nat)) : String :=
  if counts.isEmpty then "No generator warnings."
  else
    "Generator warnings: " ++
      ", ".intercalate (counts.map fun entry => toString entry.2 ++ " " ++ entry.1.display)

/-- What is printed at the end of a run: the line on the warnings if there are any, and on demand
every notice. -/
def summaryReport (verbose : Bool) (notices : List Notice) : String :=
  let counts := warningCounts notices
  (if counts.isEmpty then "" else "\n" ++ countsText counts ++ "\n") ++
    (if verbose then String.join (notices.map fun notice => "  " ++ notice.text ++ "\n") else "")

end ContractClient
