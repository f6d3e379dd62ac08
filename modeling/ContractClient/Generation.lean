/-
This file generates the clients of contracts: for each of them the module of the client, the
module of the ABI and the module of the bytecode. Either all three are produced or none, and the
contracts of a batch do not see each other.
-/

import ContractClient.Abi.Reader
import ContractClient.Client.ClientModule
import ContractClient.Options
import ContractClient.Packaging
import ContractClient.Path
import ContractClient.Text.Order

namespace ContractClient

/-! ### One contract -/

/-- What is generated for one contract: the texts of its three modules. -/
structure Generated where
  name : String
  client : String
  abi : String
  bytecode : String
deriving Repr, DecidableEq, Inhabited

/-- The name of a contract, which must be an identifier. -/
def requireContractName (name : Json) : Except Fault String :=
  if name.isVacant then .error (.shape (.invalidContractName name.display))
  else
    match name with
    | .text text =>
      if isIdentifier text then .ok text else .error (.shape (.invalidContractName text))
    | _ => .error (.defect .notText)

/-- The module of the client of a contract whose name is known to be good. -/
def generateClient (options : Options) (name : String) (abi : Json) (collector : Collector) :
    Except Fault String × Collector :=
  match readAbi (.text name) abi collector with
  | (.error fault, told) => (.error fault, told)
  | (.ok members, told) => assembleModule (.text name) members options.style told

/-- The modules of a contract, and whoever listens to the notices. -/
def generate (options : Options) (contract : Contract) (collector : Collector) :
    Except Fault Generated × Collector :=
  match requireContractName contract.name with
  | .error fault => (.error fault, collector)
  | .ok name =>
    let (client, told) := generateClient options name contract.abi collector
    let result : Except Fault Generated := do
      let client ← client
      let abi ← packageAbi contract.abi
      let bytecode ← packageBytecode contract.bytecode
      return ⟨name, client, abi, bytecode⟩
    (result, told)

/-! ### Batches -/

/-- Fails if the name is among those of earlier contracts, or can be compared with none. -/
def requireNewName (known : List String) : Json → Except Fault Unit
  | .array _ => .error (.defect .notComparable)
  | .object _ => .error (.defect .notComparable)
  | .text name =>
    if known.contains name then .error (.shape (.repeatedContract name)) else .ok ()
  | _ => .ok ()

/-- The modules of contracts, beside earlier ones of the given names. -/
def generateBatch (options : Options) (known : List String) :
    List Contract → Collector → Except Fault (List Generated) × Collector
  | [], collector => (.ok [], collector)
  | contract :: rest, collector =>
    match requireNewName known contract.name with
    | .error fault => (.error fault, collector)
    | .ok () =>
      match generate options contract collector with
      | (.error fault, told) => (.error fault, told)
      | (.ok result, told) =>
        let (results, told) := generateBatch options (result.name :: known) rest told
        (results.map (result :: ·), told)

/-- The modules of all contracts in their order. The first contract that fails ends the batch. -/
def generateAll (options : Options) (contracts : List Contract) (collector : Collector) :
    Except Fault (List Generated) × Collector :=
  generateBatch options [] contracts collector

/-! ### Selection -/

/-- The names of the contracts, without repeats. -/
def contractNames (contracts : List Contract) : List Json :=
  Json.distinctNames (contracts.map (·.name))

/-- The last contract of the given name. -/
def contractNamed? (contracts : List Contract) (name : Json) : Option Contract :=
  (contracts.filter (·.name.sameName name)).getLast?

/-- The texts of names that are to be listed. -/
def requireTexts (names : List Json) : Except Fault (List String) :=
  names.mapM fun name =>
    match name with
    | .text text => .ok text
    | _ => .error (.defect .notComparable)

/-- The contracts of the requested names, in the order of the requests; all contracts if no name
is requested. Every requested name must exist. -/
def selectContracts (contracts : List Contract) (requested : List Json) :
    Except Fault (List Contract) :=
  if requested.isEmpty then .ok contracts
  else if !(contracts.all (·.name.isPlain) && requested.all Json.isPlain) then
    .error (.defect .notComparable)
  else
    let known := contractNames contracts
    let missing := requested.filter fun name => !name.isAmong known
    if missing.isEmpty then
      .ok ((Json.distinctNames requested).filterMap (contractNamed? contracts))
    else do
      let known ← requireTexts known
      let missing ← requireTexts missing
      .error (.shape (.contractsNotFound missing (inOrder textLe known)))

/-! ### Output files -/

/-- The files of a result in a directory, with their contents. -/
def outputFiles (directory : Path) (result : Generated) : List (Path × String) :=
  [(directory.append (.ofText (result.name ++ ".ts")), result.client),
    (directory.append (.ofText (result.name ++ "Abi.ts")), result.abi),
    (directory.append (.ofText (result.name ++ "Bytecode.ts")), result.bytecode)]

end ContractClient
