/-
This file reads the contracts out of compiled artifacts: an artifact of one contract, the output
of a compiler, or a bare ABI, which is named after its file.
-/

import ContractClient.Compiler.Compilation
import ContractClient.Json.FileText
import ContractClient.Path

namespace ContractClient

/-! ### Decoded artifacts -/

/-- The bytecode of an artifact, which may be nested once. -/
def artifactBytecode (value : Option Json) : Except Fault Json :=
  match value with
  | none => .ok (.text "")
  | some .null => .ok (.text "")
  | some (.text text) => .ok (.text text)
  | some (.object members) =>
    match memberOr members "object" (.text "") with
    | .text text => .ok (.text text)
    | _ => .error (.shape .artifactBytecodeNotText)
  | some _ => .error (.shape .artifactBytecodeNotText)

/-- The contract of an artifact that holds one. Its name is its own, or the default one. -/
def artifactContract (members : List (String × Json)) (abi defaultName : Json) :
    Except Fault Contract := do
  let name := (filledMember? members "contractName").getD defaultName
  if name.isVacant then throw (.shape .artifactWithoutName)
  let bytecode ← artifactBytecode (Json.member? members "bytecode")
  return ⟨name, abi, bytecode⟩

/-- The contracts of an object: those of a compiler's output, or that of an artifact. -/
def parseArtifactObject (members : List (String × Json)) (defaultName : Json) :
    Except Fault (List Contract) :=
  match Json.member? members "contracts", Json.member? members "abi" with
  | some (.object _), _ => do
    let contracts ← contractsOfOutput members
    if contracts.isEmpty then throw (.shape .outputWithoutContracts)
    return contracts
  | _, some abi => do
    let contract ← artifactContract members abi defaultName
    return [contract]
  | _, none => .error (.shape .artifactNotRecognized)

/-- The contracts of a decoded artifact. -/
def parseArtifact (data defaultName : Json) : Except Fault (List Contract) :=
  match data with
  | .array items =>
    if defaultName.isVacant then .error (.shape .bareAbiWithoutName)
    else .ok [⟨defaultName, .array items, .text ""⟩]
  | .object members => parseArtifactObject members defaultName
  | value => .error (.shape (.artifactNotObject value.kindName))

/-! ### Files -/

/-- The characters with every line break written as a line feed. -/
def plainBreaks : List Char → List Char
  | [] => []
  | '\r' :: '\n' :: rest => '\n' :: plainBreaks rest
  | '\r' :: rest => '\n' :: plainBreaks rest
  | character :: rest => character :: plainBreaks rest

/-- The contracts of an artifact file. -/
def loadArtifact (path text : String) : Except Fault (List Contract) := do
  match ← Json.ofFileText text with
  | none => .error (.shape (.invalidJson path))
  | some data => parseArtifact data (.text (Path.ofText path).stem)

/-- The contracts of a file: a Solidity source is compiled, an artifact is read. -/
def loadContracts (compiler : Compiler) (options : Options) (path text : String) :
    Loading (List Contract) :=
  let file := Path.ofText path
  let suffix := toLowerText file.suffix
  if suffix == ".sol" then
    compileSource compiler options (.text (String.ofList (plainBreaks text.toList))) file.name
      (some file.parent.normal.text)
  else if suffix == ".json" then loadArtifact path text
  else throw (.shape (.unsupportedInput path))

end ContractClient
