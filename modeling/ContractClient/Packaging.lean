/-
This file writes the ABI and the bytecode of a contract as modules of their own, each with one
default export.
-/

import ContractClient.Json.Limits
import ContractClient.Json.Writer
import ContractClient.Text.Blank

namespace ContractClient

/-- Whether the character is a hexadecimal digit. -/
def isHexDigit (character : Char) : Bool :=
  ('0' ≤ character && character ≤ '9') || ('a' ≤ character && character ≤ 'f') ||
    ('A' ≤ character && character ≤ 'F')

/-- Whether the characters are hexadecimal digits, with or without the usual mark in front. -/
def isHexChars : List Char → Bool
  | '0' :: 'x' :: digits => digits.all isHexDigit
  | digits => digits.all isHexDigit

/-- Whether two underscores stand next to each other, as around the place of a library. -/
def hasPlaceholder : List Char → Bool
  | '_' :: '_' :: _ => true
  | _ :: rest => hasPlaceholder rest
  | [] => false

/-- The module that exports the ABI, on one line. An ABI beyond the limits cannot be written. -/
def packageAbi (abi : Json) : Except Fault String :=
  match abi with
  | .array _ => do
    abi.requireWithin .ofFiles
    return "export default " ++ abi.write ++ ";\n"
  | _ => .error (.shape (.abiNotList abi.kindName))

/-- The module that exports the bytecode. Bytecode that still waits for a library cannot be
deployed and is refused. -/
def packageBytecode (bytecode : Json) : Except Fault String :=
  match bytecode with
  | .text text =>
    let digits := stripChars text.toList
    if isHexChars digits then .ok ("export default '" ++ String.ofList digits ++ "';\n")
    else if hasPlaceholder digits then .error (.shape .bytecodeUnlinked)
    else .error (.shape .bytecodeNotHex)
  | _ => .error (.shape (.bytecodeNotText bytecode.kindName))

end ContractClient
