/-
This file lists what can go wrong, each cause with the data its message needs. A generation
either gives its whole result or one of these faults.
-/

import ContractClient.Json.Display

namespace ContractClient

/-! ### Causes -/

/-- Ways in which an input is malformed or lacks something that a client needs. -/
inductive ShapeFault where
  | abiNotList (kind : String)
  | entryNotObject (index : Nat)
  | severalConstructors
  | duplicateSignature (signature : String)
  | unknownEntryType (type : String) (index : Int)
  | entryNameNotText (index : Int)
  | functionWithoutName (index : Int)
  | parametersNotList (owner : String)
  | parameterNotObject (index : Nat) (owner : String)
  | parameterWithoutType (index : Nat) (owner : String)
  | unknownMutability (state owner : String)
  | tupleWithoutParameter
  | tupleWithoutComponents (parameter : String)
  | tupleWithoutRegistry (parameter : String)
  | tupleWithoutName
  | structWithoutFields (declared : String)
  | unnamedField (index : Nat) (declared : String)
  | noNameFrom (declared : String)
  | resultWithoutMember
  | resultTooSmall (member : String) (count : Nat)
  | duplicateFields (requested : String)
  | outputWithoutComponents (parameter member : String)
  | resultNotRegistered (shape member : String)
  | deployTwice (contract : String)
  | invalidContractName (name : String)
  | repeatedContract (name : String)
  | unsupportedInput (path : String)
  | contractsNotFound (missing available : List String)
  | bytecodeNotText (kind : String)
  | bytecodeUnlinked
  | bytecodeNotHex
  | invalidJson (path : String)
  | bareAbiWithoutName
  | artifactNotObject (kind : String)
  | outputWithoutContracts
  | artifactWithoutName
  | artifactBytecodeNotText
  | artifactNotRecognized
deriving Repr, DecidableEq

/-- Ways in which the program is used or fed against its rules, without a message. -/
inductive Defect where
  /-- A value stands where a text is needed. -/
  | notText
  /-- A value stands where an object is needed. -/
  | notObject
  /-- A value stands where a list is needed. -/
  | notIterable
  /-- Values that cannot be compared stand where names are. -/
  | notComparable
  /-- A value that cannot be taken more than once stands where one is repeated. -/
  | notRepeatable
  /-- Something is repeated more often than can be counted. -/
  | countTooLarge
  /-- Something is repeated until it is too large to be held. -/
  | sizeTooLarge
  /-- A number has more digits than a number may have. -/
  | longNumber
  /-- Something is nested deeper than it may be. -/
  | tooDeep
  /-- A setting bears a name that no setting may bear. -/
  | reservedSetting
  /-- A setting bears a name that belongs to no setting, where only known ones may be given. -/
  | unknownSetting
  /-- A name is derived from an empty text. -/
  | emptyName
  /-- A method name is asked for of a member that never gets one. -/
  | notPlanned
  /-- An assembler is used a second time. -/
  | alreadyUsed
  /-- A value that is no text stands where a path is needed. -/
  | notPath
  /-- A directory stands where a file is read or written. -/
  | directoryInPlaceOfFile
  /-- A file stands where a directory is made. -/
  | fileInPlaceOfDirectory
  /-- A path leads through a file. -/
  | fileInsidePath
  /-- A path or a name in it is longer than files allow. -/
  | nameTooLong
  /-- A path holds the character zero, which ends a path. -/
  | zeroInPath
  /-- A text with a lone surrogate is written to a file or names one. -/
  | loneSurrogate
  /-- A structure contains itself, so that rebuilding it never ends. -/
  | endless
deriving Repr, DecidableEq

/-- What can go wrong. -/
inductive Fault where
  | shape (cause : ShapeFault)
  | unsupportedType (tag member parameter : String)
  | compilation (message : String) (diagnostics : List Json)
  | defect (cause : Defect)
deriving Repr

/-! ### Messages -/

/-- The text, or the other one where it is empty. -/
def orElseText (text other : String) : String :=
  if text == "" then other else text

/-- A text between double quotes. -/
def inQuotes (text : String) : String :=
  "\"" ++ text ++ "\""

/-- The message of a malformed input. -/
def ShapeFault.message : ShapeFault → String
  | abiNotList kind => "ABI must be a list of entries, got " ++ kind
  | entryNotObject index => "ABI entry " ++ toString index ++ " must be an object"
  | severalConstructors => "ABI declares more than one constructor"
  | duplicateSignature signature => "Duplicate function signature " ++ signature
  | unknownEntryType type index =>
    "Unsupported ABI entry type " ++ inQuotes type ++ " at index " ++ toString index
  | entryNameNotText index => "ABI entry " ++ toString index ++ " has a non-string name"
  | functionWithoutName index => "Function at index " ++ toString index ++ " has no name"
  | parametersNotList owner => "Parameters of " ++ inQuotes owner ++ " must be a list"
  | parameterNotObject index owner =>
    "Parameter " ++ toString index ++ " of " ++ inQuotes owner ++ " must be an object"
  | parameterWithoutType index owner =>
    "Parameter " ++ toString index ++ " of " ++ inQuotes owner ++ " has no type"
  | unknownMutability state owner =>
    "Unknown stateMutability " ++ inQuotes state ++ " on " ++ inQuotes owner
  | tupleWithoutParameter => "Tuple type without parameter information"
  | tupleWithoutComponents parameter =>
    "Tuple " ++ inQuotes parameter ++ " has no components definition"
  | tupleWithoutRegistry parameter =>
    "Tuple " ++ inQuotes parameter ++ " needs a declaration registry"
  | tupleWithoutName => "Tuple without internalType or name cannot be named"
  | structWithoutFields declared => "Compound " ++ inQuotes declared ++ " has no fields"
  | unnamedField index declared =>
    "Field " ++ toString index ++ " of " ++ inQuotes declared ++ " has no name"
  | noNameFrom declared => "Cannot derive a name from " ++ inQuotes declared
  | resultWithoutMember => "Return shape requires a member name"
  | resultTooSmall member count =>
    "Return shape of " ++ inQuotes member ++ " needs at least two outputs, got " ++ toString count
  | duplicateFields requested =>
    "Declaration " ++ inQuotes requested ++ " has duplicate field names"
  | outputWithoutComponents parameter member =>
    "Tuple " ++ inQuotes parameter ++ " of " ++ inQuotes member ++ " has no components definition"
  | resultNotRegistered shape member =>
    "Return shape " ++ inQuotes shape ++ " of " ++ inQuotes member ++ " is not registered"
  | deployTwice contract => "deploy was already generated for " ++ inQuotes contract
  | invalidContractName name =>
    "Contract name " ++ inQuotes name ++ " is not a valid identifier"
  | repeatedContract name =>
    "Contract " ++ inQuotes name ++ " appears more than once in the input"
  | unsupportedInput path =>
    "Unsupported input " ++ path ++ ": expected a .sol or .json file"
  | contractsNotFound missing available =>
    "Contract(s) not found: " ++ ", ".intercalate missing ++ " (available: " ++
      orElseText (", ".intercalate available) "none" ++ ")"
  | bytecodeNotText kind => "Bytecode must be text, got " ++ kind
  | bytecodeUnlinked => "Bytecode contains unlinked library placeholders"
  | bytecodeNotHex => "Bytecode is not hex-encoded"
  | invalidJson path => path ++ " is not valid JSON: <json error>"
  | bareAbiWithoutName => "A bare ABI needs a contract name"
  | artifactNotObject kind =>
    "Unrecognized artifact: expected an object or a list, got " ++ kind
  | outputWithoutContracts => "Compiler output contains no contracts"
  | artifactWithoutName => "Artifact has no contractName"
  | artifactBytecodeNotText => "Artifact bytecode must be a hex string"
  | artifactNotRecognized => "Unrecognized artifact: no \"abi\" or \"contracts\" key"

/-- Where an unsupported type stands, as far as it is known. -/
def locationText (member parameter : String) : String :=
  let places := (if member == "" then [] else ["member " ++ inQuotes member]) ++
    (if parameter == "" then [] else ["parameter " ++ inQuotes parameter])
  if places.isEmpty then "" else " in " ++ ", ".intercalate places

/-- The message of an unsupported type. -/
def unsupportedTypeMessage (tag member parameter : String) : String :=
  "Unsupported type " ++ inQuotes tag ++ locationText member parameter

/-- The message of a fault that has one: every fault but a defect. -/
def Fault.message? : Fault → Option String
  | shape cause => some cause.message
  | unsupportedType tag member parameter => some (unsupportedTypeMessage tag member parameter)
  | compilation message _ => some message
  | defect _ => none

/-! ### Locating unsupported types -/

/-- The fault with the given place filled in where none is known yet. -/
def Fault.locate (member parameter : String) : Fault → Fault
  | unsupportedType tag knownMember knownParameter =>
    unsupportedType tag (orElseText knownMember member) (orElseText knownParameter parameter)
  | fault => fault

end ContractClient
