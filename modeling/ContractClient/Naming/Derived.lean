/-
This file derives the names of interfaces from an ABI: the name of a struct from its declaration
or from the parameter that holds it, the name of a result from its function, and the names of the
fields of a result from its outputs.
-/

import ContractClient.Abi.Basic
import ContractClient.Fault
import ContractClient.Naming.Fresh
import ContractClient.Text.Blank
import ContractClient.Text.Case
import ContractClient.Text.DecimalDigit

namespace ContractClient

/-! ### Structs -/

/-- The word that stands before the name of a struct in a declared type. -/
def structMark : String := "struct "

/-- Whether the characters begin with the mark of a struct. -/
def hasStructMark (characters : List Char) : Bool :=
  structMark.toList.isPrefixOf characters

/-- The characters without the mark of a struct in front. -/
def dropStructMark (characters : List Char) : List Char :=
  if hasStructMark characters then characters.drop structMark.length else characters

/-- Takes all array suffixes off a text that is read backwards. What is kept if nothing more
comes off is given, and whether a closing bracket was read whose suffix is not complete yet. -/
def dropSuffixes (kept : List Char) (inside : Bool) : List Char → List Char
  | [] => kept
  | character :: rest =>
    if inside then
      if isDecimalDigit character then dropSuffixes kept true rest
      else if character = '[' then dropSuffixes rest false rest
      else kept
    else if character = ']' then dropSuffixes kept true rest
    else kept

/-- Takes all array suffixes off the end of a text. -/
def dropArraySuffixes (characters : List Char) : List Char :=
  (dropSuffixes characters.reverse false characters.reverse).reverse

/-- The name of an interface for a declared struct: `struct Lib.Point[]` gives `Lib_Point`. -/
def structName (declared : String) : Except Fault String :=
  let name := stripChars (dropArraySuffixes (dropStructMark (stripChars declared.toList)))
  if name.isEmpty then .error (.shape (.noNameFrom declared))
  else .ok (String.ofList (name.map fun character => if character = '.' then '_' else character))

/-- The declared name of the struct that a parameter holds. Where the ABI does not record it,
the name of the parameter serves. -/
def declaredName (internalType name : String) : Except Fault String :=
  if hasStructMark internalType.toList then .ok internalType
  else
    let kept := String.ofList (name.toList.dropWhile (· == '_'))
    if kept == "" then .error (.shape .tupleWithoutName)
    else .ok (capitalized kept ++ "Struct")

/-! ### Results -/

/-- The name of an interface for the outputs of a function: `getPair` gives `GetPairResult`. -/
def resultName (suffix member : String) : Except Fault String :=
  if member == "" then .error (.defect .emptyName) else .ok (capitalized member ++ suffix)

/-- The name of an output that has none. -/
def placeholder (number : Nat) : String :=
  "value" ++ toString number

/-- The field names of the outputs from the given place on, beside names already taken. -/
def fieldNamesFrom (taken : List String) (place : Nat) : List Parameter → List String
  | [] => []
  | output :: rest =>
    if output.name == "" then
      let name := placeholder (leastFree taken placeholder place)
      name :: fieldNamesFrom (name :: taken) (place + 1) rest
    else output.name :: fieldNamesFrom taken (place + 1) rest

/-- The names that the outputs have themselves. -/
def givenNames (outputs : List Parameter) : List String :=
  (outputs.map (·.name)).filter (· != "")

/-- The field names of a result, one for each output. An output without a name is called after
its place, or after the next place whose name is free. -/
def outputFieldNames (outputs : List Parameter) : List String :=
  fieldNamesFrom (givenNames outputs) 0 outputs

end ContractClient
