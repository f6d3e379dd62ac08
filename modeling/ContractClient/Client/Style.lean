/-
This file holds what a client module looks like: the settings that shape its text, and the names
that every client module and every client class has of its own.
-/

import ContractClient.Fault
import ContractClient.Json.Limits
import ContractClient.Json.Multiple
import ContractClient.Json.Name

namespace ContractClient

/-- The settings that shape the text of a module. A header that is no text is missing. What is
repeated before each line, and what names the modules of the imports, may be other values than
texts. -/
structure Style where
  indentUnit : Json
  header : Option String
  resultSuffix : String
  classSuffix : String
  web3Module : String
  contractModule : Json
  coreModule : Json
deriving Repr, BEq, Inhabited

/-- The name of the interface that describes a contract to its client. -/
def contractInfoName : String := "ContractInfo"

/-- The name of the client class of a contract. -/
def Style.className (style : Style) (contract : String) : String :=
  contract ++ style.classSuffix

/-- The members that every client class has. -/
def classMembers : List String :=
  ["web3", "contract", "abi", "address", "bytecode", "constructor", "checkInitialized", "balance",
    "deploy"]

/-- The names of types and values that a client module refers to. -/
def moduleTypeNames : List String :=
  ["Web3", "Contract", "SendOptions", "CallOptions", "PromiEvent", "TransactionReceipt",
    "Promise", "BigInt", "Error", "Array", "Object", "String", "Number", "Boolean"]

/-- The names that no interface of a module may take. -/
def Style.reservedNames (style : Style) (contract : String) : List String :=
  contractInfoName :: style.className contract :: moduleTypeNames

/-! ### Lines -/

/-- One line of code, and how much deeper it stands than the code around it. -/
structure Line where
  depth : Nat
  text : String
deriving Repr, DecidableEq

/-- What stands before a line at the given level: the unit taken as often as the level says. -/
def indentation (unit : Json) (level : Int) : String :=
  (unit.multiple level).display

/-- A text is repeated as it is, and no level lies left of the margin. -/
@[simp] theorem indentation_text (unit : String) (level : Int) :
    indentation (.text unit) level = String.join (List.replicate level.toNat unit) :=
  Json.repeatedText_eq unit level.toNat

/-- The line at the given level; an empty line stays empty. -/
def Line.render (unit : Json) (level : Int) (line : Line) : String :=
  if line.text == "" then "" else indentation unit (level + line.depth) ++ line.text

/-- The lines at the given level, without a break behind the last one. -/
def renderLines (unit : Json) (level : Int) (lines : List Line) : String :=
  "\n".intercalate (lines.map (Line.render unit level))

/-! ### Checks -/

/-- The levels of lists and objects that can be shown of an indentation. -/
def shownIndentLevels : Nat := 986

/-- Fails if a line cannot be indented to the first of the levels for which that is so. -/
def Style.requireIndentation (style : Style) (levels : List Int) : Except Fault Unit :=
  levels.forM fun level => do
    style.indentUnit.requireMultiple level
    (style.indentUnit.multiple level).requireWithin (.ofLevels shownIndentLevels)

/-- Fails if a value cannot name a module. -/
def requireModuleName (module : Json) : Except Fault Unit :=
  if module.isPlain then .ok () else .error (.defect .notComparable)

/-- Fails if the modules of the imports have no names. -/
def Style.requireModules (style : Style) : Except Fault Unit := do
  requireModuleName style.contractModule
  requireModuleName style.coreModule

end ContractClient
