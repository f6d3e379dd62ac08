/-
This file holds the settings of a run. They have default values and are overridden from a JSON
file or one by one; a null overrides nothing, and a name that belongs to no setting is told and
passed over. Values are not checked when they are set, only where they are used.
-/

import ContractClient.Client.Style
import ContractClient.Fault
import ContractClient.Json.FileText
import ContractClient.Text.Case

namespace ContractClient

/-! ### Settings -/

/-- The settings of a run. -/
inductive Setting where
  | indentUnit
  | header
  | resultSuffix
  | classSuffix
  | web3Module
  | contractModule
  | coreModule
  | solcVersion
  | evmVersion
  | optimize
  | optimizeRuns
deriving Repr, DecidableEq, Inhabited

namespace Setting

/-- All settings in their order. -/
def all : List Setting :=
  [indentUnit, header, resultSuffix, classSuffix, web3Module, contractModule, coreModule,
    solcVersion, evmVersion, optimize, optimizeRuns]

/-- The name of a setting in a file. -/
def key : Setting → String
  | indentUnit => "indent_str"
  | header => "header"
  | resultSuffix => "result_suffix"
  | classSuffix => "class_suffix"
  | web3Module => "web3_module"
  | contractModule => "contract_module"
  | coreModule => "core_module"
  | solcVersion => "solc_version"
  | evmVersion => "evm_version"
  | optimize => "optimize"
  | optimizeRuns => "optimize_runs"

/-- The setting of the given name. -/
def ofKey? (name : String) : Option Setting :=
  all.find? (·.key == name)

/-- The value of a setting that nothing overrides. -/
def standard : Setting → Json
  | indentUnit => .text "  "
  | header => .text "// generated with abi2ts"
  | resultSuffix => .text "Result"
  | classSuffix => .text "Contract"
  | web3Module => .text "web3"
  | contractModule => .text "web3-eth-contract"
  | coreModule => .text "web3-core"
  | solcVersion => .null
  | evmVersion => .null
  | optimize => .boolean false
  | optimizeRuns => .integer 200

end Setting

/-- A value for every setting. -/
structure Options where
  value : Setting → Json

namespace Options

/-- The default values. -/
def standard : Options := ⟨Setting.standard⟩

/-- The settings with one value changed. -/
def set (options : Options) (setting : Setting) (value : Json) : Options :=
  ⟨fun other => if other = setting then value else options.value other⟩

/-- All settings by name. -/
def entries (options : Options) : List (String × Json) :=
  Setting.all.map fun setting => (setting.key, options.value setting)

/-- The settings with the given values in place of others, null among them. Every name must belong
to a setting. -/
def setAll (options : Options) : List (String × Json) → Except Fault Options
  | [] => .ok options
  | (name, value) :: rest =>
    match Setting.ofKey? name with
    | some setting => (options.set setting value).setAll rest
    | none => .error (.defect .unknownSetting)

/-! ### Overriding -/

/-- What is printed for a name that belongs to no setting. -/
def unknownWarning (name : String) : String :=
  "Warning: Unknown option '" ++ name ++ "' ignored\n"

/-- The settings with one value overridden, and what is printed. -/
def override (options : Options) (name : String) (value : Json) : Options × String :=
  match value, Setting.ofKey? name with
  | .null, _ => (options, "")
  | _, some setting => (options.set setting value, "")
  | _, none => (options, unknownWarning name)

/-- The settings with the values overridden one after the other, and what is printed. -/
def overrideAll (options : Options) : List (String × Json) → Options × String
  | [] => (options, "")
  | (name, value) :: rest =>
    let (changed, first) := options.override name value
    let (final, others) := changed.overrideAll rest
    (final, first ++ others)

/-- The one name that no override may bear. -/
def reservedName : String := "self"

/-- The settings with the given values overridden, and what is printed; the reserved name is
refused before anything is done. -/
def merge (options : Options) (overrides : List (String × Json)) :
    Except Fault (Options × String) :=
  if overrides.any (·.1 == reservedName) then .error (.defect .reservedSetting)
  else .ok (options.overrideAll overrides)

/-! ### Reading a file -/

/-- Whether an upper-case letter behind this character starts a new word. -/
def endsWord (character : Char) : Bool :=
  character.isLower || character.isDigit

/-- The characters with an underscore between the words, where `before` is the character read
last. -/
def separateWords (before : Option Char) : List Char → List Char
  | [] => []
  | character :: rest =>
    if character.isUpper && before.any endsWord then
      '_' :: character :: separateWords (some character) rest
    else character :: separateWords (some character) rest

/-- The name in lower case with an underscore between the words: `solcVersion` gives
`solc_version`. -/
def snakeCase (name : String) : String :=
  toLowerText (String.ofList (separateWords none name.toList))

/-- The overrides of a file by the names of the settings. Of two keys for one name the later
counts, at the place of the earlier. -/
def fileOverrides (members : List (String × Json)) : List (String × Json) :=
  Json.uniqueMembers (members.map fun entry => (snakeCase entry.1, entry.2))

/-- The settings that the text of a file gives, and what is printed. A text that is no JSON
object is told and passed over. -/
def ofFileText (path text : String) : Except Fault (Options × String) := do
  match ← Json.ofFileText text with
  | none => .ok (standard, "Warning: Failed to parse " ++ path ++ ": <json error>\n")
  | some (.object members) => standard.merge (fileOverrides members)
  | some _ => .ok (standard, "Warning: Ignoring " ++ path ++ ": expected a JSON object\n")

/-- The settings that a file gives, if it is there. -/
def ofFile (path : String) (text : Option String) : Except Fault (Options × String) :=
  match text with
  | none => .ok (standard, "")
  | some text => ofFileText path text

/-! ### The style of a module -/

/-- The settings that shape the text of a module. The header counts only if it is a text. What is
repeated, and what names imported modules, is kept as it is; any other value stands by its
text. -/
def style (options : Options) : Style :=
  { indentUnit := options.value .indentUnit
    header := (options.value .header).text?
    resultSuffix := (options.value .resultSuffix).display
    classSuffix := (options.value .classSuffix).display
    web3Module := (options.value .web3Module).display
    contractModule := options.value .contractModule
    coreModule := options.value .coreModule }

end Options

end ContractClient
