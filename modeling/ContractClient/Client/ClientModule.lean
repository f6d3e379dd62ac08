/-
This file puts a whole client module together: a header, the imports, the interfaces and the
class, with one blank line between any two of them. The class comes first, since it shows which
interfaces and imports are needed.
-/

import ContractClient.Client.ClientClass

namespace ContractClient

/-! ### Interfaces -/

/-- The interface that describes a contract to its client. -/
def contractInfo : Interface :=
  { name := contractInfoName
    fields := [⟨"abi", ⟨"any", 0⟩, false⟩, ⟨"bytecode", ⟨"string", 0⟩, true⟩,
      ⟨"address", ⟨"string", 0⟩, true⟩]
    origin := .builtin }

/-- The text of a field of an interface. -/
def Field.text (field : Field) : String :=
  field.name ++ (if field.optional then "?" else "") ++ ": " ++ field.ty.text ++ ";"

/-- The text of an interface. -/
def Interface.render (interface : Interface) (style : Style) : String :=
  "\n".intercalate (("export interface " ++ interface.name ++ " \x7b") ::
    (interface.fields.map fun field => indentation style.indentUnit 1 ++ field.text) ++ ["\x7d"])

/-- The text of the interfaces of a module, with a blank line between any two of them. -/
def renderInterfaces (interfaces : List Interface) (style : Style) : String :=
  "\n\n".intercalate ((contractInfo :: interfaces).map fun interface => interface.render style)

/-! ### Modules -/

/-- A client module: its header, its imports, its interfaces and its class. -/
structure ClientModule where
  header : String
  imports : Imports
  interfaces : List Interface
  client : ClientClass
deriving BEq, Repr

/-- The client module for the members of a contract, which needs a header and names for the
modules it imports from. -/
def buildModule (members : List Member) : Building ClientModule := do
  let client ← buildClass members
  let pass ← get
  match pass.style.header with
  | none => throw (.defect .notText)
  | some header =>
    pass.style.requireModules
    return ⟨header, pass.imports, pass.registry.interfaces, client⟩

/-- The sections of a module that hold anything. -/
def ClientModule.sections (module : ClientModule) (style : Style) : List String :=
  [strip module.header, module.imports.render style, renderInterfaces module.interfaces style,
    module.client.render style].filter (· != "")

/-- The text of a module. -/
def ClientModule.render (module : ClientModule) (style : Style) : String :=
  "\n\n".intercalate (module.sections style) ++ "\n"

/-! ### Assemblers -/

/-- The module text for a contract, and whoever listens to the notices. -/
def assembleModule (contract : Json) (members : List Member) (style : Style)
    (collector : Collector) : Except Fault String × Collector :=
  let (result, pass) := buildModule members (.start contract style collector)
  (result.map fun module => module.render style, pass.collector)

/-- Assembles the module of one contract, once. -/
structure Assembler where
  contract : Json
  style : Style
  used : Bool
deriving Repr, BEq

/-- The assembler for a contract. -/
def Assembler.start (contract : Json) (style : Style) : Assembler :=
  ⟨contract, style, false⟩

/-- The module text for the members, and the assembler afterwards. A name that says something
takes the place of the contract's; a second use fails, whether the first one succeeded or not. -/
def Assembler.assemble (assembler : Assembler) (name : Json) (members : List Member)
    (collector : Collector) : Except Fault String × Assembler :=
  if assembler.used then (.error (.defect .alreadyUsed), assembler)
  else
    let contract := if name.isVacant then assembler.contract else name
    ((assembleModule contract members assembler.style collector).1,
      ⟨contract, assembler.style, true⟩)

end ContractClient
