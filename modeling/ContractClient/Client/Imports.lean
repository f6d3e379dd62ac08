/-
This file keeps the names that a module imports, and writes its import statements. Modules whose
names count as one are one module, which keeps the name of its first use.
-/

import ContractClient.Client.Style
import ContractClient.Json.NameOrder
import ContractClient.Text.Order

namespace ContractClient

/-- The imported names by module, both in the order of their first use. -/
abbrev Imports := List (Json × List String)

namespace Imports

/-- The names with those of the others that are not among them yet. -/
def addNames (names others : List String) : List String :=
  others.foldl (fun known name => if known.contains name then known else known ++ [name]) names

/-- The imports with more names from a module. -/
def use (imports : Imports) (module : Json) (names : List String) : Imports :=
  match imports with
  | [] => [(module, addNames [] names)]
  | (first, known) :: rest =>
    if first.sameName module then (first, addNames known names) :: rest
    else (first, known) :: use rest module names

/-- The imported names of a module in order. -/
def names (imports : Imports) (module : Json) : List String :=
  match imports.find? (·.1.sameName module) with
  | some entry => inOrder textLe entry.2
  | none => []

/-- The import statement for a module, if anything is imported from it. -/
def statement? (imports : Imports) (module : Json) : Option String :=
  match imports.names module with
  | [] => none
  | names =>
    some ("import \x7b " ++ ", ".intercalate names ++ " \x7d from '" ++ module.display ++ "';")

/-- The modules whose statements come first: those of contracts and of the core. -/
def fixedModules (style : Style) : List Json :=
  if style.contractModule.sameName style.coreModule then [style.contractModule]
  else [style.contractModule, style.coreModule]

/-- The other modules that anything is imported from. -/
def otherModules (imports : Imports) (style : Style) : List Json :=
  (imports.map (·.1)).filter fun module => !module.isAmong (fixedModules style)

/-- The modules in the order of their statements: the fixed ones first, all others behind them in
order. -/
def modules (imports : Imports) (style : Style) : List Json :=
  fixedModules style ++ Json.inNameOrder id (imports.otherModules style)

/-- Fails if the modules cannot be put in order. -/
def requireOrder (imports : Imports) (style : Style) : Except Fault Unit := do
  style.requireModules
  if Json.canBeOrdered (imports.otherModules style) then return ()
  throw (.defect .notComparable)

/-- The import statements of a module, one on each line. -/
def render (imports : Imports) (style : Style) : String :=
  "\n".intercalate (("import Web3 from '" ++ style.web3Module ++ "';") ::
    (imports.modules style).filterMap imports.statement?)

end Imports

end ContractClient
