/-
This file compiles Solidity sources. The wanted version of the compiler is installed if it is not
there; errors of the compiler end the compilation, and its warnings become notices.
-/

import ContractClient.Compiler.Exchange
import ContractClient.Compiler.Output

namespace ContractClient

/-- The fault that there is no compiler. -/
def noCompiler (reason : String) : Fault :=
  .compilation ("Solidity compiler not available: " ++ reason) []

/-- Whether the version is installed; a version may be written with a letter in front. -/
def Compiler.hasVersion (compiler : Compiler) (version : String) : Bool :=
  compiler.installed.contains (String.ofList (version.toList.dropWhile (· == 'v')))

/-- Installs the wanted version unless it is there; without a wish nothing is done. -/
def ensureVersion (compiler : Compiler) (version : Json) : Loading Unit := do
  if version.isVacant then return ()
  match version with
  | .text version =>
    if compiler.hasVersion version then return ()
    modify fun session => (session.print ("Installing solc " ++ version ++ "...\n")).call
      (.install version)
    match compiler.installFailure with
    | some reason => throw (noCompiler reason)
    | none => return ()
  | _ => throw (.defect .notText)

/-- The fault of a compiler that ended badly. -/
def reportFault (report : CompilerReport) : Fault :=
  if report.entries.isVacant then .compilation report.text []
  else
    match entriesOf report.entries with
    | .error fault => fault
    | .ok entries => compilationFault entries

/-- The message of a warning entry. -/
def warningMessage (members : List (String × Json)) : Json :=
  (filledMember? members "formattedMessage").getD (memberOr members "message" (.text ""))

/-- Turns warning entries into notices, if somebody listens; the first error entry ends the
compilation with all entries of the list. -/
def reviewEntries (all : List Json) : List Json → Loading Unit
  | [] => return ()
  | entry :: rest => do
    let members ← requireMembers entry
    if isErrorEntry members then throw (compilationFault all)
    if (← get).collector.isPresent then
      let notice ← Notice.ofCompiler (warningMessage members) (.text "")
      modify fun session => session.notice notice
    reviewEntries all rest

/-- The contracts of an output whose entries hold no error. -/
def readOutput (output : Json) : Loading (List Contract) := do
  let members ← requireMembers output
  let entries ← entriesOf (memberOr members "errors" (.array []))
  reviewEntries entries entries
  if (Json.member? members "contracts").isNone then
    throw (.compilation "Compiler output contains no contracts" [])
  contractsOfOutput members

/-- Compiles a source; a source file comes with the directory that imports start from. -/
def compileSource (compiler : Compiler) (options : Options) (source : Json) (fileName : String)
    (directory : Option String) : Loading (List Contract) := do
  let version := options.value .solcVersion
  ensureVersion compiler version
  modify fun session =>
    session.call (.compile (standardInput source fileName options) version directory)
  match compiler.answer with
  | .missing reason => throw (noCompiler reason)
  | .failed report => throw (reportFault report)
  | .output output => readOutput output

end ContractClient
