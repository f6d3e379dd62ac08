/-
This file holds what passes between the program and a Solidity compiler: what the compiler has
installed and how it answers, the calls made to it, and the input it is given.
-/

import ContractClient.Diagnostic
import ContractClient.Json.Display
import ContractClient.Options
import ContractClient.Text.Blank

namespace ContractClient

/-! ### Answers -/

/-- What is known of a compiler that ended badly. -/
structure CompilerReport where
  message : String
  command : List String
  returnCode : Json
  stdout : Json
  stderr : Json
  entries : Json
deriving Repr

/-- The report as one text. -/
def CompilerReport.text (report : CompilerReport) : String :=
  strip (report.message ++ "\n> command: \x60" ++ " ".intercalate report.command ++
    "\x60\n> return code: \x60" ++ report.returnCode.display ++ "\x60\n> stdout:\n" ++
    report.stdout.display ++ "\n> stderr:\n" ++ report.stderr.display)

/-- How a compiler answers. -/
inductive CompilerAnswer where
  /-- There is no such compiler. -/
  | missing (reason : String)
  /-- It ended badly. -/
  | failed (report : CompilerReport)
  /-- It gave an output. -/
  | output (value : Json)
deriving Repr

/-- A compiler: the installed versions, why others cannot be installed if they cannot, and its
answer. -/
structure Compiler where
  installed : List String
  installFailure : Option String
  answer : CompilerAnswer
deriving Repr

/-! ### Calls -/

/-- A call to the compiler. Source files are given with the directory that imports start from. -/
inductive CompilerCall where
  | install (version : String)
  | compile (input version : Json) (directory : Option String)
deriving Repr

/-- What was printed so far, the calls made so far, and whoever listens to the notices. -/
structure Session where
  printed : String
  calls : List CompilerCall
  collector : Collector
deriving Repr

/-- Steps of a session. -/
abbrev Loading := ExceptT Fault (StateM Session)

namespace Session

/-- The start of a session. -/
def start (collector : Collector) : Session :=
  ⟨"", [], collector⟩

/-- The session after one more printed text. -/
def print (session : Session) (text : String) : Session :=
  { session with printed := session.printed ++ text }

/-- The session after one more call. -/
def call (session : Session) (call : CompilerCall) : Session :=
  { session with calls := session.calls ++ [call] }

/-- The session after one more notice. -/
def notice (session : Session) (notice : Notice) : Session :=
  { session with collector := session.collector.add notice }

end Session

/-! ### Input -/

/-- What the compiler is asked for, of every contract of every file. -/
def outputSelection : Json :=
  .object [("*", .object [("*", .array [.text "abi", .text "evm.bytecode.object"])])]

/-- The settings that the compiler is given. -/
def compilerSettings (options : Options) : Json :=
  let optimizer :=
    Json.object [("enabled", options.value .optimize), ("runs", options.value .optimizeRuns)]
  let version := options.value .evmVersion
  .object ([("optimizer", optimizer), ("outputSelection", outputSelection)] ++
    if version.isVacant then [] else [("evmVersion", version)])

/-- The input that the compiler is given for one source. -/
def standardInput (source : Json) (fileName : String) (options : Options) : Json :=
  .object
    [("language", .text "Solidity"),
      ("sources", .object [(fileName, .object [("content", source)])]),
      ("settings", compilerSettings options)]

end ContractClient
