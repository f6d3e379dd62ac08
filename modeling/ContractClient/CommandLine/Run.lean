/-
This file runs the program: it reads the settings and the input file, generates the clients and
writes them, all on a tree of files that is a plain value. Nothing is written before every
client has been generated.
-/

import ContractClient.Artifact
import ContractClient.CommandLine.Arguments
import ContractClient.FileTree
import ContractClient.Generation

namespace ContractClient

/-! ### Outcomes -/

/-- How a run ends: with the code that it gives back, or with a defect that ends it. -/
inductive Ending where
  | code (code : Nat)
  | defect (cause : Defect)
deriving Repr, DecidableEq

/-- What a run leaves behind. -/
structure Outcome where
  ending : Ending
  stdout : String
  stderr : String
  tree : FileTree
  calls : List CompilerCall
deriving Repr

/-- How a fault ends a run, and what is told of it. -/
def faultEnding (fault : Fault) : Ending × String :=
  match fault with
  | .defect cause => (.defect cause, "")
  | fault => (.code 1, "Error: " ++ fault.message?.getD "" ++ "\n")

/-! ### Writing -/

/-- Writes the files one after the other and tells of each of them; a fault ends the writing. -/
def writeFiles (tree : FileTree) (printed : String) :
    List (Path × String) → Except Fault Unit × FileTree × String
  | [] => (.ok (), tree, printed)
  | (path, text) :: rest =>
    match tree.writeFile path text with
    | (.error fault, tree) => (.error fault, tree, printed)
    | (.ok (), tree) => writeFiles tree (printed ++ "Written: " ++ path.text ++ "\n") rest

/-- Writes the files of the results into a directory, which is made if it is missing. -/
def writeResults (tree : FileTree) (directory : Path) (results : List Generated) :
    Except Fault Unit × FileTree × String :=
  match tree.makeDirectory directory with
  | .error fault => (.error fault, tree, "")
  | .ok tree => writeFiles tree "" (results.flatMap (outputFiles directory))

/-- The directory that the files are written into: the given one, or that of the input file. -/
def outputDirectory (arguments : Arguments) (input : Path) : Path :=
  match arguments.output with
  | some (.text directory) => if directory == "" then input.parent else Path.ofText directory
  | _ => input.parent

/-! ### Running -/

/-- The path that is given, if it is a text. -/
def SwitchValue.requirePath : SwitchValue → Except Fault String
  | .text given => .ok given
  | .dashes => .error (.defect .notPath)

/-- What is given as a value: its text, or an empty list if there is none. -/
def SwitchValue.json : SwitchValue → Json
  | .text given => .text given
  | .dashes => .array []

/-- The settings of a run, and what is printed while they are read. -/
def runOptions (tree : FileTree) (arguments : Arguments) : Except Fault (Options × String) := do
  let config ← arguments.config.requirePath
  let text ← tree.openFile config
  let (options, printed) ← Options.ofFile config text
  match arguments.solcVersion with
  | none => return (options, printed)
  | some version => return (options.set .solcVersion version.json, printed)

/-- The results for the selected contracts of a file. -/
def generateFile (compiler : Compiler) (options : Options) (path text : String)
    (selected : List SwitchValue) : Loading (List Generated) := do
  let contracts ← loadContracts compiler options path text
  let contracts ← selectContracts contracts (selected.map SwitchValue.json)
  let session ← get
  let (results, collector) := generateAll options contracts session.collector
  set { session with collector := collector }
  results

/-- Gives the results out: printed one after the other, or written to files. -/
def deliver (arguments : Arguments) (input : Path) (tree : FileTree)
    (results : List Generated) : Except Fault Unit × FileTree × String :=
  if arguments.stdout then (.ok (), tree, String.join (results.map (·.client)))
  else writeResults tree (outputDirectory arguments input) results

/-- Runs the program on an input file with the given text. -/
def runFile (compiler : Compiler) (arguments : Arguments) (tree : FileTree) (text : String) :
    Outcome :=
  match runOptions tree arguments with
  | .error fault =>
    let (ending, told) := faultEnding fault
    ⟨ending, "", told, tree, []⟩
  | .ok (options, printed) =>
    let input := Path.ofText arguments.input
    let (results, session) := generateFile compiler options input.text text arguments.contracts
      (.start (.keeping []))
    let printed := printed ++ session.printed
    match results with
    | .error fault =>
      let (ending, told) := faultEnding fault
      ⟨ending, printed, told, tree, session.calls⟩
    | .ok results =>
      match deliver arguments input tree results with
      | (.error fault, tree, more) =>
        let (ending, told) := faultEnding fault
        ⟨ending, printed ++ more, told, tree, session.calls⟩
      | (.ok (), tree, more) =>
        ⟨.code 0, printed ++ more, summaryReport arguments.verbose session.collector.notices, tree,
          session.calls⟩

/-- Runs the program with arguments that have been read. -/
def runArguments (compiler : Compiler) (arguments : Arguments) (tree : FileTree) : Outcome :=
  match tree.fileAt (.ofText arguments.input) with
  | .ok (some text) => runFile compiler arguments tree text
  | .ok none =>
    ⟨.code 1, "", "Error: " ++ arguments.input ++ " is not a valid file\n", tree, []⟩
  | .error fault =>
    let (ending, told) := faultEnding fault
    ⟨ending, "", told, tree, []⟩

/-- Runs the program, unless its arguments are wrong or ask for help. -/
def run (compiler : Compiler) (arguments : List String) (tree : FileTree) : Except Stop Outcome :=
  (readArguments arguments).map fun arguments => runArguments compiler arguments tree

end ContractClient
