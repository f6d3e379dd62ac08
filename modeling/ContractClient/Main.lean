/-
This file is the program: it shows the files that a run may touch to the run, and puts into
effect what the run leaves behind. Solidity sources need a compiler, and none comes with the
program.
-/

import ContractClient.CommandLine.Run

namespace ContractClient

/-- The short description of the command line. -/
def usageText : String :=
  "usage: abi2ts [-h] [-o OUTPUT] [--stdout] [--solc-version V] [--config FILE]\n" ++
    "              [--contract NAME] [-v]\n" ++
    "              input\n"

/-- The long description of the command line. -/
def helpText : String :=
  usageText ++
    "\nGenerate typed web3.js clients from contract ABIs\n\n" ++
    "positional arguments:\n" ++
    "  input                Solidity source (.sol) or compiled artifact (.json)\n\n" ++
    "options:\n" ++
    "  -h, --help           show this help message and exit\n" ++
    "  -o, --output OUTPUT  Output directory (default: the input file's directory)\n" ++
    "  --stdout             Print client modules instead of writing files\n" ++
    "  --solc-version V     Solidity compiler version, installed on demand\n" ++
    "  --config FILE        JSON options file (default: abi2ts.json)\n" ++
    "  --contract NAME      Only generate the named contract (repeatable)\n" ++
    "  -v, --verbose        Print every diagnostic\n"

/-- The compiler of a program that comes without one. -/
def absentCompiler : Compiler :=
  ⟨[], some "no compiler is available", .missing "no compiler is available"⟩

/-- The written form of a place. -/
def placeText (place : Place) : String :=
  shownText (match place with
    | [] => "."
    | "/" :: names => "/" ++ "/".intercalate names
    | names => "/".intercalate names)

/-- Whether a directory stands at the place on disk: only a directory has itself inside. -/
def isDirectoryOnDisk (name : String) : IO Bool := do
  try
    discard (IO.FS.realPath (name ++ "/."))
    return true
  catch _ => return false

/-- The text of the file at the place on disk. -/
def textOnDisk? (name : String) : IO (Option String) := do
  try
    let text ← IO.FS.readFile name
    return some (heldText text)
  catch _ => return none

/-- The tree with what stands at the place on disk. -/
def lookAt (tree : FileTree) (place : Place) : IO FileTree := do
  let name := placeText place
  if ← isDirectoryOnDisk name then
    return { tree with directories := placeKey place :: tree.directories }
  match ← textOnDisk? name with
  | some text => return { tree with files := FileTree.setFile tree.files place text }
  | none => return tree

/-- The place and those that the names lead to from there, one after the other. -/
def placesFrom (tree : FileTree) (place : Place) : List String → List Place
  | [] => [place]
  | name :: rest => place :: placesFrom tree (tree.stepInto place name) rest

/-- The places that a path leads through. -/
def placesOn (tree : FileTree) (path : Path) : List Place :=
  placesFrom tree (FileTree.startOf path.root) path.parts

/-- How many steps the current directory lies below the root. -/
def currentDepth : IO Nat := do
  let directory ← IO.currentDir
  return (Path.ofText (toString directory)).parts.length

/-- The part of the files on disk that a run may touch. -/
def surveyFiles (arguments : Arguments) : IO FileTree := do
  let input := Path.ofText arguments.input
  let config := match arguments.config with
    | .text config => [Path.ofText config]
    | .dashes => []
  let paths := input :: outputDirectory arguments input :: config
  let bare := FileTree.ofFiles (← currentDepth) []
  (paths.flatMap (placesOn bare)).foldlM lookAt bare

/-- Makes the directories and writes the files that a run has changed. -/
def writeChanges (earlier later : FileTree) : IO Unit := do
  for directory in later.directories do
    if !earlier.directories.contains directory then
      IO.FS.createDirAll (shownText directory)
  for file in later.files do
    if earlier.files.lookup file.1 != some file.2 then
      IO.FS.createDirAll (placeText file.1.dropLast)
      IO.FS.writeFile (placeText file.1) (shownText file.2)

/-- Puts into effect what a run leaves behind, and gives its code. -/
def conclude (earlier : FileTree) (outcome : Outcome) : IO UInt32 := do
  writeChanges earlier outcome.tree
  IO.print (shownText outcome.stdout)
  IO.eprint (shownText outcome.stderr)
  match outcome.ending with
  | .code code => return code.toUInt32
  | .defect _ =>
    IO.eprintln "Error: the input is not of the expected form"
    return 1

end ContractClient

open ContractClient in
/-- The program. -/
def main (arguments : List String) : IO UInt32 := do
  match readArguments (arguments.map heldText) with
  | .error .help =>
    IO.print helpText
    return 0
  | .error .misuse =>
    IO.eprint usageText
    return 2
  | .ok arguments =>
    let tree ← surveyFiles arguments
    conclude tree (runArguments absentCompiler arguments tree)
