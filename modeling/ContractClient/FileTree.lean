/-
This file holds a tree of text files as a plain value. Places in it are lists of listed names
from the current directory on; a name at the start may also be a double dot or the root, which
lead out of that directory. Reading, making directories and writing fail the way files fail.
-/

import ContractClient.Fault
import ContractClient.FileName
import ContractClient.Path

namespace ContractClient

/-- A place: the names that lead to it. -/
abbrev Place := List String

/-- The place as one text. No name but that of the root holds a slash, so different places have
different texts. -/
def placeKey (place : Place) : String :=
  "/".intercalate place

/-- A tree of files: how many steps the current directory lies below the root, the texts by their
places, and the places of the directories as texts. -/
structure FileTree where
  depth : Nat
  files : List (Place × String)
  directories : List String
deriving Repr, BEq, Inhabited

/-- What stands at a place: a file, a directory, or the device that is always empty. -/
inductive FileEntry where
  | file (text : String)
  | directory
  | emptyDevice
deriving Repr, DecidableEq

/-- Where a path leads. -/
inductive Lead where
  /-- To a place, where something stands or may be put. -/
  | place (place : Place)
  /-- Nowhere, since a directory on the way is missing. -/
  | missing
  /-- Nowhere, since a file is on the way. -/
  | throughFile
  /-- Nowhere, since a name on the way is too long. -/
  | tooLong
deriving Repr, DecidableEq

namespace FileTree

/-- Whether no file can have the name, since it takes more than 255 bytes. -/
def isLongName (name : String) : Bool :=
  255 < (nameBytes name).length

/-- Whether the written path is too long as a whole, since it takes more than 4095 bytes. -/
def isLongPath (text : String) : Bool :=
  4095 < (nameBytes text).length

/-- Fails if the text cannot be a path at all. -/
def requirePath (text : String) : Except Fault Unit :=
  if !isNameable text then .error (.defect .loneSurrogate)
  else if text.toList.contains '\x00' then .error (.defect .zeroInPath)
  else if isLongPath text then .error (.defect .nameTooLong)
  else .ok ()

/-- The names of the directories that every system has below the root. -/
def systemNames : List String :=
  ["bin", "boot", "dev", "etc", "home", "lib", "media", "mnt", "opt", "proc", "root", "run", "sbin",
    "srv", "sys", "tmp", "usr", "var"]

/-- Whether the place is a directory that is always there. -/
def isStanding : Place → Bool
  | ["/", name] => systemNames.contains name
  | place => place.all fun name => name == ".." || name == "/"

/-- The files that every system has below the root. -/
def systemFiles : List Place :=
  [["/", "etc", "passwd"], ["/", "etc", "group"], ["/", "etc", "hosts"]]

/-- What stands for the text of a file of the system. Whatever such a file holds, it is no JSON
text. -/
def systemText : String := "#"

/-- What stands at the place. -/
def entry? (tree : FileTree) (place : Place) : Option FileEntry :=
  if place = ["/", "dev", "null"] then some .emptyDevice
  else
    match tree.files.lookup place with
    | some text => some (.file text)
    | none =>
      if systemFiles.contains place then some (.file systemText)
      else if isStanding place || tree.directories.contains (placeKey place) then some .directory
      else none

/-- The place one step above a directory. -/
def above (tree : FileTree) (place : Place) : Place :=
  let higher := if place.length + 1 < tree.depth then place ++ [".."] else ["/"]
  match place.getLast? with
  | none => higher
  | some ".." => higher
  | some "/" => place
  | some _ => place.dropLast

/-- The place that a name leads to from a directory. -/
def stepInto (tree : FileTree) (place : Place) (name : String) : Place :=
  if name = ".." then tree.above place else place ++ [listedName name]

/-- Follows the names from a directory on. -/
def follow (tree : FileTree) (current : Place) : List String → Lead
  | [] => .place current
  | name :: rest =>
    if name = "" ∨ name = "." then tree.follow current rest
    else if name = ".." then tree.follow (tree.above current) rest
    else if isLongName name then .tooLong
    else
      let next := current ++ [listedName name]
      if rest.isEmpty then .place next
      else
        match tree.entry? next with
        | some .directory => tree.follow next rest
        | some _ => .throughFile
        | none => .missing

/-- The place where paths of the given root start. -/
def startOf (root : String) : Place :=
  if root == "" then [] else ["/"]

/-- Where the path leads. -/
def lead (tree : FileTree) (path : Path) : Lead :=
  tree.follow (startOf path.root) path.parts

/-- The text of the file that the path leads to; nothing if there is no such file. Only a length
that no path may have is a fault. -/
def fileAt (tree : FileTree) (path : Path) : Except Fault (Option String) :=
  match requirePath path.text, tree.lead path with
  | .error (.defect .nameTooLong), _ => .error (.defect .nameTooLong)
  | .error _, _ => .ok none
  | .ok (), .tooLong => .error (.defect .nameTooLong)
  | .ok (), .place place =>
    match tree.entry? place with
    | some (.file text) => .ok (some text)
    | _ => .ok none
  | .ok (), _ => .ok none

/-- The text of the file that is opened under the written path; nothing if there is no such
file. -/
def openFile (tree : FileTree) (text : String) : Except Fault (Option String) := do
  requirePath text
  if text == "" then return none
  let names := (Path.splitSlashes text.toList).map String.ofList
  match tree.follow (startOf (Path.rootOf text.toList)) names with
  | .missing => return none
  | .throughFile => throw (.defect .fileInsidePath)
  | .tooLong => throw (.defect .nameTooLong)
  | .place place =>
    match tree.entry? place with
    | some (.file text) => return some text
    | some .directory => throw (.defect .directoryInPlaceOfFile)
    | some .emptyDevice => return some ""
    | none => return none

/-! ### Changes -/

/-- How many directories below one another can be made at once. -/
def makeableLevels : Nat := 988

/-- Makes the directories on a way from a directory on, as far as they are missing. -/
def makeFrom (tree : FileTree) (current : Place) : List String → Except Fault FileTree
  | [] => .ok tree
  | name :: rest =>
    if name = ".." then tree.makeFrom (tree.above current) rest
    else if isLongName name then .error (.defect .nameTooLong)
    else
      let next := current ++ [listedName name]
      match tree.entry? next with
      | some .directory => tree.makeFrom next rest
      | some _ =>
        .error (.defect (if rest.isEmpty then .fileInPlaceOfDirectory else .fileInsidePath))
      | none =>
        if makeableLevels ≤ rest.length then .error (.defect .tooDeep)
        else { tree with directories := placeKey next :: tree.directories }.makeFrom next rest

/-- Makes the directory that the path leads to, with all those above it. -/
def makeDirectory (tree : FileTree) (path : Path) : Except Fault FileTree := do
  requirePath path.text
  tree.makeFrom (startOf path.root) path.parts

/-- The files with the text at the place: in its old position if the place has a file already, at
the end if it has none. -/
def setFile (files : List (Place × String)) (place : Place) (text : String) :
    List (Place × String) :=
  match files with
  | [] => [(place, text)]
  | (first, old) :: rest =>
    if first = place then (place, text) :: rest else (first, old) :: setFile rest place text

/-- Writes the text to the file that the path leads to. A text with a lone surrogate cannot be
written; the file is then left empty. -/
def writeFile (tree : FileTree) (path : Path) (text : String) : Except Fault Unit × FileTree :=
  match requirePath path.text, tree.lead path with
  | .error fault, _ => (.error fault, tree)
  | .ok (), .place place =>
    match tree.entry? place with
    | some .directory => (.error (.defect .directoryInPlaceOfFile), tree)
    | some .emptyDevice => (.ok (), tree)
    | _ =>
      if isWritable text then (.ok (), { tree with files := setFile tree.files place text })
      else (.error (.defect .loneSurrogate), { tree with files := setFile tree.files place "" })
  | .ok (), .tooLong => (.error (.defect .nameTooLong), tree)
  | .ok (), _ => (.error (.defect .fileInsidePath), tree)

/-! ### Whole trees -/

/-- The places of the directories that hold the place, from the current directory down. -/
def holders (place : Place) : List Place :=
  (List.range place.length).map place.take

/-- The tree of the given files, in the directories that hold them, where the current directory
lies so many steps below the root. Of two texts for one place the later counts. -/
def ofFiles (depth : Nat) (files : List (Path × String)) : FileTree :=
  let placed := files.map fun file => (file.1.parts.map listedName, file.2)
  { depth := depth
    files := placed.foldl (fun known file => setFile known file.1 file.2) []
    directories := (placed.flatMap fun file => (holders file.1).map placeKey).eraseDups }

/-- The files of the tree in the current directory that differ from those of an earlier tree. -/
def changes (tree earlier : FileTree) : List (Place × String) :=
  tree.files.filter fun file =>
    !(file.1.head?.any fun name => name == ".." || name == "/") &&
      earlier.files.lookup file.1 != some file.2

end FileTree

end ContractClient
