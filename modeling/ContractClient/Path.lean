/-
This file holds file paths. Empty parts and single dots of a written path are dropped; double
dots stay, since what they lead to depends on the files.
-/

import ContractClient.Text.Case

namespace ContractClient

/-- A path: the slashes that make it absolute, and its parts. -/
structure Path where
  root : String
  parts : List String
deriving Repr, DecidableEq, Inhabited

namespace Path

/-- The characters between the slashes. -/
def splitSlashes : List Char → List (List Char)
  | [] => [[]]
  | '/' :: rest => [] :: splitSlashes rest
  | character :: rest =>
    match splitSlashes rest with
    | [] => [[character]]
    | part :: parts => (character :: part) :: parts

/-- The slashes that make a written path absolute; more than two count as one. -/
def rootOf : List Char → String
  | '/' :: '/' :: '/' :: _ => "/"
  | '/' :: '/' :: _ => "//"
  | '/' :: _ => "/"
  | _ => ""

/-- The path that the text writes. -/
def ofText (text : String) : Path :=
  { root := rootOf text.toList
    parts := ((splitSlashes text.toList).map String.ofList).filter fun part =>
      part != "" && part != "." }

/-- The text of a path; the path without parts is a dot. -/
def text (path : Path) : String :=
  let text := path.root ++ "/".intercalate path.parts
  if text == "" then "." else text

/-- The path continued by another; an absolute path starts anew. -/
def append (path other : Path) : Path :=
  if other.root == "" then { path with parts := path.parts ++ other.parts } else other

/-- The path of the directory that holds what the path names. -/
def parent (path : Path) : Path :=
  { path with parts := path.parts.dropLast }

/-- The parts with every double dot taken together with the part before it, where the parts read
so far are given backwards. -/
def foldDots (before : List String) : List String → List String
  | [] => before.reverse
  | part :: rest =>
    if part = ".." then
      match before with
      | [] => foldDots [part] rest
      | last :: others =>
        if last = ".." then foldDots (part :: before) rest else foldDots others rest
    else foldDots (part :: before) rest

/-- The path without the double dots that lead back from a part before them. -/
def normal (path : Path) : Path :=
  { path with parts := foldDots [] path.parts }

/-- The last part of the path. -/
def name (path : Path) : String :=
  path.parts.getLast?.getD ""

/-- The name cut at its last dot, unless that dot stands first or last. -/
def splitName (path : Path) : String × String :=
  let characters := path.name.toList
  let ending := (characters.reverse.takeWhile (· != '.')).reverse
  let before := characters.length - ending.length - 1
  if ending.isEmpty || ending.length == characters.length || before == 0 then (path.name, "")
  else (String.ofList (characters.take before), String.ofList ('.' :: ending))

/-- The name without its suffix. -/
def stem (path : Path) : String :=
  path.splitName.1

/-- The suffix of the name, with its dot. -/
def suffix (path : Path) : String :=
  path.splitName.2

end Path

end ContractClient
