/-
This file names the arguments of a method. A parameter keeps its name, without one underscore in
front, where TypeScript allows it and no earlier argument has it; all others are numbered, with
numbers that only grow along one list.
-/

import ContractClient.Client.Pass
import ContractClient.Text.Identifier

namespace ContractClient

/-- Words that cannot name an argument. -/
def reservedWords : List String :=
  ["break", "case", "catch", "class", "const", "continue", "debugger", "default", "delete", "do",
    "else", "enum", "export", "extends", "false", "finally", "for", "function", "if", "import",
    "in", "instanceof", "new", "null", "return", "super", "switch", "this", "throw", "true", "try",
    "typeof", "var", "void", "while", "with", "yield", "let", "static", "implements", "interface",
    "package", "private", "protected", "public", "await", "arguments", "eval"]

/-- The name of the last argument of every method. -/
def optionsName : String := "options"

/-- One argument of a method. -/
structure Argument where
  name : String
  ty : Ty
deriving Repr, DecidableEq, Inhabited

/-- The argument as it is declared. -/
def Argument.text (argument : Argument) : String :=
  argument.name ++ ": " ++ argument.ty.text

/-! ### Names -/

/-- The name without one underscore in front. -/
def dropUnderscore (name : String) : String :=
  match name.toList with
  | '_' :: rest => String.ofList rest
  | _ => name

/-- Whether an argument may bear the name. -/
def isArgumentName (name : String) : Bool :=
  isIdentifier name && !reservedWords.contains name

/-- The name of a numbered argument. -/
def numberedArgument (number : Nat) : String :=
  "arg" ++ toString number

/-- The argument names of the parameters, beside names already taken, with numbers from the given
one on. -/
def argumentNamesFrom (taken : List String) (number : Nat) : List Parameter → List String
  | [] => []
  | parameter :: rest =>
    let own := dropUnderscore parameter.name
    if isArgumentName own && !taken.contains own then
      own :: argumentNamesFrom (own :: taken) number rest
    else
      let free := leastFree taken numberedArgument number
      let name := numberedArgument free
      name :: argumentNamesFrom (name :: taken) (free + 1) rest

/-- The argument names of a list of parameters. -/
def argumentNames (parameters : List Parameter) : List String :=
  argumentNamesFrom [optionsName] 0 parameters

/-! ### Arguments -/

/-- The arguments for the parameters of a member, in their order. -/
def buildArguments (member : String) (parameters : List Parameter) : Building (List Argument) :=
  ((argumentNames parameters).zip parameters).mapM fun entry => do
    let ty ← Pass.registering (resolveParameter member entry.2)
    return ⟨entry.1, ty⟩

/-- The names of the arguments as they are passed on. -/
def passedNames (arguments : List Argument) : String :=
  ", ".intercalate (arguments.map (·.name))

/-- The declared arguments, the options last. -/
def declaredArguments (arguments : List Argument) (options : String) : String :=
  ", ".intercalate (arguments.map Argument.text ++ [options])

end ContractClient
