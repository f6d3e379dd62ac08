/-
This file holds the entries of a contract's ABI that can be called, and the parameters they
take and give. A parameter keeps its type tag as it was written; a tuple carries its components.
-/

import ContractClient.Json.Basic

namespace ContractClient

/-! ### Parameters -/

/-- One input or output of a member, or one component of a tuple. -/
structure Parameter where
  name : String
  tag : String
  internalType : String
  components : Option (List Parameter)
deriving Inhabited, BEq, Repr

/-- Whether a tag names a tuple or an array of tuples. -/
def isTupleTag (tag : String) : Bool :=
  tag == "tuple" || tag.startsWith "tuple["

/-- What follows the word `tuple` in the tag of a tuple. -/
def tupleSuffix (tag : String) : String :=
  String.ofList (tag.toList.drop "tuple".length)

mutual

/-- The type of a parameter as it stands in a signature: a tuple is spelled out by the types of
its components. -/
def Parameter.canonicalType : Parameter → String
  | ⟨_, tag, _, none⟩ => if isTupleTag tag then "()" ++ tupleSuffix tag else tag
  | ⟨_, tag, _, some components⟩ =>
    if isTupleTag tag then
      "(" ++ ",".intercalate (canonicalTypes components) ++ ")" ++ tupleSuffix tag
    else tag
termination_by structural parameter => parameter

/-- The types of the parameters as they stand in a signature. -/
def canonicalTypes : List Parameter → List String
  | [] => []
  | parameter :: rest => parameter.canonicalType :: canonicalTypes rest
termination_by structural parameters => parameters

end

/-- Whether the parameter is a tuple or an array of tuples. -/
def Parameter.isTuple (parameter : Parameter) : Bool :=
  isTupleTag parameter.tag

/-! ### Members -/

/-- The two kinds of entries that become methods of a client. -/
inductive MemberKind where
  | function
  | constructor
deriving Repr, DecidableEq, Inhabited

/-- How a function is called: without or with a change of the chain's state. -/
inductive Mutability where
  | readOnly
  | mutating
deriving Repr, DecidableEq, Inhabited

/-- The states of functions that change nothing. -/
def readOnlyStates : List String := ["view", "pure"]

/-- The states of functions that may change something. -/
def mutatingStates : List String := ["nonpayable", "payable"]

/-- A function or the constructor of a contract. -/
structure Member where
  kind : MemberKind
  name : String
  inputs : List Parameter
  outputs : List Parameter
  stateMutability : String
deriving Inhabited, BEq, Repr

/-- How the member is called; the constructor is not called at all. -/
def Member.mutability (member : Member) : Option Mutability :=
  match member.kind with
  | .constructor => none
  | .function =>
    some (if readOnlyStates.contains member.stateMutability then .readOnly else .mutating)

/-- The signature of a member: its name and the types of its inputs. -/
def Member.signature (member : Member) : String :=
  member.name ++ "(" ++ ",".intercalate (canonicalTypes member.inputs) ++ ")"

/-- The functions among the members, in their order. -/
def functionsAmong (members : List Member) : List Member :=
  members.filter fun member => member.kind == .function

/-- The last constructor among the members. -/
def constructorAmong (members : List Member) : Option Member :=
  (members.filter fun member => member.kind == .constructor).getLast?

/-! ### Contracts -/

/-- A contract as a compiler or an artifact gives it. Nothing is known yet of its parts. -/
structure Contract where
  name : Json
  abi : Json
  bytecode : Json
deriving Inhabited, BEq, Repr

end ContractClient
