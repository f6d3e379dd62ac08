/-
This file gives every function of a contract the name of its method. The first function of a
name keeps it; later ones, and those whose name the class needs itself, get a name that is free.
A name once given stays.
-/

import ContractClient.Abi.Nesting
import ContractClient.Client.Style
import ContractClient.Naming.Fresh

namespace ContractClient

/-- The method names given so far by signature, the latest first, and the function names that
were planned together more than once. -/
structure MethodPlan where
  assigned : List (String × String)
  overloaded : List String
deriving Repr, DecidableEq, Inhabited

namespace MethodPlan

/-- The plan without names. -/
def empty : MethodPlan := ⟨[], []⟩

/-- The method name of a signature. -/
def nameOf? (plan : MethodPlan) (signature : String) : Option String :=
  plan.assigned.lookup signature

/-- The method names given so far. -/
def methodNames (plan : MethodPlan) : List String :=
  plan.assigned.map (·.2)

/-- The names that no further method may get. -/
def taken (plan : MethodPlan) : List String :=
  classMembers ++ plan.methodNames

/-- The plan with one more name. -/
def assign (plan : MethodPlan) (signature name : String) : MethodPlan :=
  { plan with assigned := (signature, name) :: plan.assigned }

/-- The method name that a function would like: its own, with an underscore behind it where the
class has a member of that name. -/
def wishedName (name : String) : String :=
  if classMembers.contains name then name ++ "_" else name

/-- Gives every function the name it would like, and lists the signatures and wishes of those
that cannot have it. Functions planned before are passed over. -/
def grantWishes (plan : MethodPlan) : List Member → MethodPlan × List (String × String)
  | [] => (plan, [])
  | function :: rest =>
    let signature := function.signature
    let wish := wishedName function.name
    if (plan.nameOf? signature).isSome then grantWishes plan rest
    else if plan.taken.contains wish then
      let (planned, pending) := grantWishes plan rest
      (planned, (signature, wish) :: pending)
    else grantWishes (plan.assign signature wish) rest

/-- Gives the pending functions the next free names, and lists their signatures and names. -/
def settlePending (plan : MethodPlan) :
    List (String × String) → MethodPlan × List (String × String)
  | [] => (plan, [])
  | (signature, wish) :: rest =>
    let name := freeNumbered plan.taken wish
    let (planned, renamed) := settlePending (plan.assign signature name) rest
    (planned, (signature, name) :: renamed)

/-- The names that occur in the list more than once. -/
def repeatedNames (names : List String) : List String :=
  names.filter fun name => 1 < names.count name

/-- The plan that knows which of the functions share their names. -/
def mark (plan : MethodPlan) (functions : List Member) : MethodPlan :=
  { plan with overloaded := plan.overloaded ++ repeatedNames (functions.map Member.name) }

/-- The plan extended to the functions among the members, and the signatures and names of those
that were renamed. -/
def extend (plan : MethodPlan) (members : List Member) : MethodPlan × List (String × String) :=
  let functions := functionsAmong members
  let (granted, pending) := (plan.mark functions).grantWishes functions
  granted.settlePending pending

/-- What is planned for the functions among the members if the signature of one cannot be spelled
out: those in front of it have what they wished for, and nothing is settled for the others. -/
def extendPartly (plan : MethodPlan) (members : List Member) : MethodPlan :=
  let functions := functionsAmong members
  ((plan.mark functions).grantWishes
    (functions.takeWhile fun function => function.requireSignature.isOk)).1

end MethodPlan

end ContractClient
