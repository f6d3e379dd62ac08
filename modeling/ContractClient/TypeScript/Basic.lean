/-
This file holds the TypeScript types and interfaces that a client module refers to. A type is a
name followed by empty brackets, one pair for each array dimension.
-/

import ContractClient.Abi.TypeTag
import ContractClient.Text.Order

namespace ContractClient

/-! ### Types -/

/-- A type: a name that does not end in empty brackets, and the number of brackets behind it. -/
structure Ty where
  base : String
  rank : Nat
deriving Repr, DecidableEq, Inhabited

/-- The empty brackets of an array type, as often as its rank says. -/
def bracketChars (rank : Nat) : List Char :=
  (List.replicate rank ['[', ']']).flatten

/-- The text of a type. -/
def Ty.text (ty : Ty) : String :=
  ty.base ++ String.ofList (bracketChars ty.rank)

/-- Takes the empty brackets off the end of a text that is read backwards, and counts them. -/
def peelBrackets : List Char → List Char × Nat
  | ']' :: '[' :: rest =>
    let (base, rank) := peelBrackets rest
    (base, rank + 1)
  | backwards => (backwards, 0)

/-- The type that a text writes. -/
def Ty.ofText (text : String) : Ty :=
  let (backwards, rank) := peelBrackets text.toList.reverse
  ⟨String.ofList backwards.reverse, rank⟩

/-- The array type with `dimensions` more pairs of brackets. -/
def Ty.arrays (ty : Ty) (dimensions : Nat) : Ty :=
  { ty with rank := ty.rank + dimensions }

/-- The name of the type of whole numbers of any size. -/
def bigintName : String := "bigint"

/-- The type of values that are no tuples. Whole numbers of every width become `bigint`, so
that none loses digits. -/
def BaseType.primitive? : BaseType → Option Ty
  | bool => some ⟨"boolean", 0⟩
  | bytes => some ⟨"string", 0⟩
  | fixedBytes _ => some ⟨"string", 0⟩
  | unsigned _ => some ⟨bigintName, 0⟩
  | signed _ => some ⟨bigintName, 0⟩
  | string => some ⟨"string", 0⟩
  | address => some ⟨"string", 0⟩
  | tuple => none

/-! ### Interfaces -/

/-- One property of an interface. -/
structure Field where
  name : String
  ty : Ty
  optional : Bool
deriving Repr, DecidableEq, Inhabited

/-- Where an interface comes from: a struct, the outputs of a function, or the module itself. -/
inductive Origin where
  | struct
  | result
  | builtin
deriving Repr, DecidableEq, Inhabited

/-- A named interface. -/
structure Interface where
  name : String
  fields : List Field
  origin : Origin
deriving Repr, DecidableEq, Inhabited

/-- The shape of an interface, whatever its name and the order of its fields. -/
def fieldSignature (fields : List Field) : List (String × String) :=
  inOrder pairLe (fields.map fun field => (field.name, field.ty.text))

/-- The shape of an interface. -/
def Interface.signature (interface : Interface) : List (String × String) :=
  fieldSignature interface.fields

/-- The type of the first field with the given name. -/
def Interface.fieldType? (interface : Interface) (name : String) : Option Ty :=
  (interface.fields.find? (·.name == name)).map (·.ty)

end ContractClient
