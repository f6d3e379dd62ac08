/-
This file holds the values that ABI files, compiler answers and settings are made of. The
members of an object keep their order, a whole number is told apart from a floating-point number
of the same size, and the latter is held as its bits.
-/

namespace ContractClient

/-- A JSON value. -/
inductive Json where
  | null
  | boolean (value : Bool)
  | integer (value : Int)
  | float (bits : UInt64)
  | text (value : String)
  | array (items : List Json)
  | object (members : List (String × Json))
deriving Inhabited, BEq, Repr

namespace Json

/-- Whether the value says nothing: null, false, a zero, or an empty text, list or object. -/
def isVacant : Json → Bool
  | null => true
  | boolean value => !value
  | integer value => value == 0
  | float bits => bits == 0 || bits == 0x8000000000000000
  | text value => value == ""
  | array items => items.isEmpty
  | object members => members.isEmpty

/-- The name of the kind of value, as messages give it. -/
def kindName : Json → String
  | null => "NoneType"
  | boolean _ => "bool"
  | integer _ => "int"
  | float _ => "float"
  | text _ => "str"
  | array _ => "list"
  | object _ => "dict"

/-- The characters of a value that is a text. -/
def text? : Json → Option String
  | text value => some value
  | _ => none

/-- The value of the first member with the given key. -/
def member? (members : List (String × Json)) (key : String) : Option Json :=
  members.lookup key

/-- The members with the key set to the value: in its old place if the key is there, at the end
if it is not. -/
def setMember (members : List (String × Json)) (key : String) (value : Json) :
    List (String × Json) :=
  match members with
  | [] => [(key, value)]
  | (first, old) :: rest =>
    if first = key then (key, value) :: rest
    else (first, old) :: setMember rest key value

/-- The members with every key once: at its first place, with its last value. -/
def uniqueMembers (members : List (String × Json)) : List (String × Json) :=
  members.foldl (fun kept entry => setMember kept entry.1 entry.2) []

end Json

end ContractClient
