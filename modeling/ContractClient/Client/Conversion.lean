/-
This file rebuilds the raw results of calls. A call gives whole numbers as texts; where the type
of the result holds whole numbers, at any depth of lists and structs, the raw value is taken
apart and put together again with every such text made a number. A value without whole numbers
stays as it is.

Interfaces refer to one another, and nothing keeps a struct of an odd name from referring to
itself. The depth is therefore bounded by the number of interfaces; a chain longer than that
repeats itself and would never end.
-/

import ContractClient.Registry
import ContractClient.TypeScript.Expr

namespace ContractClient

/-- The interface of a name among those given. -/
def findInterface? (interfaces : List Interface) (name : String) : Option Interface :=
  interfaces.find? (·.name == name)

/-- Whether any item passes the test; later items are not tested once one has passed. -/
def anyPasses {α : Type} (test : α → Except Fault Bool) : List α → Except Fault Bool
  | [] => .ok false
  | item :: rest =>
    match test item with
    | .error fault => .error fault
    | .ok true => .ok true
    | .ok false => anyPasses test rest

/-- Whether values of the named type hold whole numbers. -/
def holdsNumbers (interfaces : List Interface) : Nat → String → Except Fault Bool
  | 0, _ => .error (.defect .endless)
  | steps + 1, name =>
    if name = bigintName then .ok true
    else
      match findInterface? interfaces name with
      | none => .ok false
      | some interface =>
        anyPasses (fun field => holdsNumbers interfaces steps field.ty.base) interface.fields

/-- The name of the item at the given depth of lists. -/
def itemName (depth : Int) : String :=
  if depth = 0 then "e" else "e" ++ toString depth

/-- Rebuilds a list of the given rank, whose items at the bottom are rebuilt by `bottom`. -/
def convertList (bottom : Int → Expr → Except Fault Expr) :
    Nat → Int → Expr → Except Fault Expr
  | 0, depth, value => bottom depth value
  | rank + 1, depth, value => do
    let item := itemName depth
    let image ← convertList bottom rank (depth + 1) (.variable item)
    return .map value item image

/-- Rebuilds a value of the given type at the given depth of lists. -/
def convertWithin (interfaces : List Interface) : Nat → Ty → Int → Expr → Except Fault Expr
  | 0, _, _, _ => .error (.defect .endless)
  | steps + 1, ty, depth, value => do
    if ← holdsNumbers interfaces (interfaces.length + 1) ty.base then
      convertList
        (fun depth value =>
          if ty.base = bigintName then return .bigInt value
          else do
            let fields := ((findInterface? interfaces ty.base).map (·.fields)).getD []
            let properties ← fields.mapM fun field => do
              let rebuilt ←
                convertWithin interfaces steps field.ty depth (.property value field.name)
              return (field.name, rebuilt)
            return .object properties)
        ty.rank depth value
    else return value

/-- Rebuilds a raw value of the given type at the given depth of lists. -/
def convertResult (interfaces : List Interface) (value : Expr) (ty : Ty) (depth : Int) :
    Except Fault Expr :=
  convertWithin interfaces (interfaces.length + 1) ty depth value

/-! ### Limits -/

/-- How far down a value can be taken apart. -/
def convertibleDepth : Nat := 987

/-- Looks for whole numbers in values of a type within the given depth, under at most the given
number of structs. Each pair of brackets lies one step down, and what stands in front of them
another; where that is the name of an interface, it and the types of its fields lie two steps
further down. -/
def searchNumbers (interfaces : List Interface) : Nat → Nat → Ty → Except Fault Bool
  | 0, _, _ => .error (.defect .tooDeep)
  | structs + 1, depth, ty =>
    if ty.base = bigintName then
      if ty.rank < depth then .ok true else .error (.defect .tooDeep)
    else if depth < ty.rank + 3 then .error (.defect .tooDeep)
    else
      match findInterface? interfaces ty.base with
      | none => .ok false
      | some interface =>
        anyPasses (fun field => searchNumbers interfaces structs (depth - ty.rank - 3) field.ty)
          interface.fields

/-- Fails unless values of a type can be taken apart within the given depth, of which each pair of
brackets takes one step and a struct takes two, and under at most the given number of structs. At
each type on the way down, numbers are looked for. The first way that is too deep ends it all; a
type that comes back to itself always has one. -/
def requireConvertible (interfaces : List Interface) : Nat → Nat → Ty → Except Fault Unit
  | 0, _, _ => .error (.defect .tooDeep)
  | structs + 1, depth, ty => do
    let holds ← searchNumbers interfaces (structs + 1) (depth - 1) ty
    if holds && ty.base != bigintName then
      let fields := ((findInterface? interfaces ty.base).map (·.fields)).getD []
      fields.forM fun field =>
        requireConvertible interfaces structs (depth - ty.rank - 2) field.ty

/-- Rebuilds a raw value of the given type, unless the type is nested too deep. -/
def rebuildResult (interfaces : List Interface) (value : Expr) (ty : Ty) (depth : Int) :
    Except Fault Expr := do
  requireConvertible interfaces convertibleDepth convertibleDepth ty
  convertResult interfaces value ty depth

end ContractClient
