/-
This file maps the types of an ABI to TypeScript types and collects the interfaces that they
need. Structs and results of equal shape share one interface; interfaces of different shapes
never share a name. Nested structs come before the ones that hold them, and what was registered
before a failure stays.
-/

import ContractClient.Abi.Nesting
import ContractClient.Diagnostic
import ContractClient.Fault
import ContractClient.Naming.Derived
import ContractClient.TypeScript.Basic

namespace ContractClient

/-! ### Registries -/

/-- The interfaces of one pass in the order of their discovery, the index that finds them by their
shapes, the names that are not free, the levels of tuples that can be mapped, the suffix of result
names, the contract of the pass, and whoever is told of changed names. -/
structure Registry where
  interfaces : List Interface
  index : List (List (String × String) × Interface)
  taken : List String
  levels : Nat
  resultSuffix : String
  contract : Json
  collector : Collector
deriving Inhabited

/-- Steps that may register interfaces and may fail; a failure keeps what was registered. -/
abbrev Registering := ExceptT Fault (StateM Registry)

namespace Registry

/-- The registry without interfaces, with the given names reserved. -/
def fresh (reserved : List String) (resultSuffix : String) (contract : Json)
    (collector : Collector) : Registry :=
  { interfaces := []
    index := []
    taken := reserved
    levels := mappableLevels
    resultSuffix := resultSuffix
    contract := contract
    collector := collector }

/-- The interface with the given name. -/
def find? (registry : Registry) (name : String) : Option Interface :=
  registry.interfaces.find? (·.name == name)

/-- The interface of the given shape. -/
def shaped? (registry : Registry) (signature : List (String × String)) : Option Interface :=
  registry.index.lookup signature

/-- The registry with a new interface under the requested name or the next free one. -/
def insert (registry : Registry) (requested : String) (fields : List Field) (origin : Origin) :
    String × Registry :=
  let name := freeName registry.taken requested
  let interface : Interface := ⟨name, fields, origin⟩
  let collector :=
    if name = requested then registry.collector
    else registry.collector.add (.interfaceRenamed requested name registry.contract)
  (name,
    { registry with
      interfaces := registry.interfaces ++ [interface]
      index := (interface.signature, interface) :: registry.index
      taken := name :: registry.taken
      collector := collector })

/-- The name of the interface with these fields, which is registered if its shape is new. -/
def register (requested : String) (fields : List Field) (origin : Origin) : Registering String := do
  if ¬ (fields.map (·.name)).Nodup then throw (.shape (.duplicateFields requested))
  let registry ← get
  match registry.shaped? (fieldSignature fields) with
  | some existing => return existing.name
  | none =>
    let (name, grown) := registry.insert requested fields origin
    set grown
    return name

end Registry

/-! ### Structs -/

/-- Fails at the first field without a name. -/
def requireNames (declared : String) (fields : List Field) : Except Fault Unit :=
  match fields.findIdx? (·.name == "") with
  | some index => .error (.shape (.unnamedField index declared))
  | none => .ok ()

/-- The name of the interface for a struct whose fields are mapped already. -/
def registerStruct (declared : String) (fields : List Field) : Registering String := do
  requireNames declared fields
  let name ← structName declared
  Registry.register name fields .struct

/-- Runs the step; if it meets an unsupported type, the place is filled in. -/
def locating {α : Type} (member parameter : String) (step : Registering α) : Registering α :=
  fun registry =>
    match step registry with
    | (.error fault, after) => (.error (fault.locate member parameter), after)
    | (.ok value, after) => (.ok value, after)

/-- The tag, or the fault that it is not supported or has too long a number. -/
def requireTag (text : String) : Except Fault TypeTag :=
  match TypeTag.parse text with
  | .ok tag => .ok tag
  | .error .unsupported => .error (.unsupportedType text "" "")
  | .error .longNumber => .error (.defect .longNumber)

mutual

/-- The TypeScript type of a parameter, below which the given levels are left. An unsupported type
is reported with the member, and with the innermost parameter or component that has a name. -/
def mapParameter (levels : Nat) (member : String) : Parameter → Registering Ty
  | ⟨name, text, internalType, components⟩ => locating member name do
    let tag ← requireTag text
    match tag.base.primitive? with
    | some ty => return ty.arrays tag.dimensions.length
    | none =>
      let struct ← mapTuple levels name internalType components
      return (Ty.ofText struct).arrays tag.dimensions.length
termination_by structural parameter => parameter

/-- The name of the interface for a tuple with the given components. -/
def mapTuple (levels : Nat) (name internalType : String) :
    Option (List Parameter) → Registering String
  | none => throw (.shape (.tupleWithoutComponents name))
  | some components => do
    if components.isEmpty then throw (.shape (.tupleWithoutComponents name))
    let declared ← declaredName internalType name
    let below ← levelBelow levels
    let fields ← mapFields below components
    registerStruct declared fields
termination_by structural components => components

/-- The fields for the components of a tuple, in their order. -/
def mapFields (levels : Nat) : List Parameter → Registering (List Field)
  | [] => return []
  | component :: rest => do
    let ty ← mapParameter levels "" component
    let fields ← mapFields levels rest
    return ⟨component.name, ty, false⟩ :: fields
termination_by structural components => components

end

/-- The TypeScript type of a parameter of a member. -/
def resolveParameter (member : String) (parameter : Parameter) : Registering Ty := do
  mapParameter (← get).levels member parameter

/-- The TypeScript type of a tag, whose tuple components the parameter holds. -/
def mapTag (text : String) (parameter : Option Parameter) : Registering Ty := do
  let tag ← requireTag text
  match tag.base.primitive? with
  | some ty => return ty.arrays tag.dimensions.length
  | none =>
    match parameter with
    | none => throw (.shape .tupleWithoutParameter)
    | some parameter =>
      let levels := (← get).levels
      let struct ← mapTuple levels parameter.name parameter.internalType parameter.components
      return (Ty.ofText struct).arrays tag.dimensions.length

/-- The TypeScript type of a tag where no interface can be registered. -/
def mapTagAlone (text : String) (parameter : Option Parameter) : Except Fault Ty := do
  let tag ← requireTag text
  match tag.base.primitive? with
  | some ty => return ty.arrays tag.dimensions.length
  | none =>
    match parameter with
    | none => throw (.shape .tupleWithoutParameter)
    | some parameter =>
      if (parameter.components.getD []).isEmpty then
        throw (.shape (.tupleWithoutComponents parameter.name))
      else throw (.shape (.tupleWithoutRegistry parameter.name))

/-- The name of the interface for a declared struct with the given components. -/
def resolveStruct (declared : String) (components : List Parameter) : Registering String := do
  if components.isEmpty then throw (.shape (.structWithoutFields declared))
  let fields ← mapFields (← get).levels components
  registerStruct declared fields

/-! ### Results -/

/-- The fields of a result: the names beside the types of the outputs. -/
def mapOutputs (member : String) : List String → List Parameter → Registering (List Field)
  | name :: names, output :: outputs => do
    let ty ← resolveParameter member output
    let fields ← mapOutputs member names outputs
    return ⟨name, ty, false⟩ :: fields
  | _, _ => return []

/-- The name of the interface for a function with two outputs or more. -/
def resolveResult (member : String) (outputs : List Parameter) : Registering String := do
  if member == "" then throw (.shape .resultWithoutMember)
  if outputs.length < 2 then throw (.shape (.resultTooSmall member outputs.length))
  let fields ← mapOutputs member (outputFieldNames outputs) outputs
  let name ← resultName (← get).resultSuffix member
  Registry.register name fields .result

/-! ### Checking without registering -/

mutual

/-- Fails where the parameter has an unsupported type, or is a tuple without components. -/
def checkParameter (member : String) : Parameter → Except Fault Unit
  | ⟨name, text, _, components⟩ => do
    let tag ← (requireTag text).mapError (Fault.locate member name)
    if tag.base = .tuple then checkComponents member name components
termination_by structural parameter => parameter

/-- Checks the components of a tuple, which must have some. -/
def checkComponents (member name : String) : Option (List Parameter) → Except Fault Unit
  | none => throw (.shape (.outputWithoutComponents name member))
  | some components => do
    if components.isEmpty then throw (.shape (.outputWithoutComponents name member))
    checkParameters member components
termination_by structural components => components

/-- Checks parameters in their order. -/
def checkParameters (member : String) : List Parameter → Except Fault Unit
  | [] => return ()
  | parameter :: rest => do
    checkParameter member parameter
    checkParameters member rest
termination_by structural parameters => parameters

end

end ContractClient
