/-
This file holds the state of the generation of one module: the interfaces, the imports and the
method names found so far. A step that fails leaves what was found before.
-/

import ContractClient.Client.Imports
import ContractClient.Client.MethodPlan
import ContractClient.Registry

namespace ContractClient

/-- The state of the generation of one module, with the level that methods stand at. -/
structure Pass where
  contract : Json
  style : Style
  level : Int
  registry : Registry
  imports : Imports
  plan : MethodPlan
  hasDeploy : Bool
deriving Inhabited

/-- Steps of a generation. -/
abbrev Building := ExceptT Fault (StateM Pass)

namespace Pass

/-- The start of the generation for a contract. -/
def start (contract : Json) (style : Style) (collector : Collector) : Pass :=
  { contract := contract
    style := style
    level := 0
    registry := .fresh (style.reservedNames contract.display) style.resultSuffix contract collector
    imports := []
    plan := .empty
    hasDeploy := false }

/-- Whoever listens to the notices. -/
def collector (pass : Pass) : Collector :=
  pass.registry.collector

/-- The name of the client class. -/
def className (pass : Pass) : String :=
  pass.style.className pass.contract.display

/-- The pass after one more notice. -/
def notice (pass : Pass) (notice : Notice) : Pass :=
  { pass with registry := { pass.registry with collector := pass.registry.collector.add notice } }

/-- The pass with method names for the functions among the members; each renaming is noticed. -/
def planMethods (pass : Pass) (members : List Member) : Pass :=
  let (plan, renamed) := pass.plan.extend members
  renamed.foldl
    (fun pass entry => pass.notice (.overloadRenamed entry.1 entry.2 pass.contract))
    { pass with plan := plan }

/-- Plans method names for the functions among the members, unless the signature of one of them
cannot be spelled out. -/
def planNames (members : List Member) : Building Unit := do
  match (functionsAmong members).forM Member.requireSignature with
  | .ok () => modify fun pass => pass.planMethods members
  | .error fault =>
    modify fun pass => { pass with plan := pass.plan.extendPartly members }
    throw fault

/-- A step on the registry as a step of the generation. -/
def registering {α : Type} (step : Registering α) : Building α :=
  fun pass =>
    let (result, registry) := step pass.registry
    (result, { pass with registry := registry })

/-- Imports more names from a module. -/
def useImport (module : Json) (names : List String) : Building Unit := do
  requireModuleName module
  modify fun pass => { pass with imports := pass.imports.use module names }

/-- Fails if lines cannot be indented that stand deeper than the methods by the given depths. -/
def requireLines (depths : List Nat) : Building Unit := do
  let pass ← get
  pass.style.requireIndentation (depths.map fun depth => pass.level + Int.ofNat depth)

/-- The method name of a function, which is planned now if it was not before. -/
def methodName (member : Member) : Building String := do
  member.requireSignature
  if ((← get).plan.nameOf? member.signature).isNone then
    modify fun pass => pass.planMethods [member]
  match (← get).plan.nameOf? member.signature with
  | some name => return name
  | none => throw (.defect .notPlanned)

end Pass

end ContractClient
