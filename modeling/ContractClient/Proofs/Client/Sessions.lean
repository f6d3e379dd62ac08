/-
This file follows a synthesizer through any calls that are made on it. Names are planned, methods
are put together, arguments and types are asked for; some of the calls fail, and leave behind what
they had done by then.

Whatever is called, the registry stays sound and keeps its levels, and the only marks of overloads
are those of the names that some one plan listed more than once (`afterTasks_stands`).
-/

import ContractClient.Proofs.Client.Built

namespace ContractClient

/-! ### Calls on a synthesizer -/

/-- One call on a synthesizer or on what it works with. -/
inductive Task where
  /-- Method names are planned for the functions among the members. -/
  | plan (members : List Member)
  /-- The method name of a function is asked for. -/
  | methodName (function : Member)
  /-- The method of a function, or the `deploy` of a constructor, is put together. -/
  | synthesize (member : Member)
  /-- The `deploy` of a contract without a constructor is put together. -/
  | deploy
  /-- The arguments for the parameters of a member are named and typed. -/
  | arguments (member : String) (parameters : List Parameter)
  /-- The type of what a member gives back is asked for. -/
  | returnType (member : String) (outputs : List Parameter)
  /-- The registry is called. -/
  | register (call : Call)
  /-- The lines that follow are to stand at another level. -/
  | indent (level : Int)

/-- Puts the method of a function together, or the `deploy` of a constructor. -/
def synthesizeMember (member : Member) : Building Unit := do
  if member.kind = .constructor then
    let _ ← buildDeploy (some member)
  else
    let _ ← buildMethod member

/-- Does what is called for. -/
def Task.perform : Task → Building Unit
  | plan members => Pass.planNames members
  | methodName function => do
    let _ ← Pass.methodName function
  | synthesize member => synthesizeMember member
  | deploy => do
    let _ ← buildDeploy none
  | arguments member parameters => do
    let _ ← buildArguments member parameters
  | returnType member outputs => do
    let _ ← ContractClient.returnType member outputs
  | register call => do
    let _ ← Pass.registering call.perform
  | indent level => modify fun pass => { pass with level := level }

/-- The pass after calls that are made one after the other, whether they succeed or not. -/
def afterTasks : List Task → Pass → Pass
  | [], pass => pass
  | task :: rest, pass => afterTasks rest (task.perform pass).2

/-- The pass before any call, where so many levels of tuples can be mapped. -/
def Pass.startWithin (levels : Nat) (contract : Json) (style : Style) (collector : Collector) :
    Pass :=
  { start contract style collector with
    registry := .freshWithin levels (style.reservedNames contract.display) style.resultSuffix
      contract collector }

/-- The names of functions that the call marks as shared. -/
def Task.marks : Task → List String
  | plan members => MethodPlan.repeatedNames ((functionsAmong members).map Member.name)
  | _ => []

/-! ### What every call keeps -/

/-- The registry of the pass is sound and has the levels, and the functions with the marks are
called by their signatures. -/
structure Pass.Stands (reserved : List String) (levels : Nat) (marks : List String) (pass : Pass) :
    Prop where
  sound : pass.registry.Sound reserved
  levels : pass.registry.levels = levels
  marks : pass.plan.overloaded = marks

theorem Pass.startWithin_stands (levels : Nat) (contract : Json) (style : Style)
    (collector : Collector) :
    (startWithin levels contract style collector).Stands
      (style.reservedNames contract.display) levels [] :=
  ⟨Registry.freshWithin_sound _ _ _ _ _, rfl, rfl⟩

section

variable {reserved : List String} {levels : Nat} {marks : List String}

/-- A step on the registry that keeps it sound, and what it was made with. -/
theorem registering_maintains {α : Type} {step : Registering α}
    (sound : ∀ registry, registry.Sound reserved → (step registry).2.Sound reserved)
    (keeps : ∀ registry : Registry, registry.Keeps (step registry).2) :
    Maintains (Pass.Stands reserved levels marks) (Pass.registering step) :=
  fun pass stands =>
    ⟨sound pass.registry stands.sound, (keeps pass.registry).levels.trans stands.levels,
      stands.marks⟩

theorem resolveParameter_maintains (member : String) (parameter : Parameter) :
    Maintains (Pass.Stands reserved levels marks)
      (Pass.registering (resolveParameter member parameter)) :=
  registering_maintains (fun _ sound => (resolveParameter_yields sound member parameter).sound)
    fun _ => (resolveParameter_checks member parameter).keeps

theorem resolveResult_maintains (member : String) (outputs : List Parameter) :
    Maintains (Pass.Stands reserved levels marks)
      (Pass.registering (resolveResult member outputs)) :=
  registering_maintains (fun _ sound => (resolveResult_yields sound member outputs).sound)
    fun _ => (resolveResult_checks member outputs).keeps

theorem useImport_maintains (module : Json) (names : List String) :
    Maintains (Pass.Stands reserved levels marks) (Pass.useImport module names) :=
  (Maintains.lift _).bind fun _ => .modify fun _ ⟨sound, same, marked⟩ => ⟨sound, same, marked⟩

theorem requireLines_maintains (depths : List Nat) :
    Maintains (Pass.Stands reserved levels marks) (Pass.requireLines depths) :=
  .look fun _ => .lift _

/-- A name that is asked for is planned alone, if it was not before; this marks none. -/
theorem methodName_maintains (function : Member) :
    Maintains (Pass.Stands reserved levels marks) (Pass.methodName function) := by
  have planned : Maintains (Pass.Stands reserved levels marks)
      (modify fun pass => pass.planMethods [function] : Building Unit) := by
    refine .modify fun pass stands => ?_
    have continues : pass.Continues reserved (pass.planMethods [function]) :=
      planMethods_singleton_continues function
    refine ⟨continues.sound stands.sound, ?_, continues.overloaded.trans stands.marks⟩
    rw [planMethods_eq]
    exact stands.levels
  unfold Pass.methodName
  refine (Maintains.lift _).bind fun _ => .look fun pass => ?_
  by_cases unplanned : (pass.plan.nameOf? function.signature).isNone
  · rw [if_pos unplanned]
    refine planned.bind fun _ => .look fun after => ?_
    cases after.plan.nameOf? function.signature with
    | none => exact .throw _
    | some name => exact .pure name
  · rw [if_neg unplanned]
    refine .look fun after => ?_
    cases after.plan.nameOf? function.signature with
    | none => exact .throw _
    | some name => exact .pure name

/-! ### Building -/

theorem buildArguments_maintains (member : String) (parameters : List Parameter) :
    Maintains (Pass.Stands reserved levels marks) (buildArguments member parameters) := by
  unfold buildArguments
  refine .mapM (fun entry : String × Parameter => ?_) _
  exact (resolveParameter_maintains member entry.2).bind fun _ => .pure _

theorem returnType_maintains (member : String) :
    ∀ outputs : List Parameter,
      Maintains (Pass.Stands reserved levels marks) (returnType member outputs)
  | [] => .pure _
  | [output] => resolveParameter_maintains member output
  | first :: second :: rest =>
    (resolveResult_maintains member (first :: second :: rest)).bind fun _ => .pure _

theorem rebuildFields_maintains (shape : Interface) (names : List String) (index : Nat) :
    Maintains (Pass.Stands reserved levels marks) (rebuildFields shape index names) := by
  induction names generalizing index with
  | nil => exact .pure []
  | cons name rest inductionHypothesis =>
    refine .look fun pass => (Maintains.lift _).bind fun _ => ?_
    refine (requireLines_maintains _).bind fun _ => ?_
    exact (inductionHypothesis _).bind fun _ => .pure _

theorem buildAnswer_maintains (function : Member) (ty : Ty) :
    Maintains (Pass.Stands reserved levels marks) (buildAnswer function ty) := by
  unfold buildAnswer
  refine .look fun pass => ?_
  split
  · exact (requireLines_maintains _).bind fun _ => .pure _
  · exact (requireLines_maintains _).bind fun _ => (Maintains.lift _).bind fun _ => .pure _
  · cases found : pass.registry.find? ty.text with
    | none =>
      simp only [found]
      exact .throw _
    | some shape =>
      simp only [found]
      exact (requireLines_maintains _).bind fun _ =>
        (rebuildFields_maintains _ _ _).bind fun _ => .pure _

theorem buildCall_maintains (function : Member) :
    Maintains (Pass.Stands reserved levels marks) (buildCall function) := by
  unfold buildCall
  refine .look fun pass => ?_
  split
  · refine (returnType_maintains _ _).bind fun ty => ?_
    refine (useImport_maintains _ _).bind fun _ => ?_
    refine (buildAnswer_maintains function ty).bind fun _ => ?_
    exact (requireLines_maintains _).bind fun _ => .pure _
  · refine (Maintains.lift _).bind fun _ => ?_
    refine (useImport_maintains _ _).bind fun _ => (useImport_maintains _ _).bind fun _ => ?_
    exact (requireLines_maintains _).bind fun _ => .pure _

theorem buildMethod_maintains (function : Member) :
    Maintains (Pass.Stands reserved levels marks) (buildMethod function) := by
  unfold buildMethod
  refine (buildArguments_maintains _ _).bind fun _ => ?_
  refine (methodName_maintains function).bind fun _ => ?_
  exact (buildCall_maintains function).bind fun _ => .look fun _ => .pure _

theorem buildDeploy_maintains (constructor : Option Member) :
    Maintains (Pass.Stands reserved levels marks) (buildDeploy constructor) := by
  have rest : ∀ (pass : Pass) (arguments : List Argument),
      Maintains (Pass.Stands reserved levels marks) (do
        Pass.useImport pass.style.contractModule ["Contract", "SendOptions"]
        modify fun pass => { pass with hasDeploy := true }
        Pass.requireLines [0, 1, 2]
        return arguments : Building (List Argument)) := by
    intro pass arguments
    refine (useImport_maintains _ _).bind fun _ => ?_
    refine Maintains.bind (.modify fun _ ⟨sound, same, marked⟩ => ⟨sound, same, marked⟩)
      fun _ => ?_
    exact (requireLines_maintains _).bind fun _ => .pure _
  unfold buildDeploy
  refine .look fun pass => .unless ?_
  cases constructor with
  | none => exact rest pass []
  | some member =>
    exact (buildArguments_maintains _ _).bind fun arguments => rest pass arguments

theorem synthesizeMember_maintains (member : Member) :
    Maintains (Pass.Stands reserved levels marks) (synthesizeMember member) := by
  unfold synthesizeMember
  split
  · exact (buildDeploy_maintains (some member)).dropping
  · exact (buildMethod_maintains member).dropping

/-! ### Any number of calls -/

theorem planNames_stands (members : List Member) {pass : Pass}
    (stands : pass.Stands reserved levels marks) :
    (Pass.planNames members pass).2.Stands reserved levels
      (marks ++ (Task.plan members).marks) := by
  obtain ⟨sound, same, rfl⟩ := stands
  unfold Pass.planNames
  cases (functionsAmong members).forM Member.requireSignature with
  | ok _ =>
    show (pass.planMethods members).Stands reserved levels _
    rw [planMethods_eq]
    exact ⟨sound.telling _, same, MethodPlan.extend_overloaded members pass.plan⟩
  | error fault =>
    exact ⟨sound, same, MethodPlan.grantWishes_overloaded _ (pass.plan.mark _)⟩

/-- Whatever is called for, and however it ends, only a plan marks names. -/
theorem Task.perform_stands (task : Task) {pass : Pass}
    (stands : pass.Stands reserved levels marks) :
    (task.perform pass).2.Stands reserved levels (marks ++ task.marks) := by
  have keeps : ∀ {step : Building Unit}, Maintains (Pass.Stands reserved levels marks) step →
      (step pass).2.Stands reserved levels (marks ++ []) := by
    intro step maintains
    rw [List.append_nil]
    exact maintains pass stands
  cases task with
  | plan members => exact planNames_stands members stands
  | methodName function => exact keeps (methodName_maintains function).dropping
  | synthesize member => exact keeps (synthesizeMember_maintains member)
  | deploy => exact keeps (buildDeploy_maintains none).dropping
  | arguments member parameters => exact keeps (buildArguments_maintains member parameters).dropping
  | returnType member outputs => exact keeps (returnType_maintains member outputs).dropping
  | register call =>
    refine keeps (Maintains.dropping ?_)
    exact registering_maintains (fun _ sound => (call.perform_yields sound).sound)
      fun _ => call.perform_checks.keeps
  | indent level =>
    exact keeps (.modify fun _ ⟨sound, same, marked⟩ => ⟨sound, same, marked⟩)

/-- After any calls the registry is sound and has its levels, and the marked names are those that
the plans have marked. -/
theorem afterTasks_stands (tasks : List Task) {pass : Pass}
    (stands : pass.Stands reserved levels marks) :
    (afterTasks tasks pass).Stands reserved levels (marks ++ tasks.flatMap Task.marks) := by
  induction tasks generalizing pass marks with
  | nil => exact (List.append_nil marks).symm ▸ stands
  | cons task rest inductionHypothesis =>
    have after := inductionHypothesis (task.perform_stands stands)
    rw [List.append_assoc] at after
    exact after

end

end ContractClient
