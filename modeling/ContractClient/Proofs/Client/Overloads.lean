/-
This file says when the method of an overloaded function calls it by its signature. The name of the
function is not enough where the contract has another one of that name; but only a plan that lists
both of them marks the name as shared. Functions that are planned one after the other, or when they
are asked for, get method names of their own, and are still called by the one name that they share
(`overloadsBySignature_iff`).
-/

import ContractClient.Proofs.Client.FirstNames
import ContractClient.Proofs.Client.Sessions

namespace ContractClient

/-! ### Calls by signature -/

/-- The method calls the function by its signature. -/
def Method.CallsBySignature (function : Member) (method : Method) : Prop :=
  method.invocation =
    "this.contract!.methods['" ++ function.signature ++ "'](" ++ passedNames method.arguments ++ ")"

theorem Method.callsBySignature_of_accessor {function : Member} {method : Method}
    (accessor : method.accessor = .bySignature function.signature) :
    method.CallsBySignature function := by
  have opening : "this.contract!.methods['" = "this.contract!.methods" ++ "['" := by decide
  have closing : "'](" = "']" ++ "(" := by decide
  unfold CallsBySignature invocation
  simp only [accessor, Accessor.text, opening, closing, String.append_assoc]

/-- A dot is no bracket. -/
theorem Method.not_callsBySignature_of_accessor {function : Member} {method : Method}
    {name : String} (accessor : method.accessor = .byName name) :
    ¬method.CallsBySignature function := by
  have opening : "this.contract!.methods['" = "this.contract!.methods" ++ "['" := by decide
  unfold CallsBySignature invocation
  simp only [accessor, Accessor.text, opening, String.append_assoc, String.append_right_inj]
  intro same
  have characters := congrArg String.toList same
  simp at characters

/-! ### Names that are marked -/

/-- One of the plans among the calls lists several functions of the name. -/
def PlannedTogether (tasks : List Task) (name : String) : Prop :=
  ∃ members, .plan members ∈ tasks ∧ 1 < ((functionsAmong members).map Member.name).count name

theorem mem_marks_iff {tasks : List Task} {name : String} :
    name ∈ tasks.flatMap Task.marks ↔ PlannedTogether tasks name := by
  rw [List.mem_flatMap]
  constructor
  · rintro ⟨task, isTask, marked⟩
    cases task with
    | plan members => exact ⟨members, isTask, MethodPlan.mem_repeatedNames.mp marked⟩
    | _ => cases marked
  · rintro ⟨members, isTask, several⟩
    exact ⟨.plan members, isTask, MethodPlan.mem_repeatedNames.mpr several⟩

/-- After any calls, the method of a function calls it by its signature exactly if one of them was
a plan that lists several functions of its name. -/
theorem callsBySignature_iff {levels : Nat} {contract : Json} {style : Style}
    {collector : Collector} {tasks : List Task} {function : Member} {method : Method} {after : Pass}
    (builds : buildMethod function
      (afterTasks tasks (.startWithin levels contract style collector)) = (.ok method, after)) :
    method.CallsBySignature function ↔ PlannedTogether tasks function.name := by
  have stands := afterTasks_stands tasks
    (Pass.startWithin_stands levels contract style collector)
  generalize afterTasks tasks (.startWithin levels contract style collector) = reached
    at stands builds
  have gives : Gives (style.reservedNames contract.display) reached (buildMethod function) _ :=
    buildMethod_gives function
  obtain ⟨continues, isFor, _⟩ := gives method after builds
  have accessor := isFor.accessor
  rw [MethodPlan.accessor, continues.overloaded, stands.marks, List.nil_append] at accessor
  rw [← mem_marks_iff, ← List.contains_iff_mem]
  split at accessor
  · rename_i marked
    exact iff_of_true (Method.callsBySignature_of_accessor accessor) marked
  · rename_i unmarked
    exact iff_of_false (Method.not_callsBySignature_of_accessor accessor) unmarked

/-! ### Overloads in a session -/

/-- The functions that a call plans. -/
def Task.functions : Task → List Member
  | plan members => functionsAmong members
  | methodName function => functionsAmong [function]
  | synthesize member => functionsAmong [member]
  | _ => []

/-- Among the calls, the method of the function is put together after the earlier ones, which have
planned the function, and another one of its name. -/
structure SynthesizedLater (start : Pass) (tasks earlier : List Task) (function : Member) :
    Prop where
  isFunction : function.kind = .function
  follows : earlier ++ [.synthesize function] <+: tasks
  planned : (afterTasks earlier start).plan.Knows function.signature
  shared : ∃ other ∈ earlier.flatMap Task.functions, other.name = function.name ∧
    other.signature ≠ function.signature ∧
    (afterTasks earlier start).plan.Knows other.signature

/-- Whenever two functions of one name have been planned, every method that is put together for one
of them later on calls it by its signature. -/
def OverloadsBySignature (start : Pass) (tasks : List Task) : Prop :=
  ∀ earlier function, SynthesizedLater start tasks earlier function →
    ∀ method after, buildMethod function (afterTasks earlier start) = (.ok method, after) →
      method.CallsBySignature function

/-- In a session from the start on, overloads are called by their signatures exactly if their name
was listed more than once in one plan before, whenever a method is put together for one. -/
theorem overloadsBySignature_iff (levels : Nat) (contract : Json) (style : Style)
    (collector : Collector) (tasks : List Task) :
    let start := Pass.startWithin levels contract style collector
    OverloadsBySignature start tasks ↔
      ∀ earlier function, SynthesizedLater start tasks earlier function →
        ∀ method after, buildMethod function (afterTasks earlier start) = (.ok method, after) →
          PlannedTogether earlier function.name := by
  intro start
  constructor
  · intro bySignature earlier function later method after builds
    exact (callsBySignature_iff builds).mp (bySignature earlier function later method after builds)
  · intro together earlier function later method after builds
    exact (callsBySignature_iff builds).mpr (together earlier function later method after builds)

/-- Two functions of one name, each of them planned alone, and then the method of the second. -/
def separatePlans : List Task :=
  [.plan [query "f" ["uint256"]], .plan [query "f" ["address"]],
    .synthesize (query "f" ["address"])]

/-- The second function gets a method name of its own, and is called by the name of the first. -/
theorem separatePlans_byName :
    let start := Pass.startWithin mappableLevels (.text "Token") Options.standard.style (.keeping [])
    (∃ method after,
      buildMethod (query "f" ["address"]) (afterTasks (separatePlans.take 2) start) =
        (.ok method, after) ∧
      method.name = "f_2" ∧ method.invocation = "this.contract!.methods.f(arg0)") ∧
      ¬OverloadsBySignature start separatePlans := by
  intro start
  have builds : endsWell (fun method _ => decide (method.name = "f_2" ∧
        method.invocation = "this.contract!.methods.f(arg0)" ∧ method.accessor = .byName "f"))
      (buildMethod (query "f" ["address"]) (afterTasks (separatePlans.take 2) start)) := by
    decide +kernel
  obtain ⟨method, after, builds, isMethod⟩ := exists_of_endsWell builds
  obtain ⟨named, invokes, accessor⟩ := of_decide_eq_true isMethod
  refine ⟨⟨method, after, builds, named, invokes⟩, fun bySignature => ?_⟩
  have knows : ∀ tag ∈ ["uint256", "address"],
      (afterTasks (separatePlans.take 2) start).plan.Knows (query "f" [tag]).signature := by
    unfold MethodPlan.Knows
    decide +kernel
  have later : SynthesizedLater start separatePlans (separatePlans.take 2)
      (query "f" ["address"]) :=
    ⟨rfl, ⟨[], rfl⟩, knows "address" (by simp), query "f" ["uint256"], List.mem_cons_self, rfl,
      by decide +kernel, knows "uint256" (by simp)⟩
  exact Method.not_callsBySignature_of_accessor accessor
    (bySignature _ _ later method after builds)

end ContractClient
