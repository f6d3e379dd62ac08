/-
This file says which limits the generation of a client runs into, and when. A function overruns a
limit where its inputs or the outputs of a query cannot be mapped for it, where an output of a
query has a type that cannot be rebuilt, or where a number in the outputs of a transaction is too
long. What counts is what comes first: a limit is reached only if everything in front of it
passes.
-/

import ContractClient.Proofs.Abi.Reading
import ContractClient.Proofs.Client.Outcomes
import ContractClient.Proofs.Registry.Faults

namespace ContractClient

/-! ### Limits of methods -/

/-- Building the method of a function runs into a limit before anything else is wrong with it. -/
inductive MethodOverruns (registry : Registry) (function : Member) : Defect → Prop
  /-- The inputs cannot be mapped. -/
  | inputs {cause : Defect} :
      MappingOverruns registry.levels function.name function.inputs cause →
      MethodOverruns registry function cause
  /-- The outputs of a query cannot be mapped. -/
  | outputs {cause : Defect} :
      requireParameters registry.levels function.name function.inputs = .ok () →
      function.mutability = some .readOnly →
      MappingOverruns registry.levels function.name function.outputs cause →
      MethodOverruns registry function cause
  /-- The type of an output of a query has no shape, or one that is too deep. -/
  | rebuilding {output : Parameter} {ty : Ty} :
      requireParameters registry.levels function.name function.inputs = .ok () →
      function.mutability = some .readOnly →
      requireReturn registry.levels registry.resultSuffix function.name function.outputs = .ok () →
      output ∈ function.outputs →
      output.HasTy (runCalls function.calls registry).interfaces ty →
      ¬ty.Rebuildable (runCalls function.calls registry).interfaces →
      MethodOverruns registry function .tooDeep
  /-- The first thing that is wrong with the outputs of a transaction is a number with too many
  digits. -/
  | checking :
      requireParameters registry.levels function.name function.inputs = .ok () →
      function.mutability ≠ some .readOnly →
      checkParameters function.name function.outputs = .error (.defect .longNumber) →
      MethodOverruns registry function .longNumber

section

variable {levels : Nat} {resultSuffix member : String}

theorem requireParameters_nil : requireParameters levels member [] = .ok () := by
  rw [requireParameters, mappedLevels, requireAllTypable, withinLevels_zero]

theorem requireParameters_singleton (parameter : Parameter) :
    requireParameters levels member [parameter] = requireParameter levels member parameter := by
  rw [requireParameters_cons, requireParameters_nil]
  cases requireParameter levels member parameter <;> rfl

/-- Registering the result of several outputs runs into no limit that mapping them does not. -/
theorem requireResult_eq_defect_iff (named : member ≠ "") {outputs : List Parameter}
    (several : 2 ≤ outputs.length) {cause : Defect} :
    requireResult levels resultSuffix member outputs = .error (.defect cause) ↔
      requireParameters levels member outputs = .error (.defect cause) := by
  have given : (member == "") = false := beq_eq_false_iff_ne.mpr named
  have result : resultName resultSuffix member = .ok (capitalized member ++ resultSuffix) := by
    rw [resultName, given]
    rfl
  rw [requireResult, given, if_neg Bool.false_ne_true, if_neg (Nat.not_lt.mpr several), result]
  cases requireParameters levels member outputs with
  | error fault => exact Iff.rfl
  | ok _ =>
    show (if (outputFieldNames outputs).Nodup then .ok () else _ : Except Fault Unit) = _ ↔ _
    split <;> simp

theorem requireReturn_eq_defect_iff (named : member ≠ "") {outputs : List Parameter}
    {cause : Defect} :
    requireReturn levels resultSuffix member outputs = .error (.defect cause) ↔
      MappingOverruns levels member outputs cause := by
  rw [← requireParameters_eq_defect_iff]
  match outputs with
  | [] => rw [requireParameters_nil, requireReturn]
  | [output] => rw [requireParameters_singleton, requireReturn]
  | first :: second :: rest =>
    rw [requireReturn, requireResult_eq_defect_iff named]
    · exact Nat.le_add_left _ _
    all_goals simp

end

theorem requireMethod_eq_defect_iff {reserved : List String} {registry : Registry}
    (sound : registry.Sound reserved) {function : Member} (named : function.name ≠ "")
    {cause : Defect} :
    requireMethod registry function = .error (.defect cause) ↔
      MethodOverruns registry function cause := by
  have keeps := runCalls_keeps (inputCalls function.name function.inputs) sound
  have interfaces : runCalls function.answerCalls
      (runCalls (inputCalls function.name function.inputs) registry) =
        runCalls function.calls registry := (runCalls_append _ _ _).symm
  rw [requireMethod, bind_eq_error_iff, requireParameters_eq_defect_iff, requireCall,
    keeps.levels, keeps.resultSuffix, interfaces]
  constructor
  · rintro (overruns | ⟨mapped, fails⟩)
    · exact .inputs overruns
    · split at fails
      · rename_i reads
        rcases bind_eq_error_iff.mp fails with fails | ⟨returned, fails⟩
        · exact .outputs mapped reads ((requireReturn_eq_defect_iff named).mp fails)
        · obtain ⟨rfl, notAll⟩ := requireDepth_eq_error_iff.mp fails
          simp only [OutputsRebuildable, not_forall] at notAll
          obtain ⟨output, isOutput, ty, hasTy, notRebuildable⟩ := notAll
          exact .rebuilding mapped reads returned isOutput hasTy notRebuildable
      · rename_i changes
        obtain rfl := (checkParameters_failsOnly function.name function.outputs).cause_of fails
        exact .checking mapped changes fails
  · intro overruns
    cases overruns with
    | inputs overruns => exact .inl overruns
    | outputs mapped reads overruns =>
      refine .inr ⟨mapped, ?_⟩
      simp only [reads]
      exact bind_eq_error_iff.mpr (.inl ((requireReturn_eq_defect_iff named).mpr overruns))
    | rebuilding mapped reads returned isOutput hasTy notRebuildable =>
      refine .inr ⟨mapped, ?_⟩
      simp only [reads]
      refine bind_eq_error_iff.mpr (.inr ⟨returned, requireDepth_eq_error_iff.mpr ⟨rfl, ?_⟩⟩)
      exact fun all => notRebuildable (all _ isOutput _ hasTy)
    | checking mapped changes fails =>
      refine .inr ⟨mapped, ?_⟩
      split
      · rename_i reads
        exact (changes reads).elim
      · exact fails

/-! ### Limits of clients -/

/-- Building the client of the members runs into a limit before anything else is wrong with
it. -/
inductive ClientOverruns (registry : Registry) (members : List Member) : Defect → Prop
  /-- The signature of a function cannot be spelled out. -/
  | spelling {function : Member} :
      function ∈ functionsAmong members →
      spellableLevels < spelledLevels function.inputs →
      ClientOverruns registry members .tooDeep
  /-- A method runs into a limit, behind others that can be built. -/
  | method {before after : List Member} {function : Member} {cause : Defect} :
      Spellable members →
      functionsAmong members = before ++ function :: after →
      requireMethods registry before = .ok () →
      MethodOverruns (runCalls (before.flatMap Member.calls) registry) function cause →
      ClientOverruns registry members cause
  /-- The inputs of the constructor cannot be mapped, behind methods that can be built. -/
  | deploy {constructor : Member} {cause : Defect} :
      Spellable members →
      requireMethods registry (functionsAmong members) = .ok () →
      constructorAmong members = some constructor →
      MappingOverruns registry.levels "constructor" constructor.inputs cause →
      ClientOverruns registry members cause

section

variable {reserved : List String} {registry : Registry}

theorem requireMethods_eq_defect_iff (sound : registry.Sound reserved) {functions : List Member}
    (named : ∀ function ∈ functions, function.name ≠ "") {cause : Defect} :
    requireMethods registry functions = .error (.defect cause) ↔
      ∃ before function after, functions = before ++ function :: after ∧
        requireMethods registry before = .ok () ∧
        MethodOverruns (runCalls (before.flatMap Member.calls) registry) function cause := by
  induction functions generalizing registry with
  | nil => simp [requireMethods]
  | cons function rest inductionHypothesis =>
    have step : requireMethod registry function = .error (.defect cause) ↔
        MethodOverruns registry function cause :=
      requireMethod_eq_defect_iff sound (named function List.mem_cons_self)
    have later := inductionHypothesis (runCalls_sound function.calls sound).1
      fun other member => named other (List.mem_cons_of_mem _ member)
    rw [requireMethods, bind_eq_error_iff, step, later]
    rw [exists_split_cons_iff fun before function => requireMethods registry before = .ok () ∧
      MethodOverruns (runCalls (before.flatMap Member.calls) registry) function cause]
    simp only [requireMethods, bind_eq_ok_iff, List.flatMap_cons, runCalls_append,
      List.flatMap_nil, runCalls, true_and]
    constructor
    · rintro (overruns | ⟨passes, before, middle, after, split, others, overruns⟩)
      · exact .inl overruns
      · exact .inr ⟨before, middle, after, split, ⟨passes, others⟩, overruns⟩
    · rintro (overruns | ⟨before, middle, after, split, ⟨passes, others⟩, overruns⟩)
      · exact .inl overruns
      · exact .inr ⟨passes, before, middle, after, split, others, overruns⟩

theorem requireClient_eq_defect_iff (sound : registry.Sound reserved) {members : List Member}
    (named : ∀ function ∈ functionsAmong members, function.name ≠ "") {cause : Defect} :
    requireClient registry members = .error (.defect cause) ↔
      ClientOverruns registry members cause := by
  rw [requireClient, bind_eq_error_iff, bind_eq_error_iff, requireMethods_eq_defect_iff sound named,
    forM_requireSignature_eq_ok_iff]
  constructor
  · rintro (fails | ⟨spellable, ⟨before, function, after, split, built, overruns⟩ | ⟨built, fails⟩⟩)
    · rw [forM_requireSignature] at fails
      split at fails
      · rename_i deep
        obtain ⟨function, member, deep⟩ := deep
        cases fails
        exact .spelling member deep
      · cases fails
    · exact .method spellable split built overruns
    · cases isThere : constructorAmong members with
      | none =>
        rw [isThere] at fails
        cases fails
      | some constructor =>
        rw [isThere] at fails
        exact .deploy spellable built isThere (requireParameters_eq_defect_iff.mp fails)
  · intro overruns
    cases overruns with
    | spelling member deep =>
      rw [forM_requireSignature, if_pos ⟨_, member, deep⟩]
      exact .inl rfl
    | method spellable split built overruns =>
      exact .inr ⟨spellable, .inl ⟨_, _, _, split, built, overruns⟩⟩
    | deploy spellable built isThere overruns =>
      refine .inr ⟨spellable, .inr ⟨built, ?_⟩⟩
      rw [isThere]
      exact requireParameters_eq_defect_iff.mpr overruns

/-! ### Nothing else goes wrong -/

theorem resultName_failsOnly (resultSuffix : String) {member : String} (named : member ≠ "") :
    FailsOnly (fun _ => False) (resultName resultSuffix member) := by
  unfold resultName
  rw [beq_eq_false_iff_ne.mpr named]
  exact .ok _

theorem requireReturn_failsOnly (levels : Nat) (resultSuffix member : String)
    (outputs : List Parameter) :
    FailsOnly (fun cause => cause = .longNumber ∨ cause = .tooDeep)
      (requireReturn levels resultSuffix member outputs) := by
  match outputs with
  | [] => exact .ok _
  | [output] =>
    rw [requireReturn, ← requireParameters_singleton]
    exact requireParameters_failsOnly
  | first :: second :: rest =>
    rw [requireReturn, requireResult]
    · split
      · exact .declared trivial
      · rename_i named
        split
        · exact .declared trivial
        · refine requireParameters_failsOnly.bind fun _ _ => ?_
          refine ((resultName_failsOnly resultSuffix ?_).mono fun _ => False.elim).bind
            fun name _ => ?_
          · simpa using named
          · split
            · exact .ok _
            · exact .declared trivial
    all_goals simp

theorem requireMethods_failsOnly (functions : List Member) :
    FailsOnly (fun cause => cause = .longNumber ∨ cause = .tooDeep)
      (requireMethods registry functions) := by
  induction functions generalizing registry with
  | nil => exact .ok _
  | cons function rest inductionHypothesis =>
    rw [requireMethods, requireMethod]
    refine FailsOnly.bind (requireParameters_failsOnly.bind fun _ _ => ?_)
      fun _ _ => inductionHypothesis
    unfold requireCall
    split
    · refine (requireReturn_failsOnly _ _ _ _).bind fun _ _ => ?_
      unfold requireDepth
      split
      · exact .ok _
      · exact .defect (.inr rfl)
    · exact (checkParameters_failsOnly _ _).mono fun _ => .inl

/-- Apart from faults that are declared, the generation of a client runs into limits only. -/
theorem requireClient_failsOnly (members : List Member) :
    FailsOnly (fun cause => cause = .longNumber ∨ cause = .tooDeep)
      (requireClient registry members) := by
  rw [requireClient, forM_requireSignature]
  refine FailsOnly.bind ?_ fun _ _ => (requireMethods_failsOnly _).bind fun _ _ => ?_
  · split
    · exact .defect (.inr rfl)
    · exact .ok _
  · cases constructorAmong members with
    | none => exact .ok _
    | some constructor => exact requireParameters_failsOnly

end

end ContractClient
