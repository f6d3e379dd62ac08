/-
This file proves that a client is the same whether or not anybody is told of what happens while it
is put together, and that whoever listens is told the same (`assembleModule_tells`). No step of a
pass looks at whoever listens, so each of them goes the same way from two passes that differ in
nothing else (`buildModule_agrees`); nor does it look at the members of a contract but for the
functions among them, in their order, and the constructor (`SameCallables.assembleModule`).
-/

import ContractClient.Proofs.Client.Steps
import ContractClient.Proofs.Registry.Silence

namespace ContractClient

/-- The other pass differs in who listens, and all that is kept here was told there. -/
def Pass.Retold (listener : Collector) (pass other : Pass) : Prop :=
  ∃ told, listener.Retold pass.registry.collector told ∧
    other = { pass with registry := { pass.registry with collector := told } }

section

variable {listener : Collector}

/-! ### Steps of a pass -/

/-- A look at the pass that does not show who listens. -/
theorem Pass.agrees_look {α : Type} {next : Pass → Building α}
    (unseen : ∀ (pass : Pass) (told : Collector),
      next { pass with registry := { pass.registry with collector := told } } = next pass)
    (rest : ∀ pass, Agrees (Retold listener) (next pass)) :
    Agrees (Retold listener) (get >>= next) := by
  refine Agrees.look (fun pass other retold => ?_) rest
  obtain ⟨told, _, rfl⟩ := retold
  exact (unseen pass told).symm

/-- A change of the pass that does not touch the registry. -/
theorem Pass.agrees_modify {update : Pass → Pass}
    (unseen : ∀ (pass : Pass) (told : Collector),
      update { pass with registry := { pass.registry with collector := told } } =
        { update pass with registry := { (update pass).registry with collector := told } })
    (kept : ∀ pass, (update pass).registry = pass.registry) :
    Agrees (Retold listener) (modify update : Building Unit) := by
  refine Agrees.modify fun pass other retold => ?_
  obtain ⟨told, heard, rfl⟩ := retold
  exact ⟨told, (kept pass).symm ▸ heard, unseen pass told⟩

theorem registering_agrees {α : Type} {step : Registering α}
    (agrees : Agrees (Registry.Retold listener) step) :
    Agrees (Pass.Retold listener) (Pass.registering step) := by
  rintro pass _ ⟨told, heard, rfl⟩
  obtain ⟨same, after, heardThen, leaves⟩ := agrees pass.registry _ ⟨told, heard, rfl⟩
  exact ⟨same, after, heardThen,
    congrArg (fun registry => { pass with registry := registry }) leaves⟩

theorem useImport_agrees (module : Json) (names : List String) :
    Agrees (Pass.Retold listener) (Pass.useImport module names) :=
  (Agrees.lift _).bind fun _ => Pass.agrees_modify (fun _ _ => rfl) fun _ => rfl

theorem requireLines_agrees (depths : List Nat) :
    Agrees (Pass.Retold listener) (Pass.requireLines depths) :=
  Pass.agrees_look (fun _ _ => rfl) fun _ => .lift _

/-- A notice about the contract of the pass. -/
theorem Pass.Retold.tell {pass other : Pass} (retold : pass.Retold listener other)
    (about : Json → Notice) :
    (pass.notice (about pass.contract)).Retold listener (other.notice (about other.contract)) := by
  obtain ⟨told, heard, rfl⟩ := retold
  exact ⟨_, heard.add _, rfl⟩

theorem Pass.Retold.planMethods {pass other : Pass} (retold : pass.Retold listener other)
    (members : List Member) :
    (pass.planMethods members).Retold listener (other.planMethods members) := by
  have told : ∀ (renamed : List (String × String)) (pass other : Pass),
      pass.Retold listener other →
      (renamed.foldl
          (fun pass entry => pass.notice (.overloadRenamed entry.1 entry.2 pass.contract))
          pass).Retold listener
        (renamed.foldl
          (fun pass entry => pass.notice (.overloadRenamed entry.1 entry.2 pass.contract))
          other) := by
    intro renamed
    induction renamed with
    | nil => exact fun _ _ retold => retold
    | cons entry rest inductionHypothesis =>
      exact fun pass other retold =>
        inductionHypothesis _ _ (retold.tell (.overloadRenamed entry.1 entry.2))
  obtain ⟨_, heard, rfl⟩ := retold
  exact told (pass.plan.extend members).2 _ _ ⟨_, heard, rfl⟩

theorem planNames_agrees (members : List Member) :
    Agrees (Pass.Retold listener) (Pass.planNames members) := by
  unfold Pass.planNames
  cases (functionsAmong members).forM Member.requireSignature with
  | ok _ => exact .modify fun _ _ retold => retold.planMethods members
  | error fault =>
    exact Agrees.bind (Pass.agrees_modify (fun _ _ => rfl) fun _ => rfl) fun _ => .throw fault

theorem methodName_agrees (function : Member) :
    Agrees (Pass.Retold listener) (Pass.methodName function) := by
  unfold Pass.methodName
  refine (Agrees.lift _).bind fun _ => Pass.agrees_look (fun _ _ => rfl) fun pass => ?_
  split
  case' isTrue =>
    refine (Agrees.modify fun _ _ retold => retold.planMethods [function]).bind fun _ => ?_
  all_goals
    refine Pass.agrees_look (fun _ _ => rfl) fun pass => ?_
    split
    · exact .pure _
    · exact .throw _

/-! ### Methods -/

theorem buildArguments_agrees (member : String) (parameters : List Parameter) :
    Agrees (Pass.Retold listener) (buildArguments member parameters) := by
  refine Agrees.mapM (fun entry => ?_) _
  exact (registering_agrees (resolveParameter_agrees member entry.2)).bind fun _ => .pure _

theorem rebuildFields_agrees (shape : Interface) (index : Nat) (names : List String) :
    Agrees (Pass.Retold listener) (rebuildFields shape index names) := by
  induction names generalizing index with
  | nil => exact .pure []
  | cons name rest inductionHypothesis =>
    refine Pass.agrees_look (fun _ _ => rfl) fun pass => (Agrees.lift _).bind fun rebuilt => ?_
    refine (requireLines_agrees _).bind fun _ => ?_
    exact (inductionHypothesis (index + 1)).bind fun _ => .pure _

theorem returnType_agrees (member : String) (outputs : List Parameter) :
    Agrees (Pass.Retold listener) (returnType member outputs) := by
  unfold returnType
  split
  · exact .pure _
  · exact registering_agrees (resolveParameter_agrees member _)
  · exact (registering_agrees (resolveResult_agrees member _)).bind fun _ => .pure _

theorem buildAnswer_agrees (function : Member) (ty : Ty) :
    Agrees (Pass.Retold listener) (buildAnswer function ty) := by
  unfold buildAnswer
  refine Pass.agrees_look (fun _ _ => rfl) fun pass => ?_
  split
  · exact (requireLines_agrees _).bind fun _ => .pure _
  · exact (requireLines_agrees _).bind fun _ => (Agrees.lift _).bind fun _ => .pure _
  · dsimp only
    split
    · exact .throw _
    · exact (requireLines_agrees _).bind fun _ =>
        (rebuildFields_agrees _ _ _).bind fun _ => .pure _

theorem buildCall_agrees (function : Member) :
    Agrees (Pass.Retold listener) (buildCall function) := by
  unfold buildCall
  refine Pass.agrees_look (fun _ _ => rfl) fun pass => ?_
  split
  · refine (returnType_agrees _ _).bind fun ty => (useImport_agrees _ _).bind fun _ => ?_
    exact (buildAnswer_agrees function ty).bind fun _ =>
      (requireLines_agrees _).bind fun _ => .pure _
  · refine (Agrees.lift _).bind fun _ => (useImport_agrees _ _).bind fun _ => ?_
    exact (useImport_agrees _ _).bind fun _ =>
      (requireLines_agrees _).bind fun _ => .pure _

theorem buildMethod_agrees (function : Member) :
    Agrees (Pass.Retold listener) (buildMethod function) := by
  refine (buildArguments_agrees _ _).bind fun arguments => ?_
  refine (methodName_agrees function).bind fun name => ?_
  refine (buildCall_agrees function).bind fun call => ?_
  exact Pass.agrees_look (fun _ _ => rfl) fun _ => .pure _

theorem buildMethods_agrees (functions : List Member) :
    Agrees (Pass.Retold listener) (buildMethods functions) := by
  induction functions with
  | nil => exact .pure []
  | cons function rest inductionHypothesis =>
    exact (buildMethod_agrees function).bind fun _ =>
      inductionHypothesis.bind fun _ => .pure _

/-! ### Modules -/

theorem buildDeploy_agrees (constructor : Option Member) :
    Agrees (Pass.Retold listener) (buildDeploy constructor) := by
  have rest : ∀ (pass : Pass) (arguments : List Argument),
      Agrees (Pass.Retold listener) (do
        Pass.useImport pass.style.contractModule ["Contract", "SendOptions"]
        modify fun pass => { pass with hasDeploy := true }
        Pass.requireLines [0, 1, 2]
        return arguments : Building (List Argument)) := by
    intro pass arguments
    refine (useImport_agrees _ _).bind fun _ => ?_
    refine Agrees.bind (Pass.agrees_modify (fun _ _ => rfl) fun _ => rfl) fun _ => ?_
    exact (requireLines_agrees _).bind fun _ => .pure arguments
  unfold buildDeploy
  refine Pass.agrees_look (fun _ _ => rfl) fun pass => .unless ?_
  cases constructor with
  | none => exact rest pass []
  | some member => exact (buildArguments_agrees _ _).bind fun arguments => rest pass arguments

theorem buildClass_agrees (members : List Member) :
    Agrees (Pass.Retold listener) (buildClass members) := by
  have finish : ∀ methods : List Method, Agrees (Pass.Retold listener) (do
      let deployArguments ← buildDeploy (constructorAmong members)
      return ⟨(← get).className, methods, deployArguments⟩ : Building ClientClass) :=
    fun methods => (buildDeploy_agrees _).bind fun _ =>
      Pass.agrees_look (fun _ _ => rfl) fun _ => .pure _
  unfold buildClass
  refine Pass.agrees_look (fun _ _ => rfl) fun pass => (useImport_agrees _ _).bind fun _ => ?_
  refine (planNames_agrees members).bind fun _ => ?_
  refine Agrees.bind (Pass.agrees_modify (fun _ _ => rfl) fun _ => rfl) fun _ => ?_
  refine (requireLines_agrees _).bind fun _ => (buildMethods_agrees _).bind fun methods => ?_
  dsimp only
  split
  · exact (Agrees.modify fun _ _ retold => retold.tell .defaultDeploy).bind fun _ =>
      finish methods
  · exact finish methods

theorem buildModule_agrees (members : List Member) :
    Agrees (Pass.Retold listener) (buildModule members) := by
  refine (buildClass_agrees members).bind fun client => ?_
  refine Pass.agrees_look (fun _ _ => rfl) fun pass => ?_
  cases pass.style.header with
  | none => exact .throw _
  | some header => exact (Agrees.lift _).bind fun _ => .pure _

end

theorem assembleModule_fst (contract : Json) (members : List Member) (style : Style)
    (collector : Collector) :
    (assembleModule contract members style collector).1 =
      (buildModule members (.start contract style collector)).1.map fun module =>
        module.render style :=
  rfl

/-- Whoever listens is told the same while a module is put together, and its text is the same. -/
theorem assembleModule_tells (contract : Json) (members : List Member) (style : Style) :
    ∃ ended gained, Tells (assembleModule contract members style) ended gained := by
  have start : ∀ listener, Pass.Retold listener (.start contract style (.keeping []))
      (.start contract style listener) :=
    fun listener => ⟨listener, .start listener, rfl⟩
  refine Tells.of_retold fun listener => ?_
  obtain ⟨same, told, heard, leaves⟩ := buildModule_agrees members _ _ (start listener)
  refine ⟨?_, ?_⟩
  · rw [assembleModule_fst, assembleModule_fst, same]
  · show listener.Retold _ (buildModule members (.start contract style listener)).2.collector
    rw [leaves]
    exact heard

/-- The text of a client module does not depend on who is told of what happens. -/
theorem assembleModule_silent (contract : Json) (members : List Member) (style : Style)
    (collector : Collector) :
    (assembleModule contract members style collector).1 =
      (assembleModule contract members style .absent).1 := by
  obtain ⟨ended, gained, tells⟩ := assembleModule_tells contract members style
  rw [tells collector, tells .absent]

/-! ### Members that do not matter -/

/-- Two lists of members have the same functions in the same order, and the same constructor. -/
structure SameCallables (members others : List Member) : Prop where
  functions : functionsAmong members = functionsAmong others
  constructor : constructorAmong members = constructorAmong others

section

variable {members others : List Member}

theorem SameCallables.planNames (same : SameCallables members others) :
    Pass.planNames members = Pass.planNames others := by
  unfold Pass.planNames Pass.planMethods MethodPlan.extend MethodPlan.extendPartly
  rw [same.functions]

/-- A module depends on the functions and the constructor among the members alone. -/
theorem SameCallables.buildModule (same : SameCallables members others) :
    ContractClient.buildModule members = ContractClient.buildModule others := by
  unfold ContractClient.buildModule buildClass
  rw [same.planNames, same.functions, same.constructor]

/-- The text of a client module depends on the functions, in their order, and the constructor
alone. -/
theorem SameCallables.assembleModule (same : SameCallables members others) (contract : Json)
    (style : Style) (collector other : Collector) :
    (ContractClient.assembleModule contract members style collector).1 =
      (ContractClient.assembleModule contract others style other).1 := by
  rw [assembleModule_silent contract members, assembleModule_silent contract others,
    assembleModule_fst, assembleModule_fst, same.buildModule]

end

end ContractClient
