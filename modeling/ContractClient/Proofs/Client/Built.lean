/-
This file says what the steps of a generation have built where they end well, whatever the settings
are. Behind such a step every method name given before is still there, no function is marked as
overloaded that was not, and the registry has only grown (`Pass.Continues`).

The method of a function bears the name that is planned for it, takes the arguments for its inputs,
and calls it as a query exactly if it changes nothing (`buildMethod_gives`); the methods of a class
stand in the order of its functions (`buildMethods_gives`).
-/

import ContractClient.Client.ClientModule
import ContractClient.Proofs.Client.MethodNames
import ContractClient.Proofs.Client.Steps
import ContractClient.Proofs.Naming.Arguments
import ContractClient.Proofs.Client.Outcomes
import Mathlib.Data.List.Forall2

namespace ContractClient

/-! ### Steps that end well -/

/-- The later pass has the names and the marks of the earlier one, and its registry has grown
soundly. -/
structure Pass.Continues (reserved : List String) (start after : Pass) : Prop where
  keeps : start.plan.Keeps after.plan
  overloaded : after.plan.overloaded = start.plan.overloaded
  sound : start.registry.Sound reserved → after.registry.Sound reserved
  grows : start.registry.Sound reserved →
    start.registry.interfaces <+: after.registry.interfaces

/-- If the step ends well, the pass behind it continues the one in front of it, and what it gives is
right in that pass. -/
def Gives {α : Type} (reserved : List String) (start : Pass) (step : Building α)
    (right : Pass → α → Prop) : Prop :=
  ∀ value after, step start = (.ok value, after) →
    start.Continues reserved after ∧ right after value

section

variable {α β : Type} {reserved : List String} {start middle after : Pass}

theorem Pass.Continues.refl (pass : Pass) : pass.Continues reserved pass :=
  ⟨.refl _, rfl, id, fun _ => List.prefix_refl _⟩

theorem Pass.Continues.trans (first : start.Continues reserved middle)
    (second : middle.Continues reserved after) : start.Continues reserved after :=
  ⟨first.keeps.trans second.keeps, second.overloaded.trans first.overloaded,
    fun sound => second.sound (first.sound sound),
    fun sound => (first.grows sound).trans (second.grows (first.sound sound))⟩

/-- A pass with the plan and the registry of another continues it. -/
theorem Pass.Continues.of_eq (plan : after.plan = start.plan)
    (registry : after.registry = start.registry) : start.Continues reserved after :=
  ⟨plan ▸ .refl _, by rw [plan], registry ▸ id, fun _ => registry ▸ List.prefix_refl _⟩

theorem Gives.of_run {step : Building α} {result : Except Fault α} {right : Pass → α → Prop}
    (run : step start = (result, after)) (continues : start.Continues reserved after)
    (holds : ∀ value, result = .ok value → right after value) :
    Gives reserved start step right := by
  intro value last ends
  rw [run] at ends
  obtain ⟨same, rfl⟩ := Prod.mk.inj ends
  exact ⟨continues, holds value same⟩

theorem Gives.pure {value : α} {right : Pass → α → Prop} (holds : right start value) :
    Gives reserved start (Pure.pure value) right :=
  .of_run rfl (.refl start) fun _ same => Except.ok.inj same ▸ holds

theorem Gives.throw (fault : Fault) {right : Pass → α → Prop} :
    Gives reserved start (MonadExcept.throw fault) right :=
  .of_run rfl (.refl start) nofun

theorem Gives.lift (result : Except Fault α) :
    Gives reserved start (liftM result) fun _ value => result = .ok value := by
  cases result with
  | error fault => exact .throw fault
  | ok value => exact .pure rfl

theorem Gives.change {change : Pass → Pass} (continues : start.Continues reserved (change start)) :
    Gives reserved start (modify change) fun after _ => after = change start := by
  have run : (modify change : Building Unit) start = (.ok (), change start) := rfl
  exact .of_run run continues fun _ _ => rfl

/-- Two steps one after the other. The second starts where the first ends well. -/
theorem Gives.bind {step : Building α} {next : α → Building β} {between : Pass → α → Prop}
    {right : Pass → β → Prop} (first : Gives reserved start step between)
    (second : ∀ value middle, start.Continues reserved middle → between middle value →
      Gives reserved middle (next value) right) :
    Gives reserved start (step >>= next) right := by
  intro result after ends
  obtain ⟨value, middle, endsFirst, endsSecond⟩ := exists_of_bind_run ends
  obtain ⟨continues, holds⟩ := first value middle endsFirst
  obtain ⟨continuesToo, isRight⟩ := second value middle continues holds result after endsSecond
  exact ⟨continues.trans continuesToo, isRight⟩

theorem Gives.look {next : Pass → Building α} {right : Pass → α → Prop}
    (rest : Gives reserved start (next start) right) :
    Gives reserved start (get >>= next) right :=
  rest

theorem Gives.conclude {step : Building α} {first second : Pass → α → Prop}
    (gives : Gives reserved start step first)
    (implies : ∀ after value, start.Continues reserved after → first after value →
      second after value) : Gives reserved start step second :=
  fun value after ends =>
    have ⟨continues, holds⟩ := gives value after ends
    ⟨continues, implies after value continues holds⟩

end

/-! ### Steps of a pass -/

section

variable {α : Type} {reserved : List String} {start : Pass}

theorem registering_gives {step : Registering α} {right : List Interface → α → Prop}
    (yields : start.registry.Sound reserved → Yields reserved start.registry step right) :
    Gives reserved start (Pass.registering step) fun after value =>
      start.registry.Sound reserved → right after.registry.interfaces value := by
  have run : Pass.registering step start =
      ((step start.registry).1, { start with registry := (step start.registry).2 }) := rfl
  exact .of_run run
    ⟨.refl _, rfl, fun sound => (yields sound).sound, fun sound => (yields sound).grows⟩
    fun value same sound => (yields sound).right value same

/-- A check changes nothing. -/
theorem check_gives (result : Except Fault α) :
    Gives reserved start (liftM result) fun after _ => after = start := by
  cases result with
  | error fault => exact .throw fault
  | ok value => exact .pure rfl

/-- An import plans nothing. -/
theorem useImport_gives (module : Json) (names : List String) :
    Gives reserved start (Pass.useImport module names) fun after _ => after.plan = start.plan := by
  unfold Pass.useImport
  refine (check_gives (requireModuleName module)).bind ?_
  rintro _ _ _ rfl
  refine (Gives.change (.of_eq rfl rfl)).conclude ?_
  rintro _ _ _ rfl
  rfl

theorem requireLines_gives (depths : List Nat) :
    Gives reserved start (Pass.requireLines depths) fun after _ => after = start :=
  Gives.look (check_gives _)

/-- Planning one function marks none, and takes no name back. -/
theorem planMethods_singleton_continues (function : Member) :
    start.Continues reserved (start.planMethods [function]) := by
  have sublist : (functionsAmong [function]).Sublist [function] := List.filter_sublist
  have signatures : ((functionsAmong [function]).map Member.signature).Nodup :=
    (List.nodup_singleton function.signature).sublist (sublist.map Member.signature)
  have names : ((functionsAmong [function]).map Member.name).Nodup :=
    (List.nodup_singleton function.name).sublist (sublist.map Member.name)
  rw [planMethods_eq]
  refine ⟨MethodPlan.extend_keeps signatures start.plan, ?_, fun sound => sound.telling _,
    fun _ => List.prefix_refl _⟩
  show (start.plan.extend [function]).1.overloaded = start.plan.overloaded
  rw [MethodPlan.extend_overloaded, MethodPlan.repeatedNames_eq_nil names, List.append_nil]

/-- The method name of a function is the one that is planned for it. -/
theorem methodName_gives (function : Member) :
    Gives reserved start (Pass.methodName function) fun after name =>
      after.plan.nameOf? function.signature = some name := by
  unfold Pass.methodName
  refine (check_gives function.requireSignature).bind ?_
  rintro _ _ _ rfl
  refine Gives.look ?_
  split
  case' isTrue =>
    refine (Gives.change (planMethods_singleton_continues function)).bind fun _ _ _ _ => ?_
  all_goals
    refine Gives.look ?_
    split
    · rename_i named
      exact .pure named
    · exact .throw _

end

/-! ### Related lists -/

section

variable {α β : Type} {related : α → β → Prop} {items : List α} {others : List β}

/-- What is related to an item of a list is one of the other list for an item of the first. -/
theorem exists_of_mem_forall₂ (areRelated : List.Forall₂ related items others) :
    ∀ other ∈ others, ∃ item ∈ items, related item other := by
  induction areRelated with
  | nil => exact fun _ none => (List.not_mem_nil none).elim
  | cons isRelated _ inductionHypothesis =>
    refine List.forall_mem_cons.mpr ⟨⟨_, List.mem_cons_self, isRelated⟩, fun other isOther => ?_⟩
    obtain ⟨item, isItem, isRelated⟩ := inductionHypothesis other isOther
    exact ⟨item, List.mem_cons_of_mem _ isItem, isRelated⟩

variable {first : α → Prop} {second : β → Prop}

/-- What holds of related items alike holds of one of the one list exactly if of one of the
other. -/
theorem exists_mem_iff_of_forall₂ (areRelated : List.Forall₂ related items others)
    (alike : ∀ item other, related item other → (first item ↔ second other)) :
    (∃ item ∈ items, first item) ↔ ∃ other ∈ others, second other := by
  constructor
  · rintro ⟨item, isItem, holds⟩
    obtain ⟨other, isOther, isRelated⟩ := exists_of_mem_forall₂ areRelated.flip item isItem
    exact ⟨other, isOther, (alike item other isRelated).mp holds⟩
  · rintro ⟨other, isOther, holds⟩
    obtain ⟨item, isItem, isRelated⟩ := exists_of_mem_forall₂ areRelated other isOther
    exact ⟨item, isItem, (alike item other isRelated).mpr holds⟩

/-- What holds of related items alike holds of all of the one list exactly if of all of the
other. -/
theorem forall_mem_iff_of_forall₂ (areRelated : List.Forall₂ related items others)
    (alike : ∀ item other, related item other → (first item ↔ second other)) :
    (∀ item ∈ items, first item) ↔ ∀ other ∈ others, second other := by
  constructor
  · intro all other isOther
    obtain ⟨item, isItem, isRelated⟩ := exists_of_mem_forall₂ areRelated other isOther
    exact (alike item other isRelated).mp (all item isItem)
  · intro all item isItem
    obtain ⟨other, isOther, isRelated⟩ := exists_of_mem_forall₂ areRelated.flip item isItem
    exact (alike item other isRelated).mpr (all other isOther)

end

/-! ### Arguments -/

/-- The arguments stand for the parameters, each with the type of its own. -/
def Typed (interfaces : List Interface) (parameters : List Parameter) (arguments : List Argument) :
    Prop :=
  List.Forall₂ (fun parameter argument => parameter.HasTy interfaces argument.ty) parameters
    arguments

theorem Typed.mono {earlier later : List Interface} (grown : earlier <+: later)
    {parameters : List Parameter} {arguments : List Argument}
    (typed : Typed earlier parameters arguments) : Typed later parameters arguments :=
  List.Forall₂.imp (fun _ _ hasTy => hasTy.mono grown.subset) typed

section

variable {reserved : List String} {start : Pass}

theorem resolveAll_gives (member : String) (entries : List (String × Parameter)) :
    Gives reserved start
      (entries.mapM fun entry => do
        let ty ← Pass.registering (resolveParameter member entry.2)
        return (⟨entry.1, ty⟩ : Argument))
      fun after arguments => arguments.map (·.name) = entries.map (·.1) ∧
        (start.registry.Sound reserved →
          Typed after.registry.interfaces (entries.map (·.2)) arguments) := by
  induction entries generalizing start with
  | nil => exact .pure ⟨rfl, fun _ => .nil⟩
  | cons entry rest inductionHypothesis =>
    rw [List.mapM_cons]
    have first : Gives reserved start
        (Pass.registering (resolveParameter member entry.2) >>= fun ty =>
          Pure.pure (⟨entry.1, ty⟩ : Argument))
        fun after argument => argument.name = entry.1 ∧
          (start.registry.Sound reserved →
            entry.2.HasTy after.registry.interfaces argument.ty) :=
      (registering_gives fun sound => resolveParameter_yields sound member entry.2).bind
        fun ty _ _ hasTy => .pure ⟨rfl, hasTy⟩
    refine first.bind fun argument middle continues isFirst => ?_
    refine inductionHypothesis.bind fun arguments last continuesToo areRest => .pure ?_
    refine ⟨?_, fun sound => ?_⟩
    · rw [List.map_cons, List.map_cons, isFirst.1, areRest.1]
    · have middleSound := continues.sound sound
      exact .cons ((isFirst.2 sound).mono (continuesToo.grows middleSound).subset)
        (areRest.2 middleSound)

/-- The arguments of a member are those for its inputs, in their order. -/
theorem buildArguments_gives (member : String) (parameters : List Parameter) :
    Gives reserved start (buildArguments member parameters)
      fun after arguments => arguments.map (·.name) = argumentNames parameters ∧
        (start.registry.Sound reserved →
          Typed after.registry.interfaces parameters arguments) := by
  have sameLength : (argumentNames parameters).length = parameters.length :=
    length_argumentNamesFrom _ _ _
  have gives := @resolveAll_gives reserved start member ((argumentNames parameters).zip parameters)
  rw [List.map_fst_zip (Nat.le_of_eq sameLength), List.map_snd_zip (Nat.le_of_eq sameLength.symm)]
    at gives
  exact gives

end

/-! ### Calls -/

/-- The answer has the form that the outputs ask for. -/
def Answer.Fits (outputs : List Parameter) : Answer → Prop
  | .nothing => outputs = []
  | .value _ _ => outputs.length = 1
  | .record _ _ => 2 ≤ outputs.length

/-- A function that changes nothing is queried, for an answer of the right form; every other one is
a transaction. -/
def CallKind.Fits (function : Member) : CallKind → Prop
  | .query answer => function.mutability = some .readOnly ∧ answer.Fits function.outputs
  | .transaction => function.mutability ≠ some .readOnly

/-- The method is that of the function: it bears the name that is planned, takes the arguments for
the inputs, and calls the function as its accessor and its mutability say. -/
structure Method.IsFor (plan : MethodPlan) (function : Member) (method : Method) : Prop where
  named : plan.nameOf? function.signature = some method.name
  arguments : method.arguments.map (·.name) = argumentNames function.inputs
  accessor : method.accessor = plan.accessor function
  call : method.call.Fits function

/-- A method stays that of its function behind every further step. -/
theorem Method.IsFor.continues {reserved : List String} {start after : Pass} {function : Member}
    {method : Method} (isFor : method.IsFor start.plan function)
    (continues : start.Continues reserved after) : method.IsFor after.plan function := by
  refine ⟨continues.keeps _ _ isFor.named, isFor.arguments, ?_, isFor.call⟩
  rw [isFor.accessor, MethodPlan.accessor, MethodPlan.accessor, continues.overloaded]

section

variable {reserved : List String} {start : Pass}

theorem rebuildFields_gives (shape : Interface) (index : Nat) (names : List String) :
    Gives reserved start (rebuildFields shape index names) fun _ _ => True := by
  induction names generalizing start index with
  | nil => exact .pure trivial
  | cons name rest inductionHypothesis =>
    refine Gives.look ?_
    refine (Gives.lift _).bind fun _ _ _ _ => ?_
    refine (requireLines_gives _).bind fun _ _ _ _ => ?_
    exact (inductionHypothesis _).bind fun _ _ _ _ => .pure trivial

theorem buildAnswer_gives (function : Member) (ty : Ty) :
    Gives reserved start (buildAnswer function ty) fun _ answer =>
      answer.Fits function.outputs := by
  unfold buildAnswer
  refine Gives.look ?_
  split
  · rename_i none
    exact (requireLines_gives _).bind fun _ _ _ _ => .pure none
  · rename_i output only
    refine (requireLines_gives _).bind fun _ _ _ _ => ?_
    refine (Gives.lift _).bind fun _ _ _ _ => .pure ?_
    rw [only]
    exact List.length_singleton
  · rename_i notNone several
    have atLeastTwo : 2 ≤ function.outputs.length := by
      match outputs : function.outputs with
      | [] => exact (notNone outputs).elim
      | [output] => exact (several output outputs).elim
      | _ :: _ :: rest => exact Nat.le_add_left 2 rest.length
    cases registered : start.registry.find? ty.text with
    | none =>
      simp only [registered]
      exact .throw _
    | some shape =>
      simp only [registered]
      refine (requireLines_gives _).bind fun _ _ _ _ => ?_
      exact (rebuildFields_gives _ _ _).bind fun _ _ _ _ => .pure atLeastTwo

theorem returnType_gives (member : String) (outputs : List Parameter) :
    Gives reserved start (returnType member outputs) fun _ _ => True := by
  unfold returnType
  split
  · exact .pure trivial
  · exact (registering_gives fun sound => resolveParameter_yields sound member _).conclude
      fun _ _ _ _ => trivial
  · exact (registering_gives fun sound => resolveResult_yields sound member _).bind
      fun _ _ _ _ => .pure trivial

theorem buildCall_gives (function : Member) :
    Gives reserved start (buildCall function) fun _ call => call.Fits function := by
  unfold buildCall
  refine Gives.look ?_
  split
  · rename_i readOnly
    refine (returnType_gives _ _).bind fun ty _ _ _ => ?_
    refine (useImport_gives _ _).bind fun _ _ _ _ => ?_
    refine (buildAnswer_gives function ty).bind fun answer _ _ fits => ?_
    exact (requireLines_gives _).bind fun _ _ _ _ => .pure ⟨readOnly, fits⟩
  · rename_i notReadOnly
    refine (check_gives _).bind fun _ _ _ _ => ?_
    refine (useImport_gives _ _).bind fun _ _ _ _ => ?_
    refine (useImport_gives _ _).bind fun _ _ _ _ => ?_
    exact (requireLines_gives _).bind fun _ _ _ _ => .pure notReadOnly

/-! ### Methods -/

/-- What is built for a function is its method. -/
theorem buildMethod_gives (function : Member) :
    Gives reserved start (buildMethod function) fun after method =>
      method.IsFor after.plan function ∧
        (start.registry.Sound reserved →
          Typed after.registry.interfaces function.inputs method.arguments) := by
  unfold buildMethod
  refine (buildArguments_gives function.name function.inputs).bind
    fun arguments second toSecond isArguments => ?_
  refine (methodName_gives function).bind fun name third toThird named => ?_
  refine (buildCall_gives function).bind fun call last toLast fits => Gives.look (.pure ?_)
  refine ⟨⟨toLast.keeps _ _ named, isArguments.1, rfl, fits⟩, fun sound => ?_⟩
  have fromSecond := toThird.trans toLast
  exact (isArguments.2 sound).mono (fromSecond.grows (toSecond.sound sound))

/-- There is one method for each function, in their order. -/
theorem buildMethods_gives (functions : List Member) :
    Gives reserved start (buildMethods functions) fun after methods =>
      List.Forall₂ (fun function method => method.IsFor after.plan function) functions methods ∧
        (start.registry.Sound reserved →
          List.Forall₂
            (fun function method =>
              Typed after.registry.interfaces function.inputs method.arguments)
            functions methods) := by
  induction functions generalizing start with
  | nil => exact .pure ⟨.nil, fun _ => .nil⟩
  | cons function rest inductionHypothesis =>
    refine (buildMethod_gives function).bind fun method middle toMiddle isFirst => ?_
    refine inductionHypothesis.bind fun methods last toLast areRest => .pure ?_
    refine ⟨.cons (isFirst.1.continues toLast) areRest.1, fun sound => ?_⟩
    have middleSound := toMiddle.sound sound
    exact .cons ((isFirst.2 sound).mono (toLast.grows middleSound)) (areRest.2 middleSound)

/-! ### Classes -/

/-- The inputs of the constructor if there is one, and none otherwise. -/
def deployInputs : Option Member → List Parameter
  | none => []
  | some member => member.inputs

/-- The arguments of `deploy` are those for the inputs of the constructor. -/
theorem buildDeploy_gives (constructor : Option Member) :
    Gives reserved start (buildDeploy constructor) fun after arguments =>
      arguments.map (·.name) = argumentNames (deployInputs constructor) ∧
        (start.registry.Sound reserved →
          Typed after.registry.interfaces (deployInputs constructor) arguments) := by
  have rest : ∀ (pass : Pass) (arguments : List Argument),
      Gives reserved pass
        (do
          Pass.useImport start.style.contractModule ["Contract", "SendOptions"]
          modify fun pass => { pass with hasDeploy := true }
          Pass.requireLines [0, 1, 2]
          return arguments)
        fun _ given => given = arguments := by
    intro pass arguments
    refine (useImport_gives _ _).bind fun _ _ _ _ => ?_
    refine (Gives.change (.of_eq rfl rfl)).bind fun _ _ _ _ => ?_
    exact (requireLines_gives _).bind fun _ _ _ _ => .pure rfl
  unfold buildDeploy
  refine Gives.look ?_
  by_cases isSecond : start.hasDeploy = true
  · rw [if_pos isSecond]
    have stops : Gives reserved start
        (throw (.shape (.deployTwice start.contract.display)) : Building PUnit)
        fun _ _ => False := .throw _
    exact stops.bind fun _ _ _ isFalse => isFalse.elim
  · rw [if_neg isSecond]
    cases constructor with
    | none =>
      refine (rest start []).conclude ?_
      rintro after _ _ rfl
      exact ⟨rfl, fun _ => .nil⟩
    | some member =>
      refine (buildArguments_gives "constructor" member.inputs).bind
        fun arguments middle toMiddle isArguments => ?_
      refine (rest middle arguments).conclude ?_
      rintro after _ toAfter rfl
      exact ⟨isArguments.1, fun sound =>
        (isArguments.2 sound).mono (toAfter.grows (toMiddle.sound sound))⟩

/-- The client is that of the members: it has the method of each function, in their order, and
deploys with the inputs of the constructor. -/
structure ClientClass.IsFor (plan : MethodPlan) (members : List Member) (client : ClientClass) :
    Prop where
  methods : List.Forall₂ (fun function method => method.IsFor plan function)
    (functionsAmong members) client.methods
  deploy : client.deployArguments.map (·.name) =
    argumentNames (deployInputs (constructorAmong members))

/-- The arguments of the methods of the client, and those of `deploy`, have the types of the inputs
that they are for. -/
structure ClientClass.IsTyped (interfaces : List Interface) (members : List Member)
    (client : ClientClass) : Prop where
  methods : List.Forall₂
    (fun function method => Typed interfaces function.inputs method.arguments)
    (functionsAmong members) client.methods
  deploy : Typed interfaces (deployInputs (constructorAmong members)) client.deployArguments

/-- A notice plans nothing. -/
theorem notice_continues (notice : Notice) : start.Continues reserved (start.notice notice) :=
  ⟨.refl _, rfl, fun sound => sound.telling _, fun _ => List.prefix_refl _⟩

/-- What comes behind the methods of a class leaves them as they are. -/
theorem finishClass_gives (constructor : Option Member) (methods : List Method) :
    Gives reserved start
      (do
        if constructor.isNone then modify fun pass => pass.notice (.defaultDeploy pass.contract)
        let deployArguments ← buildDeploy constructor
        return (⟨(← get).className, methods, deployArguments⟩ : ClientClass))
      fun after client => client.methods = methods ∧
        client.deployArguments.map (·.name) = argumentNames (deployInputs constructor) ∧
        (start.registry.Sound reserved →
          Typed after.registry.interfaces (deployInputs constructor) client.deployArguments) := by
  cases constructor with
  | none =>
    have told := @notice_continues reserved start (.defaultDeploy start.contract)
    refine (Gives.change told).bind ?_
    rintro _ _ _ rfl
    refine (buildDeploy_gives none).bind fun arguments after _ isDeploy => Gives.look (.pure ?_)
    exact ⟨rfl, isDeploy.1, fun sound => isDeploy.2 (told.sound sound)⟩
  | some member =>
    exact (buildDeploy_gives (some member)).bind
      fun arguments after _ isDeploy => Gives.look (.pure ⟨rfl, isDeploy⟩)

/-- What a class is made of once the names are planned. -/
theorem planned_gives (members : List Member) :
    Gives reserved start
      (do
        modify fun pass => { pass with level := 1 }
        Pass.requireLines [0, 1, 2, 3]
        let methods ← buildMethods (functionsAmong members)
        let constructor := constructorAmong members
        if constructor.isNone then modify fun pass => pass.notice (.defaultDeploy pass.contract)
        let deployArguments ← buildDeploy constructor
        return (⟨(← get).className, methods, deployArguments⟩ : ClientClass))
      fun after client => client.IsFor after.plan members ∧
        (start.registry.Sound reserved → client.IsTyped after.registry.interfaces members) := by
  refine (Gives.change (.of_eq rfl rfl)).bind ?_
  rintro _ _ _ rfl
  refine (requireLines_gives _).bind ?_
  rintro _ _ _ rfl
  refine (buildMethods_gives (functionsAmong members)).bind
    fun methods middle toMiddle areMethods => ?_
  refine (finishClass_gives (constructorAmong members) methods).conclude ?_
  rintro after client toAfter ⟨rfl, named, typed⟩
  refine ⟨⟨areMethods.1.imp fun _ _ isFor => isFor.continues toAfter, named⟩, fun sound => ?_⟩
  have middleSound := toMiddle.sound sound
  exact ⟨(areMethods.2 sound).imp fun _ _ areTyped => areTyped.mono (toAfter.grows middleSound),
    typed middleSound⟩

end

/-- A method that is that of its function behind the planning of all functions is so already once
they are planned. -/
theorem Method.IsFor.of_keeps {plan later : MethodPlan} {function : Member} {method : Method}
    (isFor : method.IsFor later function) (keeps : plan.Keeps later)
    (marks : later.overloaded = plan.overloaded) (knows : plan.Knows function.signature) :
    method.IsFor plan function := by
  obtain ⟨name, named⟩ := Option.isSome_iff_exists.mp knows
  have same : name = method.name :=
    Option.some.inj ((keeps _ _ named).symm.trans isFor.named)
  refine ⟨same ▸ named, isFor.arguments, ?_, isFor.call⟩
  rw [isFor.accessor, MethodPlan.accessor, MethodPlan.accessor, marks]

/-- A class that is built is that of its members, under the names that were planned for all of
them at first. -/
theorem buildClass_isFor {reserved : List String} {start after : Pass} {members : List Member}
    {client : ClientClass} (runs : buildClass members start = (.ok client, after)) :
    client.IsFor (start.plan.extend members).1 members ∧
      (start.registry.Sound reserved → client.IsTyped after.registry.interfaces members) := by
  -- The first step is brought to the front here; unfolding the definition would hide it in the
  -- settings that it looks at.
  have runs : (Pass.useImport start.style.contractModule ["Contract"] >>= fun _ => _) start = _ :=
    runs
  obtain ⟨_, imported, imports, runs⟩ := exists_of_bind_run runs
  obtain ⟨toImported, samePlan⟩ := @useImport_gives reserved _ _ _ _ _ imports
  obtain ⟨_, planned, plans, runs⟩ := exists_of_bind_run runs
  have isPlanned : planned = imported.planMethods members := by
    have right := (planNames_builds members).right () (congrArg Prod.fst plans)
    rw [plans] at right
    exact right.2
  rw [planMethods_eq] at isPlanned
  have plannedPlan : planned.plan = (start.plan.extend members).1 := by
    rw [isPlanned, samePlan]
  obtain ⟨toAfter, isFor, isTyped⟩ := @planned_gives reserved planned members client after runs
  rw [← plannedPlan]
  refine ⟨⟨?methods, isFor.deploy⟩, fun sound => isTyped ?sound⟩
  case methods =>
    -- The names are those behind the last step; every function was known once all were planned.
    have known : ∀ function ∈ functionsAmong members,
        planned.plan.Knows function.signature := by
      rw [plannedPlan]
      exact fun function isFunction => MethodPlan.extend_knows start.plan isFunction
    exact ((List.forall₂_and_left _ _).mpr ⟨known, isFor.methods⟩).imp
      fun _ _ ⟨knows, isFor⟩ => isFor.of_keeps toAfter.keeps toAfter.overloaded knows
  case sound =>
    rw [isPlanned]
    exact (toImported.sound sound).telling _

/-- A module holds the class that is built for its members, the interfaces and the imports found for
it, and the header of the settings; nothing is done besides. -/
theorem buildClass_of_buildModule {start after : Pass} {members : List Member}
    {module : ClientModule} (runs : buildModule members start = (.ok module, after)) :
    buildClass members start = (.ok module.client, after) ∧
      module.interfaces = after.registry.interfaces ∧ module.imports = after.imports ∧
      after.style.header = some module.header := by
  obtain ⟨client, classEnd, builds, finishes⟩ := exists_of_bind_run runs
  suffices finish : Gives [] classEnd _ fun after (module : ClientModule) =>
      after = classEnd ∧ module.client = client ∧
        module.interfaces = after.registry.interfaces ∧ module.imports = after.imports ∧
        after.style.header = some module.header by
    obtain ⟨_, rfl, rfl, found⟩ := finish module after finishes
    exact ⟨builds, found⟩
  refine Gives.look ?_
  cases isHeader : classEnd.style.header with
  | none => exact .throw _
  | some header =>
    refine (check_gives _).bind ?_
    rintro _ _ _ rfl
    exact .pure ⟨rfl, rfl, rfl, rfl, isHeader⟩

/-- A text that is assembled is that of a module that is built. -/
theorem exists_of_assembleModule {contract : Json} {members : List Member} {style : Style}
    {collector told : Collector} {text : String}
    (assembles : assembleModule contract members style collector = (.ok text, told)) :
    ∃ module after, buildModule members (.start contract style collector) = (.ok module, after) ∧
      text = module.render style := by
  rw [assembleModule] at assembles
  cases runs : buildModule members (.start contract style collector) with
  | mk ended after =>
    rw [runs] at assembles
    cases ended with
    | error fault => cases congrArg Prod.fst assembles
    | ok module => exact ⟨module, after, rfl, (Except.ok.inj (Prod.mk.inj assembles).1).symm⟩

/-- A module that is built is the client module for its members. -/
theorem buildModule_isFor {contract : Json} {members : List Member} {style : Style}
    {collector : Collector} {module : ClientModule} {after : Pass}
    (runs : buildModule members (.start contract style collector) = (.ok module, after)) :
    module.client.IsFor (MethodPlan.empty.extend members).1 members ∧
      module.client.IsTyped module.interfaces members := by
  obtain ⟨builds, sameInterfaces, _⟩ := buildClass_of_buildModule runs
  obtain ⟨isFor, isTyped⟩ :=
    @buildClass_isFor (style.reservedNames contract.display) _ _ _ _ builds
  have sound := Registry.freshWithin_sound mappableLevels
    (style.reservedNames contract.display) style.resultSuffix contract collector
  exact ⟨isFor, sameInterfaces ▸ isTyped sound⟩

/-- A module that is assembled is the text of a client module for the members. -/
theorem assembleModule_isFor {contract : Json} {members : List Member} {style : Style}
    {collector told : Collector} {text : String}
    (assembles : assembleModule contract members style collector = (.ok text, told)) :
    ∃ module : ClientModule, text = module.render style ∧
      module.client.IsFor (MethodPlan.empty.extend members).1 members ∧
      module.client.IsTyped module.interfaces members := by
  obtain ⟨module, after, runs, rendered⟩ := exists_of_assembleModule assembles
  exact ⟨module, rendered, buildModule_isFor runs⟩

end ContractClient
