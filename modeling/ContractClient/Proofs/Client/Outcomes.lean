/-
This file says how the generation of a client ends under the standard settings. The functions are
gone through in their order: the inputs of each are mapped, then the outputs of a query, whose
answer is rebuilt, while the outputs of a transaction are only checked. The registry in front of
each function is that of the calls made before (`Member.calls`).

The generation ends as the checks of all functions and of the constructor do, one after the other
(`buildModule_builds`); nothing else in it can fail.
-/

import ContractClient.Proofs.Client.Answers

namespace ContractClient

theorem outcome_unit (check : Except Fault Unit) : outcome check = check := by
  cases check <;> rfl

/-! ### What is asked of the registry -/

/-- The calls for the type of what a query gives back. -/
def returnCalls (member : String) : List Parameter → List Call
  | [] => []
  | [output] => [.parameter member output]
  | outputs => [.result member outputs]

/-- The calls for the inputs of a member. -/
def inputCalls (member : String) (inputs : List Parameter) : List Call :=
  inputs.map (.parameter member)

/-- The calls for the way a function is called. -/
def Member.answerCalls (function : Member) : List Call :=
  match function.mutability with
  | some .readOnly => returnCalls function.name function.outputs
  | _ => []

/-- The calls for the method of a function. -/
def Member.calls (function : Member) : List Call :=
  inputCalls function.name function.inputs ++ function.answerCalls

/-! ### Checks -/

/-- Fails unless the type of what a query gives back can be mapped. -/
def requireReturn (levels : Nat) (resultSuffix member : String) :
    List Parameter → Except Fault Unit
  | [] => .ok ()
  | [output] => requireParameter levels member output
  | outputs => requireResult levels resultSuffix member outputs

/-- Fails unless the outputs of a function can be mapped and rebuilt, or checked. -/
noncomputable def requireCall (registry : Registry) (function : Member) : Except Fault Unit :=
  match function.mutability with
  | some .readOnly => do
    requireReturn registry.levels registry.resultSuffix function.name function.outputs
    requireDepth
      (OutputsRebuildable (runCalls function.answerCalls registry).interfaces function.outputs)
  | _ => checkParameters function.name function.outputs

/-- Fails unless the method of a function can be built on the registry. -/
noncomputable def requireMethod (registry : Registry) (function : Member) : Except Fault Unit := do
  requireParameters registry.levels function.name function.inputs
  requireCall (runCalls (inputCalls function.name function.inputs) registry) function

/-- Fails unless the methods of the functions can be built one after the other. -/
noncomputable def requireMethods (registry : Registry) : List Member → Except Fault Unit
  | [] => .ok ()
  | function :: rest => do
    requireMethod registry function
    requireMethods (runCalls function.calls registry) rest

/-- Fails unless `deploy` can be built. -/
def requireDeploy (levels : Nat) : Option Member → Except Fault Unit
  | none => .ok ()
  | some member => requireParameters levels "constructor" member.inputs

/-- Fails unless the client of the members can be built. -/
noncomputable def requireClient (registry : Registry) (members : List Member) :
    Except Fault Unit := do
  (functionsAmong members).forM Member.requireSignature
  requireMethods registry (functionsAmong members)
  requireDeploy registry.levels (constructorAmong members)

/-! ### Methods -/

section

variable {reserved : List String} {start : Pass}

theorem resolve_builds (member : String) (parameter : Parameter) :
    Builds start (Pass.registering (resolveParameter member parameter))
      (requireParameter start.registry.levels member parameter)
      fun ty after => (resolveParameter member parameter start.registry).1 = .ok ty ∧
        after = { start with registry := runCalls [.parameter member parameter] start.registry } :=
  (registering_builds (resolveParameter_checks member parameter)).conclude
    fun _ _ ⟨same, left⟩ => ⟨same, by
      rw [left, runCalls, runCalls, Call.perform, written_state]⟩

theorem length_argumentNamesFrom (taken : List String) (number : Nat)
    (parameters : List Parameter) :
    (argumentNamesFrom taken number parameters).length = parameters.length := by
  induction parameters generalizing taken number with
  | nil => rfl
  | cons parameter rest inductionHypothesis =>
    rw [argumentNamesFrom]
    split <;> simp only [List.length_cons, inductionHypothesis]

theorem resolveAll_builds (sound : start.registry.Sound reserved) (member : String)
    (entries : List (String × Parameter)) :
    Builds start
      (entries.mapM fun entry => do
        let ty ← Pass.registering (resolveParameter member entry.2)
        return (⟨entry.1, ty⟩ : Argument))
      (requireParameters start.registry.levels member (entries.map (·.2)))
      fun _ after => after = { start with
        registry := runCalls (inputCalls member (entries.map (·.2))) start.registry } := by
  induction entries generalizing start with
  | nil => exact .pure rfl
  | cons entry rest inductionHypothesis =>
    rw [List.mapM_cons, List.map_cons, requireParameters_cons]
    have first : Builds start
        (Pass.registering (resolveParameter member entry.2) >>= fun ty =>
          Pure.pure (⟨entry.1, ty⟩ : Argument))
        (requireParameter start.registry.levels member entry.2)
        fun _ after => after = { start with
          registry := runCalls [.parameter member entry.2] start.registry } :=
      (resolve_builds member entry.2).thenOk fun ty _ holds => .pure holds.2
    refine first.bind ?_
    rintro argument _ rfl
    rw [← (runCalls_keeps [.parameter member entry.2] sound).levels]
    refine (inductionHypothesis (runCalls_sound [.parameter member entry.2] sound).1).thenOk ?_
    rintro arguments _ rfl
    exact .pure rfl

theorem buildArguments_builds (sound : start.registry.Sound reserved) (member : String)
    (parameters : List Parameter) :
    Builds start (buildArguments member parameters)
      (requireParameters start.registry.levels member parameters)
      fun _ after => after = { start with
        registry := runCalls (inputCalls member parameters) start.registry } := by
  have same : ((argumentNames parameters).zip parameters).map (·.2) = parameters :=
    List.map_snd_zip (Nat.le_of_eq (length_argumentNamesFrom _ _ _).symm)
  have builds := resolveAll_builds sound member ((argumentNames parameters).zip parameters)
  rw [same] at builds
  exact builds

/-- Mapping what a query gives back asks for it as the calls do. -/
theorem returnType_builds (sound : start.registry.Sound reserved) (member : String) :
    ∀ outputs : List Parameter,
      Builds start (returnType member outputs)
        (requireReturn start.registry.levels start.registry.resultSuffix member outputs)
        fun ty after =>
          Returns (runCalls (returnCalls member outputs) start.registry).interfaces outputs ty ∧
            after = { start with
              registry := runCalls (returnCalls member outputs) start.registry }
  | [] => .pure ⟨trivial, rfl⟩
  | [output] => by
    refine (resolve_builds member output).conclude ?_
    rintro ty _ ⟨same, rfl⟩
    refine ⟨?_, rfl⟩
    show output.HasTy (written (resolveParameter member output) start.registry).2.interfaces ty
    rw [written_state]
    exact (resolveParameter_yields sound member output).right ty same
  | first :: second :: rest => by
    refine (registering_builds (resolveResult_checks member _)).thenOk ?_
    rintro shape _ ⟨same, rfl⟩
    refine .pure ⟨?_, rfl⟩
    show OutputsHaveName _ _ (Ty.ofText shape).text
    rw [Ty.text_ofText]
    exact (resolveResult_yields sound member _).right shape same

theorem buildCall_builds (ready : start.Ready reserved) (function : Member) :
    Builds start (buildCall function) (requireCall start.registry function)
      fun _ after => start.Leads (runCalls function.answerCalls start.registry) after := by
  have contractModule : start.style.contractModule.isPlain := by rw [ready.style]; rfl
  have coreModule : start.style.coreModule.isPlain := by rw [ready.style]; rfl
  have transaction : Builds start
      (do
        checkParameters function.name function.outputs
        Pass.useImport start.style.contractModule ["SendOptions"]
        Pass.useImport start.style.coreModule ["PromiEvent", "TransactionReceipt"]
        Pass.requireLines [1, 0]
        return CallKind.transaction)
      (checkParameters function.name function.outputs)
      fun _ after => start.Leads start.registry after := by
    have checks : Builds start (liftM (checkParameters function.name function.outputs))
        (outcome (checkParameters function.name function.outputs))
        fun _ after => after = start := (Builds.lift _).conclude fun _ _ holds => holds.2
    rw [outcome_unit] at checks
    refine checks.thenOk ?_
    rintro _ _ rfl
    refine (useImport_builds contractModule _).bindOk ?_
    rintro _ _ ⟨imports, rfl⟩
    refine (useImport_builds coreModule _).bindOk ?_
    rintro _ _ ⟨imports, rfl⟩
    refine (requireLines_builds (ready.after [] _) (by simp)).bindOk ?_
    rintro _ _ rfl
    exact .pure ⟨imports, rfl⟩
  unfold buildCall requireCall Member.answerCalls
  refine Builds.look ?_
  generalize function.mutability = called
  rcases called with _ | (_ | _)
  case none => exact transaction
  case some.mutating => exact transaction
  case some.readOnly =>
    refine (returnType_builds ready.sound function.name function.outputs).bind ?_
    rintro ty _ ⟨returns, rfl⟩
    refine (useImport_builds contractModule _).bindOk ?_
    rintro _ _ ⟨imports, rfl⟩
    have answered := ready.after (returnCalls function.name function.outputs) imports
    refine (buildAnswer_builds answered function returns).thenOk ?_
    rintro answer _ rfl
    refine (requireLines_builds answered (by simp)).bindOk ?_
    rintro _ _ rfl
    exact .pure ⟨imports, rfl⟩

/-- The method of a function that is planned ends as the check of the function does. -/
theorem buildMethod_builds (ready : start.Ready reserved) {function : Member}
    (spelled : spelledLevels function.inputs ≤ spellableLevels)
    (knows : start.plan.Knows function.signature) :
    Builds start (buildMethod function) (requireMethod start.registry function)
      fun _ after => start.Leads (runCalls function.calls start.registry) after := by
  unfold buildMethod
  refine (buildArguments_builds ready.sound function.name function.inputs).bind ?_
  rintro arguments _ rfl
  refine (methodName_builds spelled ?_).bindOk ?_
  · exact knows
  rintro name _ rfl
  refine (buildCall_builds (ready.after (inputCalls function.name function.inputs) start.imports)
    function).thenOk ?_
  rintro call _ ⟨imports, rfl⟩
  refine Builds.look (.pure ⟨imports, ?_⟩)
  rw [Member.calls, runCalls_append]

/-- The methods of functions that are planned end as the checks of the functions do. -/
theorem buildMethods_builds (ready : start.Ready reserved) {functions : List Member}
    (spelled : ∀ function ∈ functions, spelledLevels function.inputs ≤ spellableLevels)
    (knows : ∀ function ∈ functions, start.plan.Knows function.signature) :
    Builds start (buildMethods functions) (requireMethods start.registry functions)
      fun _ after => start.Leads (runCalls (functions.flatMap Member.calls) start.registry)
        after := by
  induction functions generalizing start with
  | nil => exact .pure ⟨start.imports, rfl⟩
  | cons function rest inductionHypothesis =>
    rw [buildMethods, requireMethods]
    refine (buildMethod_builds ready (spelled function List.mem_cons_self)
      (knows function List.mem_cons_self)).bind ?_
    rintro method _ ⟨imports, rfl⟩
    refine (inductionHypothesis (ready.after function.calls imports)
      (fun other member => spelled other (List.mem_cons_of_mem _ member))
      (fun other member => knows other (List.mem_cons_of_mem _ member))).thenOk ?_
    rintro methods _ ⟨imports, rfl⟩
    refine .pure ⟨imports, ?_⟩
    rw [List.flatMap_cons, runCalls_append]

/-! ### Clients -/

theorem buildDeploy_builds (ready : start.Ready reserved) (isFirst : start.hasDeploy = false)
    (constructor : Option Member) :
    Builds start (buildDeploy constructor) (requireDeploy start.registry.levels constructor)
      fun _ after => after.style = start.style := by
  have contractModule : start.style.contractModule.isPlain := by rw [ready.style]; rfl
  have rest : ∀ (calls : List Call) (arguments : List Argument),
      Builds { start with registry := runCalls calls start.registry }
        (do
          Pass.useImport start.style.contractModule ["Contract", "SendOptions"]
          modify fun pass => { pass with hasDeploy := true }
          Pass.requireLines [0, 1, 2]
          return arguments)
        (.ok ()) fun _ after => after.style = start.style := by
    intro calls arguments
    refine (useImport_builds contractModule _).bindOk ?_
    rintro _ _ ⟨imports, rfl⟩
    refine (Builds.change _).bindOk ?_
    rintro _ _ rfl
    refine (@requireLines_builds reserved _ ?ready _ ?shallow).bindOk ?_
    case ready => exact ⟨ready.style, ready.level, (runCalls_sound calls ready.sound).1⟩
    case shallow => simp
    rintro _ _ rfl
    exact .pure rfl
  unfold buildDeploy
  refine Builds.look ?_
  rw [isFirst, if_neg Bool.false_ne_true]
  cases constructor with
  | none => exact rest [] []
  | some member =>
    refine (buildArguments_builds ready.sound "constructor" member.inputs).thenOk ?_
    rintro arguments _ rfl
    exact rest _ arguments

/-- What comes behind the methods of a class ends as the check of `deploy` does. -/
theorem finishClass_builds (ready : start.Ready reserved) (isFirst : start.hasDeploy = false)
    (constructor : Option Member) (methods : List Method) :
    Builds start
      (do
        if constructor.isNone then modify fun pass => pass.notice (.defaultDeploy pass.contract)
        let deployArguments ← buildDeploy constructor
        return (⟨(← get).className, methods, deployArguments⟩ : ClientClass))
      (requireDeploy start.registry.levels constructor)
      fun _ after => after.style = start.style := by
  cases constructor with
  | none =>
    refine (Builds.change _).bindOk ?_
    rintro _ _ rfl
    exact (buildDeploy_builds (ready.notice _) isFirst none).thenOk
      fun _ _ sameStyle => .look (.pure sameStyle)
  | some member =>
    exact (buildDeploy_builds ready isFirst (some member)).thenOk
      fun _ _ sameStyle => .look (.pure sameStyle)

/-- The class of a client ends as the check of its members does, on the registry that planning
leaves. -/
theorem buildClass_builds (style : start.style = Options.standard.style)
    (sound : start.registry.Sound reserved) (isFirst : start.hasDeploy = false)
    (members : List Member) :
    Builds start (buildClass members)
      (requireClient (start.planMethods members).registry members)
      fun _ after => after.style = start.style := by
  have contractModule : start.style.contractModule.isPlain := by rw [style]; rfl
  unfold buildClass
  refine Builds.look ((useImport_builds contractModule _).bindOk ?_)
  rintro _ _ ⟨imports, rfl⟩
  have sameRegistry : (start.planMethods members).registry =
      (Pass.planMethods { start with imports := imports } members).registry := by
    rw [planMethods_eq, planMethods_eq]
  rw [sameRegistry, requireClient]
  obtain ⟨ready, knows⟩ :=
    @planMethods_ready reserved { start with imports := imports } style sound members
  have stillFirst :
      (Pass.planMethods { start with imports := imports } members).hasDeploy = false := by
    rw [planMethods_eq]
    exact isFirst
  have sameStyle :
      (Pass.planMethods { start with imports := imports } members).style = start.style := by
    rw [planMethods_eq]
  refine (planNames_builds members).bind ?_
  rintro _ _ ⟨spelled, rfl⟩
  have spells : Spellable members := forM_requireSignature_eq_ok_iff.mp spelled
  generalize Pass.planMethods { start with imports := imports } members = planned at *
  refine (Builds.change _).bindOk ?_
  rintro _ _ rfl
  refine (requireLines_builds ready (by simp)).bindOk ?_
  rintro _ _ rfl
  refine (buildMethods_builds ready ?spells knows).bind ?_
  case spells => exact spells
  rintro methods _ ⟨later, rfl⟩
  have sameLevels := (runCalls_keeps ((functionsAmong members).flatMap Member.calls)
    ready.sound).levels
  have built := ready.after ((functionsAmong members).flatMap Member.calls) later
  rw [← sameLevels, ← sameStyle]
  exact finishClass_builds built stillFirst (constructorAmong members) methods

/-- The module of a client ends as the check of its members does. -/
theorem buildModule_builds (style : start.style = Options.standard.style)
    (sound : start.registry.Sound reserved) (isFirst : start.hasDeploy = false)
    (members : List Member) :
    Builds start (buildModule members)
      (requireClient (start.planMethods members).registry members) fun _ _ => True := by
  unfold buildModule
  refine (buildClass_builds style sound isFirst members).thenOk fun client after sameStyle => ?_
  refine Builds.look ?_
  rw [sameStyle, style]
  exact .pure trivial

end

end ContractClient
