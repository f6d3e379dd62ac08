/-
This file follows the generation of a class and keeps account of what whoever listens is told. Each
step serves the sources of its function in turn, and tells of nothing but the interfaces that got
other names than those requested for them (`Pass.Reports`); the names of the methods are told when
they are planned, and a default `deploy` when no constructor was found. So a class tells first of
its methods, then of its interfaces, and at last of its `deploy` (`buildModule_tells`).
-/

import ContractClient.Proofs.Client.Discovery
import ContractClient.Proofs.Registry.Requests

namespace ContractClient

/-! ### What is asked for in turn -/

/-- What the outputs of a member ask for in turn: their tuples and, behind these, the result if
there are several outputs. -/
def returnRequests (suffix member : String) (outputs : List Parameter) : List Source :=
  (mappedTuplesAmong outputs).map .tuple ++ resultSources suffix member outputs

/-- What a function asks for in turn: the tuples of its inputs, and what is answered. -/
def Member.requests (style : Style) (function : Member) : List Source :=
  (mappedTuplesAmong function.inputs).map .tuple ++
    returnRequests style.resultSuffix function.name function.answered

/-- What a contract asks for in turn: its functions in their order, and behind them its
constructor. -/
def clientRequests (style : Style) (members : List Member) : List Source :=
  (functionsAmong members).flatMap (Member.requests style) ++
    (mappedTuplesAmong (deployInputs (constructorAmong members))).map .tuple

/-! ### Notices of methods and of `deploy` -/

/-- The notice that a function does not have its own name as a method, if that is so. -/
def overloadNotice? (contract : Json) (entry : Member × Method) : Option Notice :=
  if MethodPlan.IsOwn entry.1.name entry.2.name then none
  else some (.overloadRenamed entry.1.signature entry.2.name contract)

/-- The notices of the functions that do not have their own names as methods, in their order. -/
def overloadNotices (contract : Json) (functions : List Member) (methods : List Method) :
    List Notice :=
  (functions.zip methods).filterMap (overloadNotice? contract)

/-- The notices of renamed functions. -/
def planNotices (contract : Json) (renamed : List (String × String)) : List Notice :=
  renamed.map fun entry => .overloadRenamed entry.1 entry.2 contract

/-- The notice that there is no constructor, if that is so. -/
def deployNotices (contract : Json) (constructor : Option Member) : List Notice :=
  if constructor.isNone then [.defaultDeploy contract] else []

/-- Where the methods bear the planned names, the notices are those of the renamed functions. -/
theorem overloadNotices_eq {plan : MethodPlan} {functions : List Member} {methods : List Method}
    (contract : Json)
    (named : List.Forall₂
      (fun function method => plan.nameOf? function.signature = some method.name)
      functions methods) :
    overloadNotices contract functions methods =
      planNotices contract (functions.filterMap (MethodPlan.renaming? plan)) := by
  induction named with
  | nil => rfl
  | @cons function method functions methods isFirst _ inductionHypothesis =>
    by_cases isOwn : MethodPlan.IsOwn function.name method.name
    · have isQuiet : overloadNotice? contract (function, method) = none := if_pos isOwn
      have staysOwn : MethodPlan.renaming? plan function = none := by
        rw [MethodPlan.renaming?, isFirst, Option.bind_some, if_pos isOwn]
      rw [overloadNotices, List.zip_cons_cons, List.filterMap_cons_none isQuiet,
        List.filterMap_cons_none staysOwn]
      exact inductionHypothesis
    · have isTold : overloadNotice? contract (function, method) =
          some (.overloadRenamed function.signature method.name contract) := if_neg isOwn
      have isRenamed : MethodPlan.renaming? plan function =
          some (function.signature, method.name) := by
        rw [MethodPlan.renaming?, isFirst, Option.bind_some, if_neg isOwn]
      rw [overloadNotices, List.zip_cons_cons, List.filterMap_cons_some isTold,
        List.filterMap_cons_some isRenamed]
      exact congrArg _ inductionHypothesis

/-! ### Steps and what they tell -/

/-- The later pass is for the contract and has the settings of the earlier one. Its registry serves
the sources, and nothing else was told. -/
structure Pass.Reports (reserved : List String) (start after : Pass) (sources : List Source) :
    Prop where
  contract : after.contract = start.contract
  style : after.style = start.style
  sound : start.registry.Sound reserved → after.registry.Sound reserved
  serves : start.registry.Sound reserved →
    start.registry.resultSuffix = start.style.resultSuffix →
      start.registry.Serves after.registry sources

section

variable {reserved : List String} {start middle after : Pass} {sources others : List Source}

/-- A pass with the same registry, contract and settings was told nothing. -/
theorem Pass.Reports.of_eq (registry : after.registry = start.registry)
    (contract : after.contract = start.contract) (style : after.style = start.style) :
    start.Reports reserved after [] :=
  ⟨contract, style, registry ▸ id, fun _ _ => registry ▸ .none _⟩

theorem Pass.Reports.append (first : start.Reports reserved middle sources)
    (second : middle.Reports reserved after others) :
    start.Reports reserved after (sources ++ others) := by
  constructor
  case contract => exact second.contract.trans first.contract
  case style => exact second.style.trans first.style
  case sound => exact fun sound => second.sound (first.sound sound)
  case serves =>
    intro sound sameSuffix
    have served := first.serves sound sameSuffix
    refine served.append (second.serves (first.sound sound) ?_)
    rw [served.keeps.resultSuffix, sameSuffix, first.style]

/-- Imports are told nobody. -/
theorem Pass.Reports.afterImport (reports : start.Reports reserved middle sources)
    {imports : Imports} :
    start.Reports reserved { middle with imports := imports } sources :=
  ⟨reports.contract, reports.style, reports.sound, reports.serves⟩

/-! ### Steps of a pass -/

/-- A step on the registry that serves its sources tells of them alone. -/
theorem registering_reports {α : Type} {step : Registering α}
    {right : List Interface → α → Prop}
    (yields : ∀ {registry : Registry}, registry.Sound reserved →
      Yields reserved registry step right)
    (serving : ∀ {registry : Registry}, registry.Sound reserved →
      registry.resultSuffix = start.style.resultSuffix → Serving registry step sources) :
    Gives reserved start (Pass.registering step) fun after _ =>
      start.Reports reserved after sources := by
  intro value after ends
  obtain ⟨continues, _⟩ :=
    (registering_gives yields : Gives reserved start (Pass.registering step) _) value after ends
  obtain ⟨ended, rfl⟩ := Prod.mk.inj ends
  exact ⟨continues, rfl, rfl, continues.sound, fun sound sameSuffix =>
    serving sound sameSuffix value _ (Prod.ext ended rfl)⟩

theorem resolveParameter_reports (member : String) (parameter : Parameter) :
    Gives reserved start (Pass.registering (resolveParameter member parameter)) fun after _ =>
      start.Reports reserved after (parameter.mappedTuples.map .tuple) :=
  registering_reports (fun sound => resolveParameter_yields sound member parameter)
    fun sound _ => resolveParameter_serves sound member parameter

theorem resolveResult_reports (member : String) (outputs : List Parameter) :
    Gives reserved start (Pass.registering (resolveResult member outputs)) fun after _ =>
      start.Reports reserved after
        ((mappedTuplesAmong outputs).map .tuple ++
          [.result start.style.resultSuffix member outputs]) := by
  refine registering_reports (fun sound => resolveResult_yields sound member outputs)
    fun sound sameSuffix => ?_
  rw [← sameSuffix]
  exact resolveResult_serves sound member outputs

theorem useImport_adds (module : Json) (names : List String) :
    Gives reserved start (Pass.useImport module names) fun after _ =>
      ∃ imports, after = { start with imports := imports } := by
  unfold Pass.useImport
  refine .afterCheck fun _ _ => (Gives.change (.of_eq rfl rfl)).conclude ?_
  rintro _ _ _ rfl
  exact ⟨_, rfl⟩

/-- Asking for the name of a function that is planned already changes nothing. -/
theorem methodName_stays {function : Member} (knows : start.plan.Knows function.signature) :
    Gives reserved start (Pass.methodName function) fun after _ => after = start := by
  unfold Pass.methodName
  refine .afterCheck fun _ _ => Gives.look ?_
  split
  · rename_i isUnknown
    rw [Option.isNone_iff_eq_none] at isUnknown
    rw [MethodPlan.Knows, isUnknown] at knows
    cases knows
  · refine Gives.look ?_
    split
    · exact .pure rfl
    · exact .throw _

/-! ### Arguments and answers -/

theorem resolveAll_reports (member : String) (entries : List (String × Parameter)) :
    Gives reserved start
      (entries.mapM fun entry => do
        let ty ← Pass.registering (resolveParameter member entry.2)
        return (⟨entry.1, ty⟩ : Argument))
      fun after _ =>
        start.Reports reserved after ((mappedTuplesAmong (entries.map (·.2))).map .tuple) := by
  induction entries generalizing start with
  | nil =>
    rw [List.map_nil, mappedTuplesAmong]
    exact .pure (.of_eq rfl rfl rfl)
  | cons entry rest inductionHypothesis =>
    rw [List.mapM_cons]
    have first : Gives reserved start
        (Pass.registering (resolveParameter member entry.2) >>= fun ty =>
          Pure.pure (⟨entry.1, ty⟩ : Argument))
        fun after _ => start.Reports reserved after (entry.2.mappedTuples.map .tuple) :=
      (resolveParameter_reports member entry.2).bind fun _ _ _ reports => .pure reports
    rw [List.map_cons, mappedTuplesAmong, List.map_append]
    refine first.bind fun argument middle _ isFirst => ?_
    exact inductionHypothesis.bind fun arguments last _ areRest => .pure (isFirst.append areRest)

theorem buildArguments_reports (member : String) (parameters : List Parameter) :
    Gives reserved start (buildArguments member parameters) fun after _ =>
      start.Reports reserved after ((mappedTuplesAmong parameters).map .tuple) := by
  have same : ((argumentNames parameters).zip parameters).map (·.2) = parameters :=
    List.map_snd_zip (Nat.le_of_eq (length_argumentNamesFrom _ _ _).symm)
  have reports :=
    @resolveAll_reports reserved start member ((argumentNames parameters).zip parameters)
  rw [same] at reports
  exact reports

theorem returnType_reports (member : String) (outputs : List Parameter) :
    Gives reserved start (returnType member outputs) fun after _ =>
      start.Reports reserved after
        (returnRequests start.style.resultSuffix member outputs) := by
  unfold returnType
  split
  · rw [returnRequests, mappedTuplesAmong]
    exact .pure (.of_eq rfl rfl rfl)
  · rename_i output
    rw [returnRequests, mappedTuplesAmong, mappedTuplesAmong, List.append_nil]
    have single : resultSources start.style.resultSuffix member [output] = [] := rfl
    rw [single, List.append_nil]
    exact resolveParameter_reports member output
  · rename_i notNone notOne
    refine (resolveResult_reports member outputs).bind fun shape _ _ reports => .pure ?_
    rcases outputs with _ | ⟨first, _ | ⟨second, rest⟩⟩
    · exact (notNone rfl).elim
    · exact (notOne first rfl).elim
    · have several : 2 ≤ (first :: second :: rest).length := Nat.le_add_left 2 rest.length
      rw [returnRequests, resultSources, if_pos several]
      exact reports

/-! ### Methods -/

theorem buildCall_reports (function : Member) :
    Gives reserved start (buildCall function) fun after _ =>
      start.Reports reserved after
        (returnRequests start.style.resultSuffix function.name function.answered) := by
  unfold buildCall Member.answered
  refine Gives.look ?_
  generalize function.mutability = called
  rcases called with _ | (_ | _)
  case some.readOnly =>
    refine (returnType_reports function.name function.outputs).bind fun ty _ _ mapped => ?_
    refine (useImport_adds _ _).bind ?_
    rintro _ _ _ ⟨imports, rfl⟩
    refine (buildAnswer_finds function ty).bind ?_
    rintro answer _ _ ⟨rfl, _⟩
    refine (requireLines_gives _).bind ?_
    rintro _ _ _ rfl
    exact .pure mapped.afterImport
  all_goals
    refine .afterCheck fun _ _ => ?_
    refine (useImport_adds _ _).bind ?_
    rintro _ _ _ ⟨imports, rfl⟩
    refine (useImport_adds _ _).bind ?_
    rintro _ _ _ ⟨moreImports, rfl⟩
    refine (requireLines_gives _).bind ?_
    rintro _ _ _ rfl
    exact .pure (.of_eq rfl rfl rfl)

/-- The method of a function that is planned already tells of the sources of the function alone. -/
theorem buildMethod_reports {function : Member} (knows : start.plan.Knows function.signature) :
    Gives reserved start (buildMethod function) fun after _ =>
      start.Reports reserved after (function.requests start.style) := by
  unfold buildMethod
  refine (buildArguments_reports function.name function.inputs).bind
    fun arguments middle continues resolved => ?_
  refine (methodName_stays (continues.keeps.knows knows)).bind ?_
  rintro name _ _ rfl
  refine (buildCall_reports function).bind fun call last _ called => Gives.look (.pure ?_)
  rw [resolved.style] at called
  exact resolved.append called

theorem buildMethods_reports {functions : List Member}
    (knows : ∀ function ∈ functions, start.plan.Knows function.signature) :
    Gives reserved start (buildMethods functions) fun after _ =>
      start.Reports reserved after (functions.flatMap (Member.requests start.style)) := by
  induction functions generalizing start with
  | nil => exact .pure (.of_eq rfl rfl rfl)
  | cons function rest inductionHypothesis =>
    obtain ⟨knowsFirst, knowsRest⟩ := List.forall_mem_cons.mp knows
    refine (buildMethod_reports knowsFirst).bind fun method middle continues first => ?_
    have stillKnows : ∀ other ∈ rest, middle.plan.Knows other.signature :=
      fun other isOther => continues.keeps.knows (knowsRest other isOther)
    refine (inductionHypothesis stillKnows).bind fun methods last _ others => .pure ?_
    rw [first.style] at others
    rw [List.flatMap_cons]
    exact first.append others

/-! ### Classes -/

theorem buildDeploy_reports (constructor : Option Member) :
    Gives reserved start (buildDeploy constructor) fun after _ =>
      start.Reports reserved after
        ((mappedTuplesAmong (deployInputs constructor)).map .tuple) := by
  have rest : ∀ (pass : Pass) (arguments : List Argument),
      Gives reserved pass
        (do
          Pass.useImport start.style.contractModule ["Contract", "SendOptions"]
          modify fun pass => { pass with hasDeploy := true }
          Pass.requireLines [0, 1, 2]
          return arguments)
        fun after _ => pass.Reports reserved after [] := by
    intro pass arguments
    refine (useImport_adds _ _).bind ?_
    rintro _ _ _ ⟨imports, rfl⟩
    refine (Gives.change (.of_eq rfl rfl)).bind ?_
    rintro _ _ _ rfl
    refine (requireLines_gives _).bind ?_
    rintro _ _ _ rfl
    exact .pure (.of_eq rfl rfl rfl)
  unfold buildDeploy
  refine Gives.look ?_
  by_cases isSecond : start.hasDeploy = true
  · rw [if_pos isSecond]
    have stops : Gives reserved start
        (throw (.shape (.deployTwice start.contract.display)) : Building PUnit)
        fun _ _ => False := .throw _
    exact stops.bind fun _ _ _ isFalse => isFalse.elim
  · rw [if_neg isSecond]
    cases constructor with
    | none =>
      rw [deployInputs, mappedTuplesAmong]
      exact rest start []
    | some member =>
      refine (buildArguments_reports "constructor" member.inputs).bind
        fun arguments middle _ resolved => ?_
      refine (rest middle arguments).conclude fun after _ _ reports => ?_
      have reported := resolved.append reports
      rw [List.append_nil] at reported
      exact reported

/-- From the one pass to the other the sources were served, some notices were told in front of that
and some behind it, and nothing else was told. -/
def Pass.Told (start after : Pass) (before : List Notice) (sources : List Source)
    (behind : List Notice) : Prop :=
  ∃ listening,
    Registry.Serves { start.registry with collector := start.collector.addAll before }
      { after.registry with collector := listening } sources ∧
    after.collector = listening.addAll behind

/-- What comes behind the methods of a class tells of the sources of the constructor, or that there
is no constructor. -/
theorem finishClass_tells (constructor : Option Member) (methods : List Method) :
    Gives reserved start
      (do
        if constructor.isNone then modify fun pass => pass.notice (.defaultDeploy pass.contract)
        let deployArguments ← buildDeploy constructor
        return (⟨(← get).className, methods, deployArguments⟩ : ClientClass))
      fun after _ => start.registry.Sound reserved →
        start.registry.resultSuffix = start.style.resultSuffix →
          start.Told after [] ((mappedTuplesAmong (deployInputs constructor)).map .tuple)
            (deployNotices start.contract constructor) := by
  cases constructor with
  | none =>
    refine (Gives.change (notice_continues _)).bind ?_
    rintro _ _ _ rfl
    refine (buildDeploy_reports none).bind fun arguments after _ reports => Gives.look (.pure ?_)
    intro sound sameSuffix
    obtain ⟨keeps, requests, inTurn, added, told⟩ := reports.serves (sound.telling _) sameSuffix
    rw [deployInputs, mappedTuplesAmong] at inTurn ⊢
    cases inTurn
    exact ⟨start.collector, ⟨⟨keeps.levels, keeps.resultSuffix, keeps.contract⟩, [], .done _,
      added, rfl⟩, told⟩
  | some member =>
    refine (buildDeploy_reports (some member)).bind
      fun arguments after _ reports => Gives.look (.pure ?_)
    exact fun sound sameSuffix => ⟨after.collector, reports.serves sound sameSuffix, rfl⟩

/-- What a class tells once its names are planned. -/
theorem planned_tells {members : List Member}
    (knows : ∀ function ∈ functionsAmong members, start.plan.Knows function.signature) :
    Gives reserved start
      (do
        modify fun pass => { pass with level := 1 }
        Pass.requireLines [0, 1, 2, 3]
        let methods ← buildMethods (functionsAmong members)
        let constructor := constructorAmong members
        if constructor.isNone then modify fun pass => pass.notice (.defaultDeploy pass.contract)
        let deployArguments ← buildDeploy constructor
        return (⟨(← get).className, methods, deployArguments⟩ : ClientClass))
      fun after _ => start.registry.Sound reserved →
        start.registry.resultSuffix = start.style.resultSuffix →
          start.Told after [] (clientRequests start.style members)
            (deployNotices start.contract (constructorAmong members)) := by
  have methodsReport := @buildMethods_reports reserved { start with level := 1 } _ knows
  refine (Gives.change (.of_eq rfl rfl)).bind ?_
  rintro _ _ _ rfl
  refine (requireLines_gives _).bind ?_
  rintro _ _ _ rfl
  refine methodsReport.bind fun methods middle _ reports => ?_
  refine (finishClass_tells (constructorAmong members) methods).conclude
    fun after _ _ tells sound sameSuffix => ?_
  have served := reports.serves sound sameSuffix
  have suffixMiddle : middle.registry.resultSuffix = middle.style.resultSuffix := by
    rw [served.keeps.resultSuffix, reports.style]
    exact sameSuffix
  obtain ⟨listening, serves, told⟩ := tells (reports.sound sound) suffixMiddle
  rw [reports.contract] at told
  exact ⟨listening, served.append serves, told⟩

end

/-- A class that is built tells of the functions that were renamed, then of the interfaces that were
renamed, and at last that there is no constructor, if that is so. -/
theorem buildClass_tells {reserved : List String} {start after : Pass} {members : List Member}
    {client : ClientClass} (runs : buildClass members start = (.ok client, after))
    (sound : start.registry.Sound reserved)
    (sameSuffix : start.registry.resultSuffix = start.style.resultSuffix) :
    start.Told after (planNotices start.contract (start.plan.extend members).2)
      (clientRequests start.style members)
      (deployNotices start.contract (constructorAmong members)) := by
  have runs : (Pass.useImport start.style.contractModule ["Contract"] >>= fun _ => _) start = _ :=
    runs
  obtain ⟨_, imported, isImported, runs⟩ := exists_of_bind_run runs
  obtain ⟨_, imports, rfl⟩ := @useImport_adds reserved _ _ _ _ _ isImported
  obtain ⟨_, planned, plans, runs⟩ := exists_of_bind_run runs
  have isPlanned : planned = { start with imports := imports }.planMethods members := by
    have right := (planNames_builds members).right () (congrArg Prod.fst plans)
    rw [plans] at right
    exact right.2
  rw [planMethods_eq] at isPlanned
  subst isPlanned
  obtain ⟨_, tells⟩ := @planned_tells reserved _ members
    (fun function isFunction => MethodPlan.extend_knows start.plan isFunction) _ _ runs
  obtain ⟨listening, serves, told⟩ := tells (sound.telling _) sameSuffix
  refine ⟨listening, ?_, told⟩
  rw [planNotices, Collector.addAll, List.foldl_map]
  exact serves

/-- All that is told while a module is built is told of its functions, of its interfaces, which are
requested in turn, and of its constructor. -/
theorem buildModule_tells {contract : Json} {members : List Member} {style : Style}
    {collector : Collector} {module : ClientModule} {after : Pass}
    (builds : buildModule members (.start contract style collector) = (.ok module, after)) :
    ∃ requests, RequestedInTurn module.interfaces [] (clientRequests style members) requests ∧
      requests.map (·.2) = module.interfaces ∧
      after.collector = collector.addAll
        (planNotices contract (MethodPlan.empty.extend members).2 ++
          renamedNotices contract requests ++
          deployNotices contract (constructorAmong members)) := by
  obtain ⟨buildsClass, sameInterfaces, _⟩ := buildClass_of_buildModule builds
  have sound := Registry.freshWithin_sound mappableLevels
    (style.reservedNames contract.display) style.resultSuffix contract collector
  obtain ⟨listening, ⟨_, requests, inTurn, added, tells⟩, tellsLast⟩ :=
    buildClass_tells buildsClass sound rfl
  have areInterfaces : requests.map (·.2) = module.interfaces := sameInterfaces ▸ added.symm
  have isListening : listening =
      (collector.addAll (planNotices contract (MethodPlan.empty.extend members).2)).addAll
        (renamedNotices contract requests) := tells
  refine ⟨requests, sameInterfaces ▸ inTurn, areInterfaces, ?_⟩
  rw [Collector.addAll_append, Collector.addAll_append, ← isListening]
  exact tellsLast

end ContractClient
