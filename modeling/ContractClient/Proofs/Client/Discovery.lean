/-
This file follows the generation of a class and keeps account of what it finds. Each step uses the
settings of its pass, imports the names that its method needs, and writes types that are known in
the registry it leaves; and the interfaces that it adds are accounted for by the tuples and the
results of the functions and by the types that are written (`Pass.Finds`). What two steps find is
put together (`Pass.Finds.append`), so that there is one lemma for every phase, and in the end one
for the whole module (`assembleModule_finds`): its interfaces and its imports are those of its
members.
-/

import ContractClient.Proofs.Client.Built
import ContractClient.Proofs.Registry.Provenance

namespace ContractClient

/-! ### What the members need -/

/-- The parameters that the answer of a function is made of: the outputs of a query. -/
def Member.answered (function : Member) : List Parameter :=
  match function.mutability with
  | some .readOnly => function.outputs
  | _ => []

/-- The parameters of a function that are written as types. -/
def Member.written (function : Member) : List Parameter :=
  function.inputs ++ function.answered

/-- The names that the method of a function needs, beside the modules they come from. -/
def Member.uses (style : Style) (function : Member) : List (Json × List String) :=
  match function.mutability with
  | some .readOnly => [(style.contractModule, ["CallOptions"])]
  | _ => [(style.contractModule, ["SendOptions"]),
      (style.coreModule, ["PromiEvent", "TransactionReceipt"])]

/-- The parameters of a contract that are written as types. -/
def writtenParameters (members : List Member) : List Parameter :=
  (functionsAmong members).flatMap Member.written ++ deployInputs (constructorAmong members)

/-- What the result of a member is an interface for, if it has several outputs. -/
def resultSources (suffix member : String) (outputs : List Parameter) : List Source :=
  if 2 ≤ outputs.length then [.result suffix member outputs] else []

/-- What interfaces are found for on behalf of the outputs of a member. -/
def returnSources (suffix member : String) (outputs : List Parameter) : List Source :=
  resultSources suffix member outputs ++ (tuplesAmong outputs).map .tuple

/-- What interfaces are found for on behalf of a function. -/
def Member.sources (style : Style) (function : Member) : List Source :=
  (tuplesAmong function.inputs).map .tuple ++
    returnSources style.resultSuffix function.name function.answered

/-- What interfaces are found for on behalf of a contract. -/
def clientSources (style : Style) (members : List Member) : List Source :=
  (functionsAmong members).flatMap (Member.sources style) ++
    (tuplesAmong (deployInputs (constructorAmong members))).map .tuple

/-- The names that the client of a contract needs, beside the modules they come from. -/
def clientUses (style : Style) (members : List Member) : List (Json × List String) :=
  (style.contractModule, ["Contract"]) ::
    ((functionsAmong members).flatMap (Member.uses style) ++
      [(style.contractModule, ["Contract", "SendOptions"])])

/-- The imports with further names from several modules, one after the other. -/
def Imports.useAll (imports : Imports) (uses : List (Json × List String)) : Imports :=
  uses.foldl (fun known entry => known.use entry.1 entry.2) imports

theorem Imports.useAll_append (imports : Imports) (first second : List (Json × List String)) :
    imports.useAll (first ++ second) = (imports.useAll first).useAll second :=
  List.foldl_append

theorem tuplesAmong_append (first second : List Parameter) :
    tuplesAmong (first ++ second) = tuplesAmong first ++ tuplesAmong second := by
  induction first with
  | nil => rw [List.nil_append, tuplesAmong, List.nil_append]
  | cons parameter rest inductionHypothesis =>
    rw [List.cons_append, tuplesAmong, tuplesAmong, inductionHypothesis, List.append_assoc]

theorem tuplesAmong_flatMap (parameters : Member → List Parameter) (functions : List Member) :
    tuplesAmong (functions.flatMap parameters) =
      functions.flatMap fun function => tuplesAmong (parameters function) := by
  induction functions with
  | nil => rw [List.flatMap_nil, tuplesAmong, List.flatMap_nil]
  | cons function rest inductionHypothesis =>
    rw [List.flatMap_cons, List.flatMap_cons, tuplesAmong_append, inductionHypothesis]

theorem tuple_mem_returnSources_iff {suffix member : String} {outputs : List Parameter}
    {tuple : Parameter} :
    .tuple tuple ∈ returnSources suffix member outputs ↔ tuple ∈ tuplesAmong outputs := by
  rw [returnSources, resultSources]
  split <;> simp

theorem result_mem_returnSources_iff {suffix member otherSuffix other : String}
    {outputs others : List Parameter} :
    .result otherSuffix other others ∈ returnSources suffix member outputs ↔
      2 ≤ outputs.length ∧ otherSuffix = suffix ∧ other = member ∧ others = outputs := by
  rw [returnSources, resultSources]
  split <;> rename_i several <;> simp [several]

/-- The tuples among the sources are those in the parameters that are written. -/
theorem tuple_mem_clientSources_iff {style : Style} {members : List Member} {tuple : Parameter} :
    .tuple tuple ∈ clientSources style members ↔
      tuple ∈ tuplesAmong (writtenParameters members) := by
  rw [writtenParameters, tuplesAmong_append, tuplesAmong_flatMap, clientSources, List.mem_append,
    List.mem_append, List.mem_flatMap, List.mem_flatMap]
  simp [Member.sources, Member.written, tuplesAmong_append, tuple_mem_returnSources_iff]

/-- The results among the sources are those of the queries with several outputs. -/
theorem result_mem_clientSources_iff {style : Style} {members : List Member}
    {suffix member : String} {outputs : List Parameter} :
    .result suffix member outputs ∈ clientSources style members ↔
      ∃ function ∈ functionsAmong members, 2 ≤ function.answered.length ∧
        suffix = style.resultSuffix ∧ member = function.name ∧ outputs = function.answered := by
  rw [clientSources, List.mem_append, List.mem_flatMap]
  simp [Member.sources, result_mem_returnSources_iff]

/-! ### The types that are written -/

/-- The texts of the types of arguments. -/
def argumentTexts (arguments : List Argument) : List String :=
  arguments.map (·.ty.text)

/-- The text of the type of an answer, if there is something to give back. -/
def Answer.texts : Answer → List String
  | nothing => []
  | value ty _ => [ty.text]
  | record shape _ => [shape]

/-- The text of the type of what a call gives back, if that is known. -/
def CallKind.texts : CallKind → List String
  | query answer => answer.texts
  | transaction => []

/-- The texts of the types in the signature of a method. -/
def Method.texts (method : Method) : List String :=
  argumentTexts method.arguments ++ method.call.texts

/-- The texts of the types in the signatures of all methods of a class, `deploy` among them. -/
def ClientClass.texts (client : ClientClass) : List String :=
  client.methods.flatMap Method.texts ++ argumentTexts client.deployArguments

/-- The text is a primitive type or the name of one of the interfaces, with any number of brackets
behind it. -/
def Refers (interfaces : List Interface) (text : String) : Prop :=
  ∃ name dimensions, text = name ++ String.ofList (bracketChars dimensions) ∧
    (name ∈ primitiveNames ∨ ∃ interface ∈ interfaces, interface.name = name)

theorem Refers.mono {earlier later : List Interface} (grown : earlier ⊆ later) {text : String}
    (refers : Refers earlier text) : Refers later text := by
  obtain ⟨name, dimensions, same, primitive | ⟨interface, member, named⟩⟩ := refers
  · exact ⟨name, dimensions, same, .inl primitive⟩
  · exact ⟨name, dimensions, same, .inr ⟨interface, grown member, named⟩⟩

theorem Known.refers {interfaces : List Interface} {ty : Ty} (known : Known interfaces ty) :
    Refers interfaces ty.text :=
  known.text

theorem OutputsHaveName.refers {interfaces : List Interface} {outputs : List Parameter}
    {name : String} (hasName : OutputsHaveName interfaces outputs name) :
    Refers interfaces name := by
  obtain ⟨_, _, interface, member, rfl, _⟩ := hasName
  exact ⟨interface.name, 0, by simp, .inr ⟨interface, member, rfl⟩⟩

/-! ### Steps and what they find -/

/-- The later pass has the settings of the earlier one, and its registry has grown soundly. It has
imported the names that are used besides, knows the types of the texts, and the sources and the
texts account for the interfaces that are new in it. -/
structure Pass.Finds (reserved : List String) (start after : Pass) (sources : List Source)
    (texts : List String) (uses : List (Json × List String)) : Prop where
  contract : after.contract = start.contract
  style : after.style = start.style
  sound : start.registry.Sound reserved → after.registry.Sound reserved
  suffix : start.registry.Sound reserved →
    after.registry.resultSuffix = start.registry.resultSuffix
  grows : start.registry.Sound reserved →
    start.registry.interfaces ⊆ after.registry.interfaces
  imports : after.imports = start.imports.useAll uses
  known : start.registry.Sound reserved →
    ∀ text ∈ texts, Refers after.registry.interfaces text
  accounted : start.registry.Sound reserved →
    start.registry.resultSuffix = start.style.resultSuffix →
      Accounted start.registry.interfaces after.registry.interfaces sources texts

section

variable {reserved : List String} {start middle after : Pass}

/-- A pass that differs in its plan, its level, its notices or its mark of `deploy` alone finds
nothing. -/
theorem Pass.Finds.of_eq (contract : after.contract = start.contract)
    (style : after.style = start.style) (imports : after.imports = start.imports)
    (registry : ∃ collector, after.registry = { start.registry with collector := collector }) :
    start.Finds reserved after [] [] [] := by
  obtain ⟨collector, same⟩ := registry
  have sameInterfaces : after.registry.interfaces = start.registry.interfaces := by rw [same]
  exact ⟨contract, style, fun sound => same ▸ sound.telling collector, fun _ => by rw [same],
    fun _ => sameInterfaces ▸ List.Subset.refl _, imports, fun _ => nofun,
    fun _ _ => sameInterfaces ▸ .none _ _⟩

theorem Pass.Finds.none (pass : Pass) : pass.Finds reserved pass [] [] [] :=
  .of_eq rfl rfl rfl ⟨_, rfl⟩

theorem Pass.Finds.append {sources others : List Source} {texts moreTexts : List String}
    {uses moreUses : List (Json × List String)}
    (first : start.Finds reserved middle sources texts uses)
    (second : middle.Finds reserved after others moreTexts moreUses) :
    start.Finds reserved after (sources ++ others) (texts ++ moreTexts) (uses ++ moreUses) := by
  constructor
  case contract => exact second.contract.trans first.contract
  case style => exact second.style.trans first.style
  case sound => exact fun sound => second.sound (first.sound sound)
  case suffix =>
    exact fun sound => (second.suffix (first.sound sound)).trans (first.suffix sound)
  case grows =>
    exact fun sound => List.Subset.trans (first.grows sound) (second.grows (first.sound sound))
  case imports => rw [second.imports, first.imports, Imports.useAll_append]
  case known =>
    intro sound text isText
    have soundMiddle := first.sound sound
    rcases List.mem_append.mp isText with isText | isText
    · exact (first.known sound text isText).mono (second.grows soundMiddle)
    · exact second.known soundMiddle text isText
  case accounted =>
    intro sound sameSuffix
    have soundMiddle := first.sound sound
    have suffixMiddle : middle.registry.resultSuffix = middle.style.resultSuffix := by
      rw [first.suffix sound, sameSuffix, first.style]
    exact (first.accounted sound sameSuffix).append (second.grows soundMiddle)
      (second.accounted soundMiddle suffixMiddle)

/-! ### Steps of a pass -/

/-- What follows a check starts where the check stands. -/
theorem Gives.afterCheck {α β : Type} {result : Except Fault α} {next : α → Building β}
    {right : Pass → β → Prop}
    (rest : ∀ value, result = .ok value → Gives reserved start (next value) right) :
    Gives reserved start ((liftM result : Building α) >>= next) right := by
  cases result with
  | error fault =>
    have stops : Gives reserved start (MonadExcept.throw fault) fun _ (_ : α) => False :=
      .throw fault
    exact stops.bind fun _ _ _ never => never.elim
  | ok value => exact rest value rfl

/-- A step on the registry that gives a type finds what its rules say. -/
theorem registering_finds {α : Type} {step : Registering α} {text : α → String}
    {sources : List Source} {right : List Interface → α → Prop}
    (yields : ∀ {registry : Registry}, registry.Sound reserved →
      Yields reserved registry step right)
    (refers : ∀ {interfaces value}, right interfaces value → Refers interfaces (text value))
    (accounts : ∀ {registry : Registry}, registry.Sound reserved →
      registry.resultSuffix = start.style.resultSuffix →
        Yields reserved registry step fun interfaces value =>
          Accounted registry.interfaces interfaces sources [text value]) :
    Gives reserved start (Pass.registering step) fun after value =>
      start.Finds reserved after sources [text value] [] := by
  intro value after ends
  have gives : Gives reserved start (Pass.registering step) _ := registering_gives yields
  obtain ⟨continues, holds⟩ := gives value after ends
  obtain ⟨ended, same⟩ := Prod.mk.inj ends
  obtain rfl : { start with registry := (step start.registry).2 } = after := same
  refine ⟨continues, rfl, rfl, continues.sound, fun sound => (yields sound).keeps.resultSuffix,
    fun sound => (continues.grows sound).subset, rfl, ?known,
    fun sound sameSuffix => (accounts sound sameSuffix).right value ended⟩
  case known =>
    intro sound other isText
    rw [List.mem_singleton.mp isText]
    exact refers (holds sound)

theorem resolveParameter_finds (member : String) (parameter : Parameter) :
    Gives reserved start (Pass.registering (resolveParameter member parameter)) fun after ty =>
      start.Finds reserved after (parameter.tuples.map .tuple) [ty.text] [] :=
  registering_finds (fun sound => resolveParameter_yields sound member parameter)
    (fun hasTy => hasTy.known.refers)
    fun sound _ => resolveParameter_accounts sound member parameter

theorem resolveResult_finds (member : String) (outputs : List Parameter) :
    Gives reserved start (Pass.registering (resolveResult member outputs)) fun after shape =>
      start.Finds reserved after
        (.result start.style.resultSuffix member outputs :: (tuplesAmong outputs).map .tuple)
        [shape] [] := by
  refine @registering_finds reserved start _ _ id _ _
    (fun sound => resolveResult_yields sound member outputs) OutputsHaveName.refers
    fun sound sameSuffix => ?_
  rw [← sameSuffix]
  exact resolveResult_accounts sound member outputs

theorem useImport_finds (module : Json) (names : List String) :
    Gives reserved start (Pass.useImport module names) fun after _ =>
      start.Finds reserved after [] [] [(module, names)] := by
  unfold Pass.useImport
  refine .afterCheck fun _ _ => (Gives.change (.of_eq rfl rfl)).conclude ?_
  rintro _ _ _ rfl
  exact ⟨rfl, rfl, id, fun _ => rfl, fun _ => List.Subset.refl _, rfl, fun _ => nofun,
    fun _ _ => .none _ _⟩

/-- Planning names finds nothing. -/
theorem planMethods_finds (members : List Member) :
    start.Finds reserved (start.planMethods members) [] [] [] := by
  rw [planMethods_eq]
  exact .of_eq rfl rfl rfl ⟨_, rfl⟩

theorem methodName_finds (function : Member) :
    Gives reserved start (Pass.methodName function) fun after _ =>
      start.Finds reserved after [] [] [] := by
  unfold Pass.methodName
  refine .afterCheck fun _ _ => Gives.look ?_
  split
  · refine (Gives.change (planMethods_singleton_continues function)).bind ?_
    rintro _ _ _ rfl
    refine Gives.look ?_
    split
    · exact .pure (planMethods_finds [function])
    · exact .throw _
  · refine Gives.look ?_
    split
    · exact .pure (.none start)
    · exact .throw _

/-! ### Arguments and answers -/

theorem resolveAll_finds (member : String) (entries : List (String × Parameter)) :
    Gives reserved start
      (entries.mapM fun entry => do
        let ty ← Pass.registering (resolveParameter member entry.2)
        return (⟨entry.1, ty⟩ : Argument))
      fun after arguments =>
        start.Finds reserved after ((tuplesAmong (entries.map (·.2))).map .tuple)
          (argumentTexts arguments) [] := by
  induction entries generalizing start with
  | nil =>
    rw [List.map_nil, tuplesAmong]
    exact .pure (.none start)
  | cons entry rest inductionHypothesis =>
    rw [List.mapM_cons]
    have first : Gives reserved start
        (Pass.registering (resolveParameter member entry.2) >>= fun ty =>
          Pure.pure (⟨entry.1, ty⟩ : Argument))
        fun after argument =>
          start.Finds reserved after (entry.2.tuples.map .tuple) [argument.ty.text] [] :=
      (resolveParameter_finds member entry.2).bind fun _ _ _ finds => .pure finds
    rw [List.map_cons, tuplesAmong, List.map_append]
    refine first.bind fun argument middle _ isFirst => ?_
    exact inductionHypothesis.bind fun arguments last _ areRest => .pure (isFirst.append areRest)

theorem buildArguments_finds (member : String) (parameters : List Parameter) :
    Gives reserved start (buildArguments member parameters) fun after arguments =>
      start.Finds reserved after ((tuplesAmong parameters).map .tuple) (argumentTexts arguments)
        [] := by
  have same : ((argumentNames parameters).zip parameters).map (·.2) = parameters :=
    List.map_snd_zip (Nat.le_of_eq (length_argumentNamesFrom _ _ _).symm)
  have finds := @resolveAll_finds reserved start member ((argumentNames parameters).zip parameters)
  rw [same] at finds
  exact finds

/-- The text of the type of what a query gives back, if it has outputs. -/
def returnTexts (ty : Ty) : List Parameter → List String
  | [] => []
  | _ :: _ => [ty.text]

theorem returnType_finds (member : String) (outputs : List Parameter) :
    Gives reserved start (returnType member outputs) fun after ty =>
      start.Finds reserved after (returnSources start.style.resultSuffix member outputs)
        (returnTexts ty outputs) [] := by
  unfold returnType
  split
  · rw [returnSources, tuplesAmong]
    exact .pure (.none start)
  · rename_i output
    rw [returnSources, tuplesAmong, tuplesAmong, List.append_nil]
    exact resolveParameter_finds member output
  · rename_i notNone notOne
    refine (resolveResult_finds member outputs).bind fun shape _ _ finds => .pure ?_
    rcases outputs with _ | ⟨first, _ | ⟨second, rest⟩⟩
    · exact (notNone rfl).elim
    · exact (notOne first rfl).elim
    · have several : 2 ≤ (first :: second :: rest).length := Nat.le_add_left 2 rest.length
      rw [returnSources, resultSources, if_pos several, returnTexts, Ty.text_ofText]
      exact finds

theorem rebuildFields_finds (shape : Interface) (index : Nat) (names : List String) :
    Gives reserved start (rebuildFields shape index names) fun after _ => after = start := by
  induction names generalizing index with
  | nil => exact .pure rfl
  | cons name rest inductionHypothesis =>
    refine Gives.look (.afterCheck fun _ _ => ?_)
    refine (requireLines_gives _).bind ?_
    rintro _ _ _ rfl
    refine (inductionHypothesis _).bind ?_
    rintro _ _ _ rfl
    exact .pure rfl

/-- An answer is written with the type that was mapped for it. -/
theorem buildAnswer_finds (function : Member) (ty : Ty) :
    Gives reserved start (buildAnswer function ty) fun after answer =>
      after = start ∧ answer.texts = returnTexts ty function.outputs := by
  unfold buildAnswer
  refine Gives.look ?_
  split
  · rename_i none
    refine (requireLines_gives _).bind ?_
    rintro _ _ _ rfl
    exact .pure ⟨rfl, by rw [none]; rfl⟩
  · rename_i output only
    refine (requireLines_gives _).bind ?_
    rintro _ _ _ rfl
    exact .afterCheck fun _ _ => .pure ⟨rfl, by rw [only]; rfl⟩
  · rename_i notNone _
    have hasText : [ty.text] = returnTexts ty function.outputs := by
      cases outputs : function.outputs with
      | nil => exact (notNone outputs).elim
      | cons first rest => rfl
    cases registered : start.registry.find? ty.text with
    | none =>
      simp only [registered]
      exact .throw _
    | some shape =>
      simp only [registered]
      refine (requireLines_gives _).bind ?_
      rintro _ _ _ rfl
      refine (rebuildFields_finds _ _ _).bind ?_
      rintro _ _ _ rfl
      exact .pure ⟨rfl, hasText⟩

/-! ### Methods -/

theorem buildCall_finds (function : Member) :
    Gives reserved start (buildCall function) fun after call =>
      start.Finds reserved after
        (returnSources start.style.resultSuffix function.name function.answered) call.texts
        (function.uses start.style) := by
  unfold buildCall Member.answered Member.uses
  refine Gives.look ?_
  generalize function.mutability = called
  rcases called with _ | (_ | _)
  case some.readOnly =>
    refine (returnType_finds function.name function.outputs).bind fun ty _ _ mapped => ?_
    refine (useImport_finds _ _).bind fun _ _ _ imported => ?_
    refine (buildAnswer_finds function ty).bind ?_
    rintro answer _ _ ⟨rfl, sameTexts⟩
    refine (requireLines_gives _).bind ?_
    rintro _ _ _ rfl
    refine .pure ?_
    rw [CallKind.texts, sameTexts]
    simpa using mapped.append imported
  all_goals
    refine .afterCheck fun _ _ => ?_
    refine (useImport_finds _ _).bind fun _ _ _ first => ?_
    refine (useImport_finds _ _).bind fun _ _ _ second => ?_
    refine (requireLines_gives _).bind ?_
    rintro _ _ _ rfl
    exact .pure (first.append second)

/-- The types in the signature of a method account for what is found for its function. -/
theorem buildMethod_finds (function : Member) :
    Gives reserved start (buildMethod function) fun after method =>
      start.Finds reserved after (function.sources start.style) method.texts
        (function.uses start.style) := by
  unfold buildMethod
  refine (buildArguments_finds function.name function.inputs).bind
    fun arguments second _ resolved => ?_
  refine (methodName_finds function).bind fun name third _ named => ?_
  refine (buildCall_finds function).bind fun call last _ called => Gives.look (.pure ?_)
  have sameStyle : third.style = start.style := named.style.trans resolved.style
  rw [sameStyle] at called
  exact resolved.append (named.append called)

theorem buildMethods_finds (functions : List Member) :
    Gives reserved start (buildMethods functions) fun after methods =>
      start.Finds reserved after (functions.flatMap (Member.sources start.style))
        (methods.flatMap Method.texts) (functions.flatMap (Member.uses start.style)) := by
  induction functions generalizing start with
  | nil => exact .pure (.none start)
  | cons function rest inductionHypothesis =>
    refine (buildMethod_finds function).bind fun method middle _ first => ?_
    refine inductionHypothesis.bind fun methods last _ others => .pure ?_
    rw [first.style] at others
    rw [List.flatMap_cons, List.flatMap_cons, List.flatMap_cons]
    exact first.append others

/-! ### Classes and modules -/

theorem buildDeploy_finds (constructor : Option Member) :
    Gives reserved start (buildDeploy constructor) fun after arguments =>
      start.Finds reserved after ((tuplesAmong (deployInputs constructor)).map .tuple)
        (argumentTexts arguments) [(start.style.contractModule, ["Contract", "SendOptions"])] := by
  have rest : ∀ (pass : Pass) (arguments : List Argument),
      Gives reserved pass
        (do
          Pass.useImport start.style.contractModule ["Contract", "SendOptions"]
          modify fun pass => { pass with hasDeploy := true }
          Pass.requireLines [0, 1, 2]
          return arguments)
        fun after given => given = arguments ∧ pass.Finds reserved after [] []
          [(start.style.contractModule, ["Contract", "SendOptions"])] := by
    intro pass arguments
    refine (useImport_finds _ _).bind fun _ middle _ imported => ?_
    refine (Gives.change (.of_eq rfl rfl)).bind ?_
    rintro _ _ _ rfl
    have marked := imported.append
      (@Pass.Finds.of_eq reserved middle { middle with hasDeploy := true } rfl rfl rfl ⟨_, rfl⟩)
    refine (requireLines_gives _).bind ?_
    rintro _ _ _ rfl
    exact .pure ⟨rfl, marked⟩
  unfold buildDeploy
  refine Gives.look ?_
  by_cases isSecond : start.hasDeploy = true
  · rw [if_pos isSecond]
    have stops : Gives reserved start
        (throw (.shape (.deployTwice start.contract.display)) : Building PUnit)
        fun _ _ => False := .throw _
    exact stops.bind fun _ _ _ isFalse => isFalse.elim
  · rw [if_neg isSecond]
    cases constructor with
    | none =>
      refine (rest start []).conclude ?_
      rintro after _ _ ⟨rfl, finds⟩
      rw [deployInputs, tuplesAmong]
      exact finds
    | some member =>
      refine (buildArguments_finds "constructor" member.inputs).bind
        fun arguments middle _ resolved => ?_
      refine (rest middle arguments).conclude ?_
      rintro after _ _ ⟨rfl, finds⟩
      have found := resolved.append finds
      rw [List.append_nil, List.append_nil, List.nil_append] at found
      exact found

theorem finishClass_finds (constructor : Option Member) (methods : List Method) :
    Gives reserved start
      (do
        if constructor.isNone then modify fun pass => pass.notice (.defaultDeploy pass.contract)
        let deployArguments ← buildDeploy constructor
        return (⟨(← get).className, methods, deployArguments⟩ : ClientClass))
      fun after client => client.name = start.className ∧ client.methods = methods ∧
        start.Finds reserved after ((tuplesAmong (deployInputs constructor)).map .tuple)
          (argumentTexts client.deployArguments)
          [(start.style.contractModule, ["Contract", "SendOptions"])] := by
  have className : ∀ {after : Pass} {sources texts uses},
      start.Finds reserved after sources texts uses → after.className = start.className := by
    intro after sources texts uses finds
    rw [Pass.className, finds.style, finds.contract]
    rfl
  cases constructor with
  | none =>
    have told : start.Finds reserved (start.notice (.defaultDeploy start.contract)) [] [] [] :=
      .of_eq rfl rfl rfl ⟨_, rfl⟩
    refine (Gives.change (notice_continues _)).bind ?_
    rintro _ _ _ rfl
    refine (buildDeploy_finds none).bind fun arguments after _ deploys => Gives.look (.pure ?_)
    have finds := told.append deploys
    exact ⟨className finds, rfl, finds⟩
  | some member =>
    exact (buildDeploy_finds (some member)).bind fun arguments after _ finds =>
      Gives.look (.pure ⟨className finds, rfl, finds⟩)

theorem planned_finds (members : List Member) :
    Gives reserved start
      (do
        modify fun pass => { pass with level := 1 }
        Pass.requireLines [0, 1, 2, 3]
        let methods ← buildMethods (functionsAmong members)
        let constructor := constructorAmong members
        if constructor.isNone then modify fun pass => pass.notice (.defaultDeploy pass.contract)
        let deployArguments ← buildDeploy constructor
        return (⟨(← get).className, methods, deployArguments⟩ : ClientClass))
      fun after client => client.name = start.className ∧
        start.Finds reserved after (clientSources start.style members) client.texts
          ((functionsAmong members).flatMap (Member.uses start.style) ++
            [(start.style.contractModule, ["Contract", "SendOptions"])]) := by
  refine (Gives.change (.of_eq rfl rfl)).bind ?_
  rintro _ _ _ rfl
  have raised : start.Finds reserved { start with level := 1 } [] [] [] :=
    .of_eq rfl rfl rfl ⟨_, rfl⟩
  refine (requireLines_gives _).bind ?_
  rintro _ _ _ rfl
  refine (buildMethods_finds (functionsAmong members)).bind fun methods middle _ found => ?_
  refine (finishClass_finds (constructorAmong members) methods).conclude ?_
  rintro after client _ ⟨named, rfl, deploys⟩
  have methodsFound := raised.append found
  rw [methodsFound.style] at deploys
  refine ⟨named.trans ?_, ?_⟩
  · rw [Pass.className, methodsFound.style, methodsFound.contract]
    rfl
  · rw [ClientClass.texts]
    exact methodsFound.append deploys

end

/-- A class that is built bears the name of its contract. The types in the signatures of its
methods account for all interfaces that are found for it, and its imports are those that its
members need. -/
theorem buildClass_finds {reserved : List String} {start after : Pass} {members : List Member}
    {client : ClientClass} (runs : buildClass members start = (.ok client, after)) :
    client.name = start.className ∧
      start.Finds reserved after (clientSources start.style members) client.texts
        (clientUses start.style members) := by
  have runs : (Pass.useImport start.style.contractModule ["Contract"] >>= fun _ => _) start = _ :=
    runs
  obtain ⟨_, imported, imports, runs⟩ := exists_of_bind_run runs
  obtain ⟨_, first⟩ := @useImport_finds reserved _ _ _ _ _ imports
  obtain ⟨_, planned, plans, runs⟩ := exists_of_bind_run runs
  have isPlanned : planned = imported.planMethods members := by
    have right := (planNames_builds members).right () (congrArg Prod.fst plans)
    rw [plans] at right
    exact right.2
  obtain ⟨_, named, rest⟩ := @planned_finds reserved planned members client after runs
  have finds := first.append (@planMethods_finds reserved _ members)
  rw [← isPlanned] at finds
  rw [finds.style] at rest
  refine ⟨named.trans ?_, finds.append rest⟩
  rw [Pass.className, finds.style, finds.contract]
  rfl

/-- The module is made of what is found for the members of the contract. -/
structure ClientModule.IsFoundFor (contract : Json) (style : Style) (members : List Member)
    (module : ClientModule) : Prop where
  named : module.client.name = style.className contract.display
  imports : module.imports = Imports.useAll [] (clientUses style members)
  wellFormed : WellFormed (style.reservedNames contract.display) module.interfaces
  known : ∀ text ∈ module.client.texts, Refers module.interfaces text
  accounted : Accounted [] module.interfaces (clientSources style members) module.client.texts

/-- Every interface of the module bears the name of one of the sources. -/
theorem ClientModule.IsFoundFor.named_source {contract : Json} {style : Style}
    {members : List Member} {module : ClientModule}
    (found : module.IsFoundFor contract style members) :
    ∀ interface ∈ module.interfaces,
      ∃ source ∈ clientSources style members, source.Names module.interfaces interface :=
  fun interface member =>
    (found.accounted.named interface member).resolve_left List.not_mem_nil

/-- A text that is assembled is that of a module made of what is found for the members. -/
theorem assembleModule_finds {contract : Json} {members : List Member} {style : Style}
    {collector told : Collector} {text : String}
    (assembles : assembleModule contract members style collector = (.ok text, told)) :
    ∃ module after, buildModule members (.start contract style collector) = (.ok module, after) ∧
      text = module.render style ∧ module.IsFoundFor contract style members := by
  obtain ⟨module, after, runs, rendered⟩ := exists_of_assembleModule assembles
  obtain ⟨builds, sameInterfaces, sameImports, _⟩ := buildClass_of_buildModule runs
  obtain ⟨named, finds⟩ :=
    @buildClass_finds (style.reservedNames contract.display) _ _ _ _ builds
  have sound := Registry.freshWithin_sound mappableLevels
    (style.reservedNames contract.display) style.resultSuffix contract collector
  refine ⟨module, after, runs, rendered, named, sameImports.trans finds.imports, ?_, ?_, ?_⟩ <;>
    rw [sameInterfaces]
  · exact (finds.sound sound).wellFormed
  · exact finds.known sound
  · exact finds.accounted sound rfl

end ContractClient
