/-
This file lists what happens in a run of calls on a registry: which names are asked for, and which
texts of types are given for which subjects, the components of tuples among them, each with the
interfaces that there are at that moment. Calls that fail are part of the run; what happened in
them before they failed is listed too.

Every interface that is added bears a name that was asked for, or such a name with a number
behind it, and every text that is given stands for its subject from then on (`runEvents_log`).
-/

import ContractClient.Proofs.Registry.Calls

namespace ContractClient

/-! ### The events of a run -/

/-- What happens in a run: a name is asked for, or a text is given for a subject while there are
the interfaces. -/
inductive Event where
  | requested (name : String)
  | given (subject : Subject) (text : String) (interfaces : List Interface)

/-- The names that are asked for. -/
def requestedNames (events : List Event) : List String :=
  events.filterMap fun event =>
    match event with
    | .requested name => some name
    | .given _ _ _ => none

theorem mem_requestedNames {events : List Event} {name : String} :
    name ∈ requestedNames events ↔ .requested name ∈ events := by
  simp only [requestedNames, List.mem_filterMap]
  constructor
  · rintro ⟨event, member, same⟩
    cases event with
    | requested other => exact Option.some.inj same ▸ member
    | given _ _ _ => cases same
  · exact fun member => ⟨.requested name, member, rfl⟩

/-- The request for a name, where there is one to ask for. -/
def requestedBy : Except Fault String → List Event
  | .ok name => [.requested name]
  | .error _ => []

/-- The event that a step gives a text, where it does. -/
def givenBy (subject : Subject) : Except Fault String × Registry → List Event
  | (.ok text, after) => [.given subject text after.interfaces]
  | (.error _, _) => []

/-- The events of what follows a step, where the step succeeds. -/
def thenEvents {α : Type} (second : α → Registry → List Event) :
    Except Fault α × Registry → List Event
  | (.ok value, middle) => second value middle
  | (.error _, _) => []

/-- The name that is asked for when a struct is registered. -/
def structRequest (declared : String) (fields : List Field) : Except Fault String := do
  requireNames declared fields
  structName declared

mutual

/-- The events while a parameter is mapped. -/
def parameterEvents (levels : Nat) (member : String) : Parameter → Registry → List Event
  | ⟨name, text, internalType, components⟩, start =>
    (match requireTag text with
      | .ok tag =>
        if tag.base = .tuple then tupleEvents levels name internalType components start else []
      | .error _ => []) ++
      givenBy (.parameter ⟨name, text, internalType, components⟩)
        (written (mapParameter levels member ⟨name, text, internalType, components⟩) start)
termination_by structural parameter => parameter

/-- The events while the components of a tuple are mapped and its struct is registered. -/
def tupleEvents (levels : Nat) (name internalType : String) :
    Option (List Parameter) → Registry → List Event
  | none, _ => []
  | some components, start =>
    match declaredName internalType name, levelBelow levels with
    | .ok declared, .ok below =>
      if components.isEmpty then []
      else
        fieldEvents below components start ++
          thenEvents (fun fields _ => requestedBy (structRequest declared fields))
            (mapFields below components start)
    | _, _ => []
termination_by structural components => components

/-- The events while the components are mapped one after the other. -/
def fieldEvents (levels : Nat) : List Parameter → Registry → List Event
  | [], _ => []
  | component :: rest, start =>
    parameterEvents levels "" component start ++
      thenEvents (fun _ middle => fieldEvents levels rest middle)
        (mapParameter levels "" component start)
termination_by structural components => components

end

/-- The events while outputs are mapped one after the other. -/
def outputEvents (member : String) : List String → List Parameter → Registry → List Event
  | _ :: names, output :: outputs, start =>
    parameterEvents start.levels member output start ++
      thenEvents (fun _ middle => outputEvents member names outputs middle)
        (resolveParameter member output start)
  | _, _, _ => []

/-- The events of a call, the text that it gives itself at the end. -/
def callEvents (call : Call) (start : Registry) : List Event :=
  match call with
  | .struct declared components =>
    (if components.isEmpty then []
      else
        fieldEvents start.levels components start ++
          thenEvents (fun fields _ => requestedBy (structRequest declared fields))
            (mapFields start.levels components start)) ++
      givenBy call.subject (call.perform start)
  | .result member outputs =>
    (if member == "" ∨ outputs.length < 2 then []
      else
        outputEvents member (outputFieldNames outputs) outputs start ++
          thenEvents (fun _ middle => requestedBy (resultName middle.resultSuffix member))
            (mapOutputs member (outputFieldNames outputs) outputs start)) ++
      givenBy call.subject (call.perform start)
  | .parameter member asked => parameterEvents start.levels member asked start

/-- The events of a sequence of calls. -/
def runEvents : List Call → Registry → List Event
  | [], _ => []
  | call :: rest, start => callEvents call start ++ runEvents rest (call.perform start).2

/-! ### What the events say -/

/-- From one registry to a later one, the events tell where the names of new interfaces come from,
and give texts that stand for their subjects. -/
structure Log (start after : Registry) (events : List Event) : Prop where
  grows : start.interfaces <+: after.interfaces
  named : ∀ interface ∈ after.interfaces, interface ∈ start.interfaces ∨
    ∃ requested taken, .requested requested ∈ events ∧ interface.name = freeName taken requested
  given : ∀ subject text interfaces, .given subject text interfaces ∈ events →
    interfaces <+: after.interfaces ∧ subject.HasText interfaces text

theorem Log.none (start : Registry) : Log start start [] :=
  ⟨List.prefix_refl _, fun _ member => .inl member, nofun⟩

theorem Log.append {start middle after : Registry} {events later : List Event}
    (first : Log start middle events) (second : Log middle after later) :
    Log start after (events ++ later) := by
  constructor
  case grows => exact first.grows.trans second.grows
  case named =>
    intro interface member
    rcases second.named interface member with before | ⟨requested, taken, event, same⟩
    · rcases first.named interface before with before | ⟨requested, taken, event, same⟩
      · exact .inl before
      · exact .inr ⟨requested, taken, List.mem_append_left _ event, same⟩
    · exact .inr ⟨requested, taken, List.mem_append_right _ event, same⟩
  case given =>
    intro subject text interfaces event
    rcases List.mem_append.mp event with event | event
    · obtain ⟨front, hasText⟩ := first.given subject text interfaces event
      exact ⟨front.trans second.grows, hasText⟩
    · exact second.given subject text interfaces event

section

variable {α β : Type} {start : Registry}

/-- The events of a sequence of two steps. -/
theorem Log.bind {step : Registering α} {next : α → Registering β} {events : List Event}
    {second : α → Registry → List Event} (first : Log start (step start).2 events)
    (rest : ∀ value middle, step start = (.ok value, middle) →
      Log middle (next value middle).2 (second value middle)) :
    Log start ((step >>= next) start).2 (events ++ thenEvents second (step start)) := by
  rw [bind_run]
  cases result : step start with
  | mk outcome middle =>
    rw [result] at first
    cases outcome with
    | error fault => simpa [thenEvents] using first
    | ok value => exact first.append (rest value middle result)

/-- A text that is given at the end. -/
theorem Log.give {step : Registering String} {events : List Event} {reserved : List String}
    {subject : Subject} (before : Log start (step start).2 events)
    (yields : Yields reserved start step fun interfaces => subject.HasText interfaces) :
    Log start (step start).2 (events ++ givenBy subject (step start)) := by
  refine before.append ⟨List.prefix_refl _, fun _ member => .inl member, ?_⟩
  intro other text interfaces event
  cases result : step start with
  | mk outcome after =>
    rw [result] at event
    cases outcome with
    | error fault => simp [givenBy] at event
    | ok value =>
      simp only [givenBy, List.mem_singleton, Event.given.injEq] at event
      obtain ⟨rfl, rfl, rfl⟩ := event
      have holds := yields.right text (by rw [result])
      rw [result] at holds
      exact ⟨List.prefix_refl _, holds⟩

end

theorem Registering.lift_bind_run {α β : Type} (result : Except Fault α)
    (next : α → Registering β) (start : Registry) :
    ((liftM result : Registering α) >>= next) start =
      match result with
      | .ok value => next value start
      | .error fault => (.error fault, start) := by
  cases result <;> rfl

theorem Registry.register_log (requested : String) (fields : List Field) (origin : Origin)
    (start : Registry) :
    Log start (register requested fields origin start).2 [.requested requested] := by
  have stays : Log start start [.requested requested] := by
    refine ⟨List.prefix_refl _, fun _ member => .inl member, fun _ _ _ event => ?_⟩
    cases List.mem_singleton.mp event
  rw [register_run]
  split
  · split
    · exact stays
    · refine ⟨List.prefix_append _ _, fun interface member => ?_, fun _ _ _ event => ?_⟩
      · rcases List.mem_append.mp member with member | member
        · exact .inl member
        · exact .inr ⟨requested, start.taken, List.mem_singleton_self _,
            congrArg Interface.name (List.mem_singleton.mp member)⟩
      · cases List.mem_singleton.mp event
  · exact stays

/-- A name is asked for, and what follows asks for it. -/
theorem Log.request {β : Type} {start : Registry} {result : Except Fault String}
    {next : String → Registering β}
    (rest : ∀ name, Log start (next name start).2 [.requested name]) :
    Log start (((liftM result : Registering String) >>= next) start).2 (requestedBy result) := by
  rw [Registering.lift_bind_run]
  cases result with
  | error fault => exact .none start
  | ok name => exact rest name

theorem registerStruct_eq (declared : String) (fields : List Field) :
    registerStruct declared fields =
      (liftM (structRequest declared fields) : Registering String) >>= fun name =>
        Registry.register name fields .struct := by
  funext start
  unfold registerStruct structRequest
  rw [Registering.lift_bind_run, Registering.lift_bind_run]
  generalize structName declared = named
  cases requireNames declared fields with
  | error fault => rfl
  | ok _ => cases named <;> rfl

theorem registerStruct_log (declared : String) (fields : List Field) (start : Registry) :
    Log start (registerStruct declared fields start).2
      (requestedBy (structRequest declared fields)) := by
  rw [registerStruct_eq]
  exact .request fun name => Registry.register_log name fields .struct start

/-! ### Runs -/

/-- What is done with the value of a step alone leaves the registry as it is. -/
theorem Registering.bind_pure_state {α β : Type} (step : Registering α) (change : α → β)
    (start : Registry) :
    ((step >>= fun value => pure (change value) : Registering β) start).2 = (step start).2 := by
  rw [bind_run]
  cases step start with
  | mk outcome after => cases outcome <;> rfl

theorem written_state (step : Registering Ty) (start : Registry) :
    (written step start).2 = (step start).2 :=
  Registering.bind_pure_state step Ty.text start

/-- Mapping a parameter changes the registry only where its tag is that of a tuple. -/
theorem mapParameter_state (levels : Nat) (member name text internalType : String)
    (components : Option (List Parameter)) (start : Registry) :
    (mapParameter levels member ⟨name, text, internalType, components⟩ start).2 =
      match requireTag text with
      | .ok tag =>
        if tag.base = .tuple then (mapTuple levels name internalType components start).2 else start
      | .error _ => start := by
  have locating_state : ∀ step : Registering Ty,
      (locating member name step start).2 = (step start).2 := by
    intro step
    unfold locating
    cases step start with
    | mk outcome after => cases outcome <;> rfl
  rw [mapParameter, locating_state, Registering.lift_bind_run]
  cases requireTag text with
  | error fault => rfl
  | ok tag =>
    cases primitive : tag.base.primitive? with
    | some ty =>
      have noTuple : tag.base ≠ .tuple := by
        rw [ne_eq, ← BaseType.primitive?_eq_none, primitive]
        simp
      simp only [noTuple, if_false]
      rw [primitive]
      rfl
    | none =>
      simp only [BaseType.primitive?_eq_none.mp primitive, if_true]
      exact Registering.bind_pure_state (mapTuple levels name internalType components)
        (fun struct => (Ty.ofText struct).arrays tag.dimensions.length) start

theorem mapTuple_state (levels : Nat) (name internalType : String) (components : List Parameter)
    (start : Registry) :
    (mapTuple levels name internalType (some components) start).2 =
      match declaredName internalType name, levelBelow levels with
      | .ok declared, .ok below =>
        if components.isEmpty then start
        else ((mapFields below components >>= registerStruct declared) start).2
      | _, _ => start := by
  rw [mapTuple]
  by_cases empty : components.isEmpty
  · simp only [empty, if_true]
    show start = _
    cases declaredName internalType name <;> cases levelBelow levels <;> rfl
  · simp only [empty]
    show (((liftM (declaredName internalType name) : Registering String) >>= fun declared =>
      (liftM (levelBelow levels) : Registering Nat) >>= fun below =>
        mapFields below components >>= registerStruct declared) start).2 = _
    rw [Registering.lift_bind_run]
    cases declaredName internalType name with
    | error fault => rfl
    | ok declared =>
      show (((liftM (levelBelow levels) : Registering Nat) >>= fun below =>
        mapFields below components >>= registerStruct declared) start).2 = _
      rw [Registering.lift_bind_run]
      cases levelBelow levels <;> rfl

/-- The events of fields that are mapped and then registered as a struct. -/
theorem registerFields_log {below : Nat} {components : List Parameter} {start : Registry}
    {events : List Event} (declared : String)
    (mapped : Log start (mapFields below components start).2 events) :
    Log start ((mapFields below components >>= registerStruct declared) start).2
      (events ++ thenEvents (fun fields _ => requestedBy (structRequest declared fields))
        (mapFields below components start)) :=
  mapped.bind fun fields middle _ => registerStruct_log declared fields middle

mutual

theorem parameterEvents_log {reserved : List String} (levels : Nat) (member : String) :
    ∀ (parameter : Parameter) {start : Registry}, start.Sound reserved →
      Log start (mapParameter levels member parameter start).2
        (parameterEvents levels member parameter start)
  | ⟨name, text, internalType, components⟩, start, sound => by
    have yields := written_yields
      (mapParameter_yields levels member ⟨name, text, internalType, components⟩ sound)
    have state := written_state (mapParameter levels member ⟨name, text, internalType, components⟩)
      start
    rw [parameterEvents, ← state]
    refine Log.give ?_ yields
    rw [state, mapParameter_state]
    cases requireTag text with
    | error fault => exact .none start
    | ok tag =>
      by_cases tuple : tag.base = .tuple
      · simp only [tuple, if_true]
        exact tupleEvents_log levels name internalType components sound
      · simp only [tuple, if_false]
        exact .none start

theorem tupleEvents_log {reserved : List String} (levels : Nat) (name internalType : String) :
    ∀ (components : Option (List Parameter)) {start : Registry}, start.Sound reserved →
      Log start (mapTuple levels name internalType components start).2
        (tupleEvents levels name internalType components start)
  | none, start, _ => by
    rw [mapTuple, tupleEvents]
    exact .none start
  | some components, start, sound => by
    rw [mapTuple_state, tupleEvents]
    cases declaredName internalType name with
    | error fault => exact .none start
    | ok declared =>
      cases levelBelow levels with
      | error fault => exact .none start
      | ok below =>
        by_cases empty : components.isEmpty
        · simp only [empty, if_true]
          exact .none start
        · simp only [empty]
          exact registerFields_log declared (fieldEvents_log below components sound)

theorem fieldEvents_log {reserved : List String} (levels : Nat) :
    ∀ (components : List Parameter) {start : Registry}, start.Sound reserved →
      Log start (mapFields levels components start).2 (fieldEvents levels components start)
  | [], start, _ => by
    rw [mapFields, fieldEvents]
    exact .none start
  | component :: rest, start, sound => by
    rw [mapFields, fieldEvents]
    refine (parameterEvents_log levels "" component sound).bind fun ty middle run => ?_
    have soundMiddle := (mapParameter_yields levels "" component sound).sound
    rw [run] at soundMiddle
    rw [Registering.bind_pure_state]
    exact fieldEvents_log levels rest soundMiddle

end

theorem outputEvents_log {reserved : List String} (member : String) (outputs : List Parameter) :
    ∀ (names : List String) {start : Registry}, start.Sound reserved →
      Log start (mapOutputs member names outputs start).2
        (outputEvents member names outputs start) := by
  induction outputs with
  | nil =>
    intro names start _
    rw [mapOutputs, outputEvents]
    · exact .none start
    · simp
    · simp
  | cons output outputs inductionHypothesis =>
    intro names start sound
    cases names with
    | nil =>
      rw [mapOutputs, outputEvents]
      · exact .none start
      · simp
      · simp
    | cons name names =>
      rw [mapOutputs, outputEvents]
      have first : Log start (resolveParameter member output start).2
          (parameterEvents start.levels member output start) :=
        parameterEvents_log start.levels member output sound
      refine first.bind fun ty middle run => ?_
      have soundMiddle := (resolveParameter_yields sound member output).sound
      rw [run] at soundMiddle
      rw [Registering.bind_pure_state]
      exact inductionHypothesis names soundMiddle

theorem callEvents_log {reserved : List String} {start : Registry} (sound : start.Sound reserved)
    (call : Call) : Log start (call.perform start).2 (callEvents call start) := by
  have yields := call.perform_yields sound
  cases call with
  | parameter member asked =>
    show Log start (written (resolveParameter member asked) start).2 _
    rw [written_state]
    exact parameterEvents_log start.levels member asked sound
  | struct declared components =>
    refine Log.give ?_ yields
    show Log start (resolveStruct declared components start).2 _
    unfold resolveStruct
    by_cases empty : components.isEmpty
    · simp only [empty, if_true]
      exact .none start
    · simp only [empty]
      exact registerFields_log declared (fieldEvents_log start.levels components sound)
  | result member outputs =>
    refine Log.give ?_ yields
    show Log start (resolveResult member outputs start).2 _
    unfold resolveResult
    by_cases unnamed : member == ""
    · simp only [unnamed, true_or, if_true]
      exact .none start
    · by_cases few : outputs.length < 2
      · simp only [few, or_true, if_true, unnamed]
        exact .none start
      · simp only [few, unnamed, if_false]
        refine (outputEvents_log member outputs _ sound).bind fun fields middle _ => ?_
        exact Log.request fun name => Registry.register_log name fields .result middle

/-- What the events of a run tell of its last registry, from a sound registry on. -/
theorem runEvents_log {reserved : List String} (calls : List Call) {start : Registry}
    (sound : start.Sound reserved) :
    Log start (runCalls calls start) (runEvents calls start) := by
  induction calls generalizing start with
  | nil => exact .none start
  | cons call rest inductionHypothesis =>
    exact (callEvents_log sound call).append (inductionHypothesis (call.perform_yields sound).sound)


end ContractClient
