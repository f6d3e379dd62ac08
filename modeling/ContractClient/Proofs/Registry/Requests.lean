/-
This file says for whom the interfaces of a registry are registered, and who is told of it. The
sources of interfaces come in turn: a tuple behind the tuples in its components, a result behind
those in its outputs. Each of them has an interface that is there already, or it is the first that
needs its own, for which the name that it asks for is requested (`RequestedInTurn`).

A step that ends well goes through its sources in this way, and tells whoever listens of exactly
the interfaces that got other names than those requested for them (`Registry.Serves`). It is enough
to follow the step that registers one interface (`register_serves`).
-/

import ContractClient.Proofs.Registry.Provenance
import ContractClient.Proofs.Registry.Silence

namespace ContractClient

/-! ### The order of the sources -/

mutual

/-- The tuples in a parameter in the order in which they are mapped, those in its components in
front of the parameter itself. -/
def Parameter.mappedTuples : Parameter → List Parameter
  | ⟨name, text, internalType, components⟩ =>
    match TypeTag.parse text with
    | .ok tag =>
      if tag.base = .tuple then
        mappedComponentTuples components ++ [⟨name, text, internalType, components⟩]
      else []
    | .error _ => []
termination_by structural parameter => parameter

/-- The tuples in the components of a tuple, in the order in which they are mapped. -/
def mappedComponentTuples : Option (List Parameter) → List Parameter
  | none => []
  | some components => mappedTuplesAmong components
termination_by structural components => components

/-- The tuples in parameters, in the order in which they are mapped. -/
def mappedTuplesAmong : List Parameter → List Parameter
  | [] => []
  | parameter :: rest => parameter.mappedTuples ++ mappedTuplesAmong rest
termination_by structural parameters => parameters

end

/-! ### Requests in turn -/

/-- The sources have their interfaces among the given ones. Going through them in turn, with some
interfaces known, each source has a known interface or is the first to need its own; then the name
that it asks for is requested, and the interface is known from there on. The requested names stand
beside the interfaces that they are requested for. -/
inductive RequestedInTurn (interfaces : List Interface) :
    List Interface → List Source → List (String × Interface) → Prop
  | done (known : List Interface) : RequestedInTurn interfaces known [] []
  | known {known : List Interface} {source : Source} {interface : Interface}
      {rest : List Source} {requests : List (String × Interface)} :
      interface ∈ known → source.HasName interfaces interface.name →
        RequestedInTurn interfaces known rest requests →
        RequestedInTurn interfaces known (source :: rest) requests
  | first {known : List Interface} {source : Source} {interface : Interface} {requested : String}
      {rest : List Source} {requests : List (String × Interface)} :
      (∀ other ∈ known, other.name ≠ interface.name) →
        source.HasName interfaces interface.name → source.asked = .ok requested →
        RequestedInTurn interfaces (known ++ [interface]) rest requests →
        RequestedInTurn interfaces known (source :: rest) ((requested, interface) :: requests)

section

variable {interfaces known : List Interface} {sources others : List Source}
  {requests moreRequests : List (String × Interface)}

theorem RequestedInTurn.mono {later : List Interface} (grown : interfaces ⊆ later)
    (inTurn : RequestedInTurn interfaces known sources requests) :
    RequestedInTurn later known sources requests := by
  induction inTurn with
  | done known => exact .done known
  | known isKnown hasName _ inductionHypothesis =>
    exact .known isKnown (hasName.mono grown) inductionHypothesis
  | first isNew hasName asks _ inductionHypothesis =>
    exact .first isNew (hasName.mono grown) asks inductionHypothesis

theorem RequestedInTurn.append (inTurn : RequestedInTurn interfaces known sources requests)
    (after : RequestedInTurn interfaces (known ++ requests.map (·.2)) others moreRequests) :
    RequestedInTurn interfaces known (sources ++ others) (requests ++ moreRequests) := by
  induction inTurn with
  | done known =>
    rw [List.map_nil, List.append_nil] at after
    exact after
  | known isKnown hasName _ inductionHypothesis =>
    exact .known isKnown hasName (inductionHypothesis after)
  | first isNew hasName asks _ inductionHypothesis =>
    rw [List.map_cons, List.append_cons] at after
    exact .first isNew hasName asks (inductionHypothesis after)

end

/-! ### Notices of other names -/

/-- The notice that an interface did not get the name requested for it, if that is so. -/
def renamedNotice? (contract : Json) (request : String × Interface) : Option Notice :=
  if request.2.name = request.1 then none
  else some (.interfaceRenamed request.1 request.2.name contract)

/-- The notices of the interfaces that did not get the names requested for them, in their order. -/
def renamedNotices (contract : Json) (requests : List (String × Interface)) : List Notice :=
  requests.filterMap (renamedNotice? contract)

/-! ### Registries that serve sources -/

/-- From the one registry to the other, the sources were gone through in turn. The interfaces that
were new to them are added, and whoever listens was told of those with other names. -/
structure Registry.Serves (start after : Registry) (sources : List Source) : Prop where
  keeps : start.Keeps after
  requests : ∃ requests, RequestedInTurn after.interfaces start.interfaces sources requests ∧
    after.interfaces = start.interfaces ++ requests.map (·.2) ∧
    after.collector = start.collector.addAll (renamedNotices start.contract requests)

/-- The step, if it ends well, leaves a registry that serves the sources. -/
def Serving {α : Type} (start : Registry) (step : Registering α) (sources : List Source) : Prop :=
  ∀ value after, step start = (.ok value, after) → start.Serves after sources

theorem Registry.Serves.none (registry : Registry) : registry.Serves registry [] :=
  ⟨.refl registry, [], .done _, (List.append_nil _).symm, rfl⟩

theorem Registry.Serves.append {start middle after : Registry} {sources others : List Source}
    (first : start.Serves middle sources) (second : middle.Serves after others) :
    start.Serves after (sources ++ others) := by
  obtain ⟨keeps, requests, inTurn, added, told⟩ := first
  obtain ⟨keepsAfter, moreRequests, inTurnAfter, addedAfter, toldAfter⟩ := second
  have grown : middle.interfaces ⊆ after.interfaces :=
    addedAfter ▸ List.subset_append_left _ _
  rw [added] at inTurnAfter
  refine ⟨keeps.trans keepsAfter, requests ++ moreRequests,
    (inTurn.mono grown).append inTurnAfter, ?interfaces, ?collector⟩
  case interfaces => rw [addedAfter, added, List.map_append, List.append_assoc]
  case collector =>
    rw [toldAfter, told, keeps.contract, renamedNotices, renamedNotices, renamedNotices,
      List.filterMap_append, Collector.addAll_append]

section

variable {α β : Type} {reserved : List String} {start : Registry} {sources others : List Source}

theorem Serving.pure (value : α) : Serving start (Pure.pure value) [] := by
  rintro _ _ ⟨⟩
  exact .none start

theorem Serving.throw (fault : Fault) :
    Serving start (MonadExcept.throw fault : Registering α) sources := by
  rintro _ _ ⟨⟩

/-- Two steps one after the other, the first of which goes by the rules of its types. -/
theorem Serving.bind {step : Registering α} {next : α → Registering β}
    {between : List Interface → α → Prop} (yields : Yields reserved start step between)
    (first : Serving start step sources)
    (second : ∀ value middle, middle.Sound reserved → start.Keeps middle →
      between middle.interfaces value → Serving middle (next value) others) :
    Serving start (step >>= next) (sources ++ others) := by
  intro result after ends
  obtain ⟨value, middle, run, ends⟩ := exists_of_bind_run ends
  obtain ⟨sound, keeps, _, holds⟩ := yields
  rw [run] at sound keeps holds
  exact (first value middle run).append
    (second value middle sound keeps (holds value rfl) result after ends)

/-- What is made of the value of a step serves nothing else. -/
theorem Serving.map {step : Registering α} (serving : Serving start step sources)
    (change : α → β) : Serving start (step >>= fun value => Pure.pure (change value)) sources := by
  intro result after ends
  obtain ⟨value, _, run, ⟨⟩⟩ := exists_of_bind_run ends
  exact serving value after run

theorem Serving.afterLift {result : Except Fault α} {next : α → Registering β}
    (rest : ∀ value, result = .ok value → Serving start (next value) sources) :
    Serving start ((liftM result : Registering α) >>= next) sources := by
  intro given after ends
  rw [Registering.lift_bind_run] at ends
  cases result with
  | error fault => cases ends
  | ok value => exact rest value rfl given after ends

theorem Serving.look {next : Registry → Registering α} (rest : Serving start (next start) sources) :
    Serving start (get >>= next) sources :=
  rest

theorem Serving.unless {condition : Prop} [Decidable condition] {fault : Fault}
    {next : Unit → Registering α} (rest : ¬condition → Serving start (next ()) sources) :
    Serving start (if condition then (MonadExcept.throw fault >>= next) else next ()) sources := by
  split
  · rintro _ _ ⟨⟩
  · rename_i passes
    exact rest passes

theorem Serving.locating {step : Registering α} (member parameter : String)
    (serving : Serving start step sources) :
    Serving start (ContractClient.locating member parameter step) sources := by
  intro value after ends
  rw [ContractClient.locating] at ends
  cases run : step start with
  | mk ended middle =>
    rw [run] at ends
    cases ended with
    | error fault => cases ends
    | ok given =>
      cases ends
      exact serving value after run

/-! ### Registering -/

/-- Registering the fields of a source serves this source: their shape is known, or they are the
first of their shape, whose name is then chosen among the free ones. -/
theorem Registry.register_serves (sound : start.Sound reserved) {asked : String}
    {fields : List Field} {origin : Origin} {source : Source}
    (registers : Yields reserved start (register asked fields origin)
      fun interfaces name => Shaped interfaces fields name)
    (asks : source.asked = .ok asked)
    (stands : ∀ interfaces name, start.interfaces ⊆ interfaces → Shaped interfaces fields name →
      source.HasName interfaces name) :
    Serving start (register asked fields origin) [source] := by
  intro name after ends
  obtain ⟨_, _, grows, shaped⟩ := registers
  rw [ends] at grows shaped
  have hasName := stands after.interfaces name grows.subset (shaped name rfl)
  rw [register_run] at ends
  split at ends
  · cases found : start.shaped? (fieldSignature fields) with
    | some existing =>
      rw [found] at ends
      cases ends
      have isKnown := ((sound.indexed _ _).mp found).1
      exact ⟨.refl start, [], .known isKnown hasName (.done _), (List.append_nil _).symm, rfl⟩
    | none =>
      rw [found] at ends
      cases ends
      have isNew : ∀ other ∈ start.interfaces, other.name ≠ freeName start.taken asked := by
        intro other member same
        refine freeName_not_mem start.taken asked ((sound.taken _).mpr (.inr ?_))
        exact ⟨other, member, same⟩
      refine ⟨⟨rfl, rfl, rfl⟩, [(asked, ⟨freeName start.taken asked, fields, origin⟩)],
        .first isNew hasName asks (.done _), rfl, ?_⟩
      rw [renamedNotices, List.filterMap_cons, renamedNotice?, insert]
      dsimp only
      split <;> rfl
  · cases ends

/-- Registering the fields of a tuple serves the tuple. -/
theorem registerStruct_serves (sound : start.Sound reserved) (name text internalType : String)
    {declared : String} {components : List Parameter} {fields : List Field}
    (declares : declaredName internalType name = .ok declared)
    (someComponents : ¬components.isEmpty)
    (haveTypes : FieldsHaveTypes start.interfaces components (components.map (·.name)) fields) :
    Serving start (registerStruct declared fields)
      [.tuple ⟨name, text, internalType, some components⟩] := by
  have hasFields : fields ≠ [] :=
    haveTypes.ne_nil (List.length_map _) fun none => someComponents (none ▸ rfl)
  unfold registerStruct
  refine .afterLift fun _ passes => .afterLift fun asked names => ?_
  refine Registry.register_serves sound (Registry.register_yields sound asked .struct hasFields
    (named_of_requireNames passes) haveTypes.known) ?asks ?stands
  case asks => simp only [Source.asked, Parameter.structName, declares, bind, Except.bind, names]
  case stands =>
    intro interfaces given grown shaped
    rw [Source.HasName, ComponentsHaveName]
    exact ⟨fields, haveTypes.mono grown, shaped⟩

end

/-! ### Mapping -/

mutual

/-- Mapping a parameter serves its tuples in turn. -/
theorem mapParameter_serves {reserved : List String} (levels : Nat) (member : String) :
    ∀ (parameter : Parameter) {start : Registry}, start.Sound reserved →
      Serving start (mapParameter levels member parameter) (parameter.mappedTuples.map .tuple)
  | ⟨name, text, internalType, components⟩, start, sound => by
    rw [mapParameter, Parameter.mappedTuples]
    refine .locating member name (.afterLift fun tag required => ?_)
    rw [requireTag_eq_ok_iff.mp required]
    cases primitive : tag.base.primitive? with
    | some ty =>
      have noTuple : tag.base ≠ .tuple := fun isTuple => by
        rw [BaseType.primitive?_eq_none.mpr isTuple] at primitive
        cases primitive
      simp only [noTuple, if_false]
      exact .pure _
    | none =>
      simp only [BaseType.primitive?_eq_none.mp primitive, if_true, List.map_append]
      exact (mapTuple_serves levels name text internalType components sound).map _

theorem mapTuple_serves {reserved : List String} (levels : Nat)
    (name text internalType : String) :
    ∀ (components : Option (List Parameter)) {start : Registry}, start.Sound reserved →
      Serving start (mapTuple levels name internalType components)
        ((mappedComponentTuples components).map .tuple ++
          [.tuple ⟨name, text, internalType, components⟩])
  | none, _, _ => by
    rw [mapTuple]
    exact .throw _
  | some components, start, sound => by
    rw [mapTuple, mappedComponentTuples]
    refine .unless fun notEmpty => .afterLift fun declared declares => .afterLift fun below _ => ?_
    refine .bind (mapFields_yields below components sound)
      (mapFields_serves below components sound) fun fields middle soundMiddle _ haveTypes => ?_
    exact registerStruct_serves soundMiddle name text internalType declares notEmpty haveTypes

theorem mapFields_serves {reserved : List String} (levels : Nat) :
    ∀ (components : List Parameter) {start : Registry}, start.Sound reserved →
      Serving start (mapFields levels components) ((mappedTuplesAmong components).map .tuple)
  | [], _, _ => by
    rw [mapFields, mappedTuplesAmong]
    exact .pure _
  | component :: rest, start, sound => by
    rw [mapFields, mappedTuplesAmong, List.map_append]
    refine .bind (mapParameter_yields levels "" component sound)
      (mapParameter_serves levels "" component sound) fun ty middle soundMiddle _ _ => ?_
    exact (mapFields_serves levels rest soundMiddle).map _

end

/-! ### Results -/

section

variable {reserved : List String} {start : Registry}

theorem resolveParameter_serves (sound : start.Sound reserved) (member : String)
    (parameter : Parameter) :
    Serving start (resolveParameter member parameter) (parameter.mappedTuples.map .tuple) :=
  .look (mapParameter_serves start.levels member parameter sound)

/-- Where there is a name for each output, the tuples of all of them are served. -/
theorem mapOutputs_serves (member : String) (outputs : List Parameter) :
    ∀ (names : List String) {start : Registry}, names.length = outputs.length →
      start.Sound reserved →
        Serving start (mapOutputs member names outputs)
          ((mappedTuplesAmong outputs).map .tuple) := by
  induction outputs with
  | nil =>
    intro names _ _ _
    rw [mapOutputs, mappedTuplesAmong]
    · exact .pure _
    · simp
  | cons output outputs inductionHypothesis =>
    intro names _ sameLength sound
    cases names with
    | nil => cases sameLength
    | cons name names =>
      rw [mapOutputs, mappedTuplesAmong, List.map_append]
      refine .bind (resolveParameter_yields sound member output)
        (resolveParameter_serves sound member output) fun ty middle soundMiddle _ _ => ?_
      exact (inductionHypothesis names (Nat.succ.inj sameLength) soundMiddle).map _

/-- Resolving a result serves the tuples of its outputs and, behind them, the result. -/
theorem resolveResult_serves (sound : start.Sound reserved) (member : String)
    (outputs : List Parameter) :
    Serving start (resolveResult member outputs)
      ((mappedTuplesAmong outputs).map .tuple ++
        [.result start.resultSuffix member outputs]) := by
  have sameLength : (outputFieldNames outputs).length = outputs.length :=
    length_fieldNamesFrom _ _ _
  unfold resolveResult
  refine .unless fun _ => .unless fun several => ?_
  refine .bind (mapOutputs_yields member outputs (outputFieldNames outputs) sound)
    (mapOutputs_serves member outputs (outputFieldNames outputs) sameLength sound)
    fun fields middle soundMiddle keeps haveTypes => .look ?_
  rw [keeps.resultSuffix]
  refine .afterLift fun asked names => ?_
  have registers := registerOutputs_yields soundMiddle asked several haveTypes
  have asks : (Source.result start.resultSuffix member outputs).asked = .ok asked := names
  refine Registry.register_serves soundMiddle registers asks fun interfaces name grown shaped => ?_
  have hasName : OutputsHaveName interfaces outputs name :=
    ⟨fields, haveTypes.mono grown, shaped⟩
  exact hasName

end

end ContractClient
