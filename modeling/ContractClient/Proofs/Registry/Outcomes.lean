/-
This file says how mapping ends, whatever the registry holds. Whether a parameter can be mapped,
and what is wrong with it if it cannot, is seen from the parameter alone: from its tag, the
names that it and its components have, and how deep its tuples are nested.

A check without any limit walks through the parameter as the mapping does
(`Parameter.requireTypable`); the levels of tuples that it gets to before it ends are counted
beside it (`Parameter.mappedLevels`). Mapping ends as the check does if it has that many levels,
and otherwise for want of them.
-/

import ContractClient.Proofs.Registry.Events

namespace ContractClient

/-! ### Outcomes -/

/-- How something ends, whatever it gives. -/
def outcome {α : Type} (result : Except Fault α) : Except Fault Unit :=
  result.map fun _ => ()

/-- The result, unless it takes more levels than there are. -/
def withinLevels {α : Type} (needed levels : Nat) (result : Except Fault α) : Except Fault α :=
  if needed ≤ levels then result else .error (.defect .tooDeep)

section

variable {α β : Type}

@[simp] theorem outcome_ok (value : α) : outcome (.ok value) = .ok () := rfl

@[simp] theorem outcome_error (fault : Fault) :
    outcome (.error fault : Except Fault α) = .error fault := rfl

theorem outcome_eq_error_iff {result : Except Fault α} {fault : Fault} :
    outcome result = .error fault ↔ result = .error fault := by
  cases result <;> simp

theorem outcome_eq_ok_iff {result : Except Fault α} :
    outcome result = .ok () ↔ ∃ value, result = .ok value := by
  cases result <;> simp

theorem bind_eq_error_iff {first second : Except Fault Unit} {fault : Fault} :
    (first >>= fun _ => second) = .error fault ↔
      first = .error fault ∨ first = .ok () ∧ second = .error fault := by
  cases first with
  | error other =>
    show (Except.error other : Except Fault Unit) = .error fault ↔ _
    simp
  | ok _ =>
    show second = .error fault ↔ _
    simp

theorem bind_eq_ok_iff {first second : Except Fault Unit} :
    (first >>= fun _ => second) = .ok () ↔ first = .ok () ∧ second = .ok () := by
  cases first with
  | error other =>
    show (Except.error other : Except Fault Unit) = .ok () ↔ _
    simp
  | ok _ =>
    show second = .ok () ↔ _
    simp

theorem withinLevels_zero (levels : Nat) (result : Except Fault α) :
    withinLevels 0 levels result = result :=
  if_pos (Nat.zero_le levels)

theorem withinLevels_succ (needed levels : Nat) (result : Except Fault α) :
    withinLevels (needed + 1) (levels + 1) result = withinLevels needed levels result := by
  simp only [withinLevels, Nat.succ_le_succ_iff]

theorem withinLevels_bind (needed levels : Nat) (result : Except Fault α)
    (next : α → Except Fault β) :
    (withinLevels needed levels result >>= next) =
      withinLevels needed levels (result >>= next) := by
  unfold withinLevels
  split <;> rfl

/-- The second of two walks begins only if the first ends well, and only then its levels count. -/
theorem withinLevels_then (first second levels : Nat) (check next : Except Fault Unit) :
    (withinLevels first levels check >>= fun _ => withinLevels second levels next) =
      withinLevels (max first (if check.isOk then second else 0)) levels
        (check >>= fun _ => next) := by
  cases check with
  | error fault =>
    rw [Except.isOk, Except.toBool, if_neg Bool.false_ne_true, Nat.max_zero, withinLevels_bind]
    rfl
  | ok _ =>
    rw [Except.isOk, Except.toBool, if_pos rfl, withinLevels_bind]
    show withinLevels first levels (withinLevels second levels next) =
      withinLevels (max first second) levels next
    simp only [withinLevels]
    by_cases enough : first ≤ levels
    · rw [if_pos enough]
      by_cases enoughToo : second ≤ levels
      · rw [if_pos enoughToo, if_pos (Nat.max_le_of_le_of_le enough enoughToo)]
      · rw [if_neg enoughToo,
          if_neg fun both => enoughToo (Nat.le_trans (Nat.le_max_right _ _) both)]
    · rw [if_neg enough, if_neg fun both => enough (Nat.le_trans (Nat.le_max_left _ _) both)]

end

/-! ### Steps that end as a check does -/

/-- The step ends as the check does, leaves the registry with what it was made with, and gives
only what is right. -/
structure Checks {α : Type} (start : Registry) (step : Registering α) (check : Except Fault Unit)
    (right : α → Prop) : Prop where
  keeps : start.Keeps (step start).2
  ends : outcome (step start).1 = check
  right : ∀ value, (step start).1 = .ok value → right value

section

variable {α β : Type} {start : Registry}

theorem Checks.of_run {step : Registering α} {result : Except Fault α} {after : Registry}
    {right : α → Prop} (run : step start = (result, after)) (keeps : start.Keeps after)
    (holds : ∀ value, result = .ok value → right value) :
    Checks start step (outcome result) right :=
  ⟨by rw [run]; exact keeps, by rw [run], by rw [run]; exact holds⟩

theorem Checks.passes_iff {step : Registering α} {check : Except Fault Unit} {right : α → Prop}
    (checks : Checks start step check right) :
    check = .ok () ↔ ∃ value, (step start).1 = .ok value := by
  rw [← checks.ends, outcome_eq_ok_iff]

theorem Checks.fails_iff {step : Registering α} {check : Except Fault Unit} {right : α → Prop}
    (checks : Checks start step check right) {fault : Fault} :
    check = .error fault ↔ (step start).1 = .error fault := by
  rw [← checks.ends, outcome_eq_error_iff]

/-- The step runs as it should if the check passes. -/
theorem Checks.exists_run {step : Registering α} {check : Except Fault Unit} {right : α → Prop}
    (checks : Checks start step check right) (passes : check = .ok ()) :
    ∃ value after, step start = (.ok value, after) ∧ start.Keeps after ∧ right value := by
  obtain ⟨value, gives⟩ := checks.passes_iff.mp passes
  exact ⟨value, _, Prod.ext gives rfl, checks.keeps, checks.right value gives⟩

theorem Checks.pure {value : α} {right : α → Prop} (holds : right value) :
    Checks start (Pure.pure value) (.ok ()) right :=
  .of_run rfl (.refl start) fun _ same => Except.ok.inj same ▸ holds

theorem Checks.throw (fault : Fault) {right : α → Prop} :
    Checks start (MonadExcept.throw fault) (.error fault) right :=
  .of_run rfl (.refl start) nofun

/-- A step behind something that does not look at the registry. -/
theorem Checks.bindResult {result : Except Fault α} {next : α → Registering β}
    {check : α → Except Fault Unit} {right : β → Prop}
    (rest : ∀ value, result = .ok value → Checks start (next value) (check value) right) :
    Checks start (liftM result >>= next) (result >>= check) right := by
  cases result with
  | error fault => exact .of_run rfl (.refl start) nofun
  | ok value => exact rest value rfl

/-- Two steps one after the other end as their checks do one after the other. -/
theorem Checks.bind {step : Registering α} {next : α → Registering β}
    {check checkNext : Except Fault Unit} {between : α → Prop} {right : β → Prop}
    (first : Checks start step check between)
    (second : ∀ value middle, start.Keeps middle → between value →
      Checks middle (next value) checkNext right) :
    Checks start (step >>= next) (check >>= fun _ => checkNext) right := by
  obtain ⟨keeps, rfl, holds⟩ := first
  have run := bind_run step next start
  cases result : step start with
  | mk ended middle =>
    rw [result] at keeps holds run
    cases ended with
    | error fault => exact .of_run run keeps nofun
    | ok value =>
      obtain ⟨keepsAfter, ends, holdsAfter⟩ := second value middle keeps (holds value rfl)
      refine ⟨?_, ?_, ?_⟩
      · rw [run]
        exact keeps.trans keepsAfter
      · rw [run]
        exact ends
      · rw [run]
        exact holdsAfter

theorem Checks.look {next : Registry → Registering α} {check : Except Fault Unit}
    {right : α → Prop} (rest : Checks start (next start) check right) :
    Checks start (get >>= next) check right :=
  ⟨rest.keeps, rest.ends, rest.right⟩

theorem Checks.unless {condition : Prop} [Decidable condition] {fault : Fault}
    {next : Unit → Registering α} {check : Except Fault Unit} {right : α → Prop}
    (rest : ¬condition → Checks start (next ()) check right) :
    Checks start (if condition then (MonadExcept.throw fault >>= next) else next ())
      (if condition then .error fault else check) right := by
  split
  · exact .of_run rfl (.refl start) nofun
  · rename_i passes
    exact rest passes

theorem Checks.locating {step : Registering α} {check : Except Fault Unit} {right : α → Prop}
    (member parameter : String) (checks : Checks start step check right) :
    Checks start (ContractClient.locating member parameter step)
      (check.mapError (Fault.locate member parameter)) right := by
  obtain ⟨keeps, rfl, holds⟩ := checks
  have run : ContractClient.locating member parameter step start =
      ((step start).1.mapError (Fault.locate member parameter), (step start).2) := by
    unfold ContractClient.locating
    cases step start with
    | mk ended after => cases ended <;> rfl
  have located : outcome ((step start).1.mapError (Fault.locate member parameter)) =
      (outcome (step start).1).mapError (Fault.locate member parameter) := by
    cases (step start).1 <;> rfl
  rw [← located]
  refine .of_run run keeps fun value same => holds value ?_
  cases ended : (step start).1 with
  | error fault => rw [ended] at same; cases same
  | ok other => rw [ended] at same; exact same

/-- What is done with the value of a step alone does not change how it ends. -/
theorem Checks.change {step : Registering α} {check : Except Fault Unit} {between : α → Prop}
    {right : β → Prop} (checks : Checks start step check between) {change : α → β}
    (holds : ∀ value, between value → right (change value)) :
    Checks start (step >>= fun value => Pure.pure (change value)) check right := by
  have same : (check >>= fun _ => .ok ()) = check := by cases check <;> rfl
  exact same ▸ checks.bind fun value _ _ isBetween => .pure (holds value isBetween)

end

/-! ### The check of a parameter -/

/-- Fails unless an interface can have fields of the names. -/
def requireFields (declared : String) (names : List String) : Except Fault Unit :=
  match names.findIdx? (· == "") with
  | some index => .error (.shape (.unnamedField index declared))
  | none => do
    let name ← structName declared
    if names.Nodup then .ok () else .error (.shape (.duplicateFields name))

mutual

/-- Fails unless the parameter of the member can be mapped with enough levels of tuples. -/
def Parameter.requireTypable (member : String) : Parameter → Except Fault Unit
  | ⟨name, text, internalType, components⟩ =>
    let check : Except Fault Unit := do
      let tag ← requireTag text
      if tag.base = .tuple then requireStruct name internalType components
    check.mapError (Fault.locate member name)
termination_by structural parameter => parameter

/-- Fails unless a tuple with the components can be mapped with enough levels of tuples. -/
def requireStruct (name internalType : String) : Option (List Parameter) → Except Fault Unit
  | none => .error (.shape (.tupleWithoutComponents name))
  | some components =>
    if components.isEmpty then .error (.shape (.tupleWithoutComponents name))
    else do
      let declared ← declaredName internalType name
      requireAllTypable "" components
      requireFields declared (components.map (·.name))
termination_by structural components => components

/-- Fails unless all parameters of the member can be mapped with enough levels of tuples. -/
def requireAllTypable (member : String) : List Parameter → Except Fault Unit
  | [] => .ok ()
  | parameter :: rest => do
    parameter.requireTypable member
    requireAllTypable member rest
termination_by structural parameters => parameters

end

mutual

/-- The levels of tuples that the check of a parameter gets to. -/
def Parameter.mappedLevels : Parameter → Nat
  | ⟨name, text, internalType, components⟩ =>
    match requireTag text with
    | .ok tag => if tag.base = .tuple then structLevels name internalType components else 0
    | .error _ => 0
termination_by structural parameter => parameter

/-- The levels of tuples that the check of a tuple gets to. -/
def structLevels (name internalType : String) : Option (List Parameter) → Nat
  | none => 0
  | some components =>
    if components.isEmpty then 0
    else
      match declaredName internalType name with
      | .ok _ => mappedLevels components + 1
      | .error _ => 0
termination_by structural components => components

/-- The levels of tuples that the check of parameters gets to, up to the first that fails. -/
def mappedLevels : List Parameter → Nat
  | [] => 0
  | parameter :: rest =>
    max parameter.mappedLevels
      (if (parameter.requireTypable "").isOk then mappedLevels rest else 0)
termination_by structural parameters => parameters

end

theorem isOk_mapError {α : Type} (result : Except Fault α) (change : Fault → Fault) :
    (result.mapError change).isOk = result.isOk := by
  cases result <;> rfl

/-- Whether a parameter can be mapped does not depend on what it belongs to. -/
theorem Parameter.isOk_requireTypable (member other : String) (parameter : Parameter) :
    (parameter.requireTypable member).isOk = (parameter.requireTypable other).isOk := by
  obtain ⟨name, text, internalType, components⟩ := parameter
  rw [requireTypable, requireTypable, isOk_mapError, isOk_mapError]

theorem withinLevels_mapError (needed levels : Nat) (check : Except Fault Unit)
    (member name : String) :
    (withinLevels needed levels check).mapError (Fault.locate member name) =
      withinLevels needed levels (check.mapError (Fault.locate member name)) := by
  unfold withinLevels
  split <;> rfl

/-! ### Mapping ends as the check does -/

section

variable {start : Registry}

theorem Registry.register_checks (requested : String) (fields : List Field) (origin : Origin) :
    Checks start (register requested fields origin)
      (if (fields.map (·.name)).Nodup then .ok ()
        else .error (.shape (.duplicateFields requested))) fun _ => True := by
  have run := register_run requested fields origin start
  by_cases distinct : (fields.map (·.name)).Nodup
  · rw [if_pos distinct] at run ⊢
    cases found : start.shaped? (fieldSignature fields) with
    | some existing =>
      rw [found] at run
      exact .of_run run (.refl start) fun _ _ => trivial
    | none =>
      rw [found] at run
      exact .of_run run ⟨rfl, rfl, rfl⟩ fun _ _ => trivial
  · rw [if_neg distinct] at run ⊢
    exact .of_run run (.refl start) fun _ _ => trivial

theorem registerStruct_checks (declared : String) {fields : List Field} {names : List String}
    (same : fields.map (·.name) = names) :
    Checks start (registerStruct declared fields) (requireFields declared names)
      fun _ => True := by
  have requested : requireFields declared names =
      structRequest declared fields >>= fun name =>
        if (fields.map (·.name)).Nodup then .ok ()
        else .error (.shape (.duplicateFields name)) := by
    unfold requireFields structRequest requireNames
    rw [← same, List.findIdx?_map]
    rw [show ((fun name : String => name == "") ∘ fun field : Field => field.name) =
      fun field => field.name == "" from rfl]
    generalize structName declared = named
    cases fields.findIdx? (·.name == "") with
    | some index => rfl
    | none => cases named <;> rfl
  rw [registerStruct_eq, requested]
  exact .bindResult fun name _ => Registry.register_checks name fields .struct

mutual

theorem mapParameter_checks (levels : Nat) (member : String) :
    ∀ (parameter : Parameter) {start : Registry},
      Checks start (mapParameter levels member parameter)
        (withinLevels parameter.mappedLevels levels (parameter.requireTypable member))
        fun _ => True
  | ⟨name, text, internalType, components⟩, start => by
    rw [mapParameter, Parameter.requireTypable, Parameter.mappedLevels, ← withinLevels_mapError]
    refine Checks.locating member name ?_
    cases required : requireTag text with
    | error fault =>
      rw [withinLevels_zero]
      exact .throw fault
    | ok tag =>
      show Checks start (match tag.base.primitive? with
        | some ty => Pure.pure (ty.arrays tag.dimensions.length)
        | none => mapTuple levels name internalType components >>= fun struct =>
            Pure.pure ((Ty.ofText struct).arrays tag.dimensions.length))
        (withinLevels (if tag.base = .tuple then _ else 0) levels
          (if tag.base = .tuple then requireStruct name internalType components else .ok ())) _
      cases primitive : tag.base.primitive? with
      | some ty =>
        have noTuple : tag.base ≠ .tuple := by
          rw [ne_eq, ← BaseType.primitive?_eq_none, primitive]
          simp
        rw [if_neg noTuple, if_neg noTuple, withinLevels_zero]
        exact .pure trivial
      | none =>
        have isTuple := BaseType.primitive?_eq_none.mp primitive
        rw [if_pos isTuple, if_pos isTuple]
        exact (mapTuple_checks levels name internalType components).change fun _ _ => trivial

theorem mapTuple_checks (levels : Nat) (name internalType : String) :
    ∀ (components : Option (List Parameter)) {start : Registry},
      Checks start (mapTuple levels name internalType components)
        (withinLevels (structLevels name internalType components) levels
          (requireStruct name internalType components))
        fun _ => True
  | none, _ => by
    rw [mapTuple, structLevels, requireStruct, withinLevels_zero]
    exact .throw _
  | some components, _ => by
    rw [mapTuple, structLevels, requireStruct]
    by_cases empty : components.isEmpty
    · simp only [empty, if_true, withinLevels_zero]
      exact .throw _
    · rw [if_neg empty, if_neg empty, if_neg empty]
      cases named : declaredName internalType name with
      | error fault =>
        rw [withinLevels_zero]
        exact .of_run rfl (.refl _) nofun
      | ok declared =>
        cases levels with
        | zero => exact .of_run rfl (.refl _) nofun
        | succ below =>
          simp only [withinLevels_succ]
          show Checks _ (mapFields below components >>= registerStruct declared)
            (withinLevels _ below (requireAllTypable "" components >>= fun _ =>
              requireFields declared (components.map (·.name)))) _
          rw [← withinLevels_bind]
          exact (mapFields_checks below components).bind fun fields _ _ same =>
            registerStruct_checks declared same

theorem mapFields_checks (levels : Nat) :
    ∀ (components : List Parameter) {start : Registry},
      Checks start (mapFields levels components)
        (withinLevels (mappedLevels components) levels (requireAllTypable "" components))
        fun fields => fields.map (·.name) = components.map (·.name)
  | [], _ => by
    rw [mapFields, mappedLevels, requireAllTypable, withinLevels_zero]
    exact .pure rfl
  | component :: rest, _ => by
    rw [mapFields, mappedLevels, requireAllTypable, ← withinLevels_then]
    refine (mapParameter_checks levels "" component).bind fun ty middle _ _ => ?_
    refine (mapFields_checks levels rest).change fun fields named => ?_
    rw [List.map_cons, named, List.map_cons]

end

/-- A parameter of a member can be mapped as far as the levels of the registry reach. -/
def requireParameter (levels : Nat) (member : String) (parameter : Parameter) :
    Except Fault Unit :=
  withinLevels parameter.mappedLevels levels (parameter.requireTypable member)

/-- Parameters of a member can be mapped as far as the levels of the registry reach. -/
def requireParameters (levels : Nat) (member : String) (parameters : List Parameter) :
    Except Fault Unit :=
  withinLevels (mappedLevels parameters) levels (requireAllTypable member parameters)

theorem requireParameters_cons (levels : Nat) (member : String) (parameter : Parameter)
    (rest : List Parameter) :
    requireParameters levels member (parameter :: rest) =
      requireParameter levels member parameter >>= fun _ =>
        requireParameters levels member rest := by
  unfold requireParameters requireParameter
  rw [mappedLevels, requireAllTypable, parameter.isOk_requireTypable "" member, withinLevels_then]

theorem resolveParameter_checks (member : String) (parameter : Parameter) :
    Checks start (resolveParameter member parameter)
      (requireParameter start.levels member parameter) fun _ => True :=
  .look (mapParameter_checks start.levels member parameter)

/-- The parameter has a type where so many levels of tuples can be mapped. -/
def Parameter.Mappable (levels : Nat) (parameter : Parameter) : Prop :=
  ∃ registry member ty, registry.levels = levels ∧
    (resolveParameter member parameter registry).1 = .ok ty

/-- What a parameter belongs to, and what the registry holds, have no say in whether it has a
type. -/
theorem requireParameter_eq_ok_iff {levels : Nat} {member : String} {parameter : Parameter} :
    requireParameter levels member parameter = .ok () ↔ parameter.Mappable levels := by
  constructor
  · intro passes
    let registry : Registry := { (default : Registry) with levels := levels }
    have checks : Checks registry (resolveParameter member parameter) _ _ :=
      resolveParameter_checks member parameter
    obtain ⟨ty, gives⟩ := checks.passes_iff.mp passes
    exact ⟨registry, member, ty, rfl, gives⟩
  · rintro ⟨registry, other, ty, rfl, gives⟩
    have passes := (resolveParameter_checks other parameter).passes_iff.mpr ⟨ty, gives⟩
    have same := parameter.isOk_requireTypable member other
    unfold requireParameter withinLevels at passes ⊢
    split at passes
    · rename_i enough
      rw [if_pos enough]
      rw [passes] at same
      cases result : parameter.requireTypable member with
      | error fault =>
        rw [result] at same
        cases same
      | ok _ => rfl
    · cases passes

/-- Parameters can be mapped one after the other if each of them can be. -/
theorem requireParameters_eq_ok_iff {levels : Nat} {member : String}
    {parameters : List Parameter} :
    requireParameters levels member parameters = .ok () ↔
      ∀ parameter ∈ parameters, parameter.Mappable levels := by
  induction parameters with
  | nil =>
    rw [requireParameters, mappedLevels, requireAllTypable, withinLevels_zero]
    simp
  | cons parameter rest inductionHypothesis =>
    rw [requireParameters_cons, bind_eq_ok_iff, requireParameter_eq_ok_iff, inductionHypothesis,
      List.forall_mem_cons]

theorem mapOutputs_checks (member : String) (outputs : List Parameter) :
    ∀ (names : List String) {start : Registry}, names.length = outputs.length →
      Checks start (mapOutputs member names outputs)
        (requireParameters start.levels member outputs)
        fun fields => fields.map (·.name) = names := by
  induction outputs with
  | nil =>
    intro names start same
    obtain rfl := List.eq_nil_of_length_eq_zero same
    rw [mapOutputs, requireParameters, mappedLevels, requireAllTypable, withinLevels_zero]
    · exact .pure rfl
    · simp
  | cons output outputs inductionHypothesis =>
    intro names start same
    cases names with
    | nil => cases same
    | cons name names =>
      rw [mapOutputs, requireParameters_cons]
      refine (resolveParameter_checks member output).bind fun ty middle keeps _ => ?_
      rw [← keeps.levels]
      refine (inductionHypothesis names (Nat.succ.inj same)).change fun fields named => ?_
      rw [List.map_cons, named]

/-- Fails unless an interface for the outputs of the member can be registered. -/
def requireResult (levels : Nat) (resultSuffix member : String) (outputs : List Parameter) :
    Except Fault Unit :=
  if member == "" then .error (.shape .resultWithoutMember)
  else if outputs.length < 2 then .error (.shape (.resultTooSmall member outputs.length))
  else do
    requireParameters levels member outputs
    let name ← resultName resultSuffix member
    if (outputFieldNames outputs).Nodup then .ok () else .error (.shape (.duplicateFields name))

theorem resolveResult_checks (member : String) (outputs : List Parameter) :
    Checks start (resolveResult member outputs)
      (requireResult start.levels start.resultSuffix member outputs) fun _ => True := by
  unfold resolveResult requireResult
  refine Checks.unless fun _ => Checks.unless fun _ => ?_
  refine (mapOutputs_checks member outputs _ (length_fieldNamesFrom _ _ _)).bind
    fun fields middle keeps named => .look ?_
  rw [keeps.resultSuffix]
  refine .bindResult fun name _ => ?_
  have sameNames : outputFieldNames outputs = fields.map (·.name) := named.symm
  rw [sameNames]
  exact Registry.register_checks name fields .result

/-- Fails unless the call can be answered. -/
def Call.check (levels : Nat) (resultSuffix : String) : Call → Except Fault Unit
  | struct declared components =>
    if components.isEmpty then .error (.shape (.structWithoutFields declared))
    else do
      requireParameters levels "" components
      requireFields declared (components.map (·.name))
  | result member outputs => requireResult levels resultSuffix member outputs
  | parameter member asked => requireParameter levels member asked

/-- How a call ends depends on the call alone, on the levels, and on the suffix of results. -/
theorem Call.perform_checks (call : Call) :
    Checks start call.perform (call.check start.levels start.resultSuffix) fun _ => True := by
  cases call with
  | struct declared components =>
    show Checks start (resolveStruct declared components) _ _
    unfold resolveStruct Call.check
    refine Checks.unless fun _ => Checks.look ?_
    exact (mapFields_checks start.levels components).bind fun fields _ _ same =>
      registerStruct_checks declared same
  | result member outputs => exact resolveResult_checks member outputs
  | parameter member asked =>
    exact (resolveParameter_checks member asked).change fun _ _ => trivial

end

end ContractClient
