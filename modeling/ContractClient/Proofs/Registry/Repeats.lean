/-
This file proves that asking a registry again changes nothing. Where the interfaces of a registry
have a type for a parameter already, mapping the parameter leaves the registry as it is, whether it
succeeds or not, and gives no other type (`mapParameter_settled`). A parameter that can be mapped at
all is then mapped to that type (`resolveParameter_again`).

So a call that was answered once is answered in the same way ever after, whatever is asked for in
between, and nobody is told of anything twice (`runCalls_again`).
-/

import ContractClient.Proofs.Registry.Calls
import ContractClient.Proofs.Registry.Outcomes

namespace ContractClient

/-- On the registry the step changes nothing, and it gives the value if it gives any. -/
structure Settled {α : Type} (start : Registry) (step : Registering α) (value : α) : Prop where
  unchanged : (step start).2 = start
  gives : ∀ other, (step start).1 = .ok other → other = value

section

variable {α β : Type} {reserved : List String} {start : Registry}

theorem Settled.of_run {step : Registering α} {value : α} {ended : Except Fault α}
    (run : step start = (ended, start)) (gives : ∀ other, ended = .ok other → other = value) :
    Settled start step value :=
  ⟨by rw [run], by rw [run]; exact gives⟩

theorem Settled.pure (value : α) : Settled start (Pure.pure value) value :=
  .of_run rfl fun _ same => (Except.ok.inj same).symm

theorem Settled.throw (fault : Fault) (value : α) :
    Settled start (MonadExcept.throw fault) value :=
  .of_run rfl nofun

/-- A settled step in front of one that is settled where the first one gives its value. -/
theorem Settled.bind {step : Registering α} {next : α → Registering β} {between : α} {value : β}
    (first : Settled start step between)
    (second : Settled start (next between) value) : Settled start (step >>= next) value := by
  obtain ⟨unchanged, gives⟩ := first
  have run := bind_run step next start
  cases result : step start with
  | mk ended after =>
    rw [result] at run unchanged gives
    subst unchanged
    cases ended with
    | error fault => exact .of_run run nofun
    | ok other =>
      obtain rfl := gives other rfl
      obtain ⟨unchanged, gives⟩ := second
      exact ⟨by rw [run]; exact unchanged, by rw [run]; exact gives⟩

/-- Something that does not look at the registry in front of a step. -/
theorem Settled.afterLift {result : Except Fault α} {next : α → Registering β} {value : β}
    (rest : ∀ other, result = .ok other → Settled start (next other) value) :
    Settled start (liftM result >>= next) value := by
  cases result with
  | error fault => exact .of_run rfl nofun
  | ok other => exact rest other rfl

theorem Settled.look {next : Registry → Registering α} {value : α}
    (rest : Settled start (next start) value) : Settled start (get >>= next) value :=
  ⟨rest.unchanged, rest.gives⟩

theorem Settled.unless {condition : Prop} [Decidable condition] {fault : Fault}
    {next : Unit → Registering α} {value : α} (rest : Settled start (next ()) value) :
    Settled start (if condition then (MonadExcept.throw fault >>= next) else next ()) value := by
  split
  · exact .of_run rfl nofun
  · exact rest

theorem Settled.locating {step : Registering α} {value : α} (member parameter : String)
    (settled : Settled start step value) :
    Settled start (ContractClient.locating member parameter step) value := by
  obtain ⟨unchanged, gives⟩ := settled
  cases result : step start with
  | mk ended after =>
    rw [result] at unchanged gives
    subst unchanged
    cases ended with
    | error fault =>
      have run : ContractClient.locating member parameter step after =
          (.error (fault.locate member parameter), after) := by
        rw [ContractClient.locating, result]
      refine .of_run run ?_
      rintro _ ⟨⟩
    | ok other => exact .of_run (by rw [ContractClient.locating, result]) gives

/-- A settled step that gives something gives the value, and changes nothing. -/
theorem Settled.eq_of_passes {step : Registering α} {value : α} {check : Except Fault Unit}
    {right : α → Prop} (settled : Settled start step value)
    (checks : Checks start step check right) (passes : check = .ok ()) :
    step start = (.ok value, start) := by
  obtain ⟨other, gives⟩ := checks.passes_iff.mp passes
  exact Prod.ext (gives.trans (congrArg Except.ok (settled.gives other gives))) settled.unchanged

/-! ### Registering again -/

/-- Fields whose shape is known are not registered again. -/
theorem Registry.register_settled (sound : start.Sound reserved) (requested : String)
    {fields : List Field} (origin : Origin) {name : String}
    (shaped : Shaped start.interfaces fields name) :
    Settled start (register requested fields origin) name := by
  obtain ⟨interface, member, rfl, sameShape⟩ := shaped
  have found : start.shaped? (fieldSignature fields) = some interface :=
    (sound.indexed _ _).mpr ⟨member, sameShape⟩
  have run := register_run requested fields origin start
  rw [found] at run
  split at run
  · exact .of_run run fun _ same => (Except.ok.inj same).symm
  · exact .of_run run nofun

theorem registerStruct_settled (sound : start.Sound reserved) (declared : String)
    {fields : List Field} {name : String} (shaped : Shaped start.interfaces fields name) :
    Settled start (registerStruct declared fields) name :=
  .afterLift fun _ _ => .afterLift fun _ _ => Registry.register_settled sound _ .struct shaped

end

/-! ### Mapping again -/

mutual

/-- A parameter that has a type already is mapped to it, and nothing changes. -/
theorem mapParameter_settled {reserved : List String} {start : Registry}
    (sound : start.Sound reserved) (levels : Nat) (member : String) :
    ∀ (parameter : Parameter) {ty : Ty}, parameter.HasTy start.interfaces ty →
      Settled start (mapParameter levels member parameter) ty
  | ⟨name, text, internalType, components⟩, ty, hasTy => by
    rw [Parameter.HasTy] at hasTy
    obtain ⟨tag, parsed, rest⟩ := hasTy
    rw [mapParameter]
    refine Settled.locating member name (.afterLift fun other required => ?_)
    obtain rfl : tag = other :=
      Except.ok.inj (parsed.symm.trans (requireTag_eq_ok_iff.mp required))
    cases primitive : tag.base.primitive? with
    | some base =>
      rw [primitive] at rest
      exact rest ▸ .pure _
    | none =>
      rw [primitive] at rest
      obtain ⟨struct, hasName, rfl⟩ := rest
      exact (mapTuple_settled sound levels name internalType components hasName).bind (.pure _)

theorem mapTuple_settled {reserved : List String} {start : Registry}
    (sound : start.Sound reserved) (levels : Nat) (name internalType : String) :
    ∀ (components : Option (List Parameter)) {struct : String},
      ComponentsHaveName start.interfaces components struct →
        Settled start (mapTuple levels name internalType components) struct
  | none, struct, _ => by
    rw [mapTuple]
    exact .throw _ struct
  | some components, struct, hasName => by
    rw [ComponentsHaveName] at hasName
    obtain ⟨fields, haveTypes, shaped⟩ := hasName
    rw [mapTuple]
    refine .unless (.afterLift fun declared _ => .afterLift fun below _ => ?_)
    exact (mapFields_settled sound below components haveTypes).bind
      (registerStruct_settled sound declared shaped)

theorem mapFields_settled {reserved : List String} {start : Registry}
    (sound : start.Sound reserved) (levels : Nat) :
    ∀ (components : List Parameter) {fields : List Field},
      FieldsHaveTypes start.interfaces components (components.map (·.name)) fields →
        Settled start (mapFields levels components) fields
  | [], _, haveTypes => by
    rw [List.map_nil, FieldsHaveTypes] at haveTypes
    · subst haveTypes
      rw [mapFields]
      exact .pure []
    · simp
  | component :: rest, _, haveTypes => by
    rw [List.map_cons, FieldsHaveTypes] at haveTypes
    obtain ⟨ty, fields, rfl, hasTy, others⟩ := haveTypes
    rw [mapFields]
    exact (mapParameter_settled sound levels "" component hasTy).bind
      ((mapFields_settled sound levels rest others).bind (.pure _))

end

/-! ### Calls that are made again -/

section

variable {reserved : List String} {start : Registry}

theorem resolveParameter_settled (sound : start.Sound reserved) (member : String)
    {parameter : Parameter} {ty : Ty} (hasTy : parameter.HasTy start.interfaces ty) :
    Settled start (resolveParameter member parameter) ty :=
  .look (mapParameter_settled sound start.levels member parameter hasTy)

/-- A parameter that has been mapped once is mapped again to the same type, and nothing changes any
more. -/
theorem resolveParameter_again (sound : start.Sound reserved) {member : String}
    {parameter : Parameter} {ty : Ty} (hasTy : parameter.HasTy start.interfaces ty)
    (typable : requireParameter start.levels member parameter = .ok ()) :
    resolveParameter member parameter start = (.ok ty, start) :=
  (resolveParameter_settled sound member hasTy).eq_of_passes
    (resolveParameter_checks member parameter) typable

theorem resolveStruct_settled (sound : start.Sound reserved) (declared : String)
    {components : List Parameter} {name : String}
    (hasName : ComponentsHaveName start.interfaces (some components) name) :
    Settled start (resolveStruct declared components) name := by
  rw [ComponentsHaveName] at hasName
  obtain ⟨fields, haveTypes, shaped⟩ := hasName
  unfold resolveStruct
  refine Settled.unless (Settled.look ?_)
  exact (mapFields_settled sound start.levels components haveTypes).bind
    (registerStruct_settled sound declared shaped)

theorem mapOutputs_settled (sound : start.Sound reserved) (member : String)
    (outputs : List Parameter) :
    ∀ (names : List String) {fields : List Field},
      FieldsHaveTypes start.interfaces outputs names fields →
        Settled start (mapOutputs member names outputs) fields := by
  induction outputs with
  | nil =>
    intro names fields haveTypes
    rw [FieldsHaveTypes] at haveTypes
    · rw [mapOutputs, haveTypes]
      · exact .pure []
      · simp
    · simp
  | cons output outputs inductionHypothesis =>
    intro names fields haveTypes
    cases names with
    | nil =>
      rw [FieldsHaveTypes] at haveTypes
      · rw [mapOutputs, haveTypes]
        · exact .pure []
        · simp
      · simp
    | cons name names =>
      rw [FieldsHaveTypes] at haveTypes
      obtain ⟨ty, rest, rfl, hasTy, others⟩ := haveTypes
      rw [mapOutputs]
      exact (resolveParameter_settled sound member hasTy).bind
        ((inductionHypothesis names others).bind (.pure _))

theorem resolveResult_settled (sound : start.Sound reserved) (member : String)
    {outputs : List Parameter} {name : String}
    (hasName : OutputsHaveName start.interfaces outputs name) :
    Settled start (resolveResult member outputs) name := by
  obtain ⟨fields, haveTypes, shaped⟩ := hasName
  unfold resolveResult
  refine Settled.unless (Settled.unless ?_)
  refine (mapOutputs_settled sound member outputs _ haveTypes).bind (Settled.look ?_)
  exact Settled.afterLift fun asked _ => Registry.register_settled sound asked .result shaped

/-- A call for something that has its text already changes nothing, and gives no other text. -/
theorem Call.perform_settled (sound : start.Sound reserved) (call : Call) {text : String}
    (hasText : call.subject.HasText start.interfaces text) : Settled start call.perform text := by
  cases call with
  | struct declared components => exact resolveStruct_settled sound declared hasText
  | result member outputs => exact resolveResult_settled sound member hasText
  | parameter member asked =>
    obtain ⟨ty, hasTy, rfl⟩ := hasText
    exact (resolveParameter_settled sound member hasTy).bind (.pure _)

/-- A call that can be answered, for something that has its text already, gives that text, and
nothing changes any more. -/
theorem Call.perform_again (sound : start.Sound reserved) {call : Call} {text : String}
    (hasText : call.subject.HasText start.interfaces text)
    (answerable : call.check start.levels start.resultSuffix = .ok ()) :
    call.perform start = (.ok text, start) :=
  (call.perform_settled sound hasText).eq_of_passes call.perform_checks answerable

end

/-- A call that is answered on a registry of a pass is answered in the same way whenever it is made
again, after any other calls, whether they succeed or not. It then leaves the whole registry as it
is: the interfaces, the names that are taken, and what was told. -/
theorem runCalls_again {levels : Nat} {reserved : List String} {resultSuffix : String}
    {contract : Json} {registry : Registry}
    (reachable : registry.Reachable levels reserved resultSuffix contract) {call : Call}
    {text : String} (answered : (call.perform registry).1 = .ok text) (between : List Call) :
    let reached := runCalls (call :: between) registry
    call.perform reached = (.ok text, reached) := by
  intro reached
  have sound := reachable.sound
  have yields := call.perform_yields sound
  obtain ⟨soundReached, grown⟩ := runCalls_sound between yields.sound
  have hasText : call.subject.HasText reached.interfaces text :=
    (yields.right text answered).mono grown.subset
  have keeps : registry.Keeps reached := runCalls_keeps (call :: between) sound
  have answerable : call.check reached.levels reached.resultSuffix = .ok () := by
    rw [keeps.levels, keeps.resultSuffix]
    exact call.perform_checks.passes_iff.mpr ⟨text, answered⟩
  exact call.perform_again soundReached hasText answerable

/-- A list of points, where the name of the struct is taken, and after it another struct of that
name and a tuple without components. The list gets the same type again, and no second notice. -/
theorem runCalls_again_points :
    let points : Call := .parameter "plot" ⟨"points", "tuple[]", "struct Point[]",
      some [⟨"x", "uint256", "", none⟩, ⟨"y", "uint256", "", none⟩]⟩
    let mark : Call := .struct "struct Point" [⟨"label", "string", "", none⟩]
    let broken : Call := .parameter "plot" ⟨"hole", "tuple", "struct Hole", none⟩
    let fresh := Registry.freshWithin mappableLevels ["Point"] "Result" (.text "Map") (.keeping [])
    let reached := runCalls [points, mark, broken] fresh
    points.perform reached = (.ok "Point_2[]", reached) ∧
      reached.interfaces.map (·.name) = ["Point_2", "Point_3"] ∧
      reached.collector.notices.map (·.message) =
        ["Declaration \"Point\" already exists with a different shape; emitted as \"Point_2\".",
          "Declaration \"Point\" already exists with a different shape; emitted as \"Point_3\"."] := by
  intro points mark broken fresh reached
  have reachable : fresh.Reachable mappableLevels ["Point"] "Result" (.text "Map") := .fresh _
  have found : endsWell (fun text _ => text == "Point_2[]") (points.perform fresh) := by
    decide +kernel
  obtain ⟨text, after, run, isText⟩ := exists_of_endsWell found
  have answered : (points.perform fresh).1 = .ok "Point_2[]" := by
    rw [run, eq_of_beq isText]
  exact ⟨runCalls_again reachable answered [mark, broken], by decide +kernel, by decide +kernel⟩

end ContractClient
