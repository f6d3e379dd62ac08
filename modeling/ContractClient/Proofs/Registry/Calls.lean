/-
This file follows a registry through any sequence of calls. A call asks for the interface of a
struct or of a result, or for the type of a parameter; if it fails on the way, what it registered
before stays, and the next call goes on from there.

Whatever the calls are, the registry they leave is consistent, and the next call only adds to it
(`runCalls_consistent`): names and shapes never repeat, and the types of fields look back.
-/

import ContractClient.Proofs.Registry.Typing

namespace ContractClient

/-! ### Calls -/

/-- The registry without interfaces on which tuples can be mapped down to the given levels. -/
def Registry.freshWithin (levels : Nat) (reserved : List String) (resultSuffix : String)
    (contract : Json) (collector : Collector) : Registry :=
  { fresh reserved resultSuffix contract collector with levels := levels }

theorem Registry.freshWithin_sound (levels : Nat) (reserved : List String) (resultSuffix : String)
    (contract : Json) (collector : Collector) :
    (freshWithin levels reserved resultSuffix contract collector).Sound reserved :=
  ⟨.empty, fun _ _ => by simp [freshWithin, fresh, shaped?],
    fun name => by simp [freshWithin, fresh]⟩

/-- What a registry can be asked for. -/
inductive Call where
  | struct (declared : String) (components : List Parameter)
  | result (member : String) (outputs : List Parameter)
  | parameter (member : String) (parameter : Parameter)

/-- The step that gives the text of the type that a step gives. -/
def written (step : Registering Ty) : Registering String := do
  let ty ← step
  return ty.text

/-- The step that answers a call, with the text of a type. -/
def Call.perform : Call → Registering String
  | struct declared components => resolveStruct declared components
  | result member outputs => resolveResult member outputs
  | parameter member asked => written (resolveParameter member asked)

/-- The registry behind a sequence of calls, whether they succeed or not. -/
def runCalls : List Call → Registry → Registry
  | [], registry => registry
  | call :: rest, registry => runCalls rest (call.perform registry).2

/-- What a type is asked for: a parameter, the components of a struct, or the outputs of a
function. -/
inductive Subject where
  | parameter (parameter : Parameter)
  | struct (components : List Parameter)
  | result (outputs : List Parameter)

/-- The text writes the type that stands for the subject. -/
def Subject.HasText (interfaces : List Interface) : Subject → String → Prop
  | parameter asked, text => ∃ ty, asked.HasTy interfaces ty ∧ text = ty.text
  | struct components, text => ComponentsHaveName interfaces (some components) text
  | result outputs, text => OutputsHaveName interfaces outputs text

theorem Subject.HasText.mono {earlier later : List Interface} (grown : earlier ⊆ later)
    {subject : Subject} {text : String} (hasText : subject.HasText earlier text) :
    subject.HasText later text := by
  cases subject with
  | parameter asked =>
    obtain ⟨ty, hasTy, same⟩ := hasText
    exact ⟨ty, hasTy.mono grown, same⟩
  | struct components => exact ComponentsHaveName.mono grown hasText
  | result outputs =>
    obtain ⟨fields, haveTypes, shaped⟩ := hasText
    exact ⟨fields, haveTypes.mono grown, shaped.mono grown⟩

/-- What a call asks for. -/
def Call.subject : Call → Subject
  | struct _ components => .struct components
  | result _ outputs => .result outputs
  | parameter _ asked => .parameter asked

theorem written_yields {reserved : List String} {start : Registry} {step : Registering Ty}
    {right : List Interface → Ty → Prop} (yields : Yields reserved start step right) :
    Yields reserved start (written step) fun interfaces text =>
      ∃ ty, right interfaces ty ∧ text = ty.text :=
  yields.bind fun ty _ soundMiddle _ holds => .pure soundMiddle ⟨ty, holds, rfl⟩

theorem Call.perform_yields {reserved : List String} {start : Registry}
    (sound : start.Sound reserved) (call : Call) :
    Yields reserved start call.perform fun interfaces => call.subject.HasText interfaces := by
  cases call with
  | struct declared components => exact resolveStruct_yields sound declared components
  | result member outputs => exact resolveResult_yields sound member outputs
  | parameter member asked => exact written_yields (resolveParameter_yields sound member asked)

theorem runCalls_sound {reserved : List String} (calls : List Call) {start : Registry}
    (sound : start.Sound reserved) :
    (runCalls calls start).Sound reserved ∧
      start.interfaces <+: (runCalls calls start).interfaces := by
  induction calls generalizing start with
  | nil => exact ⟨sound, List.prefix_refl _⟩
  | cons call rest inductionHypothesis =>
    have yields := call.perform_yields sound
    obtain ⟨soundAfter, grows⟩ := inductionHypothesis yields.sound
    exact ⟨soundAfter, yields.grows.trans grows⟩

theorem runCalls_keeps {reserved : List String} (calls : List Call) {start : Registry}
    (sound : start.Sound reserved) : start.Keeps (runCalls calls start) := by
  induction calls generalizing start with
  | nil => exact .refl start
  | cons call rest inductionHypothesis =>
    have yields := call.perform_yields sound
    exact yields.keeps.trans (inductionHypothesis yields.sound)

/-- A registry is as sound whoever is told of its changes. -/
theorem Registry.Sound.telling {reserved : List String} {registry : Registry}
    (sound : registry.Sound reserved) (collector : Collector) :
    Registry.Sound reserved { registry with collector := collector } :=
  ⟨sound.wellFormed, sound.indexed, sound.taken⟩

/-- The registries of a pass: the one without interfaces, those that calls leave, and those whose
listener is told of something else in between. -/
inductive Registry.Reachable (levels : Nat) (reserved : List String) (resultSuffix : String)
    (contract : Json) : Registry → Prop
  | fresh (collector : Collector) :
      Reachable levels reserved resultSuffix contract
        (freshWithin levels reserved resultSuffix contract collector)
  | call {registry : Registry} (call : Call) :
      Reachable levels reserved resultSuffix contract registry →
        Reachable levels reserved resultSuffix contract (call.perform registry).2
  | telling {registry : Registry} (collector : Collector) :
      Reachable levels reserved resultSuffix contract registry →
        Reachable levels reserved resultSuffix contract { registry with collector := collector }

theorem Registry.Reachable.sound {levels : Nat} {reserved : List String} {resultSuffix : String}
    {contract : Json} {registry : Registry}
    (reachable : Reachable levels reserved resultSuffix contract registry) :
    registry.Sound reserved := by
  induction reachable with
  | fresh collector => exact freshWithin_sound _ _ _ _ _
  | call call _ inductionHypothesis => exact (call.perform_yields inductionHypothesis).sound
  | telling collector _ inductionHypothesis => exact inductionHypothesis.telling collector

theorem runCalls_append (first second : List Call) (start : Registry) :
    runCalls (first ++ second) start = runCalls second (runCalls first start) := by
  induction first generalizing start with
  | nil => rfl
  | cons call rest inductionHypothesis =>
    rw [List.cons_append, runCalls, runCalls, inductionHypothesis]

/-! ### Consistent registries -/

/-- What can be seen of a registry: names and shapes that do not repeat, an index that finds each
interface by its shape, fields with names of their own, and types of fields that are primitive or
look back. -/
structure Registry.Consistent (reserved : List String) (registry : Registry) : Prop where
  namesDistinct : (registry.interfaces.map (·.name)).Nodup
  notReserved : ∀ interface ∈ registry.interfaces, interface.name ∉ reserved
  signaturesDistinct : (registry.interfaces.map (·.signature)).Nodup
  indexed : ∀ signature interface, registry.shaped? signature = some interface ↔
    interface ∈ registry.interfaces ∧ interface.signature = signature
  hasFields : ∀ interface ∈ registry.interfaces, interface.fields ≠ []
  fieldsNamed : ∀ interface ∈ registry.interfaces, ∀ field ∈ interface.fields, field.name ≠ ""
  fieldsDistinct : ∀ interface ∈ registry.interfaces, (interface.fields.map (·.name)).Nodup
  looksBack : ∀ earlier interface later,
    registry.interfaces = earlier ++ interface :: later → ∀ field ∈ interface.fields,
      ∃ name dimensions, field.ty.text = name ++ String.ofList (bracketChars dimensions) ∧
        (name ∈ primitiveNames ∨ ∃ other ∈ earlier, other.name = name)

theorem Known.text {interfaces : List Interface} {ty : Ty} (known : Known interfaces ty) :
    ∃ name dimensions, ty.text = name ++ String.ofList (bracketChars dimensions) ∧
      (name ∈ primitiveNames ∨ ∃ interface ∈ interfaces, interface.name = name) := by
  obtain ⟨name, dimensions, rfl, refers⟩ := known
  exact ⟨name, dimensions, by rw [Ty.text_arrays, Ty.text_ofText], refers⟩

theorem Registry.Sound.consistent {reserved : List String} {registry : Registry}
    (sound : registry.Sound reserved) : registry.Consistent reserved := by
  have fits : ∀ interface ∈ registry.interfaces, ∃ earlier, Fits reserved earlier interface := by
    intro interface member
    obtain ⟨earlier, later, split⟩ := List.append_of_mem member
    exact ⟨earlier, sound.wellFormed.fits split⟩
  constructor
  case namesDistinct => exact sound.wellFormed.namesDistinct
  case signaturesDistinct => exact sound.wellFormed.signaturesDistinct
  case indexed => exact sound.indexed
  case notReserved =>
    intro interface member
    obtain ⟨_, fits⟩ := fits interface member
    exact fits.notReserved
  case hasFields =>
    intro interface member
    obtain ⟨_, fits⟩ := fits interface member
    exact fits.hasFields
  case fieldsNamed =>
    intro interface member
    obtain ⟨_, fits⟩ := fits interface member
    exact fits.fieldsNamed
  case fieldsDistinct =>
    intro interface member
    obtain ⟨_, fits⟩ := fits interface member
    exact fits.fieldsDistinct
  case looksBack =>
    intro earlier interface later split field member
    exact ((sound.wellFormed.fits split).fieldsKnown field member).text

/-- From a registry without interfaces on, with any names reserved and any number of levels to
map, every sequence of calls leads to a consistent registry, and one more call only puts
interfaces behind those that are there. -/
theorem runCalls_consistent (levels : Nat) (reserved : List String) (resultSuffix : String)
    (contract : Json) (collector : Collector) (calls : List Call) (call : Call) :
    let start := Registry.freshWithin levels reserved resultSuffix contract collector
    let reached := runCalls calls start
    reached.Consistent reserved ∧
      reached.interfaces <+: (call.perform reached).2.interfaces := by
  intro start reached
  have soundStart : start.Sound reserved :=
    Registry.freshWithin_sound levels reserved resultSuffix contract collector
  obtain ⟨sound, _⟩ := runCalls_sound calls soundStart
  exact ⟨sound.consistent, (call.perform_yields sound).grows⟩

end ContractClient
