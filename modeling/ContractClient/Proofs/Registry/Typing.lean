/-
This file says which type stands for a parameter, given the interfaces of a registry, without any
step of the registry: a primitive type, or the name of an interface of the shape that the
components have. What stands for a parameter stands for it in every longer list of interfaces.

Mapping a parameter gives a type that stands for it in the registry it leaves, and lets the
registry grow soundly, whether it succeeds or not (`mapParameter_yields`); the same holds of
structs and results.
-/

import ContractClient.Proofs.Registry.Growth

namespace ContractClient

/-! ### Types that stand for parameters -/

/-- There is an interface of the name whose shape the fields have. -/
def Shaped (interfaces : List Interface) (fields : List Field) (name : String) : Prop :=
  ∃ interface ∈ interfaces, interface.name = name ∧ interface.signature = fieldSignature fields

mutual

/-- The type stands for the parameter. -/
def Parameter.HasTy (interfaces : List Interface) : Parameter → Ty → Prop
  | ⟨_, text, _, components⟩, ty =>
    ∃ tag, TypeTag.parse text = .ok tag ∧
      match tag.base.primitive? with
      | some primitive => ty = primitive.arrays tag.dimensions.length
      | none => ∃ name, ComponentsHaveName interfaces components name ∧
          ty = (Ty.ofText name).arrays tag.dimensions.length
termination_by structural parameter => parameter

/-- The name is that of an interface for the components of a tuple. -/
def ComponentsHaveName (interfaces : List Interface) : Option (List Parameter) → String → Prop
  | none, _ => False
  | some components, name =>
    ∃ fields, FieldsHaveTypes interfaces components (components.map (·.name)) fields ∧
      Shaped interfaces fields name
termination_by structural components => components

/-- The fields bear the names, and their types stand for the parameters. -/
def FieldsHaveTypes (interfaces : List Interface) :
    List Parameter → List String → List Field → Prop
  | parameter :: parameters, name :: names, fields =>
    ∃ ty rest, fields = ⟨name, ty, false⟩ :: rest ∧ parameter.HasTy interfaces ty ∧
      FieldsHaveTypes interfaces parameters names rest
  | _, _, fields => fields = []
termination_by structural parameters => parameters

end

theorem Shaped.mono {earlier later : List Interface} (grown : earlier ⊆ later)
    {fields : List Field} {name : String} (shaped : Shaped earlier fields name) :
    Shaped later fields name := by
  obtain ⟨interface, member, named, shape⟩ := shaped
  exact ⟨interface, grown member, named, shape⟩

mutual

theorem Parameter.HasTy.mono {earlier later : List Interface} (grown : earlier ⊆ later) :
    ∀ {parameter : Parameter} {ty : Ty}, parameter.HasTy earlier ty → parameter.HasTy later ty
  | ⟨name, text, internalType, components⟩, ty, hasTy => by
    rw [Parameter.HasTy] at hasTy ⊢
    obtain ⟨tag, parsed, rest⟩ := hasTy
    refine ⟨tag, parsed, ?_⟩
    cases primitive : tag.base.primitive? with
    | some _ => simpa only [primitive] using rest
    | none =>
      simp only [primitive] at rest ⊢
      obtain ⟨name, hasName, same⟩ := rest
      exact ⟨name, ComponentsHaveName.mono grown hasName, same⟩

theorem ComponentsHaveName.mono {earlier later : List Interface} (grown : earlier ⊆ later) :
    ∀ {components : Option (List Parameter)} {name : String},
      ComponentsHaveName earlier components name → ComponentsHaveName later components name
  | none, name, hasName => by
    rw [ComponentsHaveName] at hasName
    exact hasName.elim
  | some components, name, hasName => by
    rw [ComponentsHaveName] at hasName ⊢
    obtain ⟨fields, haveTypes, shaped⟩ := hasName
    exact ⟨fields, FieldsHaveTypes.mono grown haveTypes, shaped.mono grown⟩

theorem FieldsHaveTypes.mono {earlier later : List Interface} (grown : earlier ⊆ later) :
    ∀ {parameters : List Parameter} {names : List String} {fields : List Field},
      FieldsHaveTypes earlier parameters names fields →
        FieldsHaveTypes later parameters names fields
  | [], _, _, haveTypes => by
    simpa only [FieldsHaveTypes] using haveTypes
  | _ :: _, [], _, haveTypes => by
    simpa only [FieldsHaveTypes] using haveTypes
  | parameter :: parameters, name :: names, fields, haveTypes => by
    rw [FieldsHaveTypes] at haveTypes ⊢
    obtain ⟨ty, rest, same, hasTy, others⟩ := haveTypes
    exact ⟨ty, rest, same, Parameter.HasTy.mono grown hasTy, FieldsHaveTypes.mono grown others⟩

end

/-! ### One type for each parameter -/

section

variable {reserved : List String} {interfaces : List Interface}

theorem Shaped.unique (wellFormed : WellFormed reserved interfaces) {fields : List Field}
    {first second : String} (isFirst : Shaped interfaces fields first)
    (isSecond : Shaped interfaces fields second) : first = second := by
  obtain ⟨interface, member, rfl, shape⟩ := isFirst
  obtain ⟨other, otherMember, rfl, otherShape⟩ := isSecond
  rw [wellFormed.eq_of_signature member otherMember (shape.trans otherShape.symm)]

mutual

/-- No more than one type stands for a parameter. -/
theorem Parameter.HasTy.unique (wellFormed : WellFormed reserved interfaces) :
    ∀ {parameter : Parameter} {first second : Ty}, parameter.HasTy interfaces first →
      parameter.HasTy interfaces second → first = second
  | ⟨name, text, internalType, components⟩, first, second, isFirst, isSecond => by
    rw [Parameter.HasTy] at isFirst isSecond
    obtain ⟨tag, parsed, isFirst⟩ := isFirst
    obtain ⟨other, otherParsed, isSecond⟩ := isSecond
    obtain rfl : tag = other := Except.ok.inj (parsed.symm.trans otherParsed)
    cases primitive : tag.base.primitive? with
    | some ty =>
      simp only [primitive] at isFirst isSecond
      rw [isFirst, isSecond]
    | none =>
      simp only [primitive] at isFirst isSecond
      obtain ⟨firstName, firstHas, rfl⟩ := isFirst
      obtain ⟨secondName, secondHas, rfl⟩ := isSecond
      rw [firstHas.unique wellFormed secondHas]

theorem ComponentsHaveName.unique (wellFormed : WellFormed reserved interfaces) :
    ∀ {components : Option (List Parameter)} {first second : String},
      ComponentsHaveName interfaces components first →
        ComponentsHaveName interfaces components second → first = second
  | none, _, _, isFirst, _ => by
    rw [ComponentsHaveName] at isFirst
    exact isFirst.elim
  | some components, _, _, isFirst, isSecond => by
    rw [ComponentsHaveName] at isFirst isSecond
    obtain ⟨fields, haveTypes, shaped⟩ := isFirst
    obtain ⟨others, otherTypes, otherShaped⟩ := isSecond
    obtain rfl := haveTypes.unique wellFormed otherTypes
    exact shaped.unique wellFormed otherShaped

theorem FieldsHaveTypes.unique (wellFormed : WellFormed reserved interfaces) :
    ∀ {parameters : List Parameter} {names : List String} {first second : List Field},
      FieldsHaveTypes interfaces parameters names first →
        FieldsHaveTypes interfaces parameters names second → first = second
  | [], _, _, _, isFirst, isSecond => by
    rw [FieldsHaveTypes] at isFirst isSecond
    · rw [isFirst, isSecond]
    all_goals simp
  | _ :: _, [], _, _, isFirst, isSecond => by
    rw [FieldsHaveTypes] at isFirst isSecond
    · rw [isFirst, isSecond]
    all_goals simp
  | parameter :: parameters, name :: names, _, _, isFirst, isSecond => by
    rw [FieldsHaveTypes] at isFirst isSecond
    obtain ⟨firstTy, firstRest, rfl, firstHas, firstOthers⟩ := isFirst
    obtain ⟨secondTy, secondRest, rfl, secondHas, secondOthers⟩ := isSecond
    rw [firstHas.unique wellFormed secondHas, firstOthers.unique wellFormed secondOthers]

end

end

/-! ### Fields -/

/-- Where there is a name for each parameter, the fields bear those names. -/
theorem FieldsHaveTypes.names_eq {interfaces : List Interface} {parameters : List Parameter}
    {names : List String} {fields : List Field} (same : names.length = parameters.length)
    (haveTypes : FieldsHaveTypes interfaces parameters names fields) :
    fields.map (·.name) = names := by
  induction parameters generalizing names fields with
  | nil =>
    rw [List.eq_nil_of_length_eq_zero same]
    rw [FieldsHaveTypes] at haveTypes
    · exact haveTypes ▸ rfl
    · simp
  | cons parameter parameters inductionHypothesis =>
    cases names with
    | nil => simp at same
    | cons name names =>
      rw [FieldsHaveTypes] at haveTypes
      obtain ⟨ty, rest, rfl, _, others⟩ := haveTypes
      rw [List.map_cons, inductionHypothesis (Nat.succ.inj same) others]

theorem FieldsHaveTypes.ne_nil {interfaces : List Interface} {parameters : List Parameter}
    {names : List String} {fields : List Field} (same : names.length = parameters.length)
    (haveTypes : FieldsHaveTypes interfaces parameters names fields) (some : parameters ≠ []) :
    fields ≠ [] := by
  intro none
  have names := haveTypes.names_eq same
  rw [none, List.map_nil] at names
  rw [← names, List.length_nil] at same
  exact some (List.eq_nil_of_length_eq_zero same.symm)

theorem Parameter.HasTy.known {interfaces : List Interface} {parameter : Parameter} {ty : Ty}
    (hasTy : parameter.HasTy interfaces ty) : Known interfaces ty := by
  obtain ⟨name, text, internalType, components⟩ := parameter
  rw [Parameter.HasTy] at hasTy
  obtain ⟨tag, parsed, rest⟩ := hasTy
  cases primitive : tag.base.primitive? with
  | some _ =>
    simp only [primitive] at rest
    exact rest ▸ (known_primitive interfaces primitive).arrays _
  | none =>
    simp only [primitive] at rest
    obtain ⟨name, hasName, rfl⟩ := rest
    cases components with
    | none =>
      rw [ComponentsHaveName] at hasName
      exact hasName.elim
    | some components =>
      rw [ComponentsHaveName] at hasName
      obtain ⟨_, _, interface, member, rfl, _⟩ := hasName
      exact (known_name member).arrays _

theorem FieldsHaveTypes.known {interfaces : List Interface} {parameters : List Parameter}
    {names : List String} {fields : List Field}
    (haveTypes : FieldsHaveTypes interfaces parameters names fields) :
    ∀ field ∈ fields, Known interfaces field.ty := by
  induction parameters generalizing names fields with
  | nil =>
    rw [FieldsHaveTypes] at haveTypes
    · simp [haveTypes]
    · simp
  | cons parameter parameters inductionHypothesis =>
    cases names with
    | nil =>
      rw [FieldsHaveTypes] at haveTypes
      · simp [haveTypes]
      · simp
    | cons name names =>
      rw [FieldsHaveTypes] at haveTypes
      obtain ⟨ty, rest, rfl, hasTy, others⟩ := haveTypes
      intro field member
      rcases List.mem_cons.mp member with rfl | member
      · exact hasTy.known
      · exact inductionHypothesis others field member

/-! ### Registering -/

section

variable {reserved : List String} {start : Registry}

theorem requireTag_eq_ok_iff {text : String} {tag : TypeTag} :
    requireTag text = .ok tag ↔ TypeTag.parse text = .ok tag := by
  unfold requireTag
  cases TypeTag.parse text with
  | ok other => exact ⟨fun same => Except.ok.inj same ▸ rfl, fun same => Except.ok.inj same ▸ rfl⟩
  | error fault => cases fault <;> exact ⟨nofun, nofun⟩

/-- What registering an interface does: it fails, or finds its shape, or adds it. -/
theorem Registry.register_run (requested : String) (fields : List Field) (origin : Origin)
    (registry : Registry) :
    register requested fields origin registry =
      if (fields.map (·.name)).Nodup then
        match registry.shaped? (fieldSignature fields) with
        | some existing => (.ok existing.name, registry)
        | none => (.ok (registry.insert requested fields origin).1,
            (registry.insert requested fields origin).2)
      else (.error (.shape (.duplicateFields requested)), registry) := by
  unfold register
  by_cases distinct : (fields.map (·.name)).Nodup
  · simp only [distinct, not_true, if_false, if_true]
    show (match registry.shaped? (fieldSignature fields) with
      | some existing => pure existing.name
      | none => do
        set (registry.insert requested fields origin).2
        pure (registry.insert requested fields origin).1 : Registering String) registry = _
    cases registry.shaped? (fieldSignature fields) <;> rfl
  · simp only [distinct, not_false_eq_true, if_true, if_false]
    rfl

/-- Registering fields that are fit to be registered gives the name of an interface of their
shape. -/
theorem Registry.register_yields (sound : start.Sound reserved) (requested : String)
    {fields : List Field} (origin : Origin) (hasFields : fields ≠ [])
    (named : ∀ field ∈ fields, field.name ≠ "")
    (known : ∀ field ∈ fields, Known start.interfaces field.ty) :
    Yields reserved start (register requested fields origin)
      fun interfaces name => Shaped interfaces fields name := by
  have run := register_run requested fields origin start
  by_cases distinct : (fields.map (·.name)).Nodup
  · rw [if_pos distinct] at run
    cases found : start.shaped? (fieldSignature fields) with
    | some existing =>
      obtain ⟨member, shaped⟩ := (sound.indexed _ _).mp found
      rw [found] at run
      exact .of_run run sound (.refl start) (List.prefix_refl _)
        fun name same => ⟨existing, member, Except.ok.inj same, shaped⟩
    | none =>
      rw [found] at run
      refine .of_run run (insert_sound sound requested origin found hasFields named distinct known)
        ⟨rfl, rfl, rfl⟩ (List.prefix_append _ _) fun name same => ?_
      exact ⟨_, List.mem_append_right _ (List.mem_singleton_self _), Except.ok.inj same, rfl⟩
  · rw [if_neg distinct] at run
    exact .of_error run sound (.refl start) (List.prefix_refl _)

theorem named_of_requireNames {declared : String} {fields : List Field}
    (passes : requireNames declared fields = .ok ()) : ∀ field ∈ fields, field.name ≠ "" := by
  unfold requireNames at passes
  split at passes
  · cases passes
  · rename_i none
    simpa using List.findIdx?_eq_none_iff.mp none

theorem registerStruct_yields (sound : start.Sound reserved) (declared : String)
    {fields : List Field} (hasFields : fields ≠ [])
    (known : ∀ field ∈ fields, Known start.interfaces field.ty) :
    Yields reserved start (registerStruct declared fields)
      fun interfaces name => Shaped interfaces fields name := by
  refine (Yields.lift sound _).bind fun _ middle soundMiddle grows passes => ?_
  refine (Yields.lift soundMiddle _).bind fun name _ soundLater growsLater _ => ?_
  refine Registry.register_yields soundLater name .struct hasFields
    (named_of_requireNames passes) fun field member => ?_
  exact (known field member).mono (grows.trans growsLater).subset

end

/-- A struct is registered under the name of an interface for its components. -/
theorem registerFields_yields {reserved : List String} {start : Registry}
    (sound : start.Sound reserved) (declared : String) {components : List Parameter}
    {fields : List Field} (some : ¬components.isEmpty)
    (haveTypes :
      FieldsHaveTypes start.interfaces components (components.map (·.name)) fields) :
    Yields reserved start (registerStruct declared fields)
      fun interfaces => ComponentsHaveName interfaces (.some components) := by
  have hasFields : fields ≠ [] := by
    refine haveTypes.ne_nil (List.length_map _) fun none => some ?_
    rw [none, List.isEmpty_nil]
  refine (registerStruct_yields sound declared hasFields haveTypes.known).conclude
    fun after name grows shaped => ?_
  rw [ComponentsHaveName]
  exact ⟨fields, haveTypes.mono grows.subset, shaped⟩

mutual

/-- Mapping a parameter gives a type that stands for it. -/
theorem mapParameter_yields {reserved : List String} (levels : Nat) (member : String) :
    ∀ (parameter : Parameter) {start : Registry}, start.Sound reserved →
      Yields reserved start (mapParameter levels member parameter)
        fun interfaces => parameter.HasTy interfaces
  | ⟨name, text, internalType, components⟩, start, sound => by
    rw [mapParameter]
    refine Yields.locating member name ?_
    refine (Yields.lift sound _).bind fun tag middle soundMiddle _ required => ?_
    have parsed := requireTag_eq_ok_iff.mp required
    cases primitive : tag.base.primitive? with
    | some ty =>
      refine .pure soundMiddle ?_
      rw [Parameter.HasTy]
      exact ⟨tag, parsed, by rw [primitive]⟩
    | none =>
      refine (mapTuple_yields levels name internalType components soundMiddle).bind
        fun struct after soundAfter _ hasName => .pure soundAfter ?_
      rw [Parameter.HasTy]
      exact ⟨tag, parsed, by rw [primitive]; exact ⟨struct, hasName, rfl⟩⟩

theorem mapTuple_yields {reserved : List String} (levels : Nat) (name internalType : String) :
    ∀ (components : Option (List Parameter)) {start : Registry}, start.Sound reserved →
      Yields reserved start (mapTuple levels name internalType components)
        fun interfaces => ComponentsHaveName interfaces components
  | none, _, sound => by
    rw [mapTuple]
    exact .throw sound _
  | some components, _, sound => by
    rw [mapTuple]
    refine Yields.unless sound fun notEmpty => ?_
    refine (Yields.lift sound _).bind fun declared _ soundDeclared _ _ => ?_
    refine (Yields.lift soundDeclared _).bind fun below _ soundBelow _ _ => ?_
    refine (mapFields_yields below components soundBelow).bind
      fun fields mapped soundMapped _ haveTypes => ?_
    exact registerFields_yields soundMapped declared notEmpty haveTypes

theorem mapFields_yields {reserved : List String} (levels : Nat) :
    ∀ (components : List Parameter) {start : Registry}, start.Sound reserved →
      Yields reserved start (mapFields levels components)
        fun interfaces => FieldsHaveTypes interfaces components (components.map (·.name))
  | [], _, sound => by
    rw [mapFields]
    refine .pure sound ?_
    simp [FieldsHaveTypes]
  | component :: rest, _, sound => by
    rw [mapFields]
    refine (mapParameter_yields levels "" component sound).bind
      fun ty middle soundMiddle _ hasTy => ?_
    refine (mapFields_yields levels rest soundMiddle).bind
      fun fields after soundAfter grows haveTypes => .pure soundAfter ?_
    rw [List.map_cons, FieldsHaveTypes]
    exact ⟨ty, fields, rfl, hasTy.mono grows.subset, haveTypes⟩

end

/-! ### Structs and results -/

/-- The name is that of an interface for the outputs of a function. -/
def OutputsHaveName (interfaces : List Interface) (outputs : List Parameter) (name : String) :
    Prop :=
  ∃ fields, FieldsHaveTypes interfaces outputs (outputFieldNames outputs) fields ∧
    Shaped interfaces fields name

theorem length_fieldNamesFrom (taken : List String) (place : Nat) (outputs : List Parameter) :
    (fieldNamesFrom taken place outputs).length = outputs.length := by
  induction outputs generalizing taken place with
  | nil => rfl
  | cons output rest inductionHypothesis =>
    rw [fieldNamesFrom]
    split <;> simp only [List.length_cons, inductionHypothesis]

theorem ne_empty_of_mem_fieldNamesFrom {taken : List String} {place : Nat}
    {outputs : List Parameter} :
    ∀ name ∈ fieldNamesFrom taken place outputs, name ≠ "" := by
  induction outputs generalizing taken place with
  | nil => simp [fieldNamesFrom]
  | cons output rest inductionHypothesis =>
    rw [fieldNamesFrom]
    split
    · intro name member
      rcases List.mem_cons.mp member with rfl | member
      · simp [placeholder]
      · exact inductionHypothesis name member
    · rename_i given
      intro name member
      rcases List.mem_cons.mp member with rfl | member
      · simpa using given
      · exact inductionHypothesis name member

section

variable {reserved : List String} {start : Registry}

theorem resolveParameter_yields (sound : start.Sound reserved) (member : String)
    (parameter : Parameter) :
    Yields reserved start (resolveParameter member parameter)
      fun interfaces => parameter.HasTy interfaces :=
  Yields.look (mapParameter_yields start.levels member parameter sound)

theorem resolveStruct_yields (sound : start.Sound reserved) (declared : String)
    (components : List Parameter) :
    Yields reserved start (resolveStruct declared components)
      fun interfaces => ComponentsHaveName interfaces (some components) := by
  unfold resolveStruct
  refine Yields.unless sound fun notEmpty => Yields.look ?_
  refine (mapFields_yields start.levels components sound).bind
    fun fields mapped soundMapped _ haveTypes => ?_
  exact registerFields_yields soundMapped declared notEmpty haveTypes

theorem mapOutputs_yields (member : String) (outputs : List Parameter) :
    ∀ (names : List String) {start : Registry}, start.Sound reserved →
      Yields reserved start (mapOutputs member names outputs)
        fun interfaces => FieldsHaveTypes interfaces outputs names := by
  induction outputs with
  | nil =>
    intro names _ sound
    rw [mapOutputs]
    · refine .pure sound ?_
      simp [FieldsHaveTypes]
    · simp
  | cons output outputs inductionHypothesis =>
    intro names _ sound
    cases names with
    | nil =>
      rw [mapOutputs]
      · refine .pure sound ?_
        simp [FieldsHaveTypes]
      · simp
    | cons name names =>
      rw [mapOutputs]
      refine (resolveParameter_yields sound member output).bind
        fun ty middle soundMiddle _ hasTy => ?_
      refine (inductionHypothesis names soundMiddle).bind
        fun fields after soundAfter grows haveTypes => .pure soundAfter ?_
      rw [FieldsHaveTypes]
      exact ⟨ty, fields, rfl, hasTy.mono grows.subset, haveTypes⟩

/-- Two fields or more that outputs have are registered under the name of their shape. -/
theorem registerOutputs_yields (sound : start.Sound reserved) (asked : String)
    {outputs : List Parameter} {fields : List Field} (several : ¬outputs.length < 2)
    (haveTypes : FieldsHaveTypes start.interfaces outputs (outputFieldNames outputs) fields) :
    Yields reserved start (Registry.register asked fields .result)
      fun interfaces name => Shaped interfaces fields name := by
  have sameLength : (outputFieldNames outputs).length = outputs.length :=
    length_fieldNamesFrom _ _ _
  have hasFields : fields ≠ [] := by
    refine haveTypes.ne_nil sameLength fun none => several ?_
    rw [none]
    exact Nat.zero_lt_succ 1
  have named : ∀ field ∈ fields, field.name ≠ "" := fun field isField =>
    ne_empty_of_mem_fieldNamesFrom field.name
      (haveTypes.names_eq sameLength ▸ List.mem_map_of_mem isField :
        field.name ∈ outputFieldNames outputs)
  exact Registry.register_yields sound asked .result hasFields named haveTypes.known

theorem resolveResult_yields (sound : start.Sound reserved) (member : String)
    (outputs : List Parameter) :
    Yields reserved start (resolveResult member outputs)
      fun interfaces => OutputsHaveName interfaces outputs := by
  unfold resolveResult
  refine Yields.unless sound fun _ => Yields.unless sound fun several => ?_
  refine (mapOutputs_yields member outputs _ sound).bind
      fun fields mapped soundMapped _ haveTypes => Yields.look ?_
  refine (Yields.lift soundMapped _).bind fun asked after soundAfter grows _ => ?_
  have known := haveTypes.mono grows.subset
  refine (registerOutputs_yields soundAfter asked several known).conclude
    fun interfaces name later shaped => ?_
  exact ⟨fields, known.mono later.subset, shaped⟩

end

end ContractClient
