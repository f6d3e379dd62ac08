/-
This file says on which tag the failure of parameters is blamed. The tags are met in one order, a
tuple before its components. If parameters cannot be mapped, or do not pass their check, for a type
that is not supported, it is the first such tag that is met.

What is reported with it differs. Where parameters are mapped, every tuple on the way out fills in
its name as long as none is known, which gives the innermost name around the tag
(`requireAllTypable_blames`). Where they are only checked, it is the name of what has the tag,
even if that is empty (`checkParameters_blames`).
-/

import ContractClient.Proofs.Registry.Outcomes

namespace ContractClient

/-! ### The spots of tags -/

/-- Whether the text is the tag of no type that is supported. -/
@[irreducible] def isUnsupportedTag (text : String) : Bool :=
  match TypeTag.parse text with
  | .error .unsupported => true
  | _ => false

/-- A tag as it stands among parameters: the name of the parameter or component that has it, and the
names of the tuples around that, from the inside out. -/
structure Spot where
  name : String
  around : List String
  tag : String
deriving Repr, DecidableEq

namespace Spot

/-- The spot inside one more tuple. -/
def within (tuple : String) (spot : Spot) : Spot :=
  { spot with around := spot.around ++ [tuple] }

/-- The first name from the tag outwards, or nothing where there is none. -/
def nearestName (spot : Spot) : String :=
  ((spot.name :: spot.around).find? (· != "")).getD ""

/-- Whether the tag is that of no type that is supported. -/
def isUnsupported (spot : Spot) : Bool :=
  isUnsupportedTag spot.tag

/-- The report of an unsupported tag by the first name from it outwards. -/
def mappedFault (member : String) (spot : Spot) : Fault :=
  .unsupportedType spot.tag member spot.nearestName

/-- The report of an unsupported tag by the parameter or component that has it. -/
def checkedFault (member : String) (spot : Spot) : Fault :=
  .unsupportedType spot.tag member spot.name

end Spot

mutual

/-- The spots of a parameter: its own, and those of its components if it is a tuple. -/
def Parameter.spots : Parameter → List Spot
  | ⟨name, text, _, components⟩ =>
    ⟨name, [], text⟩ ::
      match requireTag text with
      | .ok tag =>
        if tag.base = .tuple then (componentSpots components).map (Spot.within name) else []
      | .error _ => []
termination_by structural parameter => parameter

/-- The spots of the components, if there are any. -/
def componentSpots : Option (List Parameter) → List Spot
  | none => []
  | some components => spotsAmong components
termination_by structural components => components

/-- The spots of parameters in their order. -/
def spotsAmong : List Parameter → List Spot
  | [] => []
  | parameter :: rest => parameter.spots ++ spotsAmong rest
termination_by structural parameters => parameters

end

/-! ### Names around a tag -/

theorem Spot.nearestName_within (tuple : String) (spot : Spot) :
    (spot.within tuple).nearestName = orElseText spot.nearestName tuple := by
  show (((spot.name :: spot.around) ++ [tuple]).find? (· != "")).getD "" = _
  rw [nearestName, List.find?_append]
  cases found : (spot.name :: spot.around).find? (· != "") with
  | none =>
    by_cases empty : tuple = ""
    · simp [empty, orElseText]
    · simp [empty, orElseText]
  | some name =>
    have filled : name ≠ "" := by simpa using List.find?_some found
    simp [filled, orElseText]

/-- The first name from the tag outwards is that of the parameter that has it, unless the parameter
has none while something around it does. -/
theorem Spot.name_eq_nearestName_iff (spot : Spot) :
    spot.name = spot.nearestName ↔
      (spot.name = "" → ∀ name ∈ spot.around, name = "") := by
  rw [nearestName, List.find?_cons]
  by_cases empty : spot.name = ""
  · simp only [empty, bne_self_eq_false, forall_const]
    cases found : spot.around.find? (· != "") with
    | none => simpa using found
    | some name =>
      have filled : name ≠ "" := by simpa using List.find?_some found
      exact iff_of_false (Ne.symm filled) fun allEmpty =>
        filled (allEmpty name (List.mem_of_find?_eq_some found))
  · simp only [bne_iff_ne.mpr empty, Option.getD_some, empty, false_implies]

/-! ### First reports -/

/-- The report of the first spot whose tag is not supported. -/
def reported? (report : Spot → Fault) (spots : List Spot) : Option Fault :=
  (spots.find? Spot.isUnsupported).map report

section

variable {report : Spot → Fault}

theorem reported?_append (first second : List Spot) :
    reported? report (first ++ second) = (reported? report first).or (reported? report second) := by
  rw [reported?, List.find?_append, Option.map_or, reported?, reported?]

theorem reported?_within (tuple : String) (spots : List Spot) :
    reported? report (spots.map (Spot.within tuple)) =
      (spots.find? Spot.isUnsupported).map (report ∘ Spot.within tuple) := by
  have same : Spot.isUnsupported ∘ Spot.within tuple = Spot.isUnsupported := rfl
  rw [reported?, List.find?_map, Option.map_map, same]

/-- Around mapped components, the member and the name of the tuple fill in what is not known. -/
theorem reported?_mapped_within (member tuple : String) (spots : List Spot) :
    reported? (Spot.mappedFault member) (spots.map (Spot.within tuple)) =
      (reported? (Spot.mappedFault "") spots).map (Fault.locate member tuple) := by
  have located : Spot.mappedFault member ∘ Spot.within tuple =
      Fault.locate member tuple ∘ Spot.mappedFault "" := by
    funext spot
    simp only [Function.comp_apply, Spot.mappedFault, Spot.nearestName_within, Fault.locate]
    rfl
  rw [reported?_within, reported?, Option.map_map, located]

/-- Around components that are only checked, nothing is filled in. -/
theorem reported?_checked_within (member tuple : String) (spots : List Spot) :
    reported? (Spot.checkedFault member) (spots.map (Spot.within tuple)) =
      reported? (Spot.checkedFault member) spots :=
  reported?_within tuple spots

/-- The first report of a parameter is that of its own tag, or that of a component if its tag is
that of a tuple. -/
theorem reported?_spots (name text internalType : String) (components : Option (List Parameter)) :
    reported? report (Parameter.spots ⟨name, text, internalType, components⟩) =
      match TypeTag.parse text with
      | .error .unsupported => some (report ⟨name, [], text⟩)
      | .error .longNumber => none
      | .ok tag =>
        if tag.base = .tuple then
          reported? report ((componentSpots components).map (Spot.within name))
        else none := by
  rw [Parameter.spots, reported?, List.find?_cons, Spot.isUnsupported, isUnsupportedTag,
    requireTag]
  cases TypeTag.parse text with
  | error cause => cases cause <;> rfl
  | ok tag =>
    show Option.map report (List.find? _ (if tag.base = .tuple then _ else [])) =
      if tag.base = .tuple then _ else none
    split
    · rfl
    · rfl

end

/-! ### What is blamed -/

/-- The fault is that a type is not supported. -/
def Fault.IsUnsupportedType : Fault → Prop
  | .unsupportedType _ _ _ => True
  | _ => False

theorem Fault.isUnsupportedType_locate (member parameter : String) (fault : Fault) :
    (fault.locate member parameter).IsUnsupportedType ↔ fault.IsUnsupportedType := by
  cases fault <;> rfl

/-- The result fails for an unsupported type only by the given fault, and there is no such fault if
it does not fail. -/
structure Blames {α : Type} (first? : Option Fault) (result : Except Fault α) : Prop where
  passes : ∀ value, result = .ok value → first? = none
  fails : ∀ fault, result = .error fault → fault.IsUnsupportedType → first? = some fault

section

variable {α β : Type} {first? second? : Option Fault}

theorem Blames.ok (value : α) : Blames none (.ok value) :=
  ⟨fun _ _ => rfl, fun _ => nofun⟩

theorem Blames.first (fault : Fault) : Blames (some fault) (.error fault : Except Fault α) :=
  ⟨fun _ => nofun, fun _ same _ => congrArg some (Except.error.inj same)⟩

theorem Blames.other {fault : Fault} (isOther : ¬fault.IsUnsupportedType) :
    Blames first? (.error fault : Except Fault α) :=
  ⟨fun _ => nofun, fun _ same isType => (isOther (Except.error.inj same ▸ isType)).elim⟩

theorem Blames.of_failsByDefect {result : Except Fault α} (fails : FailsByDefect result) :
    Blames none result := by
  cases result with
  | ok value => exact .ok value
  | error fault =>
    obtain ⟨cause, rfl⟩ := fails fault rfl
    exact .other id

/-- What fails keeps what comes behind it from being blamed. -/
theorem Blames.stops {fault : Fault} (blames : Blames first? (.error fault : Except Fault α)) :
    Blames (first?.or second?) (.error fault : Except Fault β) := by
  refine ⟨fun _ => nofun, fun other same isType => ?_⟩
  cases same
  rw [blames.fails fault rfl isType, Option.some_or]

/-- Two results one after the other; the first one is blamed first. -/
theorem Blames.bind {result : Except Fault α} {next : α → Except Fault β}
    (first : Blames first? result) (second : ∀ value, Blames second? (next value)) :
    Blames (first?.or second?) (result >>= next) := by
  cases result with
  | ok value =>
    rw [first.passes value rfl, Option.none_or]
    exact second value
  | error fault => exact first.stops

/-- What is never blamed in front of something else. -/
theorem Blames.after {result : Except Fault α} {next : α → Except Fault β}
    (first : Blames none result) (second : ∀ value, Blames second? (next value)) :
    Blames second? (result >>= next) := by
  have blames := first.bind second
  rwa [Option.none_or] at blames

/-- What is never blamed behind something else. -/
theorem Blames.before {result : Except Fault α} {next : α → Except Fault β}
    (first : Blames first? result) (second : ∀ value, Blames none (next value)) :
    Blames first? (result >>= next) := by
  have blames := first.bind second
  rwa [Option.or_none] at blames

theorem Blames.locate {result : Except Fault α} (member parameter : String)
    (blames : Blames first? result) :
    Blames (first?.map (Fault.locate member parameter))
      (result.mapError (Fault.locate member parameter)) := by
  cases result with
  | ok value =>
    rw [blames.passes value rfl]
    exact .ok value
  | error fault =>
    refine ⟨fun _ => nofun, fun other same isType => ?_⟩
    cases same
    rw [Fault.isUnsupportedType_locate] at isType
    rw [blames.fails fault rfl isType, Option.map_some]

theorem Blames.of_outcome {result : Except Fault α} (blames : Blames first? (outcome result)) :
    Blames first? result :=
  ⟨fun value same => blames.passes () (outcome_eq_ok_iff.mpr ⟨value, same⟩),
    fun fault same => blames.fails fault (outcome_eq_error_iff.mpr same)⟩

theorem Blames.withinLevels {needed levels : Nat} {result : Except Fault α}
    (blames : Blames first? result) :
    Blames first? (ContractClient.withinLevels needed levels result) := by
  unfold ContractClient.withinLevels
  split
  · exact blames
  · exact .other id

end

/-! ### Parameters -/

theorem declaredName_quiet (internalType name : String) :
    Blames none (declaredName internalType name) := by
  unfold declaredName
  split
  · exact .ok _
  · dsimp only
    split
    · exact .other id
    · exact .ok _

theorem structName_quiet (declared : String) : Blames none (structName declared) := by
  unfold structName
  dsimp only
  split
  · exact .other id
  · exact .ok _

theorem requireFields_quiet (declared : String) (names : List String) :
    Blames none (requireFields declared names) := by
  unfold requireFields
  split
  · exact .other id
  · refine (structName_quiet declared).after fun name => ?_
    split
    · exact .ok _
    · exact .other id

mutual

/-- Mapping a parameter is blamed on the first tag in it that is not supported, with the innermost
name around that. -/
theorem Parameter.requireTypable_blames (member : String) :
    ∀ parameter : Parameter,
      Blames (reported? (Spot.mappedFault member) parameter.spots)
        (parameter.requireTypable member)
  | ⟨name, text, internalType, components⟩ => by
    rw [reported?_spots, Parameter.requireTypable, requireTag]
    cases TypeTag.parse text with
    | error cause =>
      cases cause with
      | unsupported =>
        have own : name = (⟨name, [], text⟩ : Spot).nearestName :=
          (Spot.name_eq_nearestName_iff ⟨name, [], text⟩).mpr fun _ => List.forall_mem_nil _
        rw [Spot.mappedFault, ← own]
        exact .first _
      | longNumber => exact .other id
    | ok tag =>
      show Blames (if tag.base = .tuple then _ else _) (Except.mapError _
        (if tag.base = .tuple then requireStruct name internalType components else .ok ()))
      split
      · rw [reported?_mapped_within]
        exact (requireStruct_blames name internalType components).locate member name
      · exact .ok _

theorem requireStruct_blames (name internalType : String) :
    ∀ components : Option (List Parameter),
      Blames (reported? (Spot.mappedFault "") (componentSpots components))
        (requireStruct name internalType components)
  | none => by
    rw [requireStruct]
    exact .other id
  | some components => by
    rw [requireStruct, componentSpots]
    split
    · exact .other id
    · refine (declaredName_quiet internalType name).after fun declared => ?_
      exact (requireAllTypable_blames "" components).before fun _ => requireFields_quiet _ _

theorem requireAllTypable_blames (member : String) :
    ∀ parameters : List Parameter,
      Blames (reported? (Spot.mappedFault member) (spotsAmong parameters))
        (requireAllTypable member parameters)
  | [] => by
    rw [requireAllTypable, spotsAmong]
    exact .ok _
  | parameter :: rest => by
    rw [requireAllTypable, spotsAmong, reported?_append]
    exact (parameter.requireTypable_blames member).bind fun _ =>
      requireAllTypable_blames member rest

end

mutual

/-- Checking a parameter is blamed on the first tag in it that is not supported, with the name of
what has the tag. -/
theorem checkParameter_blames (member : String) :
    ∀ parameter : Parameter,
      Blames (reported? (Spot.checkedFault member) parameter.spots)
        (checkParameter member parameter)
  | ⟨name, text, internalType, components⟩ => by
    rw [reported?_spots, checkParameter, requireTag]
    cases TypeTag.parse text with
    | error cause =>
      cases cause with
      | unsupported => exact .first _
      | longNumber => exact .other id
    | ok tag =>
      show Blames (if tag.base = .tuple then _ else _)
        (if tag.base = .tuple then checkComponents member name components else .ok ())
      split
      · rw [reported?_checked_within]
        exact checkComponents_blames member name components
      · exact .ok _

theorem checkComponents_blames (member name : String) :
    ∀ components : Option (List Parameter),
      Blames (reported? (Spot.checkedFault member) (componentSpots components))
        (checkComponents member name components)
  | none => by
    rw [checkComponents]
    exact .other id
  | some components => by
    rw [checkComponents, componentSpots]
    split
    · exact .other id
    · exact checkParameters_blames member components

theorem checkParameters_blames (member : String) :
    ∀ parameters : List Parameter,
      Blames (reported? (Spot.checkedFault member) (spotsAmong parameters))
        (checkParameters member parameters)
  | [] => by
    rw [checkParameters, spotsAmong]
    exact .ok _
  | parameter :: rest => by
    rw [checkParameters, spotsAmong, reported?_append]
    exact (checkParameter_blames member parameter).bind fun _ =>
      checkParameters_blames member rest

end

theorem requireParameters_blames (levels : Nat) (member : String) (parameters : List Parameter) :
    Blames (reported? (Spot.mappedFault member) (spotsAmong parameters))
      (requireParameters levels member parameters) :=
  (requireAllTypable_blames member parameters).withinLevels

theorem requireResult_blames (levels : Nat) (resultSuffix member : String)
    (outputs : List Parameter) :
    Blames (reported? (Spot.mappedFault member) (spotsAmong outputs))
      (requireResult levels resultSuffix member outputs) := by
  unfold requireResult resultName
  split
  · exact .other id
  · split
    · exact .other id
    · refine (requireParameters_blames levels member outputs).before fun _ => ?_
      show Blames none (if (outputFieldNames outputs).Nodup then .ok () else _)
      split
      · exact .ok _
      · exact .other id

end ContractClient
