/-
This file says with which faults the checks of parameters can end. Those that a generation
declares are a wrong shape and an unsupported type. Besides these, a number in a tag can have more
digits than a number may have; and where parameters are mapped, their tuples can be nested deeper
than they may be. Nothing else goes wrong.
-/

import ContractClient.Proofs.Registry.Outcomes

namespace ContractClient

/-! ### Declared faults -/

/-- The fault is one of those that a generation declares. -/
def Fault.IsDeclared : Fault → Prop
  | .shape _ => True
  | .unsupportedType _ _ _ => True
  | .compilation _ _ => False
  | .defect _ => False

instance : DecidablePred Fault.IsDeclared
  | .shape _ => isTrue trivial
  | .unsupportedType _ _ _ => isTrue trivial
  | .compilation _ _ => isFalse id
  | .defect _ => isFalse id

/-- Whatever goes wrong is declared, or one of the given defects. -/
def FailsOnly {α : Type} (defects : Defect → Prop) (result : Except Fault α) : Prop :=
  ∀ fault, result = .error fault → fault.IsDeclared ∨ ∃ cause, defects cause ∧ fault = .defect cause

section

variable {α β : Type} {defects : Defect → Prop}

theorem FailsOnly.ok (value : α) : FailsOnly defects (.ok value) :=
  fun _ => nofun

theorem FailsOnly.declared {fault : Fault} (isDeclared : fault.IsDeclared) :
    FailsOnly defects (.error fault : Except Fault α) :=
  fun _ same => .inl (Except.error.inj same ▸ isDeclared)

theorem FailsOnly.defect {cause : Defect} (among : defects cause) :
    FailsOnly defects (.error (.defect cause) : Except Fault α) :=
  fun _ same => .inr ⟨cause, among, (Except.error.inj same).symm⟩

theorem FailsOnly.bind {result : Except Fault α} {next : α → Except Fault β}
    (first : FailsOnly defects result)
    (second : ∀ value, result = .ok value → FailsOnly defects (next value)) :
    FailsOnly defects (result >>= next) := by
  cases result with
  | error fault => exact fun other same => first other (congrArg _ (Except.error.inj same))
  | ok value => exact second value rfl

theorem FailsOnly.mono {others : Defect → Prop} {result : Except Fault α}
    (fails : FailsOnly defects result) (implies : ∀ cause, defects cause → others cause) :
    FailsOnly others result := by
  intro fault same
  rcases fails fault same with isDeclared | ⟨cause, among, isDefect⟩
  · exact .inl isDeclared
  · exact .inr ⟨cause, implies cause among, isDefect⟩

theorem FailsOnly.locate {result : Except Fault α} (member parameter : String)
    (fails : FailsOnly defects result) :
    FailsOnly defects (result.mapError (Fault.locate member parameter)) := by
  cases result with
  | ok value => exact .ok value
  | error fault =>
    rcases fails fault rfl with isDeclared | ⟨cause, among, rfl⟩
    · refine .declared ?_
      cases fault with
      | shape cause => trivial
      | unsupportedType tag knownMember knownParameter => trivial
      | compilation message diagnostics => exact isDeclared.elim
      | defect cause => exact isDeclared.elim
    · exact .defect among

/-- Among the defects that can occur, exactly those that do are seen. -/
theorem FailsOnly.cause_of {result : Except Fault α} (fails : FailsOnly defects result)
    {cause : Defect} (same : result = .error (.defect cause)) : defects cause := by
  rcases fails _ same with isDeclared | ⟨other, among, isDefect⟩
  · exact isDeclared.elim
  · exact Fault.defect.inj isDefect ▸ among

end

/-! ### Names -/

theorem declaredName_failsOnly {defects : Defect → Prop} (internalType name : String) :
    FailsOnly defects (declaredName internalType name) := by
  unfold declaredName
  split
  · exact .ok _
  · dsimp only
    split
    · exact .declared trivial
    · exact .ok _

theorem structName_failsOnly {defects : Defect → Prop} (declared : String) :
    FailsOnly defects (structName declared) := by
  unfold structName
  dsimp only
  split
  · exact .declared trivial
  · exact .ok _

theorem requireFields_failsOnly {defects : Defect → Prop} (declared : String)
    (names : List String) : FailsOnly defects (requireFields declared names) := by
  unfold requireFields
  split
  · exact .declared trivial
  · refine (structName_failsOnly declared).bind fun name _ => ?_
    split
    · exact .ok _
    · exact .declared trivial

/-! ### Checks of parameters -/

theorem requireTag_failsOnly (text : String) : FailsOnly (· = .longNumber) (requireTag text) := by
  unfold requireTag
  split
  · exact .ok _
  · exact .declared trivial
  · exact .defect rfl

mutual

/-- Apart from faults that are declared, a parameter has a number that is too long. -/
theorem Parameter.requireTypable_failsOnly (member : String) :
    ∀ parameter : Parameter, FailsOnly (· = .longNumber) (parameter.requireTypable member)
  | ⟨name, text, internalType, components⟩ => by
    rw [Parameter.requireTypable]
    refine FailsOnly.locate member name ((requireTag_failsOnly text).bind fun tag _ => ?_)
    split
    · exact requireStruct_failsOnly name internalType components
    · exact .ok _

theorem requireStruct_failsOnly (name internalType : String) :
    ∀ components : Option (List Parameter),
      FailsOnly (· = .longNumber) (requireStruct name internalType components)
  | none => by
    rw [requireStruct]
    exact .declared trivial
  | some components => by
    rw [requireStruct]
    split
    · exact .declared trivial
    · refine (declaredName_failsOnly internalType name).bind fun declared _ => ?_
      refine (requireAllTypable_failsOnly "" components).bind fun _ _ => ?_
      exact requireFields_failsOnly declared _

theorem requireAllTypable_failsOnly (member : String) :
    ∀ parameters : List Parameter,
      FailsOnly (· = .longNumber) (requireAllTypable member parameters)
  | [] => by
    rw [requireAllTypable]
    exact .ok _
  | parameter :: rest => by
    rw [requireAllTypable]
    exact (parameter.requireTypable_failsOnly member).bind fun _ _ =>
      requireAllTypable_failsOnly member rest

end

mutual

theorem checkParameter_failsOnly (member : String) :
    ∀ parameter : Parameter, FailsOnly (· = .longNumber) (checkParameter member parameter)
  | ⟨name, text, internalType, components⟩ => by
    rw [checkParameter]
    refine ((requireTag_failsOnly text).locate member name).bind fun tag _ => ?_
    split
    · exact checkComponents_failsOnly member name components
    · exact .ok _

theorem checkComponents_failsOnly (member name : String) :
    ∀ components : Option (List Parameter),
      FailsOnly (· = .longNumber) (checkComponents member name components)
  | none => by
    rw [checkComponents]
    exact .declared trivial
  | some components => by
    rw [checkComponents]
    split
    · exact .declared trivial
    · exact checkParameters_failsOnly member components

theorem checkParameters_failsOnly (member : String) :
    ∀ parameters : List Parameter,
      FailsOnly (· = .longNumber) (checkParameters member parameters)
  | [] => .ok _
  | parameter :: rest => by
    rw [checkParameters]
    exact (checkParameter_failsOnly member parameter).bind fun _ _ =>
      checkParameters_failsOnly member rest

end

/-! ### Limits of mapping -/

/-- Mapping the parameters of a member runs into a limit before anything else is wrong with
them. -/
inductive MappingOverruns (levels : Nat) (member : String) (parameters : List Parameter) :
    Defect → Prop
  /-- Tuples are nested deeper than the levels reach. -/
  | tooDeep : levels < mappedLevels parameters → MappingOverruns levels member parameters .tooDeep
  /-- The first thing that is wrong is a number with too many digits. -/
  | longNumber : mappedLevels parameters ≤ levels →
      requireAllTypable member parameters = .error (.defect .longNumber) →
      MappingOverruns levels member parameters .longNumber

section

variable {levels : Nat} {member : String} {parameters : List Parameter}

theorem requireParameters_eq_defect_iff {cause : Defect} :
    requireParameters levels member parameters = .error (.defect cause) ↔
      MappingOverruns levels member parameters cause := by
  unfold requireParameters withinLevels
  constructor
  · intro same
    split at same
    · rename_i enough
      obtain rfl := (requireAllTypable_failsOnly member parameters).cause_of same
      exact .longNumber enough same
    · rename_i deep
      cases same
      exact .tooDeep (Nat.lt_of_not_le deep)
  · intro overruns
    cases overruns with
    | tooDeep deep => rw [if_neg (Nat.not_le_of_lt deep)]
    | longNumber enough same => rw [if_pos enough, same]

theorem requireParameters_failsOnly :
    FailsOnly (fun cause => cause = .longNumber ∨ cause = .tooDeep)
      (requireParameters levels member parameters) := by
  unfold requireParameters withinLevels
  split
  · exact (requireAllTypable_failsOnly member parameters).mono fun _ => .inl
  · exact .defect (.inr rfl)

end

end ContractClient
