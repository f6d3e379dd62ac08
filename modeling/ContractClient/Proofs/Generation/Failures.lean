/-
This file says when a generation fails otherwise than it declares. With the standard settings, and
a contract whose name and bytecode are texts, it gives all three modules or a fault that is
declared, unless it runs into a limit (`generate_declared_iff`). Parameters can be nested too deep to
be read, spelled out or mapped; a number in a tag can have too many digits; the type of an output
may be one that cannot be rebuilt. And a value with too long a number or too many levels in it cannot
be shown where the reader asks for its text, and cannot be written in the module of the ABI.

A type cannot be rebuilt where it is too deep, and also where it leads back to itself. Names alone
can bring that about: the fields of a struct called `string` that are texts have the struct itself
for their type (`selfNamed_not_declared`).
-/

import ContractClient.Generation
import ContractClient.Proofs.Client.Limits

namespace ContractClient

/-! ### Generations -/

/-- Whatever goes wrong is declared. -/
def EndsDeclared {α : Type} (result : Except Fault α) : Prop :=
  ∀ fault, result = .error fault → fault.IsDeclared

instance {α : Type} : DecidablePred (@EndsDeclared α)
  | .ok _ => isTrue fun _ => nofun
  | .error fault => decidable_of_iff fault.IsDeclared
    ⟨fun isDeclared _ same => Except.error.inj same ▸ isDeclared, fun all => all fault rfl⟩

/-- The registry in front of the methods of a contract, when their names are planned. -/
def plannedRegistry (name : String) (members : List Member) (told : Collector) : Registry :=
  ((Pass.start (.text name) Options.standard.style told).planMethods members).registry

/-- The generation of a contract runs into a limit before anything else is wrong with it. -/
inductive Overruns (name : String) (abi : Json) (collector : Collector) : Defect → Prop
  /-- An entry of the ABI cannot be read, or not be noticed. -/
  | reading {cause : Defect} :
      isIdentifier name →
      StopsReading (.text name) abi collector cause →
      Overruns name abi collector cause
  /-- The client of the members of the ABI cannot be built. -/
  | building {members : List Member} {told : Collector} {cause : Defect} :
      isIdentifier name →
      readAbi (.text name) abi collector = (.ok members, told) →
      ClientOverruns (plannedRegistry name members told) members cause →
      Overruns name abi collector cause
  /-- The ABI cannot be written, beside a client that is built. -/
  | packaging {members : List Member} {told : Collector} {client : String} {cause : Defect} :
      isIdentifier name →
      readAbi (.text name) abi collector = (.ok members, told) →
      (assembleModule (.text name) members Options.standard.style told).1 = .ok client →
      Json.checkLimits .ofFiles abi = .error cause →
      Overruns name abi collector cause

section

variable {name bytecode : String} {abi : Json} {collector : Collector}

theorem Overruns.isName {cause : Defect} (overruns : Overruns name abi collector cause) :
    isIdentifier name := by
  cases overruns with
  | reading isName _ => exact isName
  | building isName _ _ => exact isName
  | packaging isName _ _ _ => exact isName

/-- Where the ABI cannot be read, the reason for that is the only limit there can be. -/
theorem overruns_iff_of_unread (isName : isIdentifier name) {fault : Fault}
    (unread : (readAbi (.text name) abi collector).1 = .error fault) {cause : Defect} :
    Overruns name abi collector cause ↔ fault = .defect cause := by
  constructor
  · intro overruns
    cases overruns with
    | reading _ stops =>
      exact Except.error.inj (unread.symm.trans (readAbi_eq_defect_iff.mpr stops))
    | building _ reads _ | packaging _ reads _ _ =>
      rw [reads] at unread
      cases unread
  · rintro rfl
    exact .reading isName (readAbi_eq_defect_iff.mp unread)

theorem plannedRegistry_sound (name : String) (members : List Member) (told : Collector) :
    (plannedRegistry name members told).Sound (Options.standard.style.reservedNames name) := by
  unfold plannedRegistry
  rw [planMethods_eq]
  refine Registry.Sound.telling ?_ _
  exact Registry.freshWithin_sound mappableLevels _ _ _ _

/-- The module of a client ends as the check of its members does. -/
theorem assembleModule_outcome (name : String) (members : List Member) (told : Collector) :
    outcome (assembleModule (.text name) members Options.standard.style told).1 =
      requireClient (plannedRegistry name members told) members := by
  have builds : Builds (Pass.start (.text name) Options.standard.style told) (buildModule members)
      (requireClient (plannedRegistry name members told) members) fun _ _ => True :=
    buildModule_builds rfl (Registry.freshWithin_sound mappableLevels _ _ _ _) rfl members
  rw [← builds.ends, assembleModule]
  cases buildModule members (Pass.start (.text name) Options.standard.style told) with
  | mk ended after => cases ended <;> rfl

/-- Where the ABI can be read, the limits are those of building the client and then of writing the
ABI. -/
theorem overruns_iff_of_read (isName : isIdentifier name) {members : List Member}
    {told : Collector} (reads : readAbi (.text name) abi collector = (.ok members, told))
    {cause : Defect} :
    Overruns name abi collector cause ↔
      ClientOverruns (plannedRegistry name members told) members cause ∨
        requireClient (plannedRegistry name members told) members = .ok () ∧
          Json.checkLimits .ofFiles abi = .error cause := by
  rw [← assembleModule_outcome, outcome_eq_ok_iff]
  constructor
  · intro overruns
    cases overruns with
    | reading _ stops =>
      have unread := readAbi_eq_defect_iff.mpr stops
      rw [reads] at unread
      cases unread
    | building _ readsToo overruns =>
      cases reads.symm.trans readsToo
      exact .inl overruns
    | packaging _ readsToo builds beyond =>
      cases reads.symm.trans readsToo
      exact .inr ⟨⟨_, builds⟩, beyond⟩
  · rintro (overruns | ⟨⟨client, builds⟩, beyond⟩)
    · exact .building isName reads overruns
    · exact .packaging isName reads builds beyond

theorem requireContractName_text (name : String) :
    requireContractName (.text name) =
      if isIdentifier name then .ok name
      else .error (.shape (.invalidContractName name)) := by
  unfold requireContractName
  by_cases empty : name = ""
  · subst empty
    rfl
  · have given : Json.isVacant (.text name) = false := beq_eq_false_iff_ne.mpr empty
    rw [given, if_neg Bool.false_ne_true]

/-- The fault of a generation, if there is one, is that of the first of its stages that fails. -/
theorem generate_outcome (name bytecode : String) (abi : Json) (collector : Collector) :
    outcome (generate .standard ⟨.text name, abi, .text bytecode⟩ collector).1 =
      if isIdentifier name then
        match readAbi (.text name) abi collector with
        | (.error fault, _) => .error fault
        | (.ok members, told) => do
          requireClient (plannedRegistry name members told) members
          outcome (packageAbi abi)
          outcome (packageBytecode (.text bytecode))
      else .error (.shape (.invalidContractName name)) := by
  unfold generate
  rw [requireContractName_text]
  by_cases isName : isIdentifier name
  · rw [if_pos isName, if_pos isName]
    cases reading : readAbi (.text name) abi collector with
    | mk read told =>
      cases read with
      | error fault =>
        simp only [generateClient, reading]
        rfl
      | ok members =>
        simp only [generateClient, reading, ← assembleModule_outcome]
        cases (assembleModule (.text name) members Options.standard.style told).1 with
        | error fault => rfl
        | ok client =>
          cases packageAbi abi with
          | error fault => rfl
          | ok abi => cases packageBytecode (.text bytecode) <;> rfl
  · rw [if_neg isName, if_neg isName]
    rfl

/-- Whether the module of an ABI can be written is told by the limits of files. -/
theorem outcome_packageAbi (items : List Json) :
    outcome (packageAbi (.array items)) = (Json.array items).requireWithin .ofFiles := by
  unfold packageAbi
  cases (Json.array items).requireWithin .ofFiles <;> rfl

theorem packageBytecode_failsOnly (bytecode : String) :
    FailsOnly (fun _ => False) (outcome (packageBytecode (.text bytecode))) := by
  unfold packageBytecode
  dsimp only
  split
  · exact .ok _
  · split
    · exact .declared trivial
    · exact .declared trivial

/-- The only limits for writing the other two modules are those for the ABI. -/
theorem packages_eq_defect_iff {items : List Json} {cause : Defect} :
    (outcome (packageAbi (.array items)) >>= fun _ => outcome (packageBytecode (.text bytecode))) =
        .error (.defect cause) ↔
      Json.checkLimits .ofFiles (.array items) = .error cause := by
  rw [bind_eq_error_iff, outcome_packageAbi, Json.requireWithin_eq_defect_iff]
  exact or_iff_left fun ⟨_, fails⟩ => (packageBytecode_failsOnly bytecode).cause_of fails

/-- Writing the other two modules goes wrong in declared ways, or by a limit. -/
theorem packages_failsOnly (abi : Json) (bytecode : String) :
    FailsOnly Defect.IsLimit
      (outcome (packageAbi abi) >>= fun _ => outcome (packageBytecode (.text bytecode))) := by
  refine FailsOnly.bind ?_ fun _ _ => (packageBytecode_failsOnly bytecode).mono fun _ => False.elim
  cases abi with
  | array items =>
    rw [outcome_packageAbi, Json.requireWithin_eq]
    split
    · exact .ok _
    · rename_i meets
      exact .defect (Json.limit?_isLimit meets)
  | _ => exact .declared trivial

/-- A generation ends by a defect exactly if it runs into a limit. -/
theorem generate_eq_defect_iff {cause : Defect} :
    (generate .standard ⟨.text name, abi, .text bytecode⟩ collector).1 = .error (.defect cause) ↔
      Overruns name abi collector cause := by
  rw [← outcome_eq_error_iff, generate_outcome]
  by_cases isName : isIdentifier name
  · rw [if_pos isName]
    cases reading : readAbi (.text name) abi collector with
    | mk read told =>
      cases read with
      | error fault =>
        have unread : (readAbi (.text name) abi collector).1 = .error fault := by rw [reading]
        rw [overruns_iff_of_unread isName unread, Except.error.injEq]
      | ok members =>
        have client : requireClient (plannedRegistry name members told) members =
            .error (.defect cause) ↔
              ClientOverruns (plannedRegistry name members told) members cause :=
          requireClient_eq_defect_iff (plannedRegistry_sound name members told)
            (readAbi_named reading)
        obtain ⟨items, rfl⟩ := exists_items_of_readAbi reading
        rw [overruns_iff_of_read isName reading, ← client, ← @packages_eq_defect_iff bytecode]
        exact bind_eq_error_iff
  · rw [if_neg isName]
    constructor
    · exact nofun
    · exact fun overruns => (isName overruns.isName).elim

/-- Whatever goes wrong in a generation is declared, or a limit that it runs into. -/
theorem generate_failsOnly :
    FailsOnly Defect.IsLimit (generate .standard ⟨.text name, abi, .text bytecode⟩ collector).1 := by
  intro fault same
  rw [← outcome_eq_error_iff, generate_outcome] at same
  by_cases isName : isIdentifier name
  · rw [if_pos isName] at same
    cases reading : readAbi (.text name) abi collector with
    | mk read told =>
      rw [reading] at same
      cases read with
      | error other =>
        have unread : (readAbi (.text name) abi collector).1 = .error other := by rw [reading]
        cases same
        rcases readAbi_error unread with ⟨cause, rfl⟩ | ⟨limit, rfl, isLimit⟩
        · exact .inl trivial
        · exact .inr ⟨limit, isLimit, rfl⟩
      | ok members =>
        exact FailsOnly.bind (requireClient_failsOnly members)
          (fun _ _ => packages_failsOnly abi bytecode) fault same
  · rw [if_neg isName] at same
    cases same
    exact .inl trivial

end

/-- A generation with the standard settings, of a contract whose name and bytecode are texts, ends
as it declares exactly if it runs into no limit; and where it does not, it fails by the limit that
it runs into first. -/
theorem generate_declared_iff (name bytecode : String) (abi : Json) (collector : Collector) :
    let result := (generate .standard ⟨.text name, abi, .text bytecode⟩ collector).1
    (EndsDeclared result ↔ ∀ cause, ¬Overruns name abi collector cause) ∧
      ∀ cause, result = .error (.defect cause) ↔ Overruns name abi collector cause := by
  intro result
  refine ⟨⟨fun declared cause overruns => ?_, fun shallow fault same => ?_⟩,
    fun cause => generate_eq_defect_iff⟩
  · exact declared _ (generate_eq_defect_iff.mpr overruns)
  · rcases generate_failsOnly fault same with isDeclared | ⟨cause, _, rfl⟩
    · exact isDeclared
    · exact (shallow cause (generate_eq_defect_iff.mp same)).elim

/-! ### A struct with the name of a type -/

/-- An ABI whose only function gives back a struct called `string` that holds a text. -/
def selfNamed : Json :=
  .array [.object [
    ("type", .text "function"),
    ("name", .text "label"),
    ("inputs", .array []),
    ("outputs", .array [.object [
      ("name", .text ""),
      ("type", .text "tuple"),
      ("internalType", .text "struct string"),
      ("components", .array [.object [
        ("name", .text "value"),
        ("type", .text "string"),
        ("internalType", .text "string")]])]]),
    ("stateMutability", .text "view")]]

/-- The struct leads back to itself by its name, and the generation does not end as it declares. -/
theorem selfNamed_not_declared :
    ¬EndsDeclared (generate .standard ⟨.text "Token", selfNamed, .text "0x"⟩ .absent).1 := by
  decide +kernel

end ContractClient
