/-
This file says when a decoded artifact is taken apart cleanly: it gives contracts that have names,
or is refused for its shape. What is looked up in the output of a compiler is not checked, so a
value that is no object ends it by a defect, and an empty key gives a contract an empty name; and
the name that an artifact gives itself is not checked either.

Apart from these ways out, whatever stands in the artifact, it is taken apart cleanly
(`parseArtifact_parsesCleanly_iff`). One contract that is a list is enough to end it otherwise
(`listedContract_notClean`).
-/

import ContractClient.Proofs.Compiler.Agreement

namespace ContractClient

/-! ### Clean results -/

/-- The contract has a name that says something. -/
def Contract.HasName (contract : Contract) : Prop :=
  ∃ name, contract.name = .text name ∧ name ≠ ""

/-- The result is a contract or more, all of which have names, or the artifact is refused for its
shape. -/
def ParsesCleanly (result : Except Fault (List Contract)) : Prop :=
  (∃ contracts, result = .ok contracts ∧ contracts ≠ [] ∧
      ∀ contract ∈ contracts, contract.HasName) ∨
    ∃ cause, result = .error (.shape cause)

/-- If the result fails, it is refused for its shape, or an object is missing. -/
def FailsByShape {α : Type} (result : Except Fault α) : Prop :=
  ∀ fault, result = .error fault → (∃ cause, fault = .shape cause) ∨ fault = .defect .notObject

/-- The value is a file: an object of contracts whose bytecode can be looked up. -/
def IsReadableFile (value : Json) : Prop :=
  ∃ contracts, value = .object contracts ∧ ∀ contract ∈ contracts, HasReadableCode contract.2

/-- The files can be read, and the keys of their contracts are not empty. -/
structure SoundFiles (files : List (String × Json)) : Prop where
  readable : ∀ file ∈ files, IsReadableFile file.2
  named : ∀ entry ∈ contractEntries files, entry.1 ≠ ""

/-- The object names its contract by a text, if it does so at all, or else its bytecode is
refused. -/
def SoundName (members : List (String × Json)) : Prop :=
  ∀ name, filledMember? members "contractName" = some name →
    (∃ text, name = .text text) ∨
      ∃ fault, artifactBytecode (Json.member? members "bytecode") = .error fault

/-- The members of an object, read as what they are taken for: the output of a compiler if there
are files of contracts, and else an artifact if there is an ABI. -/
structure SoundObject (members : List (String × Json)) : Prop where
  output : ∀ files, Json.member? members "contracts" = some (.object files) → SoundFiles files
  artifact : (∀ files, Json.member? members "contracts" ≠ some (.object files)) →
    ∀ abi, Json.member? members "abi" = some abi → SoundName members

theorem ParsesCleanly.refused (cause : ShapeFault) : ParsesCleanly (.error (.shape cause)) :=
  .inr ⟨cause, rfl⟩

theorem parsesCleanly_ok_iff {contracts : List Contract} :
    ParsesCleanly (.ok contracts) ↔
      contracts ≠ [] ∧ ∀ contract ∈ contracts, contract.HasName := by
  constructor
  · rintro (⟨_, same, filled, named⟩ | ⟨_, same⟩)
    · exact Except.ok.inj same ▸ ⟨filled, named⟩
    · cases same
  · exact fun ⟨filled, named⟩ => .inl ⟨contracts, rfl, filled, named⟩

theorem not_parsesCleanly_defect {cause : Defect} : ¬ParsesCleanly (.error (.defect cause)) := by
  rintro (⟨_, same, _⟩ | ⟨_, same⟩) <;> cases same

section

variable {α : Type}

theorem FailsByShape.ok (value : α) : FailsByShape (.ok value) :=
  fun _ => nofun

theorem FailsByShape.refused (cause : ShapeFault) :
    FailsByShape (.error (.shape cause) : Except Fault α) :=
  fun _ same => .inl ⟨cause, (Except.error.inj same).symm⟩

theorem FailsByShape.notObject : FailsByShape (.error (.defect .notObject) : Except Fault α) :=
  fun _ same => .inr (Except.error.inj same).symm

end

/-! ### Outputs -/

theorem contractsOfFile_outcome (value : Json) :
    (IsReadableFile value ∧ ∃ contracts, contractsOfFile value = .ok contracts) ∨
      ¬IsReadableFile value ∧ contractsOfFile value = .error (.defect .notObject) := by
  cases value with
  | object entries =>
    have reads : contractsOfFile (.object entries) =
        entries.mapM fun entry => contractOfOutput entry.1 entry.2 := rfl
    rw [reads]
    rcases readContracts_outcome entries with ⟨readable, contracts, isOk, _⟩ | ⟨isNot, fails⟩
    · exact .inl ⟨⟨entries, rfl, readable⟩, contracts, isOk⟩
    · refine .inr ⟨fun ⟨_, same, readable⟩ => isNot ?_, fails⟩
      exact Json.object.inj same ▸ readable
  | _ => exact .inr ⟨fun ⟨_, same, _⟩ => (nomatch same), rfl⟩

/-- The contracts of a file that is read bear its keys. -/
theorem contractsOfFile_names {file : String × Json} {contracts : List Contract}
    (reads : contractsOfFile file.2 = .ok contracts) :
    contracts.map (·.name) = (contractEntries [file]).map fun entry => .text entry.1 := by
  obtain ⟨name, value⟩ := file
  obtain ⟨entries, isFile, reads⟩ := exists_of_bind_eq_ok reads
  cases value with
  | object members =>
    cases isFile
    rw [contractEntries, contractEntries, List.append_nil]
    exact map_of_mapM_eq_ok reads fun _ _ => contractOfOutput_name
  | _ => cases isFile

theorem contractEntries_eq_flatMap (files : List (String × Json)) :
    contractEntries files = files.flatMap fun file => contractEntries [file] := by
  induction files with
  | nil => rfl
  | cons file rest inductionHypothesis =>
    obtain ⟨name, value⟩ := file
    rw [List.flatMap_cons, ← inductionHypothesis]
    cases value <;> simp [contractEntries]

/-- The contracts of an output are read exactly if all its files can be, and bear their keys. -/
theorem contractsOfOutput_outcome {members files : List (String × Json)}
    (isThere : Json.member? members "contracts" = some (.object files)) :
    ((∀ file ∈ files, IsReadableFile file.2) ∧
        ∃ contracts, contractsOfOutput members = .ok contracts ∧
          contracts.map (·.name) = (contractEntries files).map fun entry => .text entry.1) ∨
      (¬∀ file ∈ files, IsReadableFile file.2) ∧
        contractsOfOutput members = .error (.defect .notObject) := by
  have reads : contractsOfOutput members = (do
      let contracts ← files.mapM fun entry => contractsOfFile entry.2
      return contracts.flatten : Except Fault (List Contract)) := by
    rw [contractsOfOutput, membersAt, isThere]
    rfl
  have each : ∀ file ∈ files, _ :=
    fun (file : String × Json) _ => contractsOfFile_outcome file.2
  rw [reads]
  rcases mapM_outcome each with ⟨readable, contracts, isOk⟩ | ⟨isNot, fails⟩
  · refine .inl ⟨readable, contracts.flatten, ?_, ?_⟩
    · rw [isOk]
      rfl
    · rw [List.map_flatten, map_of_mapM_eq_ok isOk fun _ _ => contractsOfFile_names,
        contractEntries_eq_flatMap, List.map_flatMap, List.flatMap_def]
  · rw [fails]
    exact .inr ⟨isNot, rfl⟩

/-- An output is taken apart cleanly exactly if its files are sound. -/
theorem parseOutput_parsesCleanly_iff {members files : List (String × Json)}
    (isThere : Json.member? members "contracts" = some (.object files)) (defaultName : Json) :
    (ParsesCleanly (parseArtifactObject members defaultName) ↔ SoundFiles files) ∧
      FailsByShape (parseArtifactObject members defaultName) := by
  have parses : parseArtifactObject members defaultName = (do
      let contracts ← contractsOfOutput members
      if contracts.isEmpty then throw (.shape .outputWithoutContracts)
      return contracts : Except Fault (List Contract)) := by
    rw [parseArtifactObject, isThere]
  rw [parses]
  rcases contractsOfOutput_outcome isThere with ⟨readable, contracts, isOk, names⟩ |
    ⟨notReadable, fails⟩
  · rw [isOk]
    have named : (∀ contract ∈ contracts, contract.HasName) ↔
        ∀ entry ∈ contractEntries files, entry.1 ≠ "" := by
      show (∀ contract ∈ contracts, ∃ name, contract.name = .text name ∧ name ≠ "") ↔ _
      rw [← List.forall_mem_map (P := fun name => ∃ text, name = Json.text text ∧ text ≠ ""), names,
        List.forall_mem_map]
      simp
    cases contracts with
    | nil =>
      have noEntries : contractEntries files = [] := List.map_eq_nil_iff.mp names.symm
      have sound : SoundFiles files := ⟨readable, noEntries ▸ List.forall_mem_nil _⟩
      exact ⟨iff_of_true (.refused .outputWithoutContracts) sound, .refused _⟩
    | cons first rest =>
      refine ⟨parsesCleanly_ok_iff.trans ?_, .ok _⟩
      rw [named]
      exact ⟨fun clean => ⟨readable, clean.2⟩, fun sound => ⟨List.cons_ne_nil _ _, sound.named⟩⟩
  · rw [fails]
    exact ⟨iff_of_false not_parsesCleanly_defect fun sound => notReadable sound.readable,
      .notObject⟩

/-! ### Artifacts of one contract -/

theorem artifactBytecode_refuses {value? : Option Json} {fault : Fault}
    (fails : artifactBytecode value? = .error fault) :
    fault = .shape .artifactBytecodeNotText := by
  unfold artifactBytecode at fails
  split at fails
  · cases fails
  · cases fails
  · cases fails
  · split at fails
    · cases fails
    · exact (Except.error.inj fails).symm
  · exact (Except.error.inj fails).symm

theorem artifactContract_eq (members : List (String × Json)) (abi defaultName : Json) :
    artifactContract members abi defaultName =
      let name := (filledMember? members "contractName").getD defaultName
      if name.isVacant then .error (.shape .artifactWithoutName)
      else (artifactBytecode (Json.member? members "bytecode")).map (⟨name, abi, ·⟩) := by
  unfold artifactContract
  dsimp only
  split
  · rfl
  · cases artifactBytecode (Json.member? members "bytecode") <;> rfl

/-- An artifact is taken apart cleanly exactly if its name is sound. -/
theorem artifactContract_parsesCleanly_iff (members : List (String × Json)) (abi : Json)
    (defaultName : String) :
    (ParsesCleanly ((artifactContract members abi (.text defaultName)).map ([·])) ↔
        SoundName members) ∧
      FailsByShape ((artifactContract members abi (.text defaultName)).map ([·])) := by
  rw [artifactContract_eq]
  have filled : ∀ name, filledMember? members "contractName" = some name → ¬name.isVacant := by
    intro name isThere
    simpa using (Option.filter_eq_some_iff.mp isThere).2
  have given : ∀ {name}, filledMember? members "contractName" = some name →
      (filledMember? members "contractName").getD (.text defaultName) = name := by
    rintro name isThere
    rw [isThere, Option.getD_some]
  dsimp only
  by_cases vacant : ((filledMember? members "contractName").getD (.text defaultName)).isVacant
  · rw [if_pos vacant]
    refine ⟨iff_of_true (.refused _) fun name isThere => ?_, .refused _⟩
    exact (filled name isThere (given isThere ▸ vacant)).elim
  rw [if_neg vacant]
  cases code : artifactBytecode (Json.member? members "bytecode") with
  | error fault =>
    obtain rfl := artifactBytecode_refuses code
    exact ⟨iff_of_true (.refused _) fun name _ => .inr ⟨_, code⟩, .refused _⟩
  | ok bytecode =>
    refine ⟨parsesCleanly_ok_iff.trans ?_, .ok _⟩
    rw [List.forall_mem_singleton]
    constructor
    · rintro ⟨_, text, isText, _⟩ name isThere
      exact .inl ⟨text, (given isThere).symm.trans isText⟩
    · intro sound
      have isText : ∃ text,
          (filledMember? members "contractName").getD (.text defaultName) = .text text := by
        cases isThere : filledMember? members "contractName" with
        | none => exact ⟨defaultName, rfl⟩
        | some name =>
          rcases sound name isThere with isText | ⟨fault, refused⟩
          · exact isText
          · cases code.symm.trans refused
      obtain ⟨text, isText⟩ := isText
      refine ⟨List.cons_ne_nil _ _, text, isText, fun empty => vacant ?_⟩
      rw [isText, empty]
      rfl

/-! ### Decoded artifacts -/

/-- Without files of contracts, an object is taken for an artifact. -/
theorem parseArtifactObject_eq {members : List (String × Json)}
    (noFiles : ∀ files, Json.member? members "contracts" ≠ some (.object files))
    (defaultName : Json) :
    parseArtifactObject members defaultName =
      match Json.member? members "abi" with
      | some abi => (artifactContract members abi defaultName).map ([·])
      | none => .error (.shape .artifactNotRecognized) := by
  unfold parseArtifactObject
  split
  · rename_i isThere
    exact (noFiles _ isThere).elim
  · rename_i abi isAbi _
    rw [isAbi]
    dsimp only
    cases artifactContract members abi defaultName <;> rfl
  · rename_i noAbi _
    rw [noAbi]

/-- An object is taken apart cleanly exactly if it is sound as what it is taken for. -/
theorem parseArtifactObject_parsesCleanly_iff (members : List (String × Json))
    (defaultName : String) :
    (ParsesCleanly (parseArtifactObject members (.text defaultName)) ↔ SoundObject members) ∧
      FailsByShape (parseArtifactObject members (.text defaultName)) := by
  by_cases output : ∃ files, Json.member? members "contracts" = some (.object files)
  · obtain ⟨files, isThere⟩ := output
    have parses := parseOutput_parsesCleanly_iff isThere (.text defaultName)
    refine ⟨parses.1.trans ⟨fun sound => ⟨?_, fun others => (others files isThere).elim⟩,
      fun sound => sound.output files isThere⟩, parses.2⟩
    intro others isOther
    obtain rfl := Json.object.inj (Option.some.inj (isThere.symm.trans isOther))
    exact sound
  · have noFiles := not_exists.mp output
    have sound : SoundObject members ↔
        ∀ abi, Json.member? members "abi" = some abi → SoundName members :=
      ⟨fun sound => sound.artifact noFiles,
        fun named => ⟨fun files isThere => (noFiles files isThere).elim, fun _ => named⟩⟩
    rw [sound, parseArtifactObject_eq noFiles]
    cases Json.member? members "abi" with
    | none => exact ⟨iff_of_true (.refused _) (by simp), .refused _⟩
    | some abi =>
      have parses := artifactContract_parsesCleanly_iff members abi defaultName
      exact ⟨parses.1.trans ⟨fun named _ _ => named, fun named => named abi rfl⟩, parses.2⟩

/-- Whatever is decoded, it is taken apart cleanly exactly if it is no object or a sound one. Where
it is not, it gives a contract without a proper name, or it fails for want of an object; it never
fails in any other way. -/
theorem parseArtifact_parsesCleanly_iff (data : Json) (defaultName : String) :
    (ParsesCleanly (parseArtifact data (.text defaultName)) ↔
        ∀ members, data = .object members → SoundObject members) ∧
      FailsByShape (parseArtifact data (.text defaultName)) := by
  cases data with
  | array items =>
    rw [parseArtifact]
    by_cases empty : defaultName = ""
    · rw [if_pos (by rw [empty]; rfl)]
      exact ⟨iff_of_true (.refused _) (by simp), .refused _⟩
    · rw [if_neg (by simpa [Json.isVacant] using empty)]
      refine ⟨iff_of_true (parsesCleanly_ok_iff.mpr ⟨List.cons_ne_nil _ _, ?_⟩) (by simp),
        .ok _⟩
      exact List.forall_mem_singleton.mpr ⟨defaultName, rfl, empty⟩
  | object members =>
    have parses := parseArtifactObject_parsesCleanly_iff members defaultName
    refine ⟨parses.1.trans ⟨fun sound others same => ?_, fun sound => sound members rfl⟩, parses.2⟩
    exact Json.object.inj same ▸ sound
  | _ => exact ⟨iff_of_true (.refused _) (by simp), .refused _⟩

/-- An output with one contract, which is a list. -/
def listedContract : Json :=
  .object [("contracts", .object [("main.sol", .object [("Token", .array [])])])]

/-- A contract that is a list is not refused, but ends it all by a defect. -/
theorem listedContract_notClean :
    parseArtifact listedContract (.text "main") = .error (.defect .notObject) ∧
      ¬ParsesCleanly (parseArtifact listedContract (.text "main")) := by
  have fails : parseArtifact listedContract (.text "main") = .error (.defect .notObject) := rfl
  exact ⟨fails, fails ▸ not_parsesCleanly_defect⟩

end ContractClient
