/-
This file says when compiling a source and loading the compiler's output as an artifact agree. Both
read the contracts of an output in the same way, file by file (`contractsOfOutput_eq`), and an
output that holds no error differs for them in one point alone: an artifact without contracts is
refused, a compilation without contracts succeeds and has none.

So the two agree exactly if the output has a contract and none of its contracts is malformed
(`compile_parse_agree_iff`); where one is malformed, both end with a defect.
-/

import ContractClient.Artifact
import ContractClient.Proofs.Steps
import Mathlib.Data.List.Forall2

namespace ContractClient

/-! ### Outputs without errors -/

/-- The value is an object. -/
def Json.IsObject (value : Json) : Prop :=
  ∃ members, value = .object members

/-- The messages that an entry of an error list has are texts. -/
def HasTextMessages (entry : List (String × Json)) : Prop :=
  ∀ key ∈ ["formattedMessage", "message"], ∀ value, Json.member? entry key = some value →
    ∃ text, value = .text text

/-- The entry of an error list is no error, and its messages are texts. -/
def IsWarning (entry : Json) : Prop :=
  ∃ members, entry = .object members ∧ isErrorEntry members = false ∧ HasTextMessages members

/-- The members of an output of a compiler that reports no error: objects of contracts by the names
of their files, and perhaps warnings. -/
structure CleanOutput (members files : List (String × Json)) : Prop where
  contracts : Json.member? members "contracts" = some (.object files)
  file : ∀ file ∈ files, ∃ contracts, file.2 = .object contracts ∧
    ∀ contract ∈ contracts, contract.2.IsObject
  warnings : ∀ value, Json.member? members "errors" = some value →
    ∃ entries, value = .array entries ∧ ∀ entry ∈ entries, IsWarning entry

/-- The contracts of all files, by their names. -/
def contractEntries : List (String × Json) → List (String × Json)
  | [] => []
  | (_, .object contracts) :: rest => contracts ++ contractEntries rest
  | _ :: rest => contractEntries rest

/-- What is looked up under the keys, one inside the other, is an object wherever it is there. -/
def ObjectsAlong (members : List (String × Json)) : List String → Prop
  | [] => True
  | key :: keys => ∀ value, Json.member? members key = some value →
    ∃ found, value = .object found ∧ ObjectsAlong found keys

/-- The contract is an object whose bytecode can be looked up. -/
def HasReadableCode (contract : Json) : Prop :=
  ∃ members, contract = .object members ∧ ObjectsAlong members ["evm", "bytecode"]

/-! ### Reading contracts -/

section

variable {members files : List (String × Json)}

theorem objectsAlong_nil (keys : List String) : ObjectsAlong [] keys := by
  cases keys with
  | nil => trivial
  | cons key keys => exact nofun

/-- A look-up goes one step along the keys, or fails where no object stands. -/
theorem membersAt_outcome (members : List (String × Json)) (key : String) :
    (∃ found, membersAt members key = .ok found ∧
        ∀ keys, ObjectsAlong members (key :: keys) ↔ ObjectsAlong found keys) ∨
      membersAt members key = .error (.defect .notObject) ∧
        ∀ keys, ¬ObjectsAlong members (key :: keys) := by
  unfold membersAt
  simp only [ObjectsAlong]
  cases Json.member? members key with
  | none => exact .inl ⟨[], rfl, fun keys => iff_of_true nofun (objectsAlong_nil keys)⟩
  | some value =>
    cases value with
    | object found =>
      refine .inl ⟨found, rfl, fun keys => ⟨fun along => ?_, fun along value same => ?_⟩⟩
      · obtain ⟨_, same, along⟩ := along _ rfl
        exact Json.object.inj same ▸ along
      · exact ⟨found, (Option.some.inj same).symm, along⟩
    | _ =>
      refine .inr ⟨rfl, fun keys along => ?_⟩
      obtain ⟨_, same, _⟩ := along _ rfl
      cases same

/-- A contract is read exactly if it is an object whose bytecode can be looked up. -/
theorem contractOfOutput_outcome (name : String) (contract : Json) :
    (HasReadableCode contract ∧ ∃ read, contractOfOutput name contract = .ok read) ∨
      ¬HasReadableCode contract ∧
        contractOfOutput name contract = .error (.defect .notObject) := by
  cases contract with
  | object members =>
    have readable : HasReadableCode (.object members) ↔ ObjectsAlong members ["evm", "bytecode"] :=
      ⟨fun ⟨_, same, along⟩ => Json.object.inj same ▸ along, fun along => ⟨members, rfl, along⟩⟩
    have reads : contractOfOutput name (.object members) = (do
        let machine ← membersAt members "evm"
        let bytecode ← membersAt machine "bytecode"
        return ⟨.text name, memberOr members "abi" (.array []),
          memberOr bytecode "object" (.text "")⟩ : Except Fault Contract) := rfl
    rw [readable, reads]
    rcases membersAt_outcome members "evm" with ⟨machine, isMachine, along⟩ | ⟨fails, notAlong⟩
    · rw [isMachine, along]
      rcases membersAt_outcome machine "bytecode" with
        ⟨bytecode, isCode, along⟩ | ⟨fails, notAlong⟩
      · rw [along]
        refine .inl ⟨trivial, ?_⟩
        show ∃ read, (membersAt machine "bytecode" >>= _) = Except.ok read
        rw [isCode]
        exact ⟨_, rfl⟩
      · refine .inr ⟨notAlong [], ?_⟩
        show (membersAt machine "bytecode" >>= _) = _
        rw [fails]
        rfl
    · refine .inr ⟨notAlong _, ?_⟩
      rw [fails]
      rfl
  | _ => exact .inr ⟨fun ⟨_, same, _⟩ => (nomatch same), rfl⟩

/-- A contract that is read bears its key as its name. -/
theorem contractOfOutput_name {name : String} {value : Json} {contract : Contract}
    (reads : contractOfOutput name value = .ok contract) : contract.name = .text name := by
  obtain ⟨members, _, reads⟩ := exists_of_bind_eq_ok reads
  obtain ⟨machine, _, reads⟩ := exists_of_bind_eq_ok reads
  obtain ⟨bytecode, _, reads⟩ := exists_of_bind_eq_ok reads
  cases reads
  rfl

/-- The contracts of an output are read one after the other, whichever file each is of. -/
theorem contractsOfOutput_eq (clean : CleanOutput members files) :
    contractsOfOutput members =
      (contractEntries files).mapM fun entry => contractOfOutput entry.1 entry.2 := by
  have readFiles : ∀ files : List (String × Json),
      (∀ file ∈ files, ∃ contracts, file.2 = .object contracts) →
      (do
        let contracts ← files.mapM fun entry => contractsOfFile entry.2
        return contracts.flatten : Except Fault (List Contract)) =
      (contractEntries files).mapM fun entry => contractOfOutput entry.1 entry.2 := by
    intro files areObjects
    induction files with
    | nil => rfl
    | cons file rest inductionHypothesis =>
      obtain ⟨name, value⟩ := file
      obtain ⟨⟨contracts, isFile⟩, others⟩ := List.forall_mem_cons.mp areObjects
      obtain rfl : value = .object contracts := isFile
      have first : contractsOfFile (.object contracts) =
          contracts.mapM fun entry => contractOfOutput entry.1 entry.2 := rfl
      rw [contractEntries, List.mapM_append, ← inductionHypothesis others, List.mapM_cons,
        first]
      simp only [bind_assoc, pure_bind, List.flatten_cons]
  have isThere : membersAt members "contracts" = .ok files := by
    rw [membersAt, clean.contracts]
    rfl
  have reads := readFiles files fun file isFile =>
    (clean.file file isFile).imp fun _ isObject => isObject.1
  rw [← reads, contractsOfOutput, isThere]
  rfl

/-- Contracts are read exactly if the bytecode of each can be looked up, and none is left out. -/
theorem readContracts_outcome (entries : List (String × Json)) :
    ((∀ entry ∈ entries, HasReadableCode entry.2) ∧
        ∃ contracts, (entries.mapM fun entry => contractOfOutput entry.1 entry.2) = .ok contracts ∧
          contracts.map (·.name) = entries.map fun entry => .text entry.1) ∨
      (¬∀ entry ∈ entries, HasReadableCode entry.2) ∧
        (entries.mapM fun entry => contractOfOutput entry.1 entry.2) =
          .error (.defect .notObject) := by
  have each : ∀ entry ∈ entries, _ :=
    fun (entry : String × Json) _ => contractOfOutput_outcome entry.1 entry.2
  rcases mapM_outcome each with ⟨readable, contracts, reads⟩ | ⟨notReadable, fails⟩
  · exact .inl ⟨readable, contracts, reads,
      map_of_mapM_eq_ok reads fun _ _ => contractOfOutput_name⟩
  · exact .inr ⟨notReadable, fails⟩

/-! ### The two ways -/

/-- The compiler is there in the version that the settings ask for, or can be installed, and
returns the output. -/
structure Compiler.Returns (compiler : Compiler) (options : Options) (output : Json) : Prop where
  answer : compiler.answer = .output output
  available : ∀ session, (ensureVersion compiler (options.value .solcVersion) session).1 = .ok ()

/-- The message of a warning is a text. -/
theorem warningMessage_of_texts {entry : List (String × Json)} (texts : HasTextMessages entry) :
    ∃ text, warningMessage entry = .text text := by
  unfold warningMessage
  cases filled : filledMember? entry "formattedMessage" with
  | some value =>
    have isThere : Json.member? entry "formattedMessage" = some value :=
      (Option.filter_eq_some_iff.mp filled).1
    exact texts "formattedMessage" (by decide) value isThere
  | none =>
    rw [Option.getD_none, memberOr]
    cases isThere : Json.member? entry "message" with
    | none => exact ⟨"", rfl⟩
    | some value => exact texts "message" (by decide) value isThere

theorem reviewEntries_run {all entries : List Json} (warnings : ∀ entry ∈ entries, IsWarning entry)
    (session : Session) : ∃ after, reviewEntries all entries session = (.ok (), after) := by
  induction entries generalizing session with
  | nil => exact ⟨session, rfl⟩
  | cons entry rest inductionHypothesis =>
    obtain ⟨⟨members, rfl, isNoError, texts⟩, others⟩ := List.forall_mem_cons.mp warnings
    obtain ⟨message, isMessage⟩ := warningMessage_of_texts texts
    have review : reviewEntries all (.object members :: rest) session =
        if session.collector.isPresent then
          reviewEntries all rest (session.notice (.compilerWarning message (.text "")))
        else reviewEntries all rest session := by
      rw [reviewEntries, bind_run]
      show (if isErrorEntry members = true then _ else _ : Loading Unit) session = _
      rw [if_neg (by rw [isNoError]; exact Bool.false_ne_true)]
      show (if session.collector.isPresent = true then _ else _ : Loading Unit) session = _
      split
      · rw [isMessage]
        rfl
      · rfl
    rw [review]
    split <;> exact inductionHypothesis others _

/-- A source whose output has no error is compiled to the contracts of the output. -/
theorem compileSource_fst (clean : CleanOutput members files) {compiler : Compiler}
    {options : Options} (returns : compiler.Returns options (.object members)) (source : Json)
    (fileName : String) (directory : Option String) (session : Session) :
    (compileSource compiler options source fileName directory session).1 =
      contractsOfOutput members := by
  obtain ⟨prepared, isPrepared⟩ : ∃ prepared,
      ensureVersion compiler (options.value .solcVersion) session = (.ok (), prepared) :=
    ⟨_, Prod.ext (returns.available session) rfl⟩
  obtain ⟨entries, isList, warnings⟩ : ∃ entries,
      entriesOf (memberOr members "errors" (.array [])) = .ok entries ∧
        ∀ entry ∈ entries, IsWarning entry := by
    unfold memberOr
    cases isThere : Json.member? members "errors" with
    | none => exact ⟨[], rfl, nofun⟩
    | some value =>
      obtain ⟨entries, rfl, warnings⟩ := clean.warnings value isThere
      exact ⟨entries, rfl, warnings⟩
  have reads : ∀ session, (readOutput (.object members) session).1 = contractsOfOutput members := by
    intro session
    obtain ⟨reviewed, isReviewed⟩ := @reviewEntries_run entries entries warnings session
    rw [readOutput, bind_run]
    show ((liftM (entriesOf (memberOr members "errors" (.array []))) >>= _ :
      Loading (List Contract)) session).1 = _
    rw [isList, bind_run]
    show ((reviewEntries entries entries >>= _ : Loading (List Contract)) session).1 = _
    rw [bind_run, isReviewed]
    show ((if (Json.member? members "contracts").isNone = true then _ else _ :
      Loading (List Contract)) reviewed).1 = _
    rw [clean.contracts]
    cases contractsOfOutput members <;> rfl
  rw [compileSource, bind_run, isPrepared]
  dsimp only
  rw [bind_run, returns.answer]
  exact reads _

end

/-- The fault has a message; a defect has none. -/
def Fault.IsReported (fault : Fault) : Prop :=
  fault.message?.isSome

/-- Both give the same contracts, or both fail with a message. -/
def AgreeOnContracts (first second : Except Fault (List Contract)) : Prop :=
  (∃ contracts, first = .ok contracts ∧ second = .ok contracts) ∨
    ∃ fault other, first = .error fault ∧ second = .error other ∧
      fault.IsReported ∧ other.IsReported

/-- For an output without errors, compiling a source and loading the output agree exactly if the
output has a contract and the bytecode of each of its contracts can be looked up. -/
theorem compile_parse_agree_iff {members files : List (String × Json)}
    (clean : CleanOutput members files) {compiler : Compiler} {options : Options}
    (returns : compiler.Returns options (.object members)) (source : Json) (fileName : String)
    (directory : Option String) (session : Session) (defaultName : Json) :
    AgreeOnContracts (compileSource compiler options source fileName directory session).1
        (parseArtifact (.object members) defaultName) ↔
      contractEntries files ≠ [] ∧ ∀ entry ∈ contractEntries files, HasReadableCode entry.2 := by
  have parses : parseArtifact (.object members) defaultName = (do
      let contracts ← contractsOfOutput members
      if contracts.isEmpty then throw (.shape .outputWithoutContracts)
      return contracts : Except Fault (List Contract)) := by
    rw [parseArtifact, parseArtifactObject, clean.contracts]
  rw [compileSource_fst clean returns, parses, contractsOfOutput_eq clean]
  rcases readContracts_outcome (contractEntries files) with
    ⟨readable, contracts, reads, names⟩ | ⟨notReadable, fails⟩
  · have same : contracts.length = (contractEntries files).length := by
      rw [← List.length_map, names, List.length_map]
    rw [reads]
    cases contracts with
    | nil =>
      have none : contractEntries files = [] := List.length_eq_zero_iff.mp same.symm
      refine iff_of_false ?_ fun both => both.1 none
      rintro (⟨_, _, isOk⟩ | ⟨_, _, isFault, _⟩)
      · cases isOk
      · cases isFault
    | cons first rest =>
      have notNone : contractEntries files ≠ [] := by
        rintro none
        rw [none] at same
        cases same
      exact iff_of_true (.inl ⟨_, rfl, rfl⟩) ⟨notNone, readable⟩
  · rw [fails]
    refine iff_of_false ?_ fun both => notReadable both.2
    rintro (⟨_, isOk, _⟩ | ⟨_, _, isFault, _, isReported, _⟩)
    · cases isOk
    · cases isFault
      cases isReported

/-! ### With and without contracts -/

/-- A compiler that gives the output, whatever it is asked for. -/
def answering (members : List (String × Json)) : Compiler :=
  ⟨[], none, .output (.object members)⟩

theorem answering_returns (members : List (String × Json)) :
    (answering members).Returns .standard (.object members) :=
  ⟨rfl, fun _ => rfl⟩

/-- The contracts of a file with one contract. -/
def counterContracts : List (String × Json) :=
  [("Counter", .object
    [("abi", .array []), ("evm", .object [("bytecode", .object [("object", .text "6080")])])])]

/-- The output for a file with one contract, with a warning. -/
def counterOutput : List (String × Json) :=
  [("errors", .array [.object [("severity", .text "warning"), ("message", .text "unused")]]),
    ("contracts", .object [("main.sol", .object counterContracts)])]

/-- Compiling to one contract and loading it agree. -/
theorem counter_agrees :
    CleanOutput counterOutput [("main.sol", .object counterContracts)] ∧
      (answering counterOutput).Returns .standard (.object counterOutput) ∧
      AgreeOnContracts
        (compileSource (answering counterOutput) .standard (.text "") "main.sol" none
          (.start .absent)).1
        (parseArtifact (.object counterOutput) (.text "main")) := by
  have warns : HasTextMessages [("severity", .text "warning"), ("message", .text "unused")] := by
    intro key isKey value isThere
    rcases List.mem_pair.mp isKey with rfl | rfl
    · cases isThere
    · exact ⟨"unused", (Option.some.inj isThere).symm⟩
  have clean : CleanOutput counterOutput [("main.sol", .object counterContracts)] := by
    refine ⟨rfl, List.forall_mem_singleton.mpr ⟨_, rfl, ?_⟩, fun value isThere => ?_⟩
    · exact List.forall_mem_singleton.mpr ⟨_, rfl⟩
    · obtain rfl := Option.some.inj isThere
      exact ⟨_, rfl, List.forall_mem_singleton.mpr ⟨_, rfl, rfl, warns⟩⟩
  have readable : ∀ entry ∈ counterContracts, HasReadableCode entry.2 := by
    refine List.forall_mem_singleton.mpr ⟨_, rfl, fun machine isThere => ?_⟩
    obtain rfl := Option.some.inj isThere
    refine ⟨_, rfl, fun bytecode isThere => ?_⟩
    obtain rfl := Option.some.inj isThere
    exact ⟨_, rfl, trivial⟩
  have returns := answering_returns counterOutput
  refine ⟨clean, returns, (compile_parse_agree_iff clean returns _ _ _ _ _).mpr ⟨nofun, ?_⟩⟩
  exact readable

/-- A compiler may give no contract at all; then the compilation succeeds, and the output cannot
be loaded. -/
theorem noContracts_disagree :
    ∃ files, CleanOutput [("contracts", .object [])] files ∧
      (answering [("contracts", .object [])]).Returns .standard
        (.object [("contracts", .object [])]) ∧
      ¬AgreeOnContracts
        (compileSource (answering [("contracts", .object [])]) .standard (.text "") "main.sol" none
          (.start .absent)).1
        (parseArtifact (.object [("contracts", .object [])]) (.text "main")) := by
  have clean : CleanOutput [("contracts", .object [])] [] := ⟨rfl, nofun, nofun⟩
  have compiles : (compileSource (answering [("contracts", .object [])]) .standard (.text "")
      "main.sol" none (.start .absent)).1 = .ok [] := rfl
  have refused : parseArtifact (.object [("contracts", .object [])]) (.text "main") =
      .error (.shape .outputWithoutContracts) := rfl
  refine ⟨[], clean, answering_returns _, ?_⟩
  rw [compiles, refused]
  rintro (⟨_, _, isOk⟩ | ⟨_, _, isFault, _⟩)
  · cases isOk
  · cases isFault

end ContractClient
