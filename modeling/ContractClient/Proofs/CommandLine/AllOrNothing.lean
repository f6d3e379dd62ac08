/-
This file proves that a run is all or nothing. Everything that can fail with a message comes before
the first file is written: if the settings, the input file, the contracts or one of the clients
cannot be had, the run stops with the files as they were (`nonempty_batch_or_stopped`). Otherwise
there is a batch of results, and all that is left is to give it out (`Batch.runs`); whatever goes
wrong there is a defect, and what does not go wrong leaves exactly the files of the results behind
(`run_allOrNothing`).
-/

import ContractClient.Proofs.CommandLine.Remarks
import ContractClient.Proofs.Files.Effects
import ContractClient.Proofs.Generation.Outputs

namespace ContractClient

/-! ### Batches -/

/-- A batch that a run generates: the settings and the input file are read, the contracts are
loaded, the wanted ones are among them, and every one of these is generated. -/
structure Batch (compiler : Compiler) (arguments : Arguments) (tree : FileTree) where
  text : String
  options : Options
  warned : String
  loaded : List Contract
  session : Session
  selected : List Contract
  results : List Generated
  told : Collector
  isInput : tree.fileAt (.ofText arguments.input) = .ok (some text)
  settings : runOptions tree arguments = .ok (options, warned)
  loads : loadContracts compiler options (Path.ofText arguments.input).text text
    (.start (.keeping [])) = (.ok loaded, session)
  selects : selectContracts loaded (arguments.contracts.map SwitchValue.json) = .ok selected
  generates : generateAll options selected session.collector = (.ok results, told)

section

variable {compiler : Compiler} {arguments : Arguments} {tree : FileTree}

namespace Batch

/-- What is printed before there are results. -/
def remarks (batch : Batch compiler arguments tree) : String :=
  batch.warned ++ batch.session.printed

theorem onlyRemarks (batch : Batch compiler arguments tree) : Remarks batch.remarks :=
  remarks_of_loads batch.settings batch.loads

/-- The texts of the client modules, one after the other. -/
def clientTexts (batch : Batch compiler arguments tree) : String :=
  String.join (batch.results.map (·.client))

/-- The files of the results. -/
def files (batch : Batch compiler arguments tree) : List (Path × String) :=
  batch.results.flatMap (outputFiles (outputDirectory arguments (.ofText arguments.input)))

/-- How the run ends, with all that it leaves behind. -/
def outcome (batch : Batch compiler arguments tree) : Outcome :=
  match deliver arguments (.ofText arguments.input) tree batch.results with
  | (.error fault, after, more) =>
    ⟨(faultEnding fault).1, batch.remarks ++ more, (faultEnding fault).2, after,
      batch.session.calls⟩
  | (.ok (), after, more) =>
    ⟨.code 0, batch.remarks ++ more, summaryReport arguments.verbose batch.told.notices, after,
      batch.session.calls⟩

end Batch

/-! ### Runs -/

theorem generateFile_run (options : Options) (path text : String) (selected : List SwitchValue)
    (start : Session) :
    generateFile compiler options path text selected start =
      match loadContracts compiler options path text start with
      | (.error fault, session) => (.error fault, session)
      | (.ok loaded, session) =>
        match selectContracts loaded (selected.map SwitchValue.json) with
        | .error fault => (.error fault, session)
        | .ok contracts =>
          ((generateAll options contracts session.collector).1,
            { session with
              collector := (generateAll options contracts session.collector).2 }) := by
  unfold generateFile
  rw [bind_run]
  cases loadContracts compiler options path text start with
  | mk ended session =>
    cases ended with
    | error fault => rfl
    | ok loaded =>
      dsimp only
      cases selectContracts loaded (selected.map SwitchValue.json) with
      | error fault => rfl
      | ok contracts =>
        dsimp only
        show (liftM (generateAll options contracts session.collector).1 :
          Loading (List Generated)) _ = _
        cases generateAll options contracts session.collector with
        | mk ended told => cases ended <;> rfl

/-- Once there is a batch, the run gives it out. -/
theorem Batch.runs (batch : Batch compiler arguments tree) :
    runArguments compiler arguments tree = batch.outcome := by
  unfold runArguments
  rw [batch.isInput]
  dsimp only
  unfold runFile
  rw [batch.settings]
  dsimp only
  rw [generateFile_run, batch.loads]
  dsimp only
  rw [batch.selects]
  dsimp only
  rw [batch.generates]
  rfl

/-- The run has stopped without results: the files are as they were, and nothing but remarks is
printed. -/
structure Stopped (tree : FileTree) (outcome : Outcome) : Prop where
  untouched : outcome.tree = tree
  remarks : Remarks outcome.stdout
  fails : outcome.ending ≠ .code 0

theorem faultEnding_ne_zero (fault : Fault) : (faultEnding fault).1 ≠ .code 0 := by
  cases fault <;> exact nofun

theorem Stopped.of_fault {printed : String} (remarks : Remarks printed) (fault : Fault)
    (calls : List CompilerCall) :
    Stopped tree ⟨(faultEnding fault).1, printed, (faultEnding fault).2, tree, calls⟩ :=
  ⟨rfl, remarks, faultEnding_ne_zero fault⟩

/-- A run on a file whose settings are read has a batch, or stops. -/
theorem batch_or_stopped_of_settings {text warned : String} {options : Options}
    (isInput : tree.fileAt (.ofText arguments.input) = .ok (some text))
    (settings : runOptions tree arguments = .ok (options, warned)) :
    Nonempty (Batch compiler arguments tree) ∨
      Stopped tree (runFile compiler arguments tree text) := by
  unfold runFile
  rw [settings]
  dsimp only
  rw [generateFile_run]
  cases loads : loadContracts compiler options (Path.ofText arguments.input).text text
    (.start (.keeping [])) with
  | mk ended session =>
    have remarks := remarks_of_loads settings loads
    cases ended with
    | error fault => exact .inr (.of_fault remarks fault session.calls)
    | ok loaded =>
      dsimp only
      cases selects : selectContracts loaded (arguments.contracts.map SwitchValue.json) with
      | error fault => exact .inr (.of_fault remarks fault session.calls)
      | ok selected =>
        dsimp only
        cases generates : generateAll options selected session.collector with
        | mk ended told =>
          cases ended with
          | error fault => exact .inr (.of_fault remarks fault session.calls)
          | ok results =>
            exact .inl ⟨⟨text, options, warned, loaded, session, selected, results, told,
              isInput, settings, loads, selects, generates⟩⟩

/-- A run has a batch to give out, or it stops without results. -/
theorem nonempty_batch_or_stopped :
    Nonempty (Batch compiler arguments tree) ∨
      Stopped tree (runArguments compiler arguments tree) := by
  unfold runArguments
  cases isInput : tree.fileAt (.ofText arguments.input) with
  | error fault => exact .inr (.of_fault .none fault [])
  | ok found =>
    cases found with
    | none => exact .inr ⟨rfl, .none, nofun⟩
    | some text =>
      dsimp only
      cases settings : runOptions tree arguments with
      | error fault =>
        unfold runFile
        rw [settings]
        exact .inr (.of_fault .none fault [])
      | ok given => exact batch_or_stopped_of_settings isInput settings

/-! ### Giving results out -/

theorem deliver_failsByDefect (arguments : Arguments) (input : Path) (tree : FileTree)
    (results : List Generated) :
    FailsByDefect (deliver arguments input tree results).1 := by
  unfold deliver
  split
  · exact .ok ()
  · exact writeResults_failsByDefect tree _ results

/-- A batch that could not be given out ends the run by a defect. -/
theorem Batch.outcome_ne_one (batch : Batch compiler arguments tree) :
    batch.outcome.ending ≠ .code 1 := by
  have fails := deliver_failsByDefect arguments (.ofText arguments.input) tree batch.results
  unfold outcome
  split
  · rename_i ends
    rw [ends] at fails
    obtain ⟨cause, rfl⟩ := fails _ rfl
    exact nofun
  · exact nofun

/-- The results are given out well: they are printed, or all their files can be written. -/
def Batch.Delivers (batch : Batch compiler arguments tree) : Prop :=
  (deliver arguments (.ofText arguments.input) tree batch.results).1 = .ok ()

/-- A batch that is to be printed is always given out well. -/
theorem Batch.delivers_of_stdout (batch : Batch compiler arguments tree)
    (prints : arguments.stdout = true) : batch.Delivers := by
  unfold Delivers deliver
  rw [if_pos prints]

/-- A batch that is given out well ends the run well. -/
theorem Batch.outcome_of_delivers (batch : Batch compiler arguments tree)
    (delivers : batch.Delivers) : batch.outcome.ending = .code 0 := by
  unfold Delivers at delivers
  unfold outcome
  split
  · rename_i fails
    rw [fails] at delivers
    cases delivers
  · rfl

/-- Where the clients are to be printed, they are, and no file changes. -/
theorem Batch.outcome_of_stdout (batch : Batch compiler arguments tree)
    (prints : arguments.stdout = true) :
    batch.outcome.tree = tree ∧ batch.outcome.stdout = batch.remarks ++ batch.clientTexts := by
  unfold outcome deliver
  rw [if_pos prints]
  exact ⟨rfl, rfl⟩

/-- Where the results are to be written and the run ends well, their files have been written, and
nothing else has changed. -/
theorem Batch.outcome_of_files (batch : Batch compiler arguments tree)
    (writes : arguments.stdout = false) (ends : batch.outcome.ending = .code 0) :
    tree.Delivered batch.files batch.outcome.tree ∧
      batch.outcome.stdout =
        batch.remarks ++ String.join (batch.files.map fun file => FileTree.writtenLine file.1) := by
  have areNames := areIdentifiers (generateBatch_named batch.generates).1
  have notNull := destinations_notNull areNames tree
    (outputDirectory arguments (.ofText arguments.input))
  unfold outcome at ends ⊢
  split
  · rename_i fault _ _ fails
    rw [fails] at ends
    exact (faultEnding_ne_zero fault ends).elim
  · rename_i delivered
    rw [deliver, if_neg (Bool.eq_false_iff.mp writes)] at delivered
    obtain ⟨isDelivered, rfl⟩ := FileTree.writeResults_delivers notNull delivered
    exact ⟨isDelivered, rfl⟩

/-! ### All or nothing -/

/-- The outcome of a run is all or nothing.

If it ends with the code one, there is no batch, and neither a file is changed nor anything printed
but remarks. If anything in the tree is changed at all, there is a batch that was to be written. A
batch that is given out well ends it with the code zero. And if it ends with the code zero, there is
a batch: its clients have been printed, one after the other, or its files have been written, and
nothing else in the tree is changed. -/
structure AllOrNothing (compiler : Compiler) (arguments : Arguments) (tree : FileTree)
    (outcome : Outcome) : Prop where
  fails : outcome.ending = .code 1 →
    ¬Nonempty (Batch compiler arguments tree) ∧ outcome.tree = tree ∧ Remarks outcome.stdout
  changes : outcome.tree ≠ tree →
    Nonempty (Batch compiler arguments tree) ∧ arguments.stdout = false
  succeeds : ∀ batch : Batch compiler arguments tree, arguments.stdout = true ∨ batch.Delivers →
    outcome.ending = .code 0
  prints : outcome.ending = .code 0 → arguments.stdout = true →
    ∃ batch : Batch compiler arguments tree, outcome.tree = tree ∧
      Remarks batch.remarks ∧ outcome.stdout = batch.remarks ++ batch.clientTexts
  writes : outcome.ending = .code 0 → arguments.stdout = false →
    ∃ batch : Batch compiler arguments tree, tree.Delivered batch.files outcome.tree ∧
      Remarks batch.remarks ∧
      outcome.stdout =
        batch.remarks ++ String.join (batch.files.map fun file => FileTree.writtenLine file.1)

theorem Batch.allOrNothing (batch : Batch compiler arguments tree) :
    AllOrNothing compiler arguments tree batch.outcome := by
  constructor
  case fails => exact fun ends => (batch.outcome_ne_one ends).elim
  case changes =>
    intro changes
    refine ⟨⟨batch⟩, Bool.eq_false_iff.mpr fun prints => ?_⟩
    exact changes (batch.outcome_of_stdout prints).1
  case succeeds =>
    intro other givenOut
    rw [← batch.runs, other.runs]
    exact other.outcome_of_delivers (givenOut.elim other.delivers_of_stdout id)
  case prints =>
    intro _ prints
    obtain ⟨untouched, printed⟩ := batch.outcome_of_stdout prints
    exact ⟨batch, untouched, batch.onlyRemarks, printed⟩
  case writes =>
    intro ends writes
    obtain ⟨isDelivered, printed⟩ := batch.outcome_of_files writes ends
    exact ⟨batch, isDelivered, batch.onlyRemarks, printed⟩

theorem Stopped.allOrNothing {outcome : Outcome} (stopped : Stopped tree outcome)
    (noBatch : ¬Nonempty (Batch compiler arguments tree)) :
    AllOrNothing compiler arguments tree outcome :=
  ⟨fun _ => ⟨noBatch, stopped.untouched, stopped.remarks⟩,
    fun changes => (changes stopped.untouched).elim,
    fun batch => (noBatch ⟨batch⟩).elim,
    fun ends => (stopped.fails ends).elim,
    fun ends => (stopped.fails ends).elim⟩

theorem runArguments_allOrNothing :
    AllOrNothing compiler arguments tree (runArguments compiler arguments tree) := by
  by_cases hasBatch : Nonempty (Batch compiler arguments tree)
  · obtain ⟨batch⟩ := hasBatch
    rw [batch.runs]
    exact batch.allOrNothing
  · exact (nonempty_batch_or_stopped.resolve_left hasBatch).allOrNothing hasBatch

end

/-- For every list of arguments, every compiler and every tree of files, a run whose arguments can
be read is all or nothing; no other run begins. -/
theorem run_allOrNothing (compiler : Compiler) (given : List String) (tree : FileTree) :
    match readArguments given with
    | .error stop => run compiler given tree = .error stop
    | .ok arguments =>
      ∃ outcome, run compiler given tree = .ok outcome ∧
        AllOrNothing compiler arguments tree outcome := by
  unfold run
  cases readArguments given with
  | error stop => rfl
  | ok arguments => exact ⟨_, rfl, runArguments_allOrNothing⟩

/-! ### A contract that spoils a batch -/

/-- A compiler that gives two contracts, the second one with the given ABI. -/
def pairCompiler (abi : Json) : Compiler :=
  { installed := []
    installFailure := none
    answer := .output (.object [("contracts", .object [("Pair.sol", .object [
      ("First", .object [("abi", .array [])]), ("Second", .object [("abi", abi)])])])]) }

/-- A directory with one source file in it. -/
def pairTree : FileTree :=
  .ofFiles 3 [(.ofText "Pair.sol", "contract First")]

/-- Whether the run ends with the code. -/
def endsWithCode (code : Nat) : Except Stop Outcome → Bool
  | .ok outcome => outcome.ending = .code code
  | .error _ => false

/-- Where the second contract has no ABI, nothing is written for the first one either; where it has
one, the clients of both are printed on demand. -/
theorem pair_allOrNothing :
    (∃ outcome, run (pairCompiler .null) ["Pair.sol"] pairTree = .ok outcome ∧
        outcome.ending = .code 1 ∧ outcome.tree = pairTree) ∧
      ∃ arguments outcome,
        run (pairCompiler (.array [])) ["Pair.sol", "--stdout"] pairTree = .ok outcome ∧
          outcome.ending = .code 0 ∧ outcome.tree = pairTree ∧
          ∃ batch : Batch (pairCompiler (.array [])) arguments pairTree,
            outcome.stdout = batch.remarks ++ batch.clientTexts := by
  constructor
  case left =>
    have reads : readArguments ["Pair.sol"] =
        .ok ⟨"Pair.sol", none, false, none, .text standardConfig, [], false⟩ := by rfl
    have allOrNothing := run_allOrNothing (pairCompiler .null) ["Pair.sol"] pairTree
    rw [reads] at allOrNothing
    obtain ⟨outcome, runs, allOrNothing⟩ := allOrNothing
    have ends : endsWithCode 1 (run (pairCompiler .null) ["Pair.sol"] pairTree) := by
      decide +kernel
    rw [runs] at ends
    have ends := of_decide_eq_true ends
    exact ⟨outcome, runs, ends, (allOrNothing.fails ends).2.1⟩
  case right =>
    have reads : readArguments ["Pair.sol", "--stdout"] =
        .ok ⟨"Pair.sol", none, true, none, .text standardConfig, [], false⟩ := by rfl
    have allOrNothing := run_allOrNothing (pairCompiler (.array [])) ["Pair.sol", "--stdout"]
      pairTree
    rw [reads] at allOrNothing
    obtain ⟨outcome, runs, allOrNothing⟩ := allOrNothing
    have ends : endsWithCode 0
        (run (pairCompiler (.array [])) ["Pair.sol", "--stdout"] pairTree) := by
      decide +kernel
    rw [runs] at ends
    have ends := of_decide_eq_true ends
    obtain ⟨batch, untouched, _, printed⟩ := allOrNothing.prints ends rfl
    exact ⟨_, outcome, runs, ends, untouched, batch, printed⟩

end ContractClient
