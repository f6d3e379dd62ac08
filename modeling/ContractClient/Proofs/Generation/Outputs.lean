/-
This file says which files a batch of contracts is written to. The results bear the names of the
contracts, which are identifiers and differ (`generateBatch_named`). Each of them has three files
directly in the directory; these are those of no other result exactly if no name is another one with
the ending of the ABI or of the bytecode behind it (`flatMap_fileNames_nodup_iff`).

Where the files differ, every one of them holds its own text once all are written
(`accepted_outputs`). Names alone do not keep them apart: the ABI of `Token` and the client of
`TokenAbi` are written to the same file (`tokenAbi_overwrites`).
-/

import ContractClient.Proofs.Abi.Reading
import ContractClient.Proofs.Files.Writing
import Mathlib.Data.List.Nodup
import Mathlib.Data.List.Pairwise

namespace ContractClient

/-! ### Names of files -/

/-- The names of the files for a contract, without the suffix that all files have. -/
def fileStems (name : String) : List String :=
  [name, name ++ "Abi", name ++ "Bytecode"]

/-- The names of the files for a contract. -/
def fileNames (name : String) : List String :=
  (fileStems name).map fun stem => stem ++ ".ts"

/-- The first name is the other one with the ending of its ABI or of its bytecode. -/
def Extends (name other : String) : Prop :=
  name = other ++ "Abi" ∨ name = other ++ "Bytecode"

theorem fileNames_eq (name : String) :
    fileNames name = [name ++ ".ts", name ++ "Abi.ts", name ++ "Bytecode.ts"] := by
  simp only [fileNames, fileStems, List.map_cons, List.map_nil, String.append_assoc]
  rfl

theorem withSuffix_injective : Function.Injective fun stem : String => stem ++ ".ts" :=
  fun _ _ same => (String.append_left_inj ".ts").mp same

theorem append_ne_self (name : String) {ending : String} (notEmpty : ending ≠ "") :
    name ≠ name ++ ending := by
  intro same
  exact notEmpty ((String.append_right_inj name).mp (same.symm.trans String.append_empty.symm))

theorem not_extends_self (name : String) : ¬Extends name name := by
  rintro (same | same)
  · exact append_ne_self name (by decide) same
  · exact append_ne_self name (by decide) same

/-- The ABI of one contract and the bytecode of another are never in one file. -/
theorem abi_ne_bytecode (name other : String) : name ++ "Abi" ≠ other ++ "Bytecode" := by
  intro same
  have sameEnd := congrArg (fun stem => stem.toList.getLast?) same
  simp at sameEnd

theorem fileNames_nodup (name : String) : (fileNames name).Nodup := by
  refine List.Nodup.map withSuffix_injective ?_
  simp [fileStems, append_ne_self name]

/-- Two contracts have no file in common exactly if neither name extends the other. -/
theorem disjoint_fileNames_iff {name other : String} (differs : name ≠ other) :
    (fileNames name).Disjoint (fileNames other) ↔ ¬Extends name other ∧ ¬Extends other name := by
  have sameEnding : ∀ ending, name ++ ending ≠ other ++ ending :=
    fun ending same => differs ((String.append_left_inj ending).mp same)
  have shared : (∃ stem ∈ fileStems name, stem ∈ fileStems other) ↔
      Extends name other ∨ Extends other name := by
    simp only [fileStems, List.exists_mem_cons_iff]
    simp only [List.mem_cons, List.not_mem_nil, false_and, exists_false, or_false, false_or,
      differs, sameEnding, abi_ne_bytecode name other, (abi_ne_bytecode other name).symm, Extends,
      eq_comm (a := name ++ "Abi"), eq_comm (a := name ++ "Bytecode")]
  rw [fileNames, fileNames, List.Disjoint.map_iff withSuffix_injective, ← not_or, ← shared]
  exact ⟨fun apart ⟨stem, isStem, isOther⟩ => apart isStem isOther,
    fun unshared stem isStem isOther => unshared ⟨stem, isStem, isOther⟩⟩

theorem flatMap_fileNames_nodup_iff {names : List String} (distinct : names.Nodup) :
    (names.flatMap fileNames).Nodup ↔
      ∀ name ∈ names, ∀ other ∈ names, ¬Extends name other := by
  rw [List.nodup_flatMap]
  constructor
  · rintro ⟨_, apart⟩ name isName other isOther
    by_cases same : name = other
    · exact same ▸ not_extends_self name
    · have symmetric : Std.Symm (Function.onFun List.Disjoint fileNames) :=
        ⟨fun _ _ isApart _ isFirst isSecond => isApart isSecond isFirst⟩
      have disjoint := apart.forall isName isOther same
      exact ((disjoint_fileNames_iff same).mp disjoint).1
  · intro free
    refine ⟨fun name _ => fileNames_nodup name, distinct.pairwise_of_forall_ne ?_⟩
    intro name isName other isOther differs
    exact (disjoint_fileNames_iff differs).mpr
      ⟨free name isName other isOther, free other isOther name isName⟩

/-! ### Paths of files -/

/-- The path of what bears a name in the directory that a path leads to. -/
def Path.child (directory : Path) (name : String) : Path :=
  { directory with parts := directory.parts ++ [name] }

theorem Path.child_injective {directory : Path} {first second : String}
    (same : directory.child first = directory.child second) : first = second :=
  List.singleton_inj.mp (List.append_cancel_left (congrArg Path.parts same))

/-- The text names one file in a directory: it holds no slash and is no name of a directory. -/
structure IsFileName (name : String) : Prop where
  noSlash : '/' ∉ name.toList
  plain : heldMark ∉ name.toList
  notEmpty : name ≠ ""
  notDot : name ≠ "."
  notDots : name ≠ ".."
  notNull : name ≠ "null"

theorem splitSlashes_of_noSlash {characters : List Char} (noSlash : '/' ∉ characters) :
    Path.splitSlashes characters = [characters] := by
  induction characters with
  | nil => rfl
  | cons first rest inductionHypothesis =>
    obtain ⟨notFirst, noSlash⟩ := not_or.mp (mt List.mem_cons.mpr noSlash)
    rw [Path.splitSlashes, inductionHypothesis noSlash]
    exact fun isSlash => notFirst isSlash.symm

theorem rootOf_of_noSlash {characters : List Char} (noSlash : '/' ∉ characters) :
    Path.rootOf characters = "" := by
  unfold Path.rootOf
  split
  · exact (noSlash List.mem_cons_self).elim
  · exact (noSlash List.mem_cons_self).elim
  · exact (noSlash List.mem_cons_self).elim
  · rfl

/-- A directory continued by the name of a file is the path of that file. -/
theorem Path.append_ofText {name : String} (isFileName : IsFileName name) (directory : Path) :
    directory.append (.ofText name) = directory.child name := by
  have root : (Path.ofText name).root = "" := rootOf_of_noSlash isFileName.noSlash
  have parts : (Path.ofText name).parts = [name] := by
    rw [Path.ofText, splitSlashes_of_noSlash isFileName.noSlash, List.map_singleton,
      String.ofList_toList, List.filter_cons_of_pos, List.filter_nil]
    simp [isFileName.notEmpty, isFileName.notDot]
  rw [Path.append, root, parts]
  rfl

theorem FileTree.destination_child {name : String} (isFileName : IsFileName name)
    (tree : FileTree) (directory : Path) :
    tree.destination (directory.child name) =
      tree.destination directory ++ [listedName name] := by
  have step : ∀ place : Place, tree.reach place [name] = place ++ [listedName name] := by
    intro place
    rw [reach, if_neg (not_or.mpr ⟨isFileName.notEmpty, isFileName.notDot⟩), stepInto,
      if_neg isFileName.notDots]
    rfl
  exact (tree.reach_append _ directory.parts [name]).trans (step _)

/-! ### Names that are identifiers -/

/-- An identifier holds no character that can stand in none. -/
theorem not_mem_of_isIdentifier {name : String} (isName : isIdentifier name) {character : Char}
    (notStart : isIdentifierStart character = false)
    (notContinue : isIdentifierContinue character = false) : character ∉ name.toList := by
  intro isMember
  unfold isIdentifier isIdentifierChars at isName
  split at isName
  · cases isName
  · rename_i first rest characters
    rw [characters] at isMember
    rw [Bool.and_eq_true, List.all_eq_true] at isName
    rcases List.mem_cons.mp isMember with rfl | isLater
    · rw [notStart] at isName
      cases isName.1
    · have continues := isName.2 character isLater
      rw [notContinue] at continues
      cases continues

/-- An identifier with the ending of a file is the name of a file. -/
theorem isFileName_of_isIdentifier {name file : String} (isName : isIdentifier name)
    (isFile : file ∈ fileNames name) : IsFileName file := by
  have endings : ∀ ending ∈ [".ts", "Abi.ts", "Bytecode.ts"], '/' ∉ ending.toList ∧
      heldMark ∉ ending.toList ∧ ending.toList.getLast? = some 's' := by decide +kernel
  obtain ⟨ending, isEnding, rfl⟩ :
      ∃ ending ∈ [".ts", "Abi.ts", "Bytecode.ts"], name ++ ending = file := by
    rw [fileNames_eq] at isFile
    exact List.mem_map.mp isFile
  obtain ⟨noSlash, plain, last⟩ := endings ending isEnding
  have slash : '/' ∉ name.toList :=
    not_mem_of_isIdentifier isName (by decide +kernel) (by decide +kernel)
  have mark : heldMark ∉ name.toList :=
    not_mem_of_isIdentifier isName (by decide +kernel) (by decide +kernel)
  -- All endings have one last character, and none of the names to be ruled out has it.
  have lastOf : (name ++ ending).toList.getLast? = some 's' := by
    rw [String.toList_append, List.getLast?_append, last]
    rfl
  have differs : ∀ other : String, other.toList.getLast? ≠ some 's' → name ++ ending ≠ other := by
    rintro other differsLast rfl
    exact differsLast lastOf
  refine ⟨?noSlash, ?plain, differs _ (by decide), differs _ (by decide), differs _ (by decide),
    differs _ (by decide)⟩
  case noSlash =>
    rw [String.toList_append, List.mem_append]
    exact not_or.mpr ⟨slash, noSlash⟩
  case plain =>
    rw [String.toList_append, List.mem_append]
    exact not_or.mpr ⟨mark, plain⟩

/-! ### Batches -/

/-- The result is that of the contract: it bears its name, which is an identifier. -/
def Generated.IsOf (contract : Contract) (result : Generated) : Prop :=
  contract.name = .text result.name ∧ isIdentifier result.name

theorem areIdentifiers {contracts : List Contract} {results : List Generated}
    (areOf : List.Forall₂ Generated.IsOf contracts results) :
    ∀ result ∈ results, isIdentifier result.name := by
  induction areOf with
  | nil => exact nofun
  | cons isOf _ inductionHypothesis =>
    exact List.forall_mem_cons.mpr ⟨isOf.2, inductionHypothesis⟩

theorem requireContractName_eq_ok {name : Json} {text : String}
    (named : requireContractName name = .ok text) : name = .text text ∧ isIdentifier text := by
  unfold requireContractName at named
  split at named
  · cases named
  · split at named
    · split at named
      · rename_i isName
        obtain rfl := Except.ok.inj named
        exact ⟨rfl, isName⟩
      · cases named
    · cases named

/-- A client is generated exactly if the ABI can be read and the module can be put together. -/
theorem generateClient_eq_ok_iff {options : Options} {name text : String} {abi : Json}
    {collector told : Collector} :
    generateClient options name abi collector = (.ok text, told) ↔
      ∃ members listening, readAbi (.text name) abi collector = (.ok members, listening) ∧
        assembleModule (.text name) members options.style listening = (.ok text, told) := by
  unfold generateClient
  cases readAbi (.text name) abi collector with
  | mk read listening => cases read <;> simp

/-- A contract is accepted exactly if it has a name, a client and the other two modules. -/
theorem generate_eq_ok_iff {options : Options} {contract : Contract} {collector told : Collector}
    {result : Generated} :
    generate options contract collector = (.ok result, told) ↔
      requireContractName contract.name = .ok result.name ∧
        generateClient options result.name contract.abi collector = (.ok result.client, told) ∧
        packageAbi contract.abi = .ok result.abi ∧
        packageBytecode contract.bytecode = .ok result.bytecode := by
  unfold generate
  cases requireContractName contract.name with
  | error fault => simp
  | ok name =>
    dsimp only
    constructor
    · intro accepts
      obtain ⟨ends, isTold⟩ := Prod.mk.inj accepts
      obtain ⟨client, isClient, ends⟩ := exists_of_bind_eq_ok ends
      obtain ⟨abi, isAbi, ends⟩ := exists_of_bind_eq_ok ends
      obtain ⟨bytecode, isBytecode, ends⟩ := exists_of_bind_eq_ok ends
      obtain rfl := Except.ok.inj ends
      exact ⟨rfl, Prod.ext isClient isTold, isAbi, isBytecode⟩
    · rintro ⟨named, isClient, isAbi, isBytecode⟩
      obtain rfl := Except.ok.inj named
      rw [isClient, isAbi, isBytecode]
      rfl

theorem generate_isOf {options : Options} {contract : Contract} {collector told : Collector}
    {result : Generated} (generates : generate options contract collector = (.ok result, told)) :
    result.IsOf contract :=
  requireContractName_eq_ok (generate_eq_ok_iff.mp generates).1

/-- The results of a batch are those of the contracts in their order, and their names differ from
one another and from the names known before. -/
theorem generateBatch_named {options : Options} {known : List String} {contracts : List Contract}
    {collector told : Collector} {results : List Generated}
    (accepts : generateBatch options known contracts collector = (.ok results, told)) :
    List.Forall₂ Generated.IsOf contracts results ∧
      (results.map (·.name)).Nodup ∧ ∀ result ∈ results, result.name ∉ known := by
  induction contracts generalizing known collector told results with
  | nil =>
    obtain rfl := Except.ok.inj (congrArg Prod.fst accepts)
    exact ⟨.nil, .nil, nofun⟩
  | cons contract rest inductionHypothesis =>
    rw [generateBatch] at accepts
    split at accepts
    · cases congrArg Prod.fst accepts
    · rename_i isNew
      split at accepts
      · cases congrArg Prod.fst accepts
      · rename_i result between generates
        cases others : generateBatch options (result.name :: known) rest between with
        | mk ended last =>
          rw [others] at accepts
          cases ended with
          | error fault => cases congrArg Prod.fst accepts
          | ok found =>
            obtain rfl := Except.ok.inj (congrArg Prod.fst accepts)
            obtain ⟨areOf, distinct, fresh⟩ := inductionHypothesis others
            have isOf := generate_isOf generates
            have isFirst : result.name ∉ known := by
              rw [isOf.1, requireNewName] at isNew
              split at isNew
              · cases isNew
              · rename_i unknown
                exact fun isKnown => unknown (List.contains_iff_mem.mpr isKnown)
            -- The name is known to the rest of the batch, so no later result bears it.
            refine ⟨.cons isOf areOf, List.nodup_cons.mpr ⟨?_, distinct⟩, ?_⟩
            · intro isLater
              obtain ⟨other, isOther, same⟩ := List.mem_map.mp isLater
              exact fresh other isOther (same ▸ List.mem_cons_self)
            · refine List.forall_mem_cons.mpr ⟨isFirst, fun other isOther isKnown => ?_⟩
              exact fresh other isOther (List.mem_cons_of_mem _ isKnown)

/-! ### Output files -/

section

variable {results : List Generated}

/-- The names of the files for results, in their order. -/
def batchFileNames (results : List Generated) : List String :=
  (results.map (·.name)).flatMap fileNames

/-- Each of the files lies directly in the directory. -/
theorem map_outputFiles (areNames : ∀ result ∈ results, isIdentifier result.name)
    (directory : Path) :
    (results.flatMap (outputFiles directory)).map (·.1) =
      (batchFileNames results).map directory.child := by
  have one : ∀ result ∈ results,
      (outputFiles directory result).map (·.1) = (fileNames result.name).map directory.child := by
    intro result isResult
    have inDirectory : ∀ file ∈ fileNames result.name,
        directory.append (.ofText file) = directory.child file := fun file isFile =>
      Path.append_ofText (isFileName_of_isIdentifier (areNames result isResult) isFile) directory
    rw [← List.map_congr_left inDirectory, fileNames_eq]
    rfl
  rw [batchFileNames, List.map_flatMap, List.map_flatMap, List.flatMap_map]
  exact List.flatMap_congr one

theorem batchFileNames_are (areNames : ∀ result ∈ results, isIdentifier result.name) :
    ∀ name ∈ batchFileNames results, IsFileName name := by
  intro name isName
  obtain ⟨own, isOwn, isFile⟩ := List.mem_flatMap.mp isName
  obtain ⟨result, isResult, rfl⟩ := List.mem_map.mp isOwn
  exact isFileName_of_isIdentifier (areNames result isResult) isFile

/-- No file of a result lies in the place of the device. -/
theorem destinations_notNull (areNames : ∀ result ∈ results, isIdentifier result.name)
    (tree : FileTree) (directory : Path) :
    ∀ file ∈ results.flatMap (outputFiles directory),
      tree.destination file.1 ≠ FileTree.nullPlace := by
  have areFileNames := batchFileNames_are areNames
  intro file isFile isNull
  have isPath : file.1 ∈ (batchFileNames results).map directory.child := by
    rw [← map_outputFiles areNames directory]
    exact List.mem_map_of_mem isFile
  obtain ⟨name, isName, same⟩ := List.mem_map.mp isPath
  rw [← same, FileTree.destination_child (areFileNames name isName)] at isNull
  have sameName : listedName name = "null" := by
    have last := congrArg List.getLast? isNull
    rw [List.getLast?_concat] at last
    exact Option.some.inj last
  have nullName : listedName "null" = "null" := by decide +kernel
  exact (areFileNames name isName).notNull (listedName_injective
    (areFileNames name isName).plain (by decide) (sameName.trans nullName.symm))

/-- Files with names of their own lie in places of their own, none of which is the device's. -/
theorem destinations_apart (areNames : ∀ result ∈ results, isIdentifier result.name)
    (distinct : (batchFileNames results).Nodup) (tree : FileTree) (directory : Path) :
    ((results.flatMap (outputFiles directory)).map fun file =>
        tree.destination file.1).Nodup ∧
      ∀ file ∈ results.flatMap (outputFiles directory),
        tree.destination file.1 ≠ FileTree.nullPlace := by
  have areFileNames := batchFileNames_are areNames
  have places : ∀ name ∈ batchFileNames results, tree.destination (directory.child name) =
      tree.destination directory ++ [listedName name] :=
    fun name isName => FileTree.destination_child (areFileNames name isName) tree directory
  constructor
  case left =>
    have inPlaces := congrArg (List.map tree.destination) (map_outputFiles areNames directory)
    rw [List.map_map, List.map_map] at inPlaces
    show ((results.flatMap (outputFiles directory)).map (tree.destination ∘ Prod.fst)).Nodup
    rw [inPlaces]
    refine distinct.map_on fun first isFirst second isSecond same => ?_
    rw [Function.comp, Function.comp, places first isFirst, places second isSecond] at same
    exact listedName_injective (areFileNames first isFirst).plain
      (areFileNames second isSecond).plain (List.singleton_inj.mp (List.append_cancel_left same))
  case right => exact destinations_notNull areNames tree directory

end

/-- For every batch that is accepted and every directory, the results are those of the contracts.
Their files, three for each contract, lie directly in the directory. They differ from one another
exactly if no name extends another one, and if they do, each of them holds its text once all are
written. -/
theorem accepted_outputs {options : Options} {contracts : List Contract}
    {collector told : Collector} {results : List Generated}
    (accepts : generateAll options contracts collector = (.ok results, told))
    (directory : Path) :
    let files := results.flatMap (outputFiles directory)
    List.Forall₂ Generated.IsOf contracts results ∧
      files.length = 3 * contracts.length ∧
      (∀ file ∈ files, ∃ name, IsFileName name ∧ file.1 = directory.child name) ∧
      ((files.map (·.1)).Nodup ↔
        ∀ result ∈ results, ∀ other ∈ results, ¬Extends result.name other.name) ∧
      ((files.map (·.1)).Nodup → ∀ (tree after : FileTree) (printed : String),
        writeResults tree directory results = (.ok (), after, printed) →
          ∀ file ∈ files, after.fileAt file.1 = .ok (some file.2)) := by
  intro files
  obtain ⟨areOf, distinct, _⟩ := generateBatch_named accepts
  have areNames := areIdentifiers areOf
  have paths : files.map (·.1) = (batchFileNames results).map directory.child :=
    map_outputFiles areNames directory
  have distinctPaths : (files.map (·.1)).Nodup ↔ (batchFileNames results).Nodup := by
    rw [paths]
    exact List.nodup_map_iff fun _ _ same => Path.child_injective same
  refine ⟨areOf, ?length, ?inside, ?apart, ?held⟩
  case length =>
    rw [areOf.length_eq]
    simp [files, List.length_flatMap, outputFiles, Nat.mul_comm]
  case inside =>
    intro file isFile
    have isPath : file.1 ∈ (batchFileNames results).map directory.child :=
      paths ▸ List.mem_map_of_mem isFile
    obtain ⟨name, isName, same⟩ := List.mem_map.mp isPath
    exact ⟨name, batchFileNames_are areNames name isName, same.symm⟩
  case apart =>
    rw [distinctPaths, batchFileNames, flatMap_fileNames_nodup_iff distinct]
    simp only [List.forall_mem_map]
  case held =>
    intro differ tree after printed writes file isFile
    rw [writeResults] at writes
    split at writes
    · cases congrArg Prod.fst writes
    · rename_i made _
      obtain ⟨placesDiffer, notNull⟩ :=
        destinations_apart areNames (distinctPaths.mp differ) made directory
      exact (FileTree.writeFiles_holds placesDiffer notNull writes file isFile).fileAt

/-- A contract of the given name, with nothing in it. -/
def emptyContract (name : String) : Contract :=
  ⟨.text name, .array [], .text "0x"⟩

/-- The six files of two contracts whose names have nothing to do with one another differ. -/
theorem separate_outputs :
    ∃ (results : List Generated) (told : Collector),
      generateAll .standard [emptyContract "Token", emptyContract "Vault"] .absent =
          (.ok results, told) ∧
        (results.flatMap (outputFiles (.ofText "out"))).length = 6 ∧
        ((results.flatMap (outputFiles (.ofText "out"))).map (·.1)).Nodup := by
  have ends : endsWell (fun results _ => decide (results.map (·.name) = ["Token", "Vault"]))
      (generateAll .standard [emptyContract "Token", emptyContract "Vault"] .absent) := by
    decide +kernel
  obtain ⟨results, told, accepts, named⟩ := exists_of_endsWell ends
  obtain ⟨_, three, _, apart, _⟩ := accepted_outputs accepts (.ofText "out")
  refine ⟨results, told, accepts, three, apart.mpr ?_⟩
  have free : ∀ name ∈ results.map (·.name), ∀ other ∈ results.map (·.name),
      ¬Extends name other := by
    rw [of_decide_eq_true named]
    unfold Extends
    decide +kernel
  simpa only [List.forall_mem_map] using free

/-- A batch of `Token` and `TokenAbi` is accepted, and the ABI of the one is to be written to the
same file as the client of the other. -/
theorem tokenAbi_overwrites :
    ∃ (token tokenAbi : Generated) (told : Collector) (path : Path),
      generateAll .standard [emptyContract "Token", emptyContract "TokenAbi"] .absent =
          (.ok [token, tokenAbi], told) ∧
        (path, token.abi) ∈ outputFiles (.ofText "out") token ∧
        (path, tokenAbi.client) ∈ outputFiles (.ofText "out") tokenAbi := by
  have ends : endsWell (fun results _ => decide (results.map (·.name) = ["Token", "TokenAbi"]))
      (generateAll .standard [emptyContract "Token", emptyContract "TokenAbi"] .absent) := by
    decide +kernel
  obtain ⟨results, told, accepts, named⟩ := exists_of_endsWell ends
  obtain ⟨token, others, rfl, isToken, named⟩ := List.map_eq_cons_iff.mp (of_decide_eq_true named)
  obtain ⟨tokenAbi, rest, rfl, isTokenAbi, none⟩ := List.map_eq_cons_iff.mp named
  obtain rfl := List.map_eq_nil_iff.mp none
  refine ⟨token, tokenAbi, told, (Path.ofText "out").append (.ofText "TokenAbi.ts"), accepts, ?_⟩
  simp [outputFiles, isToken, isTokenAbi]

end ContractClient
