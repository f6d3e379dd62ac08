/-
This file proves that what is written can be read. A file that is written holds its text
(`writeFile_holds`), and goes on holding it while others are written elsewhere (`Holds.writeFile`):
no file takes the place of a directory, so that every way through directories still leads where it
led before (`follow_mono`). Where a path leads does not depend on the files at all, as long as it
leads anywhere (`follow_eq_reach`); so files in places of their own all hold what was written to
them (`writeFiles_holds`).
-/

import ContractClient.CommandLine.Run
import ContractClient.Proofs.Files.Names

namespace ContractClient

namespace FileTree

/-! ### Where paths lead -/

/-- The place that names lead to from a directory if there is nothing in the way. -/
def reach (tree : FileTree) : Place → List String → Place
  | current, [] => current
  | current, name :: rest =>
    if name = "" ∨ name = "." then tree.reach current rest
    else tree.reach (tree.stepInto current name) rest

/-- The place that a path leads to if there is nothing in the way. -/
def destination (tree : FileTree) (path : Path) : Place :=
  tree.reach (startOf path.root) path.parts

/-- Names that lead anywhere lead there whatever the files are. -/
theorem follow_eq_reach {tree : FileTree} {current place : Place} {names : List String}
    (leads : tree.follow current names = .place place) : place = tree.reach current names := by
  induction names generalizing current with
  | nil => exact (Lead.place.inj leads).symm
  | cons name rest inductionHypothesis =>
    rw [follow] at leads
    rw [reach]
    split at leads
    · rename_i isCurrent
      rw [if_pos isCurrent]
      exact inductionHypothesis leads
    · rename_i notCurrent
      rw [if_neg notCurrent, stepInto]
      split at leads
      · rename_i isAbove
        rw [if_pos isAbove]
        exact inductionHypothesis leads
      · rename_i notAbove
        rw [if_neg notAbove]
        split at leads
        · cases leads
        · dsimp only at leads
          split at leads
          · rename_i isLast
            rw [List.isEmpty_iff.mp isLast]
            exact (Lead.place.inj leads).symm
          · split at leads
            · exact inductionHypothesis leads
            · cases leads
            · cases leads

theorem reach_append (tree : FileTree) (current : Place) (names later : List String) :
    tree.reach current (names ++ later) = tree.reach (tree.reach current names) later := by
  induction names generalizing current with
  | nil => rfl
  | cons name rest inductionHypothesis =>
    rw [List.cons_append, reach, reach]
    split
    · exact inductionHypothesis current
    · exact inductionHypothesis _

theorem above_congr {tree later : FileTree} (sameDepth : later.depth = tree.depth)
    (place : Place) : later.above place = tree.above place := by
  rw [above, above, sameDepth]

theorem destination_congr {tree later : FileTree} (sameDepth : later.depth = tree.depth)
    (path : Path) : later.destination path = tree.destination path := by
  have same : ∀ (names : List String) (current : Place),
      later.reach current names = tree.reach current names := by
    intro names
    induction names with
    | nil => exact fun _ => rfl
    | cons name rest inductionHypothesis =>
      intro current
      simp only [reach, stepInto, above_congr sameDepth, inductionHypothesis]
  exact same path.parts (startOf path.root)

/-- A way through directories leads where it led as long as they stay. -/
theorem follow_mono {tree later : FileTree} (sameDepth : later.depth = tree.depth)
    (stay : ∀ place, tree.entry? place = some .directory →
      later.entry? place = some .directory)
    {current place : Place} {names : List String}
    (leads : tree.follow current names = .place place) :
    later.follow current names = .place place := by
  induction names generalizing current with
  | nil => exact leads
  | cons name rest inductionHypothesis =>
    rw [follow] at leads ⊢
    split at leads
    · rename_i isCurrent
      rw [if_pos isCurrent]
      exact inductionHypothesis leads
    · rename_i notCurrent
      rw [if_neg notCurrent]
      split at leads
      · rename_i isAbove
        rw [if_pos isAbove, above_congr sameDepth]
        exact inductionHypothesis leads
      · rename_i notAbove
        rw [if_neg notAbove]
        split at leads
        · cases leads
        · rename_i notLong
          rw [if_neg notLong]
          dsimp only at leads ⊢
          split at leads
          · rename_i isLast
            rw [if_pos isLast]
            exact leads
          · rename_i notLast
            rw [if_neg notLast]
            split at leads
            · rename_i isDirectory
              rw [stay _ isDirectory]
              exact inductionHypothesis leads
            · cases leads
            · cases leads

/-! ### Files that are written -/

theorem lookup_setFile (files : List (Place × String)) (place other : Place) (text : String) :
    (setFile files place text).lookup other =
      if other = place then some text else files.lookup other := by
  induction files with
  | nil =>
    rw [setFile, List.lookup_cons, List.lookup_nil]
    by_cases same : other = place
    · rw [if_pos same, beq_iff_eq.mpr same]
    · rw [if_neg same, beq_eq_false_iff_ne.mpr same]
  | cons file rest inductionHypothesis =>
    obtain ⟨first, old⟩ := file
    rw [setFile]
    by_cases isFirst : first = place
    · subst isFirst
      rw [if_pos rfl, List.lookup_cons, List.lookup_cons]
      by_cases same : other = first
      · rw [if_pos same, beq_iff_eq.mpr same]
      · rw [if_neg same, beq_eq_false_iff_ne.mpr same]
    · rw [if_neg isFirst, List.lookup_cons, List.lookup_cons, inductionHypothesis]
      by_cases same : other = first
      · subst same
        simp only [if_neg isFirst, beq_self_eq_true]
      · rw [beq_eq_false_iff_ne.mpr same]

/-- The place of the device that is always empty. -/
def nullPlace : Place := ["/", "dev", "null"]

/-- The tree with a text at a place. -/
def put (tree : FileTree) (place : Place) (text : String) : FileTree :=
  { tree with files := setFile tree.files place text }

theorem put_depth (tree : FileTree) (target : Place) (text : String) :
    (tree.put target text).depth = tree.depth := rfl

theorem put_lookup (tree : FileTree) (target place : Place) (text : String) :
    (tree.put target text).files.lookup place =
      if place = target then some text else tree.files.lookup place :=
  lookup_setFile tree.files target place text

theorem put_destination (tree : FileTree) (target : Place) (text : String) (path : Path) :
    (tree.put target text).destination path = tree.destination path :=
  destination_congr (put_depth tree target text) path

/-- Only what stands at the place of a file that is put changes. -/
theorem put_elsewhere {tree : FileTree} {target place : Place} (differs : place ≠ target)
    (text : String) :
    FileTree.entry? (tree.put target text) place = tree.entry? place := by
  unfold entry?
  rw [put_lookup, if_neg differs]
  rfl

/-- A file that is put stands at its place, unless the device is there. -/
theorem put_here {tree : FileTree} {target : Place} (notNull : target ≠ nullPlace)
    (text : String) :
    FileTree.entry? (tree.put target text) target = some (.file text) := by
  unfold entry?
  rw [put_lookup, if_pos rfl]
  exact if_neg notNull

/-- Where a path leads, it still leads behind a file that is put in the place of no directory. -/
theorem put_lead {tree : FileTree} {target : Place}
    (notDirectory : tree.entry? target ≠ some .directory) (text : String) {path : Path}
    {place : Place} (leads : tree.lead path = .place place) :
    (tree.put target text).lead path = .place place := by
  refine follow_mono (put_depth tree target text) (fun other isDirectory => ?_) leads
  have differs : other ≠ target := fun same => notDirectory (same ▸ isDirectory)
  rw [put_elsewhere differs]
  exact isDirectory

theorem eq_nullPlace_of_emptyDevice {tree : FileTree} {place : Place}
    (isDevice : tree.entry? place = some .emptyDevice) : place = nullPlace := by
  unfold entry? at isDevice
  split at isDevice
  · assumption
  · split at isDevice
    · cases isDevice
    · split at isDevice
      · cases isDevice
      · split at isDevice <;> cases isDevice

/-- Writing that succeeds puts the text where the path leads, unless the device is there. -/
theorem writeFile_eq_ok {tree after : FileTree} {path : Path} {text : String}
    (writes : tree.writeFile path text = (.ok (), after)) :
    requirePath path.text = .ok () ∧ ∃ place, tree.lead path = .place place ∧
      tree.entry? place ≠ some .directory ∧
      (tree.entry? place = some .emptyDevice ∧ after = tree ∨
        tree.entry? place ≠ some .emptyDevice ∧ after = tree.put place text) := by
  rw [writeFile] at writes
  split at writes
  · cases congrArg Prod.fst writes
  · rename_i place isPath leads
    refine ⟨isPath, place, leads, ?_⟩
    split at writes
    · cases congrArg Prod.fst writes
    · rename_i isDevice
      rw [isDevice]
      exact ⟨nofun, .inl ⟨rfl, (congrArg Prod.snd writes).symm⟩⟩
    · rename_i notDirectory notDevice
      split at writes
      · exact ⟨notDirectory, .inr ⟨notDevice, (congrArg Prod.snd writes).symm⟩⟩
      · cases congrArg Prod.fst writes
  · cases congrArg Prod.fst writes
  · cases congrArg Prod.fst writes

/-- The path leads to a file that holds the text. -/
structure Holds (tree : FileTree) (path : Path) (text : String) : Prop where
  isPath : requirePath path.text = .ok ()
  leads : tree.lead path = .place (tree.destination path)
  isFile : tree.entry? (tree.destination path) = some (.file text)

theorem Holds.fileAt {tree : FileTree} {path : Path} {text : String}
    (holds : tree.Holds path text) : tree.fileAt path = .ok (some text) := by
  rw [FileTree.fileAt, holds.isPath, holds.leads]
  simp only [holds.isFile]

/-- Writing changes nothing but the file that is written. -/
theorem writeFile_depth {tree after : FileTree} {path : Path} {text : String}
    (writes : tree.writeFile path text = (.ok (), after)) : after.depth = tree.depth := by
  obtain ⟨_, _, _, _, ⟨_, rfl⟩ | ⟨_, rfl⟩⟩ := writeFile_eq_ok writes <;> rfl

/-- A file that is written holds its text. -/
theorem writeFile_holds {tree after : FileTree} {path : Path} {text : String}
    (notNull : tree.destination path ≠ nullPlace)
    (writes : tree.writeFile path text = (.ok (), after)) : after.Holds path text := by
  obtain ⟨isPath, place, leads, notDirectory, written⟩ := writeFile_eq_ok writes
  have isDestination : place = tree.destination path := follow_eq_reach leads
  subst isDestination
  -- The device takes the text and stays empty, so the file must lie elsewhere.
  rcases written with ⟨isDevice, rfl⟩ | ⟨_, rfl⟩
  · exact (notNull (eq_nullPlace_of_emptyDevice isDevice)).elim
  · refine ⟨isPath, ?_, ?_⟩
    · rw [put_destination]
      exact put_lead notDirectory text leads
    · rw [put_destination]
      exact put_here notNull text

/-- A file goes on holding its text while another one is written. -/
theorem Holds.writeFile {tree after : FileTree} {path other : Path} {text otherText : String}
    (holds : tree.Holds path text) (apart : tree.destination path ≠ tree.destination other)
    (writes : tree.writeFile other otherText = (.ok (), after)) : after.Holds path text := by
  obtain ⟨_, place, leads, notDirectory, written⟩ := writeFile_eq_ok writes
  have isDestination : place = tree.destination other := follow_eq_reach leads
  subst isDestination
  rcases written with ⟨_, rfl⟩ | ⟨_, rfl⟩
  · exact holds
  · refine ⟨holds.isPath, ?_, ?_⟩
    · rw [put_destination]
      exact put_lead notDirectory otherText holds.leads
    · rw [put_destination, put_elsewhere apart]
      exact holds.isFile

/-! ### Several files -/

theorem writeFiles_cons {tree after : FileTree} {printed told : String} {path : Path}
    {text : String} {rest : List (Path × String)}
    (writes : writeFiles tree printed ((path, text) :: rest) = (.ok (), after, told)) :
    ∃ middle more, tree.writeFile path text = (.ok (), middle) ∧
      writeFiles middle more rest = (.ok (), after, told) := by
  rw [writeFiles] at writes
  split at writes
  · cases congrArg Prod.fst writes
  · rename_i middle isWritten
    exact ⟨middle, _, isWritten, writes⟩

theorem Holds.writeFiles {tree after : FileTree} {printed told : String} {path : Path}
    {text : String} {files : List (Path × String)} (holds : tree.Holds path text)
    (apart : ∀ file ∈ files, tree.destination path ≠ tree.destination file.1)
    (writes : writeFiles tree printed files = (.ok (), after, told)) : after.Holds path text := by
  induction files generalizing tree printed with
  | nil =>
    obtain ⟨rfl, _⟩ := Prod.mk.inj (congrArg Prod.snd writes)
    exact holds
  | cons file rest inductionHypothesis =>
    obtain ⟨middle, more, isWritten, writes⟩ := writeFiles_cons writes
    have same := destination_congr (writeFile_depth isWritten)
    refine inductionHypothesis (holds.writeFile (apart file List.mem_cons_self) isWritten) ?_ writes
    intro other isLater
    rw [same, same]
    exact apart other (List.mem_cons_of_mem _ isLater)

/-- Files in places of their own all hold what is written to them. -/
theorem writeFiles_holds {tree after : FileTree} {printed told : String}
    {files : List (Path × String)}
    (distinct : (files.map fun file => tree.destination file.1).Nodup)
    (notNull : ∀ file ∈ files, tree.destination file.1 ≠ nullPlace)
    (writes : writeFiles tree printed files = (.ok (), after, told)) :
    ∀ file ∈ files, after.Holds file.1 file.2 := by
  induction files generalizing tree printed with
  | nil => exact nofun
  | cons file rest inductionHypothesis =>
    obtain ⟨path, text⟩ := file
    obtain ⟨isApart, distinct⟩ := List.nodup_cons.mp distinct
    obtain ⟨middle, more, isWritten, writes⟩ := writeFiles_cons writes
    have same := destination_congr (writeFile_depth isWritten)
    refine List.forall_mem_cons.mpr ⟨?_, inductionHypothesis ?_ ?_ writes⟩
    · have holds := writeFile_holds (notNull _ List.mem_cons_self) isWritten
      refine holds.writeFiles (fun other isLater => ?_) writes
      rw [same, same]
      exact fun meets => isApart (List.mem_map.mpr ⟨other, isLater, meets.symm⟩)
    · simpa only [same] using distinct
    · intro other isLater
      rw [same]
      exact notNull other (List.mem_cons_of_mem _ isLater)

end FileTree

end ContractClient
