/-
This file says all that writing does to a tree. What goes wrong in it is a defect, never a fault
with a message (`writeResults_failsByDefect`). If all goes well, every place holds the last text
that was written to it, and what it held before if none was (`Wrote.texts`); directories are made
but never taken away, so that every path that was written to still leads to its file
(`writeResults_delivers`).
-/

import ContractClient.Proofs.Files.Writing
import ContractClient.Proofs.Steps

namespace ContractClient

namespace FileTree

theorem requirePath_failsByDefect (text : String) : FailsByDefect (requirePath text) := by
  unfold requirePath
  split
  · exact .defect _
  · split
    · exact .defect _
    · split
      · exact .defect _
      · exact .ok ()

theorem makeFrom_failsByDefect (tree : FileTree) (current : Place) (names : List String) :
    FailsByDefect (tree.makeFrom current names) := by
  induction names generalizing tree current with
  | nil => exact .ok tree
  | cons name rest inductionHypothesis =>
    rw [makeFrom]
    split
    · exact inductionHypothesis tree _
    · split
      · exact .defect _
      · dsimp only
        split
        · exact inductionHypothesis tree _
        · exact .defect _
        · split
          · exact .defect _
          · exact inductionHypothesis _ _

theorem makeDirectory_failsByDefect (tree : FileTree) (path : Path) :
    FailsByDefect (tree.makeDirectory path) :=
  (requirePath_failsByDefect path.text).bind fun _ => makeFrom_failsByDefect tree _ _

theorem writeFile_failsByDefect (tree : FileTree) (path : Path) (text : String) :
    FailsByDefect (tree.writeFile path text).1 := by
  unfold writeFile
  split
  · rename_i fault _ fails
    intro other same
    exact requirePath_failsByDefect path.text other (fails.trans same)
  · split
    · exact .defect _
    · exact .ok ()
    · split
      · exact .ok ()
      · exact .defect _
  · exact .defect _
  · exact .defect _

theorem writeFiles_failsByDefect (tree : FileTree) (printed : String)
    (files : List (Path × String)) : FailsByDefect (writeFiles tree printed files).1 := by
  induction files generalizing tree printed with
  | nil => exact .ok ()
  | cons file rest inductionHypothesis =>
    obtain ⟨path, text⟩ := file
    have first := writeFile_failsByDefect tree path text
    rw [writeFiles]
    split
    · rename_i ends
      rw [ends] at first
      exact first
    · exact inductionHypothesis _ _

end FileTree

theorem writeResults_failsByDefect (tree : FileTree) (directory : Path)
    (results : List Generated) : FailsByDefect (writeResults tree directory results).1 := by
  have makes := FileTree.makeDirectory_failsByDefect tree directory
  rw [writeResults]
  split
  · rename_i fault fails
    rintro _ ⟨⟩
    exact makes fault fails
  · exact FileTree.writeFiles_failsByDefect _ _ _

namespace FileTree

/-! ### Directories that are made -/

/-- The tree after directories were made in another one. -/
structure Grown (tree after : FileTree) : Prop where
  depth : after.depth = tree.depth
  files : after.files = tree.files
  directories : tree.directories <:+ after.directories

theorem makeFrom_grown {tree after : FileTree} {current : Place} {names : List String}
    (makes : tree.makeFrom current names = .ok after) : tree.Grown after := by
  induction names generalizing tree current with
  | nil =>
    obtain rfl := Except.ok.inj makes
    exact ⟨rfl, rfl, List.suffix_refl _⟩
  | cons name rest inductionHypothesis =>
    rw [makeFrom] at makes
    split at makes
    · exact inductionHypothesis makes
    · split at makes
      · cases makes
      · dsimp only at makes
        split at makes
        · exact inductionHypothesis makes
        · cases makes
        · split at makes
          · cases makes
          · obtain ⟨depth, files, directories⟩ := inductionHypothesis makes
            exact ⟨depth, files, (List.suffix_cons _ _).trans directories⟩

theorem makeDirectory_grown {tree after : FileTree} {path : Path}
    (makes : tree.makeDirectory path = .ok after) : tree.Grown after := by
  unfold makeDirectory at makes
  cases isPath : requirePath path.text with
  | error fault =>
    rw [isPath] at makes
    cases makes
  | ok _ =>
    rw [isPath] at makes
    exact makeFrom_grown makes

/-! ### Texts that are written -/

/-- The last of the texts that are written to the place. -/
def textAt (tree : FileTree) (place : Place) : List (Path × String) → Option String
  | [] => none
  | (path, text) :: rest =>
    (tree.textAt place rest).or (if tree.destination path = place then some text else none)

theorem textAt_congr {tree later : FileTree} (sameDepth : later.depth = tree.depth)
    (place : Place) (files : List (Path × String)) :
    later.textAt place files = tree.textAt place files := by
  induction files with
  | nil => rfl
  | cons file rest inductionHypothesis =>
    obtain ⟨path, text⟩ := file
    rw [textAt, textAt, inductionHypothesis, destination_congr sameDepth]

/-- Nothing is written to a place exactly if no path leads to it. -/
theorem textAt_eq_none_iff {tree : FileTree} {place : Place} {files : List (Path × String)} :
    tree.textAt place files = none ↔ ∀ file ∈ files, tree.destination file.1 ≠ place := by
  induction files with
  | nil => simp [textAt]
  | cons file rest inductionHypothesis =>
    obtain ⟨path, text⟩ := file
    rw [textAt, Option.or_eq_none_iff, inductionHypothesis, List.forall_mem_cons, and_comm]
    refine and_congr_left fun _ => ?_
    split <;> simp_all

/-- What writing the files one after the other comes to. -/
structure Wrote (tree : FileTree) (files : List (Path × String)) (after : FileTree) : Prop where
  depth : after.depth = tree.depth
  directories : after.directories = tree.directories
  stay : ∀ place, tree.entry? place = some .directory → after.entry? place = some .directory
  texts : ∀ place,
    after.files.lookup place = (tree.textAt place files).or (tree.files.lookup place)
  leads : ∀ file ∈ files, requirePath file.1.text = .ok () ∧
    after.lead file.1 = .place (tree.destination file.1)

theorem Wrote.nil (tree : FileTree) : tree.Wrote [] tree :=
  ⟨rfl, rfl, fun _ => id, fun _ => rfl, nofun⟩

/-- One file, and then others. -/
theorem Wrote.cons {tree middle after : FileTree} {path : Path} {text : String}
    {rest : List (Path × String)} (notNull : tree.destination path ≠ nullPlace)
    (isWritten : tree.writeFile path text = (.ok (), middle)) (wrote : middle.Wrote rest after) :
    tree.Wrote ((path, text) :: rest) after := by
  obtain ⟨isPath, place, leads, notDirectory, ⟨isDevice, _⟩ | ⟨_, rfl⟩⟩ := writeFile_eq_ok isWritten
  · exact (notNull ((follow_eq_reach leads).symm.trans (eq_nullPlace_of_emptyDevice isDevice))).elim
  obtain rfl : place = tree.destination path := follow_eq_reach leads
  constructor
  case depth => exact wrote.depth
  case directories => exact wrote.directories
  case stay =>
    intro other isDirectory
    have differs : other ≠ tree.destination path := fun same => notDirectory (same ▸ isDirectory)
    exact wrote.stay other ((put_elsewhere differs text).trans isDirectory)
  case texts =>
    intro other
    rw [wrote.texts other, put_lookup, textAt, Option.or_assoc,
      textAt_congr (put_depth tree _ text)]
    by_cases same : other = tree.destination path
    · rw [if_pos same, if_pos same.symm]
      rfl
    · rw [if_neg same, if_neg (Ne.symm same)]
      rfl
  case leads =>
    refine List.forall_mem_cons.mpr ⟨⟨isPath, ?_⟩, fun file isLater => ?_⟩
    · exact follow_mono wrote.depth wrote.stay (put_lead notDirectory text leads)
    · have later := wrote.leads file isLater
      rw [put_destination] at later
      exact later

/-- What is told of a file that is written. -/
def writtenLine (path : Path) : String :=
  "Written: " ++ path.text ++ "\n"

theorem writeFiles_wrote {tree after : FileTree} {printed told : String}
    {files : List (Path × String)}
    (notNull : ∀ file ∈ files, tree.destination file.1 ≠ nullPlace)
    (writes : writeFiles tree printed files = (.ok (), after, told)) :
    tree.Wrote files after ∧ told = printed ++ String.join (files.map (writtenLine ·.1)) := by
  induction files generalizing tree printed with
  | nil =>
    obtain ⟨rfl, rfl⟩ := Prod.mk.inj (congrArg Prod.snd writes)
    exact ⟨.nil tree, String.append_empty.symm⟩
  | cons file rest inductionHypothesis =>
    obtain ⟨path, text⟩ := file
    obtain ⟨isFirst, areLater⟩ := List.forall_mem_cons.mp notNull
    rw [writeFiles] at writes
    split at writes
    · cases congrArg Prod.fst writes
    · rename_i middle isWritten
      have same := destination_congr (writeFile_depth isWritten)
      have notNull : ∀ file ∈ rest, middle.destination file.1 ≠ nullPlace := by
        intro file isLater
        rw [same]
        exact areLater file isLater
      obtain ⟨wrote, rfl⟩ := inductionHypothesis notNull writes
      refine ⟨.cons isFirst isWritten wrote, ?_⟩
      rw [List.map_cons, String.join_cons, writtenLine]
      simp only [String.append_assoc]

/-- Every file that was written to holds the last text that was written there. -/
theorem Wrote.fileAt {tree after : FileTree} {files : List (Path × String)}
    (wrote : tree.Wrote files after) {file : Path × String} (isFile : file ∈ files)
    (notNull : tree.destination file.1 ≠ nullPlace) :
    ∃ text, tree.textAt (tree.destination file.1) files = some text ∧
      after.fileAt file.1 = .ok (some text) := by
  have isWritten : tree.textAt (tree.destination file.1) files ≠ none :=
    fun none => textAt_eq_none_iff.mp none file isFile rfl
  obtain ⟨text, isText⟩ := Option.ne_none_iff_exists'.mp isWritten
  obtain ⟨isPath, leads⟩ := wrote.leads file isFile
  have held : after.entry? (tree.destination file.1) = some (.file text) := by
    unfold entry?
    rw [wrote.texts, isText]
    exact if_neg notNull
  have same : after.destination file.1 = tree.destination file.1 :=
    destination_congr wrote.depth file.1
  exact ⟨text, isText, Holds.fileAt ⟨isPath, same ▸ leads, same ▸ held⟩⟩

/-! ### Results that are written -/

/-- The files have been written into the tree, where directories may have been made for them, and
nothing else has changed. -/
structure Delivered (tree : FileTree) (files : List (Path × String)) (after : FileTree) : Prop where
  depth : after.depth = tree.depth
  directories : tree.directories <:+ after.directories
  texts : ∀ place,
    after.files.lookup place = (tree.textAt place files).or (tree.files.lookup place)
  held : ∀ file ∈ files, ∃ text,
    tree.textAt (tree.destination file.1) files = some text ∧
      after.fileAt file.1 = .ok (some text)

theorem writeResults_delivers {tree after : FileTree} {directory : Path}
    {results : List Generated} {told : String}
    (notNull : ∀ file ∈ results.flatMap (outputFiles directory),
      tree.destination file.1 ≠ nullPlace)
    (writes : writeResults tree directory results = (.ok (), after, told)) :
    tree.Delivered (results.flatMap (outputFiles directory)) after ∧
      told = String.join ((results.flatMap (outputFiles directory)).map (writtenLine ·.1)) := by
  rw [writeResults] at writes
  split at writes
  · cases congrArg Prod.fst writes
  · rename_i made makes
    obtain ⟨sameDepth, sameFiles, grown⟩ := makeDirectory_grown makes
    have same := destination_congr sameDepth
    have notNull : ∀ file ∈ results.flatMap (outputFiles directory),
        made.destination file.1 ≠ nullPlace := by
      intro file isFile
      rw [same]
      exact notNull file isFile
    obtain ⟨wrote, isTold⟩ := writeFiles_wrote notNull writes
    refine ⟨⟨wrote.depth.trans sameDepth, ?directories, ?texts, ?held⟩, ?told⟩
    case directories =>
      rw [wrote.directories]
      exact grown
    case texts =>
      intro place
      rw [wrote.texts, textAt_congr sameDepth, sameFiles]
    case held =>
      intro file isFile
      obtain ⟨text, isText, held⟩ := wrote.fileAt isFile (notNull file isFile)
      rw [textAt_congr sameDepth, same] at isText
      exact ⟨text, isText, held⟩
    case told => rw [isTold, String.empty_append]

end FileTree

end ContractClient
