/-
This file says what a run prints before it has any result: warnings about the file of settings, and
the news that a compiler is installed (`remarks_of_loads`). Nothing else is printed up to then, and
never a text of a module.
-/

import ContractClient.CommandLine.Run
import ContractClient.Proofs.Abi.Reading
import ContractClient.Proofs.Steps

namespace ContractClient

/-! ### Remarks -/

/-- The text is a remark that may be printed before there are results. -/
inductive IsRemark : String → Prop
  | unknownSetting (name : String) : IsRemark (Options.unknownWarning name)
  | noJson (path : String) : IsRemark ("Warning: Failed to parse " ++ path ++ ": <json error>\n")
  | noObject (path : String) :
      IsRemark ("Warning: Ignoring " ++ path ++ ": expected a JSON object\n")
  | installing (version : String) : IsRemark ("Installing solc " ++ version ++ "...\n")

/-- The printed text is made up of remarks, one after the other. -/
inductive Remarks : String → Prop
  | none : Remarks ""
  | more {printed remark : String} :
      Remarks printed → IsRemark remark → Remarks (printed ++ remark)

theorem IsRemark.remarks {remark : String} (isRemark : IsRemark remark) : Remarks remark := by
  have more := Remarks.more .none isRemark
  rwa [String.empty_append] at more

theorem Remarks.append {first second : String} (remarks : Remarks first)
    (more : Remarks second) : Remarks (first ++ second) := by
  induction more with
  | none =>
    rw [String.append_empty]
    exact remarks
  | more _ isRemark inductionHypothesis =>
    rw [← String.append_assoc]
    exact .more inductionHypothesis isRemark

/-! ### Settings -/

theorem override_remarks (options : Options) (name : String) (value : Json) :
    Remarks (options.override name value).2 := by
  unfold Options.override
  split
  · exact .none
  · exact .none
  · exact (IsRemark.unknownSetting name).remarks

theorem overrideAll_remarks (overrides : List (String × Json)) (options : Options) :
    Remarks (options.overrideAll overrides).2 := by
  induction overrides generalizing options with
  | nil => exact .none
  | cons entry rest inductionHypothesis =>
    exact (override_remarks options entry.1 entry.2).append (inductionHypothesis _)

theorem ofFile_remarks {path printed : String} {text : Option String} {options : Options}
    (reads : Options.ofFile path text = .ok (options, printed)) : Remarks printed := by
  unfold Options.ofFile at reads
  split at reads
  · cases reads
    exact .none
  · obtain ⟨value, _, reads⟩ := exists_of_bind_eq_ok reads
    split at reads
    · cases reads
      exact (IsRemark.noJson path).remarks
    · unfold Options.merge at reads
      split at reads
      · cases reads
      · rename_i members _ _
        have remarks := overrideAll_remarks (Options.fileOverrides members) .standard
        rw [Except.ok.inj reads] at remarks
        exact remarks
    · cases reads
      exact (IsRemark.noObject path).remarks

theorem runOptions_remarks {tree : FileTree} {arguments : Arguments} {options : Options}
    {printed : String} (reads : runOptions tree arguments = .ok (options, printed)) :
    Remarks printed := by
  obtain ⟨path, _, reads⟩ := exists_of_bind_eq_ok reads
  obtain ⟨text, _, reads⟩ := exists_of_bind_eq_ok reads
  obtain ⟨given, ofFile, reads⟩ := exists_of_bind_eq_ok reads
  have remarks := ofFile_remarks ofFile
  dsimp only at reads
  split at reads <;> cases reads <;> exact remarks

/-! ### Loading -/

/-- Only remarks have been printed in the session. -/
def Session.HasRemarks (session : Session) : Prop :=
  Remarks session.printed

theorem ensureVersion_remarks (compiler : Compiler) (version : Json) :
    Maintains Session.HasRemarks (ensureVersion compiler version) := by
  unfold ensureVersion
  split
  · exact .pure ()
  · split
    · split
      · exact .pure ()
      · refine Maintains.bind (.modify fun session remarks => ?_) fun _ => ?_
        · exact .more remarks (.installing _)
        · split
          · exact .throw _
          · exact .pure ()
    · exact .throw _

theorem reviewEntries_remarks (all entries : List Json) :
    Maintains Session.HasRemarks (reviewEntries all entries) := by
  induction entries with
  | nil => exact .pure ()
  | cons entry rest inductionHypothesis =>
    unfold reviewEntries
    refine (Maintains.lift _).bind fun members => .unless (.look fun session => ?_)
    split
    · refine (Maintains.lift _).bind fun notice => ?_
      exact Maintains.bind (.modify fun _ => id) fun _ => inductionHypothesis
    · exact inductionHypothesis

theorem readOutput_remarks (output : Json) :
    Maintains Session.HasRemarks (readOutput output) := by
  unfold readOutput
  refine (Maintains.lift _).bind fun members => (Maintains.lift _).bind fun entries => ?_
  exact (reviewEntries_remarks entries entries).bind fun _ => .unless (.lift _)

theorem compileSource_remarks (compiler : Compiler) (options : Options) (source : Json)
    (fileName : String) (directory : Option String) :
    Maintains Session.HasRemarks (compileSource compiler options source fileName directory) := by
  unfold compileSource
  refine (ensureVersion_remarks compiler _).bind fun _ => ?_
  refine Maintains.bind (.modify fun _ => id) fun _ => ?_
  split
  · exact .throw _
  · exact .throw _
  · exact readOutput_remarks _

theorem loadContracts_remarks (compiler : Compiler) (options : Options) (path text : String) :
    Maintains Session.HasRemarks (loadContracts compiler options path text) := by
  unfold loadContracts
  dsimp only
  split
  · exact compileSource_remarks _ _ _ _ _
  · split
    · exact .lift _
    · exact .throw _

/-- All that is printed until the contracts are loaded, or cannot be, is remarks. -/
theorem remarks_of_loads {compiler : Compiler} {arguments : Arguments} {tree : FileTree}
    {options : Options} {warned path text : String} {collector : Collector}
    {ended : Except Fault (List Contract)} {session : Session}
    (settings : runOptions tree arguments = .ok (options, warned))
    (loads : loadContracts compiler options path text (.start collector) = (ended, session)) :
    Remarks (warned ++ session.printed) := by
  have printed := loadContracts_remarks compiler options path text (.start collector) Remarks.none
  rw [loads] at printed
  exact (runOptions_remarks settings).append printed

end ContractClient
