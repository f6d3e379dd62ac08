/-
This file says which of the names that are chosen stand on one line. Numbers, underscores and
capital letters bring no line break into a name, so what is chosen stands on one line if the name
does that it is chosen for. Arguments are identifiers and always do
(`oneLine_of_mem_argumentNames`).
-/

import ContractClient.Proofs.Naming.Identifiers
import ContractClient.Proofs.Text.Lines

namespace ContractClient

/-! ### Free names -/

theorem OneLine.numbered {name : String} (isOne : OneLine name) (number : Nat) :
    OneLine (numbered name number) :=
  (isOne.append (by decide)).append (oneLine_toString number)

theorem OneLine.freeNumbered {name : String} (isOne : OneLine name) (taken : List String) :
    OneLine (freeNumbered taken name) :=
  isOne.numbered _

theorem OneLine.freeName {name : String} (isOne : OneLine name) (taken : List String) :
    OneLine (freeName taken name) := by
  unfold ContractClient.freeName
  split
  · exact isOne.freeNumbered taken
  · exact isOne

/-! ### Methods and arguments -/

theorem MethodPlan.IsWish.oneLine {own name : String} (isWish : IsWish own name)
    (isOne : OneLine own) : OneLine name := by
  have wish : OneLine (wishedName own) := by
    unfold wishedName
    split
    · exact isOne.append (by decide)
    · exact isOne
  obtain rfl | ⟨taken, rfl⟩ := isWish
  · exact wish
  · exact wish.freeNumbered taken

theorem oneLine_of_isScriptName {name : String} (isName : isScriptName name) : OneLine name := by
  obtain ⟨first, rest, characters, starts, continues⟩ := isScriptName_iff.mp isName
  rw [OneLine, characters, List.mem_cons, not_or]
  constructor
  · rintro rfl
    exact absurd starts (by decide +kernel)
  · exact fun isBreak => absurd (continues _ isBreak) (by decide +kernel)

/-- An argument is called by a name of one line, whatever its parameter is called. -/
theorem oneLine_of_mem_argumentNames {parameters : List Parameter} :
    ∀ name ∈ argumentNames parameters, OneLine name :=
  fun name isName => oneLine_of_isScriptName (isScriptName_of_mem_argumentNames name isName)

/-! ### Results -/

/-- No run of the table leads to a line break. -/
theorem upperRuns_noBreak : ∀ run ∈ upperRuns,
    (run.high : Int) + run.offset < 10 ∨ 10 < (run.low : Int) + run.offset := by
  decide +kernel

/-- No expansion of the table has a line break. -/
theorem upperExpansions_noBreak : ∀ entry ∈ upperExpansions, '\n' ∉ entry.2.map Char.ofNat := by
  decide +kernel

theorem toUpper_noBreak : ∀ point < 128, (Char.ofNat point).toUpper = '\n' → point = 10 := by
  decide

theorem CaseRun.image?_noBreak {run : CaseRun} {point image : Nat}
    (apart : (run.high : Int) + run.offset < 10 ∨ 10 < (run.low : Int) + run.offset)
    (sends : run.image? point = some image) : Char.ofNat image ≠ '\n' := by
  unfold image? at sends
  split at sends
  · rename_i inRun
    simp only [Bool.and_eq_true, decide_eq_true_eq] at inRun
    have same := Option.some.inj sends
    have notBreak : image ≠ 10 := by omega
    intro isBreak
    by_cases valid : image.isValidChar
    · exact notBreak ((toNat_ofNat valid).symm.trans (congrArg Char.toNat isBreak))
    · have none : Char.ofNat image = Char.ofNat 0 := dif_neg valid
      exact absurd (none.symm.trans isBreak) (by decide)
  · cases sends

/-- The upper case of a character has no line break, unless the character is one. -/
theorem upperCase_noBreak {character : Char} (plain : character ≠ '\n') :
    '\n' ∉ upperCase character := by
  have origin := upperCase_origin character
  generalize upperCase character = image at origin ⊢
  cases origin with
  | ascii isAscii =>
    have same := toUpper_noBreak character.toNat (of_decide_eq_true isAscii)
    rw [Char.ofNat_toNat] at same
    rw [List.mem_singleton]
    intro isBreak
    refine plain (Char.ofNat_toNat character ▸ ?_)
    exact same isBreak.symm ▸ rfl
  | expanded isEntry => exact upperExpansions_noBreak _ isEntry
  | @moved run point _ isRun sends =>
    rw [List.mem_singleton]
    exact (CaseRun.image?_noBreak (upperRuns_noBreak run isRun) sends).symm
  | same _ =>
    rw [List.mem_singleton]
    exact plain.symm

theorem OneLine.capitalized {text : String} (isOne : OneLine text) :
    OneLine (capitalized text) := by
  unfold ContractClient.capitalized
  split
  · exact List.not_mem_nil
  · rename_i first rest characters
    rw [OneLine, characters, List.mem_cons, not_or] at isOne
    rw [oneLine_ofList_iff, List.mem_append, not_or]
    exact ⟨upperCase_noBreak (Ne.symm isOne.1), isOne.2⟩

theorem oneLine_of_resultName {suffix member name : String}
    (names : resultName suffix member = .ok name) (isOne : OneLine member)
    (suffixIsOne : OneLine suffix) : OneLine name := by
  unfold resultName at names
  split at names
  · cases names
  · exact Except.ok.inj names ▸ isOne.capitalized.append suffixIsOne

theorem oneLine_of_mem_fieldNamesFrom {outputs : List Parameter} {taken : List String} {place : Nat}
    (each : ∀ output ∈ outputs, OneLine output.name) :
    ∀ name ∈ fieldNamesFrom taken place outputs, OneLine name := by
  induction outputs generalizing taken place with
  | nil => exact fun _ none => (List.not_mem_nil none).elim
  | cons output rest inductionHypothesis =>
    obtain ⟨isFirst, others⟩ := List.forall_mem_cons.mp each
    rw [fieldNamesFrom]
    split
    · refine List.forall_mem_cons.mpr ⟨?_, inductionHypothesis others⟩
      exact OneLine.append (by decide) (oneLine_toString _)
    · exact List.forall_mem_cons.mpr ⟨isFirst, inductionHypothesis others⟩

/-- The fields of a result bear names of one line if the outputs do. -/
theorem oneLine_of_mem_outputFieldNames {outputs : List Parameter}
    (each : ∀ output ∈ outputs, OneLine output.name) :
    ∀ name ∈ outputFieldNames outputs, OneLine name :=
  oneLine_of_mem_fieldNamesFrom each

end ContractClient
