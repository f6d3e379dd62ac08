/-
This file says which of the names that are chosen may stand in a script. Arguments always bear such
names (`isScriptName_of_mem_argumentNames`). All other names are taken over as they are, so that
what is chosen may stand in a script exactly if the name that it is chosen for may: numbers and
underscores behind a name do not matter, and neither do the placeholders of a result.
-/

import ContractClient.Client.MethodPlan
import ContractClient.Proofs.Client.MethodNames
import ContractClient.Proofs.Naming.Arguments
import ContractClient.Proofs.Text.Identifiers

namespace ContractClient

/-! ### Free names -/

theorem isScriptName_numbered_iff {name : String} (notEmpty : name ≠ "") (number : Nat) :
    isScriptName (numbered name number) ↔ isScriptName name := by
  rw [numbered, String.append_assoc, isScriptName_append_iff notEmpty, String.toList_append,
    List.forall_mem_append]
  have underscore : ∀ character ∈ "_".toList, isScriptContinue character :=
    List.all_eq_true.mp (by decide)
  exact and_iff_left ⟨underscore, isScriptContinue_of_mem_toString⟩

theorem isScriptName_freeName_iff {name : String} (notEmpty : name ≠ "") (taken : List String) :
    isScriptName (freeName taken name) ↔ isScriptName name := by
  unfold freeName
  split
  · exact isScriptName_numbered_iff notEmpty _
  · exact Iff.rfl

/-! ### Methods -/

theorem wishedName_ne_empty {name : String} (notEmpty : name ≠ "") :
    MethodPlan.wishedName name ≠ "" := by
  unfold MethodPlan.wishedName
  split
  · simp
  · exact notEmpty

theorem isScriptName_wishedName_iff {name : String} (notEmpty : name ≠ "") :
    isScriptName (MethodPlan.wishedName name) ↔ isScriptName name := by
  unfold MethodPlan.wishedName
  split
  · rw [isScriptName_append_iff notEmpty]
    exact and_iff_left (List.all_eq_true.mp (by decide))
  · exact Iff.rfl

/-- A method may bear its name in a script exactly if its function may. -/
theorem MethodPlan.IsWish.isScriptName_iff {own name : String} (isWish : IsWish own name)
    (notEmpty : own ≠ "") : isScriptName name ↔ isScriptName own := by
  obtain rfl | ⟨taken, rfl⟩ := isWish
  · exact isScriptName_wishedName_iff notEmpty
  · rw [freeNumbered, isScriptName_numbered_iff (wishedName_ne_empty notEmpty),
      isScriptName_wishedName_iff notEmpty]

/-! ### Arguments -/

theorem isScriptName_of_mem_argumentNames {parameters : List Parameter} :
    ∀ name ∈ argumentNames parameters, isScriptName name :=
  fun name member => isScriptName_of_isIdentifier
    (isArgumentName_iff.mp (isArgumentName_of_mem_argumentNames name member)).1

/-! ### Structs and results -/

theorem structName_ne_empty {declared name : String} (names : structName declared = .ok name) :
    name ≠ "" := by
  unfold structName at names
  dsimp only at names
  split at names
  · cases names
  · rename_i someCharacters
    rw [← Except.ok.inj names]
    intro none
    rw [← String.toList_eq_nil_iff, String.toList_ofList, List.map_eq_nil_iff] at none
    exact someCharacters (none ▸ rfl)

/-- A result bears a name of a script if its function and the suffix allow it. -/
theorem isScriptName_of_resultName {suffix member name : String}
    (names : resultName suffix member = .ok name) (isName : isScriptName member)
    (continues : ∀ character ∈ suffix.toList, isScriptContinue character) :
    isScriptName name := by
  have capital := isScriptName_capitalized isName
  unfold resultName at names
  split at names
  · cases names
  · rw [← Except.ok.inj names, isScriptName_append_iff (ne_empty_of_isScriptName capital)]
    exact ⟨capital, continues⟩

theorem isScriptName_placeholder (number : Nat) : isScriptName (placeholder number) := by
  rw [placeholder, isScriptName_append_iff (by decide)]
  exact ⟨by decide, isScriptContinue_of_mem_toString⟩

theorem isScriptName_fieldNamesFrom_iff {outputs : List Parameter} {taken : List String}
    {place : Nat} :
    (∀ name ∈ fieldNamesFrom taken place outputs, isScriptName name) ↔
      ∀ output ∈ outputs, output.name ≠ "" → isScriptName output.name := by
  induction outputs generalizing taken place with
  | nil => simp [fieldNamesFrom]
  | cons output rest inductionHypothesis =>
    rw [fieldNamesFrom, List.forall_mem_cons]
    split
    · rename_i unnamed
      rw [List.forall_mem_cons, inductionHypothesis]
      have noName : output.name = "" := eq_of_beq unnamed
      simp [noName, isScriptName_placeholder]
    · rename_i isNamed
      rw [List.forall_mem_cons, inductionHypothesis]
      have hasName : output.name ≠ "" := fun none => isNamed (beq_iff_eq.mpr none)
      simp [hasName]

/-- The fields of a result bear names of a script exactly if the outputs with names do. -/
theorem isScriptName_outputFieldNames_iff {outputs : List Parameter} :
    (∀ name ∈ outputFieldNames outputs, isScriptName name) ↔
      ∀ output ∈ outputs, output.name ≠ "" → isScriptName output.name :=
  isScriptName_fieldNamesFrom_iff

end ContractClient
