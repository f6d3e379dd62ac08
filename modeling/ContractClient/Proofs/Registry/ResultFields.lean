/-
This file says which names the fields of a result have. An output that has a name keeps it, wherever
it stands. One without a name gets the least placeholder from its place on that is not the name of
any output and was not given before (`FieldsNamed`).

So the fields of a result differ exactly if the outputs with names differ in them, and that is all
that a result with mapped outputs can be rejected for (`outputFieldNames_complete`).
-/

import ContractClient.Proofs.Naming.Free
import ContractClient.Proofs.Registry.Outcomes
import Mathlib.Data.Set.Operations

namespace ContractClient

theorem placeholder_injective {left right : Nat} (same : placeholder left = placeholder right) :
    left = right :=
  toString_injective ((String.append_right_inj _).mp same)

/-! ### Names that are kept and names that are given -/

theorem givenNames_cons (output : Parameter) (rest : List Parameter) :
    givenNames (output :: rest) =
      if output.name = "" then givenNames rest else output.name :: givenNames rest := by
  unfold givenNames
  rw [List.map_cons, List.filter_cons]
  by_cases unnamed : output.name = "" <;> simp [unnamed]

/-- An output without a name, among the outputs in front of the place, got the placeholder. -/
def GivenBefore (outputs : List Parameter) (names : List String) (place number : Nat) : Prop :=
  ∃ earlier output, earlier < place ∧ outputs[earlier]? = some output ∧ output.name = "" ∧
    names[earlier]? = some (placeholder number)

/-- The numbers whose placeholders the output at the place could get, where the outputs start at
the given one, beside names that are taken. -/
def openNumbers (taken : List String) (outputs : List Parameter) (names : List String)
    (start place : Nat) : Set Nat :=
  {number | start + place ≤ number ∧ placeholder number ∉ taken ∧
    ¬GivenBefore outputs names place number}

theorem givenBefore_cons_iff {output : Parameter} {rest : List Parameter} {name : String}
    {names : List String} {place number : Nat} :
    GivenBefore (output :: rest) (name :: names) (place + 1) number ↔
      output.name = "" ∧ name = placeholder number ∨ GivenBefore rest names place number := by
  constructor
  · rintro ⟨earlier, other, before, isOutput, unnamed, given⟩
    cases earlier with
    | zero =>
      obtain rfl : output = other := by simpa using isOutput
      exact .inl ⟨unnamed, by simpa using given⟩
    | succ earlier =>
      exact .inr ⟨earlier, other, Nat.lt_of_succ_lt_succ before, by simpa using isOutput, unnamed,
        by simpa using given⟩
  · rintro (⟨unnamed, rfl⟩ | ⟨earlier, other, before, isOutput, unnamed, given⟩)
    · exact ⟨0, output, Nat.zero_lt_succ place, rfl, unnamed, rfl⟩
    · exact ⟨earlier + 1, other, Nat.succ_lt_succ before, by simpa using isOutput, unnamed,
        by simpa using given⟩

theorem openNumbers_zero (taken : List String) (outputs : List Parameter) (names : List String)
    (start : Nat) :
    openNumbers taken outputs names start 0 =
      {number | start ≤ number ∧ placeholder number ∉ taken} := by
  ext number
  have none : ¬GivenBefore outputs names 0 number := fun ⟨_, _, before, _⟩ =>
    Nat.not_lt_zero _ before
  simp [openNumbers, none]

/-- An output that keeps its name takes no placeholder from those behind it. -/
theorem openNumbers_succ_of_named {taken : List String} {output : Parameter}
    (named : output.name ≠ "") (rest : List Parameter) (names : List String) (start place : Nat) :
    openNumbers taken (output :: rest) (output.name :: names) start (place + 1) =
      openNumbers taken rest names (start + 1) place := by
  ext number
  simp only [openNumbers, Set.mem_ofPred_eq, givenBefore_cons_iff, named, false_and, false_or]
  rw [Nat.add_right_comm, Nat.add_assoc]

/-- The placeholder of an output is taken for those behind it. -/
theorem openNumbers_succ_of_unnamed {taken : List String} {output : Parameter}
    (unnamed : output.name = "") (rest : List Parameter) (name : String) (names : List String)
    (start place : Nat) :
    openNumbers taken (output :: rest) (name :: names) start (place + 1) =
      openNumbers (name :: taken) rest names (start + 1) place := by
  ext number
  simp only [openNumbers, Set.mem_ofPred_eq, givenBefore_cons_iff, unnamed, true_and, not_or,
    List.mem_cons]
  rw [Nat.add_right_comm, Nat.add_assoc, eq_comm (a := name)]
  tauto

/-- What the fields for outputs are called. -/
structure FieldsNamed (taken : List String) (start : Nat) (outputs : List Parameter)
    (names : List String) : Prop where
  length : names.length = outputs.length
  named : ∀ (place : Nat) (output : Parameter), outputs[place]? = some output → output.name ≠ "" →
    names[place]? = some output.name
  unnamed : ∀ (place : Nat) (output : Parameter), outputs[place]? = some output → output.name = "" →
    ∃ number, names[place]? = some (placeholder number) ∧
      IsLeast (openNumbers taken outputs names start place) number

theorem fieldNamesFrom_fieldsNamed (outputs : List Parameter) (taken : List String) (start : Nat) :
    FieldsNamed taken start outputs (fieldNamesFrom taken start outputs) := by
  induction outputs generalizing taken start with
  | nil => exact ⟨rfl, nofun, nofun⟩
  | cons output rest inductionHypothesis =>
    refine ⟨length_fieldNamesFrom _ _ _, fun place other isOutput given => ?named,
      fun place other isOutput without => ?unnamed⟩
    case named =>
      rw [fieldNamesFrom]
      cases place with
      | zero =>
        obtain rfl : output = other := by simpa using isOutput
        simp [given]
      | succ place =>
        have isOutput : rest[place]? = some other := by simpa using isOutput
        split <;> exact (inductionHypothesis _ _).named place other isOutput given
    case unnamed =>
      cases place with
      | zero =>
        obtain rfl : output = other := by simpa using isOutput
        rw [openNumbers_zero, fieldNamesFrom, without]
        exact ⟨_, rfl, leastFree_isLeast (fun _ _ => placeholder_injective) taken start⟩
      | succ place =>
        have isOutput : rest[place]? = some other := by simpa using isOutput
        rw [fieldNamesFrom]
        split
        · rename_i first
          rw [openNumbers_succ_of_unnamed (by simpa using first)]
          exact (inductionHypothesis _ _).unnamed place other isOutput without
        · rename_i first
          rw [openNumbers_succ_of_named (by simpa using first)]
          exact (inductionHypothesis _ _).unnamed place other isOutput without

/-! ### Names that differ -/

theorem mem_fieldNamesFrom {taken : List String} {start : Nat} {outputs : List Parameter}
    {name : String} (isField : name ∈ fieldNamesFrom taken start outputs) :
    name ∈ givenNames outputs ∨ name ∉ taken := by
  induction outputs generalizing taken start with
  | nil => cases isField
  | cons output rest inductionHypothesis =>
    rw [fieldNamesFrom] at isField
    rw [givenNames_cons]
    split at isField
    · rename_i unnamed
      rw [if_pos (by simpa using unnamed)]
      rcases List.mem_cons.mp isField with rfl | isField
      · exact .inr (leastFree_not_mem (fun _ _ => placeholder_injective) taken start)
      · exact (inductionHypothesis isField).imp_right
          fun free isTaken => free (List.mem_cons_of_mem _ isTaken)
    · rename_i named
      rw [if_neg (by simpa using named), List.mem_cons]
      rcases List.mem_cons.mp isField with same | isField
      · exact .inl (.inl same)
      · exact (inductionHypothesis isField).imp_left .inr

theorem mem_fieldNamesFrom_of_given {taken : List String} {start : Nat} {outputs : List Parameter}
    {name : String} (given : name ∈ givenNames outputs) :
    name ∈ fieldNamesFrom taken start outputs := by
  induction outputs generalizing taken start with
  | nil => cases given
  | cons output rest inductionHypothesis =>
    rw [givenNames_cons] at given
    rw [fieldNamesFrom]
    split at given
    · rename_i unnamed
      rw [if_pos (by simpa using unnamed)]
      exact List.mem_cons_of_mem _ (inductionHypothesis given)
    · rename_i named
      rw [if_neg (by simpa using named), List.mem_cons]
      exact (List.mem_cons.mp given).imp_right inductionHypothesis

/-- Where the names of the outputs are taken, only they can make two fields equal. -/
theorem fieldNamesFrom_nodup_iff {taken : List String} {start : Nat} {outputs : List Parameter}
    (areTaken : givenNames outputs ⊆ taken) :
    (fieldNamesFrom taken start outputs).Nodup ↔ (givenNames outputs).Nodup := by
  induction outputs generalizing taken start with
  | nil => exact Iff.rfl
  | cons output rest inductionHypothesis =>
    rw [givenNames_cons] at areTaken ⊢
    rw [fieldNamesFrom]
    by_cases unnamed : output.name = ""
    · rw [if_pos unnamed] at areTaken ⊢
      rw [if_pos (by simpa using unnamed), List.nodup_cons,
        inductionHypothesis (List.subset_cons_of_subset _ areTaken)]
      refine and_iff_right fun isField => ?_
      rcases mem_fieldNamesFrom isField with given | free
      · exact leastFree_not_mem (fun _ _ => placeholder_injective) taken start (areTaken given)
      · exact free (List.mem_cons_self ..)
    · rw [if_neg unnamed] at areTaken ⊢
      obtain ⟨isTaken, restTaken⟩ := List.cons_subset.mp areTaken
      rw [if_neg (by simpa using unnamed), List.nodup_cons, List.nodup_cons,
        inductionHypothesis restTaken]
      refine and_congr_left fun _ => not_congr ⟨fun isField => ?_, mem_fieldNamesFrom_of_given⟩
      exact (mem_fieldNamesFrom isField).resolve_right fun free => free isTaken

theorem outputFieldNames_nodup_iff {outputs : List Parameter} :
    (outputFieldNames outputs).Nodup ↔ (givenNames outputs).Nodup :=
  fieldNamesFrom_nodup_iff fun _ given => given

/-! ### Results that are rejected -/

/-- The outputs of the member form a result: there are several, and all of them have types. -/
structure FormsResult (levels : Nat) (member : String) (outputs : List Parameter) : Prop where
  named : member ≠ ""
  several : 2 ≤ outputs.length
  mappable : ∀ output ∈ outputs, output.Mappable levels

/-- The outputs are mapped to the fields of a result, and this result is rejected because two of
them have one name. -/
def RejectsFields (registry : Registry) (member : String) (outputs : List Parameter) : Prop :=
  ∃ fields name mapped,
    mapOutputs member (outputFieldNames outputs) outputs registry = (.ok fields, mapped) ∧
    resultName registry.resultSuffix member = .ok name ∧
    resolveResult member outputs registry = (.error (.shape (.duplicateFields name)), mapped)

section

variable {registry : Registry} {member : String} {outputs : List Parameter}

/-- Mapping the outputs for a result ends as their check does, and gives fields with their names. -/
theorem mapOutputs_outputFieldNames_checks :
    Checks registry (mapOutputs member (outputFieldNames outputs) outputs)
      (requireParameters registry.levels member outputs)
      fun fields => fields.map (·.name) = outputFieldNames outputs :=
  mapOutputs_checks member outputs _ (length_fieldNamesFrom _ _ _)

/-- Outputs that form a result are mapped to fields with their names. -/
theorem FormsResult.maps (forms : FormsResult registry.levels member outputs) :
    ∃ fields mapped,
      mapOutputs member (outputFieldNames outputs) outputs registry = (.ok fields, mapped) ∧
      fields.map (·.name) = outputFieldNames outputs := by
  obtain ⟨fields, mapped, maps, _, named⟩ := mapOutputs_outputFieldNames_checks.exists_run
    (requireParameters_eq_ok_iff.mpr forms.mappable)
  exact ⟨fields, mapped, maps, named⟩

/-- A result is registered as what the outputs that form it are mapped to. -/
theorem FormsResult.resolveResult_run (forms : FormsResult registry.levels member outputs)
    {fields : List Field} {mapped : Registry}
    (maps : mapOutputs member (outputFieldNames outputs) outputs registry = (.ok fields, mapped)) :
    resolveResult member outputs registry =
      Registry.register (capitalized member ++ registry.resultSuffix) fields .result mapped := by
  have keeps : registry.Keeps (mapOutputs member (outputFieldNames outputs) outputs registry).2 :=
    mapOutputs_outputFieldNames_checks.keeps
  rw [maps] at keeps
  have suffix : mapped.resultSuffix = registry.resultSuffix := keeps.resultSuffix
  have named : ¬(member == "") = true := by simpa using forms.named
  have run : resolveResult member outputs registry =
      (mapOutputs member (outputFieldNames outputs) outputs >>= fun fields => do
        let name ← resultName (← get).resultSuffix member
        Registry.register name fields .result) registry := by
    unfold resolveResult
    rw [if_neg named, if_neg (Nat.not_lt.mpr forms.several)]
  rw [run, bind_run, maps]
  show (liftM (resultName mapped.resultSuffix member) >>= fun name =>
    Registry.register name fields .result) mapped = _
  rw [suffix, resultName, if_neg named]
  rfl

theorem FormsResult.requireResult_eq {levels : Nat} (forms : FormsResult levels member outputs)
    (resultSuffix : String) :
    requireResult levels resultSuffix member outputs =
      if (outputFieldNames outputs).Nodup then .ok ()
      else .error (.shape (.duplicateFields (capitalized member ++ resultSuffix))) := by
  have named : ¬(member == "") = true := by simpa using forms.named
  unfold requireResult
  rw [if_neg named, if_neg (Nat.not_lt.mpr forms.several),
    requireParameters_eq_ok_iff.mpr forms.mappable, resultName, if_neg named]
  rfl

/-- Outputs are registered exactly if they form a result, the fields of which differ. -/
theorem requireResult_eq_ok_iff {levels : Nat} {resultSuffix : String} :
    requireResult levels resultSuffix member outputs = .ok () ↔
      FormsResult levels member outputs ∧ (outputFieldNames outputs).Nodup := by
  constructor
  · intro passes
    unfold requireResult at passes
    split at passes
    · cases passes
    split at passes
    · cases passes
    rename_i named several
    obtain ⟨_, typable, passes⟩ := exists_of_bind_eq_ok passes
    obtain ⟨_, _, passes⟩ := exists_of_bind_eq_ok passes
    split at passes
    · rename_i distinct
      exact ⟨⟨by simpa using named, Nat.not_lt.mp several,
        requireParameters_eq_ok_iff.mp typable⟩, distinct⟩
    · cases passes
  · rintro ⟨forms, distinct⟩
    rw [forms.requireResult_eq, if_pos distinct]

/-- Outputs that are mapped, and rejected for equal fields only then, form a result. -/
theorem RejectsFields.formsResult (rejects : RejectsFields registry member outputs) :
    FormsResult registry.levels member outputs := by
  obtain ⟨fields, name, mapped, maps, _, fails⟩ := rejects
  have typable := mapOutputs_outputFieldNames_checks.passes_iff.mpr
    ⟨fields, congrArg Prod.fst maps⟩
  have fails := (resolveResult_checks member outputs).fails_iff.mpr (congrArg Prod.fst fails)
  unfold requireResult at fails
  split at fails
  · cases fails
  split at fails
  · cases fails
  rename_i named several
  exact ⟨by simpa using named, Nat.not_lt.mp several, requireParameters_eq_ok_iff.mp typable⟩

/-- A result with fields that do not differ is rejected for them after its outputs were mapped. -/
theorem FormsResult.rejects (forms : FormsResult registry.levels member outputs)
    (equal : ¬(outputFieldNames outputs).Nodup) : RejectsFields registry member outputs := by
  obtain ⟨fields, mapped, maps, named⟩ := forms.maps
  have notEmpty : ¬(member == "") = true := by simpa using forms.named
  refine ⟨fields, capitalized member ++ registry.resultSuffix, mapped, maps, ?_, ?_⟩
  · rw [resultName, if_neg notEmpty]
  · rw [forms.resolveResult_run maps, Registry.register_run, if_neg (named ▸ equal)]

theorem resolveResult_rejects_iff :
    RejectsFields registry member outputs ↔
      FormsResult registry.levels member outputs ∧ ¬(outputFieldNames outputs).Nodup := by
  constructor
  · intro rejects
    have forms := rejects.formsResult
    refine ⟨forms, fun distinct => ?_⟩
    obtain ⟨_, _, _, _, _, fails⟩ := rejects
    have fails := (resolveResult_checks member outputs).fails_iff.mpr (congrArg Prod.fst fails)
    rw [requireResult_eq_ok_iff.mpr ⟨forms, distinct⟩] at fails
    cases fails
  · rintro ⟨forms, equal⟩
    exact forms.rejects equal

theorem resolveResult_gives_iff :
    (∃ name, (resolveResult member outputs registry).1 = .ok name) ↔
      FormsResult registry.levels member outputs ∧ (outputFieldNames outputs).Nodup := by
  rw [← (resolveResult_checks member outputs).passes_iff, requireResult_eq_ok_iff]

end

/-- The fields of a result have one name for each output: its own, or else the least placeholder
from its place on that is not the name of any output, before it or behind it, and that no output
before it got. They differ exactly if the names that the outputs have themselves do; and whatever
is registered already, outputs that form a result are rejected for equal fields exactly if they do
not, and are registered if they do. -/
theorem outputFieldNames_complete (outputs : List Parameter) :
    let names := outputFieldNames outputs
    FieldsNamed (givenNames outputs) 0 outputs names ∧
      (names.Nodup ↔ (givenNames outputs).Nodup) ∧
      ∀ registry member,
        (RejectsFields registry member outputs ↔
          FormsResult registry.levels member outputs ∧ ¬names.Nodup) ∧
        ((∃ name, (resolveResult member outputs registry).1 = .ok name) ↔
          FormsResult registry.levels member outputs ∧ names.Nodup) := by
  intro names
  refine ⟨fieldNamesFrom_fieldsNamed outputs _ 0, outputFieldNames_nodup_iff, ?_⟩
  intro registry member
  exact ⟨resolveResult_rejects_iff, resolveResult_gives_iff⟩

/-- Placeholders are pushed on by a name behind them, and by one another. -/
example :
    outputFieldNames (["", "", "value0", "", "value3"].map fun name => ⟨name, "bool", "", none⟩) =
      ["value1", "value2", "value0", "value4", "value3"] := by
  decide

end ContractClient
