/-
This file says which names the arguments of a method bear. They differ from one another and from the
name of the options (`argumentNames_nodup`), and each is one that an argument may bear
(`isArgumentName_of_mem_argumentNames`). A name that is not one of the numbered ones is borne
exactly if it can be, and a parameter is called so, with or without an underscore in front
(`mem_argumentNames_iff`).

A parameter keeps its own name where it can. Each of the others gets the least number that is not
below the counter and gives a free name, and the counter goes on behind it (`ArgumentsNamed`).
-/

import ContractClient.Client.Arguments
import ContractClient.Proofs.Naming.Free
import ContractClient.Proofs.Text.Identifiers
import Mathlib.Data.List.Nodup
import Mathlib.Data.Set.Operations

namespace ContractClient

theorem numberedArgument_injective {left right : Nat}
    (same : numberedArgument left = numberedArgument right) : left = right :=
  toString_injective ((String.append_right_inj _).mp same)

theorem numberedArgument_chars (number : Nat) :
    (numberedArgument number).toList = 'a' :: 'r' :: 'g' :: (toString number).toList := by
  rw [numberedArgument, String.toList_append]
  rfl

/-- The names of arguments differ from one another and from all names taken before. -/
theorem argumentNamesFrom_nodup (parameters : List Parameter) {taken : List String}
    (distinct : taken.Nodup) (number : Nat) :
    (argumentNamesFrom taken number parameters ++ taken).Nodup := by
  induction parameters generalizing taken number with
  | nil => exact distinct
  | cons parameter rest inductionHypothesis =>
    have step : ∀ (name : String) (later : Nat), name ∉ taken →
        (name :: argumentNamesFrom (name :: taken) later rest ++ taken).Nodup :=
      fun name later free => List.perm_middle.nodup_iff.mp
        (inductionHypothesis (List.nodup_cons.mpr ⟨free, distinct⟩) later)
    rw [argumentNamesFrom]
    split
    · rename_i fits
      simp only [Bool.and_eq_true, Bool.not_eq_true', List.contains_eq_mem,
        decide_eq_false_iff_not] at fits
      exact step _ _ fits.2
    · exact step _ _ (leastFree_not_mem (fun _ _ => numberedArgument_injective) taken number)

theorem argumentNames_nodup (parameters : List Parameter) :
    (argumentNames parameters ++ [optionsName]).Nodup :=
  argumentNamesFrom_nodup parameters (List.nodup_singleton _) 0

/-- A name that is no numbered one is borne by an argument exactly if an argument can bear it, it
was not taken before, and a parameter is called so. -/
theorem mem_argumentNamesFrom_iff {name : String}
    (notNumbered : ∀ number, numberedArgument number ≠ name) {parameters : List Parameter}
    {taken : List String} {number : Nat} :
    name ∈ argumentNamesFrom taken number parameters ↔
      isArgumentName name ∧ name ∉ taken ∧
        ∃ parameter ∈ parameters, dropUnderscore parameter.name = name := by
  induction parameters generalizing taken number with
  | nil => simp [argumentNamesFrom]
  | cons parameter rest inductionHypothesis =>
    rw [argumentNamesFrom, List.exists_mem_cons_iff]
    split
    · rename_i fits
      simp only [Bool.and_eq_true, Bool.not_eq_true', List.contains_eq_mem,
        decide_eq_false_iff_not] at fits
      rw [List.mem_cons, inductionHypothesis, List.mem_cons]
      constructor
      · rintro (rfl | ⟨isName, free, named⟩)
        · exact ⟨fits.1, fits.2, .inl rfl⟩
        · exact ⟨isName, fun isTaken => free (.inr isTaken), .inr named⟩
      · rintro ⟨isName, free, named⟩
        by_cases same : name = dropUnderscore parameter.name
        · exact .inl same
        · refine .inr ⟨isName, fun isTaken => isTaken.elim same free, ?_⟩
          exact named.resolve_left fun isOwn => same isOwn.symm
    · rename_i unfit
      rw [List.mem_cons, inductionHypothesis, List.mem_cons]
      constructor
      · rintro (isNumbered | ⟨isName, free, named⟩)
        · exact (notNumbered _ isNumbered.symm).elim
        · exact ⟨isName, fun isTaken => free (.inr isTaken), .inr named⟩
      · rintro ⟨isName, free, named⟩
        refine .inr ⟨isName, fun isTaken => ?_, named.resolve_left ?_⟩
        · exact isTaken.elim (fun same => notNumbered _ same.symm) free
        · rintro rfl
          exact unfit (by simp [isName, free])

theorem mem_argumentNames_iff {name : String}
    (notNumbered : ∀ number, numberedArgument number ≠ name) {parameters : List Parameter} :
    name ∈ argumentNames parameters ↔
      isArgumentName name ∧ name ≠ optionsName ∧
        ∃ parameter ∈ parameters, dropUnderscore parameter.name = name := by
  rw [argumentNames, mem_argumentNamesFrom_iff notNumbered, List.mem_singleton]

/-! ### Names that arguments may bear -/

theorem isIdentifier_numberedArgument (number : Nat) : isIdentifier (numberedArgument number) := by
  have digits : ∀ character ∈ (toString number).toList, isIdentifierContinue character :=
    fun character member =>
      isIdentifierContinue_of_isDigit (isDigit_of_mem_toString character member)
  rw [isIdentifier, numberedArgument_chars, isIdentifierChars, Bool.and_eq_true, List.all_eq_true,
    List.forall_mem_cons, List.forall_mem_cons]
  exact ⟨by decide, by decide, by decide, digits⟩

theorem numberedArgument_not_mem_reservedWords (number : Nat) :
    numberedArgument number ∉ reservedWords := by
  -- The only reserved word that starts with `arg` goes on with a letter.
  have only : reservedWords.filter (fun word => word.toList.take 3 == ['a', 'r', 'g']) =
      ["arguments"] := by
    decide +kernel
  intro reserved
  have begins : ((numberedArgument number).toList.take 3 == ['a', 'r', 'g']) = true := by
    rw [numberedArgument_chars]
    rfl
  have isWord : numberedArgument number ∈ ["arguments"] :=
    only ▸ List.mem_filter.mpr ⟨reserved, begins⟩
  have characters := congrArg String.toList (List.mem_singleton.mp isWord)
  rw [numberedArgument_chars] at characters
  have digits : (toString number).toList = "uments".toList := by simpa using characters
  have isLetter : 'u' ∈ (toString number).toList := by
    rw [digits]
    decide
  exact absurd (isDigit_of_mem_toString 'u' isLetter) (by decide)

theorem isArgumentName_iff {name : String} :
    isArgumentName name ↔ isIdentifier name ∧ name ∉ reservedWords := by
  rw [isArgumentName, Bool.and_eq_true, Bool.not_eq_true', List.contains_eq_mem,
    decide_eq_false_iff_not]

theorem isArgumentName_of_mem_argumentNamesFrom {parameters : List Parameter}
    {taken : List String} {number : Nat} :
    ∀ name ∈ argumentNamesFrom taken number parameters, isArgumentName name := by
  induction parameters generalizing taken number with
  | nil => exact fun _ => nofun
  | cons parameter rest inductionHypothesis =>
    rw [argumentNamesFrom]
    split
    · rename_i fits
      rw [Bool.and_eq_true] at fits
      exact List.forall_mem_cons.mpr ⟨fits.1, inductionHypothesis⟩
    · refine List.forall_mem_cons.mpr ⟨?_, inductionHypothesis⟩
      exact isArgumentName_iff.mpr
        ⟨isIdentifier_numberedArgument _, numberedArgument_not_mem_reservedWords _⟩

theorem isArgumentName_of_mem_argumentNames {parameters : List Parameter} :
    ∀ name ∈ argumentNames parameters, isArgumentName name :=
  isArgumentName_of_mem_argumentNamesFrom

/-! ### Names that are kept and numbers that are given -/

/-- The parameter can keep its name, without one underscore in front, beside the names. -/
def Parameter.KeepsName (taken : List String) (parameter : Parameter) : Prop :=
  isArgumentName (dropUnderscore parameter.name) ∧ dropUnderscore parameter.name ∉ taken

/-- The counter behind parameters of which some got numbers, from the given one on. -/
def counterAfter (number : Nat) : List (Option Nat) → Nat
  | [] => number
  | none :: rest => counterAfter number rest
  | some given :: rest => counterAfter (given + 1) rest

/-- What the arguments for parameters are called, beside names that are taken and with the counter
at the given number, and which of them got numbers. -/
structure ArgumentsNamed (taken : List String) (number : Nat) (parameters : List Parameter)
    (names : List String) (numbers : List (Option Nat)) : Prop where
  length : names.length = parameters.length
  keeps : ∀ (place : Nat) (parameter : Parameter), parameters[place]? = some parameter →
    parameter.KeepsName (names.take place ++ taken) →
      names[place]? = some (dropUnderscore parameter.name) ∧ numbers[place]? = some none
  numbered : ∀ (place : Nat) (parameter : Parameter), parameters[place]? = some parameter →
    ¬parameter.KeepsName (names.take place ++ taken) →
      ∃ given, names[place]? = some (numberedArgument given) ∧
        numbers[place]? = some (some given) ∧
        IsLeast {free | counterAfter number (numbers.take place) ≤ free ∧
          numberedArgument free ∉ names.take place ++ taken} given
  increasing : (numbers.filterMap id).Pairwise (· < ·)
  notBelow : ∀ given ∈ numbers.filterMap id, number ≤ given

/-- It does not matter where in the list a name is that is taken. -/
theorem Parameter.keepsName_cons_iff {taken before : List String} {name : String}
    {parameter : Parameter} :
    parameter.KeepsName (name :: before ++ taken) ↔
      parameter.KeepsName (before ++ name :: taken) := by
  unfold KeepsName
  rw [List.cons_append, List.perm_middle.mem_iff]

theorem counterAfter_cons (number : Nat) (entry : Option Nat) (rest : List (Option Nat)) :
    counterAfter number (entry :: rest) = counterAfter (counterAfter number [entry]) rest := by
  cases entry <;> rfl

/-- One more parameter in front of others, which take its name for taken. -/
theorem ArgumentsNamed.cons {taken names : List String} {number : Nat} {parameter : Parameter}
    {rest : List Parameter} {name : String} {entry : Option Nat} {numbers : List (Option Nat)}
    (kept : parameter.KeepsName taken → name = dropUnderscore parameter.name ∧ entry = none)
    (counted : ¬parameter.KeepsName taken →
      ∃ given, name = numberedArgument given ∧ entry = some given ∧
        IsLeast {free | number ≤ free ∧ numberedArgument free ∉ taken} given)
    (others : ArgumentsNamed (name :: taken) (counterAfter number [entry]) rest names numbers) :
    ArgumentsNamed taken number (parameter :: rest) (name :: names) (entry :: numbers) := by
  refine ⟨congrArg (· + 1) others.length, fun place other isParameter isKept => ?keeps,
    fun place other isParameter isCounted => ?numbered, ?increasing, ?notBelow⟩
  case keeps =>
    cases place with
    | zero =>
      obtain rfl : parameter = other := by simpa using isParameter
      obtain ⟨rfl, rfl⟩ := kept isKept
      exact ⟨rfl, rfl⟩
    | succ place =>
      exact others.keeps place other (by simpa using isParameter)
        (Parameter.keepsName_cons_iff.mp isKept)
  case numbered =>
    cases place with
    | zero =>
      obtain rfl : parameter = other := by simpa using isParameter
      obtain ⟨given, rfl, rfl, least⟩ := counted isCounted
      exact ⟨given, rfl, rfl, least⟩
    | succ place =>
      obtain ⟨given, named, isGiven, least⟩ := others.numbered place other
        (by simpa using isParameter)
        fun isKept => isCounted (Parameter.keepsName_cons_iff.mpr isKept)
      have counter : counterAfter number ((entry :: numbers).take (place + 1)) =
          counterAfter (counterAfter number [entry]) (numbers.take place) :=
        counterAfter_cons number entry (numbers.take place)
      have sameNames : ∀ other, other ∈ (name :: names).take (place + 1) ++ taken ↔
          other ∈ names.take place ++ name :: taken :=
        fun other => List.perm_middle.mem_iff.symm
      refine ⟨given, named, isGiven, ?_⟩
      simpa only [counter, sameNames] using least
  case increasing =>
    cases entry with
    | none => exact others.increasing
    | some given => exact List.pairwise_cons.mpr ⟨others.notBelow, others.increasing⟩
  case notBelow =>
    by_cases keeps : parameter.KeepsName taken
    · obtain ⟨rfl, rfl⟩ := kept keeps
      exact others.notBelow
    · obtain ⟨given, rfl, rfl, least⟩ := counted keeps
      have above : number ≤ given := least.1.1
      exact List.forall_mem_cons.mpr ⟨above, fun later isLater =>
        Nat.le_trans (Nat.le_succ_of_le above) (others.notBelow later isLater)⟩

/-- The numbers are those of the names which are not kept. -/
theorem argumentNamesFrom_named (parameters : List Parameter) (taken : List String)
    (number : Nat) :
    ∃ numbers, ArgumentsNamed taken number parameters
      (argumentNamesFrom taken number parameters) numbers := by
  induction parameters generalizing taken number with
  | nil => exact ⟨[], rfl, nofun, nofun, .nil, nofun⟩
  | cons parameter rest inductionHypothesis =>
    have keepsName_iff : parameter.KeepsName taken ↔
        (isArgumentName (dropUnderscore parameter.name) &&
          !taken.contains (dropUnderscore parameter.name)) = true := by
      simp [Parameter.KeepsName]
    rw [argumentNamesFrom]
    split
    · rename_i fits
      have keeps := keepsName_iff.mpr fits
      obtain ⟨numbers, others⟩ :=
        inductionHypothesis (dropUnderscore parameter.name :: taken) number
      exact ⟨none :: numbers, .cons (fun _ => ⟨rfl, rfl⟩) (fun unfit => (unfit keeps).elim) others⟩
    · rename_i unfit
      have least := leastFree_isLeast (fun _ _ => numberedArgument_injective) taken number
      obtain ⟨numbers, others⟩ := inductionHypothesis
        (numberedArgument (leastFree taken numberedArgument number) :: taken)
        (leastFree taken numberedArgument number + 1)
      exact ⟨some _ :: numbers, .cons (fun keeps => (unfit (keepsName_iff.mp keeps)).elim)
        (fun _ => ⟨_, rfl, rfl, least⟩) others⟩

end ContractClient
