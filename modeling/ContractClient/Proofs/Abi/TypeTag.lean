/-
This file reads type tags that end in empty brackets: each pair of brackets is one dimension of
any length, and what stands in front of them names the base type.
-/

import ContractClient.Abi.TypeTag
import ContractClient.Proofs.TypeScript.TypeText

namespace ContractClient

/-- A text without blanks stays as it is. -/
theorem stripChars_of_solid {characters : List Char}
    (solid : ∀ character ∈ characters, isBlank character = false) :
    stripChars characters = characters := by
  have dropNone : ∀ {others : List Char}, (∀ character ∈ others, isBlank character = false) →
      others.dropWhile isBlank = others := by
    intro others solid
    cases others with
    | nil => rfl
    | cons first rest => simp [solid first List.mem_cons_self]
  have solidBackwards : ∀ character ∈ characters.reverse, isBlank character = false :=
    fun character member => solid character (List.mem_reverse.mp member)
  rw [stripChars, dropNone solid, stripEndChars, dropNone solidBackwards, List.reverse_reverse]

theorem solid_bracketChars (rank : Nat) :
    ∀ character ∈ bracketChars rank, isBlank character = false := by
  intro character member
  obtain ⟨pair, isPair, member⟩ := List.mem_flatten.mp member
  rw [List.eq_of_mem_replicate isPair] at member
  rcases List.mem_cons.mp member with rfl | member
  · decide +kernel
  · rw [List.mem_singleton.mp member]
    decide +kernel

/-- Pairs of empty brackets at the end come off as dimensions of any length. -/
theorem splitSuffixes_bracketChars (rank : Nat) (dimensions : List (Option Nat))
    (backwards : List Char) :
    splitSuffixes dimensions none ((bracketChars rank).reverse ++ backwards) =
      splitSuffixes (List.replicate rank none ++ dimensions) none backwards := by
  induction rank generalizing dimensions with
  | zero => rfl
  | succ rank inductionHypothesis =>
    have bracket : isDecimalDigit '[' = false := by decide +kernel
    rw [reverse_bracketChars_succ, List.replicate_succ', List.append_assoc]
    simp only [List.cons_append, splitSuffixes, bracket, if_true, if_false, Bool.false_eq_true,
      readDimension, List.isEmpty_nil]
    exact inductionHypothesis _

/-- A base type with pairs of empty brackets behind it is an array of as many dimensions. -/
theorem TypeTag.parse_bracketChars {characters : List Char} {last : Char} (rank : Nat)
    (solid : ∀ character ∈ characters ++ [last], isBlank character = false)
    (noBracket : last ≠ ']') :
    TypeTag.parse (String.ofList (characters ++ [last] ++ bracketChars rank)) =
      (BaseType.ofChars (characters ++ [last])).map fun base =>
        ⟨base, List.replicate rank none⟩ := by
  have whole : ∀ character ∈ characters ++ [last] ++ bracketChars rank,
      isBlank character = false := by
    intro character member
    rcases List.mem_append.mp member with member | member
    · exact solid character member
    · exact solid_bracketChars rank character member
  have noBreak : last ≠ '\n' := by
    rintro rfl
    exact absurd (solid '\n' (by simp)) (by decide +kernel)
  have split : splitSuffixes [] none (characters ++ [last] ++ bracketChars rank).reverse =
      .ok (characters ++ [last], List.replicate rank none) := by
    rw [List.reverse_append, splitSuffixes_bracketChars, List.reverse_append, List.append_nil]
    simp [splitSuffixes, noBracket, noBreak]
  rw [TypeTag.parse, String.toList_ofList, stripChars_of_solid whole, split]
  cases named : BaseType.ofChars (characters ++ [last]) with
  | error fault =>
    show (BaseType.ofChars (characters ++ [last]) >>= _) = _
    rw [named]
    rfl
  | ok base =>
    show (BaseType.ofChars (characters ++ [last]) >>= _) = _
    rw [named]
    rfl

end ContractClient
