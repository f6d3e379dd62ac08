/-
This file proves that the names chosen for interfaces and methods are free. Numbers that differ
give names that differ, so that the search for a free number never gives up.
-/

import ContractClient.Naming.Fresh
import Mathlib.Order.Bounds.Defs

namespace ContractClient

/-- The number that is found is the least from the start on whose candidate is free. -/
theorem leastFree_isLeast {candidate : Nat → String}
    (distinct : ∀ left right, candidate left = candidate right → left = right)
    (taken : List String) (start : Nat) :
    IsLeast {number | start ≤ number ∧ candidate number ∉ taken}
      (leastFree taken candidate start) := by
  refine ⟨⟨le_searchFree _ _ _ _, leastFree_not_mem distinct taken start⟩, ?_⟩
  rintro number ⟨notBefore, free⟩
  exact Nat.le_of_not_lt fun before => free (mem_of_lt_leastFree notBefore before)

/-- Numbers that differ are written differently. -/
theorem toString_injective {left right : Nat} (same : toString left = toString right) :
    left = right := by
  have digits : Nat.toDigits 10 left = Nat.toDigits 10 right := String.ofList_injective same
  rw [← Nat.ofDigitChars_ten_toDigits (n := left), digits, Nat.ofDigitChars_ten_toDigits]

theorem minus_not_mem_toString (number : Nat) : '-' ∉ (toString number).toList := by
  simp only [Nat.toString_eq_ofList_toDigits, String.toList_ofList]
  exact fun digit => absurd (Nat.isDigit_of_mem_toDigits (by decide) (by decide) digit) (by decide)

/-- Whole numbers that differ are written differently, below zero and above. -/
theorem toString_int_injective {left right : Int} (same : toString left = toString right) :
    left = right := by
  cases left with
  | ofNat left =>
    cases right with
    | ofNat right => exact congrArg Int.ofNat (toString_injective same)
    | negSucc right =>
      have written : toString left = "-" ++ toString (right + 1) := same
      exact absurd (by simp [written]) (minus_not_mem_toString left)
  | negSucc left =>
    cases right with
    | ofNat right =>
      have written : toString right = "-" ++ toString (left + 1) := same.symm
      exact absurd (by simp [written]) (minus_not_mem_toString right)
    | negSucc right =>
      have written : "-" ++ toString (left + 1) = "-" ++ toString (right + 1) := same
      have same := toString_injective ((String.append_right_inj _).mp written)
      exact congrArg Int.negSucc (Nat.succ.inj same)

theorem toString_int_ne_empty (number : Int) : toString number ≠ "" := by
  cases number with
  | ofNat number =>
    have written : (toString number).toList = Nat.toDigits 10 number := by simp
    intro empty
    have none : toString number = "" := empty
    rw [none] at written
    exact Nat.toDigits_ne_nil written.symm
  | negSucc number =>
    intro empty
    have none : "-" ++ toString (number + 1) = "" := empty
    simp at none

theorem numbered_injective (name : String) {left right : Nat}
    (same : numbered name left = numbered name right) : left = right :=
  toString_injective ((String.append_right_inj _).mp same)

theorem freeNumbered_not_mem (taken : List String) (name : String) :
    freeNumbered taken name ∉ taken :=
  leastFree_not_mem (fun _ _ => numbered_injective name) taken 2

theorem freeName_not_mem (taken : List String) (name : String) : freeName taken name ∉ taken := by
  unfold freeName
  split
  · exact freeNumbered_not_mem taken name
  · rename_i free
    exact fun member => free (List.contains_iff_mem.mpr member)

end ContractClient
