/-
This file chooses names that are still free. Candidates are numbered; the search starts at a
given number and takes the least from there on whose candidate is free. Where candidates of
different numbers differ, it always finds one (`leastFree_not_mem`), and it passes over none that
is free (`mem_of_lt_leastFree`).
-/

namespace ContractClient

/-! ### The search -/

/-- The least number from `number` on whose candidate is not among the names, of which there are
at most `steps`. A name that was met once is not looked at again. -/
def searchFree (candidate : Nat → String) : Nat → Nat → List String → Nat
  | 0, number, _ => number
  | steps + 1, number, names =>
    if names.contains (candidate number) then
      searchFree candidate steps (number + 1) (names.erase (candidate number))
    else number

/-- The least number from `start` on whose candidate is not taken. The names at the end of the
list are looked at first. -/
def leastFree (taken : List String) (candidate : Nat → String) (start : Nat) : Nat :=
  searchFree candidate taken.length start taken.reverse

theorem le_searchFree (candidate : Nat → String) (steps number : Nat) (names : List String) :
    number ≤ searchFree candidate steps number names := by
  induction steps generalizing number names with
  | zero => exact Nat.le_refl number
  | succ steps inductionHypothesis =>
    rw [searchFree]
    split
    · exact Nat.le_of_succ_le (inductionHypothesis (number + 1) _)
    · exact Nat.le_refl number

theorem searchFree_not_mem {candidate : Nat → String}
    (distinct : ∀ left right, candidate left = candidate right → left = right)
    {steps : Nat} (number : Nat) {names : List String} (few : names.length ≤ steps) :
    candidate (searchFree candidate steps number names) ∉ names := by
  induction steps generalizing number names with
  | zero =>
    rw [List.eq_nil_of_length_eq_zero (Nat.le_zero.mp few)]
    exact List.not_mem_nil
  | succ steps inductionHypothesis =>
    rw [searchFree]
    split
    · rename_i met
      have isMember := List.contains_iff_mem.mp met
      have fewer : (names.erase (candidate number)).length ≤ steps := by
        rw [List.length_erase_of_mem isMember]
        omega
      have later := le_searchFree candidate steps (number + 1) (names.erase (candidate number))
      intro found
      refine inductionHypothesis (number + 1) fewer ((List.mem_erase_of_ne ?_).mpr found)
      intro same
      have := distinct _ _ same
      omega
    · rename_i free
      exact fun isMember => free (List.contains_iff_mem.mpr isMember)

theorem mem_of_lt_searchFree {candidate : Nat → String} {steps number other : Nat}
    {names : List String} (notBefore : number ≤ other)
    (before : other < searchFree candidate steps number names) : candidate other ∈ names := by
  induction steps generalizing number names with
  | zero => exact absurd before (Nat.not_lt.mpr notBefore)
  | succ steps inductionHypothesis =>
    rw [searchFree] at before
    split at before
    · rename_i met
      rcases Nat.eq_or_lt_of_le notBefore with same | later
      · exact same ▸ List.contains_iff_mem.mp met
      · exact List.mem_of_mem_erase (inductionHypothesis later before)
    · exact absurd before (Nat.not_lt.mpr notBefore)

/-- The candidate of the number that is found is free. -/
theorem leastFree_not_mem {candidate : Nat → String}
    (distinct : ∀ left right, candidate left = candidate right → left = right)
    (taken : List String) (start : Nat) : candidate (leastFree taken candidate start) ∉ taken :=
  fun found => searchFree_not_mem distinct start (Nat.le_of_eq List.length_reverse)
    (List.mem_reverse.mpr found)

/-- Every number before the one that is found has a candidate that is taken. -/
theorem mem_of_lt_leastFree {taken : List String} {candidate : Nat → String} {start other : Nat}
    (notBefore : start ≤ other) (before : other < leastFree taken candidate start) :
    candidate other ∈ taken :=
  List.mem_reverse.mp (mem_of_lt_searchFree notBefore before)

/-! ### Names -/

/-- The name with a number behind it. -/
def numbered (name : String) (number : Nat) : String :=
  name ++ "_" ++ toString number

/-- The name with the least number from two on that makes it free. -/
def freeNumbered (taken : List String) (name : String) : String :=
  numbered name (leastFree taken (numbered name) 2)

/-- The name itself if it is free, and otherwise the name with the least number that makes it
free. -/
def freeName (taken : List String) (name : String) : String :=
  if taken.contains name then freeNumbered taken name else name

end ContractClient
