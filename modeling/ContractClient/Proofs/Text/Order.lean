/-
This file proves that putting items in order forgets how they were ordered before, and nothing
else: two lists are the same in order exactly if they hold the same items equally often. It holds
for texts and for pairs of texts, and for named items whose names differ.
-/

import ContractClient.Text.Order
import Mathlib.Data.List.Nodup

namespace ContractClient

/-! ### Texts and pairs of texts -/

theorem textLe_total (left right : String) :
    textLe left right = true ∨ textLe right left = true := by
  simpa [textLe] using String.le_total left right

theorem textLe_trans (left middle right : String) (first : textLe left middle = true)
    (second : textLe middle right = true) : textLe left right = true := by
  simp only [textLe, decide_eq_true_eq] at *
  exact String.le_trans first second

theorem textLe_antisymm {left right : String} (first : textLe left right = true)
    (second : textLe right left = true) : left = right := by
  simp only [textLe, decide_eq_true_eq] at *
  exact String.le_antisymm first second

theorem pairLe_total (left right : String × String) :
    pairLe left right = true ∨ pairLe right left = true := by
  unfold pairLe
  by_cases same : left.1 = right.1
  · simpa only [same, if_true] using textLe_total left.2 right.2
  · simpa only [same, Ne.symm same, if_false] using textLe_total left.1 right.1

theorem pairLe_antisymm {left right : String × String} (first : pairLe left right = true)
    (second : pairLe right left = true) : left = right := by
  unfold pairLe at first second
  by_cases same : left.1 = right.1
  · simp only [same, if_true] at first second
    exact Prod.ext same (textLe_antisymm first second)
  · simp only [same, Ne.symm same, if_false] at first second
    exact absurd (textLe_antisymm first second) same

theorem pairLe_trans (left middle right : String × String) (first : pairLe left middle = true)
    (second : pairLe middle right = true) : pairLe left right = true := by
  unfold pairLe at first second ⊢
  by_cases sameFirst : left.1 = middle.1
  · by_cases sameSecond : middle.1 = right.1
    · simp only [sameFirst, sameSecond, if_true] at first second ⊢
      exact textLe_trans _ _ _ first second
    · simp only [sameFirst, sameSecond, if_true, if_false] at first second ⊢
      exact second
  · by_cases sameSecond : middle.1 = right.1
    · simp only [sameSecond, if_true] at second
      simp only [sameSecond] at sameFirst first
      simp only [sameFirst, if_false] at first ⊢
      exact first
    · simp only [sameFirst, sameSecond, if_false] at first second
      by_cases around : left.1 = right.1
      · rw [around] at first sameFirst
        exact absurd (textLe_antisymm first second) sameFirst
      · simp only [around, if_false]
        exact textLe_trans _ _ _ first second

/-! ### Lists in order -/

section

variable {α : Type} {le : α → α → Bool}

theorem perm_of_inOrder_eq {first second : List α} (same : inOrder le first = inOrder le second) :
    first.Perm second :=
  ((inOrder_perm le first).symm.trans (same ▸ .refl _)).trans (inOrder_perm le second)

/-- Lists of the same items are the same in order, if no two of the items may each stand in front
of the other. -/
theorem inOrder_eq_of_perm (total : ∀ left right, le left right = true ∨ le right left = true)
    (transitive : ∀ left middle right, le left middle = true → le middle right = true →
      le left right = true)
    {first second : List α} (antisymmetric : ∀ left ∈ first, ∀ right ∈ first,
      le left right = true → le right left = true → left = right)
    (perm : first.Perm second) : inOrder le first = inOrder le second := by
  have sorted := (inOrder_perm le first).trans (perm.trans (inOrder_perm le second).symm)
  refine List.Perm.eq_of_pairwise (fun left right isLeft isRight => ?_)
    (inOrder_pairwise total transitive first) (inOrder_pairwise total transitive second) sorted
  have leftMember := (inOrder_perm le first).mem_iff.mp isLeft
  have rightMember := perm.mem_iff.mpr ((inOrder_perm le second).mem_iff.mp isRight)
  exact antisymmetric left leftMember right rightMember

end

/-- Lists of pairs are the same in order exactly if they hold the same pairs. -/
theorem inOrder_pairLe_eq_iff {first second : List (String × String)} :
    inOrder pairLe first = inOrder pairLe second ↔ first.Perm second :=
  ⟨perm_of_inOrder_eq, inOrder_eq_of_perm pairLe_total pairLe_trans
    fun _ _ _ _ before behind => pairLe_antisymm before behind⟩

/-! ### Named items -/

/-- Whether the name of the first item comes before that of the second or equals it. -/
def nameLe {α : Type} (left right : String × α) : Bool :=
  textLe left.1 right.1

/-- Lists of named items are the same in order exactly if they hold the same items, provided that
no name occurs twice. -/
theorem inOrder_nameLe_eq_iff {α : Type} {first second : List (String × α)}
    (distinct : (first.map (·.1)).Nodup) :
    inOrder nameLe first = inOrder nameLe second ↔ first.Perm second := by
  refine ⟨perm_of_inOrder_eq, inOrder_eq_of_perm
    (fun left right => textLe_total left.1 right.1)
    (fun left middle right => textLe_trans left.1 middle.1 right.1) ?_⟩
  intro left isLeft right isRight before behind
  exact List.inj_on_of_nodup_map distinct isLeft isRight (textLe_antisymm before behind)

end ContractClient
