/-
This file puts texts and pairs of texts in order. Texts are compared character by character by
their code points, pairs of texts by their first texts and then by their second. Sorting is by
insertion, and of equal items the earlier one stays in front.

Sorting neither loses nor adds an item (`inOrder_perm`), and in its result no item stands behind
one that it would have to precede (`inOrder_pairwise`).
-/

namespace ContractClient

/-! ### Comparisons -/

/-- Whether the first text comes before the second or equals it. -/
def textLe (left right : String) : Bool :=
  decide (left ≤ right)

/-- Whether the first of two pairs of texts comes before the second or equals it. -/
def pairLe (left right : String × String) : Bool :=
  if left.1 = right.1 then textLe left.2 right.2 else textLe left.1 right.1

/-! ### Sorting -/

/-- The list with the item in front of the first that the item may precede. -/
def insertInOrder {α : Type} (le : α → α → Bool) (item : α) : List α → List α
  | [] => [item]
  | first :: rest =>
    if le item first then item :: first :: rest else first :: insertInOrder le item rest

/-- The items in order. -/
def inOrder {α : Type} (le : α → α → Bool) : List α → List α
  | [] => []
  | first :: rest => insertInOrder le first (inOrder le rest)

theorem insertInOrder_perm {α : Type} (le : α → α → Bool) (item : α) (items : List α) :
    (insertInOrder le item items).Perm (item :: items) := by
  induction items with
  | nil => exact .refl _
  | cons first rest inductionHypothesis =>
    rw [insertInOrder]
    split
    · exact .refl _
    · exact (inductionHypothesis.cons first).trans (.swap item first rest)

theorem inOrder_perm {α : Type} (le : α → α → Bool) (items : List α) :
    (inOrder le items).Perm items := by
  induction items with
  | nil => exact .refl _
  | cons first rest inductionHypothesis =>
    exact (insertInOrder_perm le first (inOrder le rest)).trans (inductionHypothesis.cons first)

theorem insertInOrder_pairwise {α : Type} {le : α → α → Bool}
    (total : ∀ left right, le left right = true ∨ le right left = true)
    (transitive : ∀ left middle right, le left middle = true → le middle right = true →
      le left right = true)
    (item : α) {items : List α} (ordered : items.Pairwise fun left right => le left right = true) :
    (insertInOrder le item items).Pairwise fun left right => le left right = true := by
  induction items with
  | nil => exact List.pairwise_singleton _ _
  | cons first rest inductionHypothesis =>
    have firstLe := (List.pairwise_cons.mp ordered).1
    have restOrdered := (List.pairwise_cons.mp ordered).2
    rw [insertInOrder]
    split
    · rename_i itemLe
      refine List.pairwise_cons.mpr ⟨fun other member => ?_, ordered⟩
      rcases List.mem_cons.mp member with same | member
      · exact same ▸ itemLe
      · exact transitive item first other itemLe (firstLe other member)
    · rename_i notLe
      refine List.pairwise_cons.mpr ⟨fun other member => ?_, inductionHypothesis restOrdered⟩
      have among := (insertInOrder_perm le item rest).mem_iff.mp member
      rcases List.mem_cons.mp among with same | member
      · exact same ▸ (total item first).resolve_left notLe
      · exact firstLe other member

/-- A comparison of any two items that is transitive puts every list in order. -/
theorem inOrder_pairwise {α : Type} {le : α → α → Bool}
    (total : ∀ left right, le left right = true ∨ le right left = true)
    (transitive : ∀ left middle right, le left middle = true → le middle right = true →
      le left right = true)
    (items : List α) : (inOrder le items).Pairwise fun left right => le left right = true := by
  induction items with
  | nil => exact .nil
  | cons first rest inductionHypothesis =>
    exact insertInOrder_pairwise total transitive first inductionHypothesis

end ContractClient
