/-
This file proves that planning names every function. The functions that cannot have the name they
would like are put off, and those that were put off are settled; no name that was given is taken
back on the way.
-/

import ContractClient.Client.MethodPlan

namespace ContractClient

namespace MethodPlan

/-- The plan has a method name for the signature. -/
def Knows (plan : MethodPlan) (signature : String) : Prop :=
  (plan.nameOf? signature).isSome

theorem knows_assign_iff {plan : MethodPlan} {signature other name : String} :
    (plan.assign signature name).Knows other ↔ other = signature ∨ plan.Knows other := by
  unfold Knows nameOf? assign
  rw [List.lookup_cons]
  by_cases same : other = signature
  · simp [same]
  · simp [same, beq_eq_false_iff_ne.mpr same]

theorem grantWishes_knows_of_knows {functions : List Member} {plan : MethodPlan}
    {signature : String} (knows : plan.Knows signature) :
    (plan.grantWishes functions).1.Knows signature := by
  induction functions generalizing plan with
  | nil => exact knows
  | cons function rest inductionHypothesis =>
    rw [grantWishes]
    split
    · exact inductionHypothesis knows
    · split
      · exact inductionHypothesis knows
      · exact inductionHypothesis (knows_assign_iff.mpr (.inr knows))

/-- A function gets the name it would like, or its signature is put off. -/
theorem grantWishes_knows {functions : List Member} {plan : MethodPlan} {function : Member}
    (member : function ∈ functions) :
    (plan.grantWishes functions).1.Knows function.signature ∨
      function.signature ∈ (plan.grantWishes functions).2.map (·.1) := by
  induction functions generalizing plan with
  | nil => cases member
  | cons first rest inductionHypothesis =>
    rw [grantWishes]
    rcases List.mem_cons.mp member with rfl | later
    · split
      · rename_i known
        exact .inl (grantWishes_knows_of_knows known)
      · split
        · exact .inr (by simp)
        · exact .inl (grantWishes_knows_of_knows (knows_assign_iff.mpr (.inl rfl)))
    · split
      · exact inductionHypothesis later
      · split
        · exact (inductionHypothesis later).imp_right fun off => by simp [off]
        · exact inductionHypothesis later

/-- What is known stays known, and what was put off becomes known. -/
theorem settlePending_knows {pending : List (String × String)} {plan : MethodPlan}
    {signature : String} (knows : plan.Knows signature ∨ signature ∈ pending.map (·.1)) :
    (plan.settlePending pending).1.Knows signature := by
  induction pending generalizing plan with
  | nil => exact knows.resolve_right List.not_mem_nil
  | cons entry rest inductionHypothesis =>
    obtain ⟨first, wish⟩ := entry
    rw [settlePending]
    refine inductionHypothesis ?_
    rw [knows_assign_iff]
    rcases knows with knows | off
    · exact .inl (.inr knows)
    · rcases List.mem_cons.mp off with same | off
      · exact .inl (.inl same)
      · exact .inr off

/-- Every function among the members has a method name once they are planned. -/
theorem extend_knows (plan : MethodPlan) {members : List Member} {function : Member}
    (member : function ∈ functionsAmong members) :
    (plan.extend members).1.Knows function.signature :=
  settlePending_knows (grantWishes_knows member)

end MethodPlan

end ContractClient
