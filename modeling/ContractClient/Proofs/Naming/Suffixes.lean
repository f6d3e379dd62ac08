/-
This file follows the search for a free name from candidate to candidate. The loop starts with a
name, and as long as the candidate at hand is taken, it goes on with the wanted name and the next
number behind it (`SearchEnds`). Only so many names are taken, and numbers that differ give names
that differ; so the loop always ends, and it ends with the first candidate that is free.

Interfaces start with the wanted name itself, and methods that are put off with the number two. Of
the latter, each one searches beside those that were settled in front of it (`SettlesInTurn`).
-/

import ContractClient.Proofs.Client.FirstNames
import ContractClient.Proofs.Registry.Typing

namespace ContractClient

/-! ### The loop -/

/-- The loop that holds a candidate, and the number it tries next, ends with the given name. A
candidate that is taken gives way to the wanted name with that number. -/
inductive SearchEnds (taken : Set String) (wanted : String) : String → Nat → String → Prop
  | stop {candidate : String} {number : Nat} : candidate ∉ taken →
      SearchEnds taken wanted candidate number candidate
  | turn {candidate found : String} {number : Nat} : candidate ∈ taken →
      SearchEnds taken wanted (numbered wanted number) (number + 1) found →
      SearchEnds taken wanted candidate number found

/-- The name is the wanted one with the least number from two on that makes it free. -/
def IsLeastNumbered (taken : Set String) (wanted name : String) : Prop :=
  ∃ number, name = numbered wanted number ∧
    IsLeast {number | 2 ≤ number ∧ numbered wanted number ∉ taken} number

/-- The name is the wanted one if that is free, and otherwise the wanted one with the least number
from two on that makes it free. -/
structure IsFirstFree (taken : Set String) (wanted name : String) : Prop where
  own : wanted ∉ taken → name = wanted
  numbered : wanted ∈ taken → IsLeastNumbered taken wanted name

section

variable {taken : Set String} {wanted : String}

/-- The loop passes over all numbers up to the first one that makes the name free. -/
theorem SearchEnds.of_numbers {first steps : Nat}
    (areTaken : ∀ number, first ≤ number → number < first + steps →
      numbered wanted number ∈ taken)
    (free : numbered wanted (first + steps) ∉ taken) :
    SearchEnds taken wanted (numbered wanted first) (first + 1)
      (numbered wanted (first + steps)) := by
  induction steps generalizing first with
  | zero => exact .stop free
  | succ steps inductionHypothesis =>
    have shift : first + (steps + 1) = first + 1 + steps := by omega
    rw [shift] at areTaken free ⊢
    refine .turn (areTaken first (Nat.le_refl first) (by omega)) (inductionHypothesis ?_ free)
    exact fun number notBefore before => areTaken number (Nat.le_of_succ_le notBefore) before

end

/-! ### The names that are found -/

section

variable (taken : List String) (wanted : String)

theorem freeNumbered_isLeastNumbered :
    IsLeastNumbered {name | name ∈ taken} wanted (freeNumbered taken wanted) :=
  ⟨_, rfl, leastFree_isLeast (fun _ _ => numbered_injective wanted) taken 2⟩

/-- Whatever is taken, the loop that starts with the number two ends. -/
theorem freeNumbered_searchEnds :
    SearchEnds {name | name ∈ taken} wanted (numbered wanted 2) 3 (freeNumbered taken wanted) := by
  obtain ⟨number, isNumbered, ⟨⟨notBefore, free⟩, least⟩⟩ :=
    freeNumbered_isLeastNumbered taken wanted
  rw [isNumbered]
  obtain ⟨steps, rfl⟩ := Nat.exists_eq_add_of_le notBefore
  refine .of_numbers (fun other fromTwo before => ?_) free
  exact Classical.not_not.mp fun isFree => Nat.not_le.mpr before (least ⟨fromTwo, isFree⟩)

theorem freeName_isFirstFree :
    IsFirstFree {name | name ∈ taken} wanted (freeName taken wanted) := by
  constructor
  case own => exact fun free => if_neg (mt List.contains_iff_mem.mp free)
  case numbered =>
    intro isTaken
    rw [freeName, if_pos (List.contains_iff_mem.mpr isTaken)]
    exact freeNumbered_isLeastNumbered taken wanted

/-- Whatever is taken, the loop that starts with the wanted name ends. -/
theorem freeName_searchEnds :
    SearchEnds {name | name ∈ taken} wanted wanted 2 (freeName taken wanted) := by
  by_cases isTaken : wanted ∈ taken
  · rw [freeName, if_pos (List.contains_iff_mem.mpr isTaken)]
    exact .turn isTaken (freeNumbered_searchEnds taken wanted)
  · rw [freeName, if_neg (mt List.contains_iff_mem.mp isTaken)]
    exact .stop isTaken

end

/-! ### Pending functions -/

/-- The pending signatures are settled one after the other: the loop for the wish of each, which
starts with the number two, ends with the least number that is free beside the names taken at first
and those of the signatures in front of it. -/
inductive SettlesInTurn :
    Set String → List (String × String) → List (String × String) → Prop
  | nil (taken : Set String) : SettlesInTurn taken [] []
  | cons {taken : Set String} {signature wish name : String}
      {pending settled : List (String × String)} :
      SearchEnds taken wish (numbered wish 2) 3 name → IsLeastNumbered taken wish name →
      SettlesInTurn (insert name taken) pending settled →
      SettlesInTurn taken ((signature, wish) :: pending) ((signature, name) :: settled)

namespace MethodPlan

theorem settlePending_settlesInTurn (plan : MethodPlan) (pending : List (String × String)) :
    SettlesInTurn {name | name ∈ plan.taken} pending (plan.settlePending pending).2 := by
  induction pending generalizing plan with
  | nil => exact .nil _
  | cons entry rest inductionHypothesis =>
    obtain ⟨signature, wish⟩ := entry
    have others := inductionHypothesis (plan.assign signature (freeNumbered plan.taken wish))
    have grown : {name | name ∈ (plan.assign signature (freeNumbered plan.taken wish)).taken} =
        insert (freeNumbered plan.taken wish) {name | name ∈ plan.taken} :=
      Set.ext fun _ => mem_taken_assign_iff
    rw [grown] at others
    exact .cons (freeNumbered_searchEnds _ _) (freeNumbered_isLeastNumbered _ _) others

/-- The names of the settled signatures are added to the plan, the latest in front. -/
theorem settlePending_assigned (plan : MethodPlan) (pending : List (String × String)) :
    (plan.settlePending pending).1.assigned =
      (plan.settlePending pending).2.reverse ++ plan.assigned := by
  induction pending generalizing plan with
  | nil => rfl
  | cons entry rest inductionHypothesis =>
    obtain ⟨signature, wish⟩ := entry
    rw [settlePending]
    dsimp only
    rw [inductionHypothesis, List.reverse_cons, List.append_assoc]
    rfl

/-- Granting wishes adds names to the plan and takes none back. -/
theorem grantWishes_assigned (functions : List Member) (plan : MethodPlan) :
    ∃ granted, (plan.grantWishes functions).1.assigned = granted ++ plan.assigned := by
  induction functions generalizing plan with
  | nil => exact ⟨[], rfl⟩
  | cons function rest inductionHypothesis =>
    rw [grantWishes]
    split
    · exact inductionHypothesis plan
    · split
      · exact inductionHypothesis plan
      · obtain ⟨granted, assigned⟩ := inductionHypothesis
          (plan.assign function.signature (wishedName function.name))
        exact ⟨granted ++ [(function.signature, wishedName function.name)],
          by rw [assigned, assign, List.append_assoc, List.singleton_append]⟩

/-- The wishes that were granted are taken beside what the plan has taken before. -/
theorem mem_taken_of_assigned {plan later : MethodPlan} {granted : List (String × String)}
    (assigned : later.assigned = granted ++ plan.assigned) {name : String} :
    name ∈ later.taken ↔
      name ∈ classMembers ∨ name ∈ plan.methodNames ∨ name ∈ granted.map (·.2) := by
  rw [taken, methodNames, assigned, List.map_append, List.mem_append, List.mem_append]
  exact or_congr_right or_comm

end MethodPlan

/-! ### Both searches -/

/-- Whatever names are taken, the search for the name of an interface of a new shape ends, and the
interface is registered under the wanted name if that is free, and otherwise under the wanted name
with the least number from two on that makes it free.

Whatever is planned already, the search for each pending function ends, in their order, and gives it
its wish with the least number from two on that makes it free beside the names of the plan and those
of the functions in front of it. Where functions are planned, these are the names of the members
that every class has, those of earlier plans, and the wishes granted before. -/
theorem suffixSearches_end :
    (∀ (registry : Registry) (wanted : String) (fields : List Field) (origin : Origin),
      (fields.map (·.name)).Nodup → registry.shaped? (fieldSignature fields) = none →
      ∃ name after,
        SearchEnds {name | name ∈ registry.taken} wanted wanted 2 name ∧
        IsFirstFree {name | name ∈ registry.taken} wanted name ∧
        Registry.register wanted fields origin registry = (.ok name, after) ∧
        after.interfaces = registry.interfaces ++ [⟨name, fields, origin⟩] ∧
        after.taken = name :: registry.taken) ∧
    (∀ (plan : MethodPlan) (pending : List (String × String)),
      SettlesInTurn {name | name ∈ plan.taken} pending (plan.settlePending pending).2 ∧
      (plan.settlePending pending).1.assigned =
        (plan.settlePending pending).2.reverse ++ plan.assigned) ∧
    ∀ (plan : MethodPlan) (members : List Member),
      let first := (plan.mark (functionsAmong members)).grantWishes (functionsAmong members)
      ∃ granted, first.1.assigned = granted ++ plan.assigned ∧
        SettlesInTurn
          {name | name ∈ classMembers ∨ name ∈ plan.methodNames ∨ name ∈ granted.map (·.2)}
          first.2 (plan.extend members).2 ∧
        (plan.extend members).1.assigned =
          (plan.extend members).2.reverse ++ first.1.assigned := by
  refine ⟨fun registry wanted fields origin distinct isNew => ?interfaces,
    fun plan pending => ⟨plan.settlePending_settlesInTurn pending, plan.settlePending_assigned _⟩,
    fun plan members => ?methods⟩
  case interfaces =>
    refine ⟨_, (registry.insert wanted fields origin).2, freeName_searchEnds _ _,
      freeName_isFirstFree _ _, ?_, rfl, rfl⟩
    rw [Registry.register_run, if_pos distinct, isNew]
    rfl
  case methods =>
    intro first
    obtain ⟨granted, assigned⟩ := MethodPlan.grantWishes_assigned (functionsAmong members)
      (plan.mark (functionsAmong members))
    have settles := first.1.settlePending_settlesInTurn first.2
    have isTaken : {name | name ∈ first.1.taken} =
        {name | name ∈ classMembers ∨ name ∈ plan.methodNames ∨ name ∈ granted.map (·.2)} :=
      Set.ext fun _ => MethodPlan.mem_taken_of_assigned assigned
    rw [isTaken] at settles
    exact ⟨granted, assigned, settles, first.1.settlePending_assigned first.2⟩

/-- A registry in which a name is taken, and so is it with the first number and with the third. -/
def crowdedRegistry : Registry :=
  .fresh ["Point_4", "Point", "Point_2"] "Result" (.text "Token") .absent

/-- Three queries that want one name, and one that bears it with the first number. -/
def crowdedQueries : List Member :=
  [query "get" ["uint256"], query "get" ["address"], query "get_2" [], query "get" ["bool"]]

/-- An interface gets the second number. Of the three queries the first one keeps the name, and the
others get the second and the third number, since the first one was granted as a wish. -/
theorem suffixSearches_end_crowded :
    (SearchEnds {name | name ∈ crowdedRegistry.taken} "Point" "Point" 2 "Point_3" ∧
      ∃ after, Registry.register "Point" [⟨"x", ⟨"bigint", 0⟩, false⟩] .struct crowdedRegistry =
        (.ok "Point_3", after)) ∧
      SettlesInTurn
        {name | name ∈ classMembers ∨ name ∈ MethodPlan.empty.methodNames ∨
          name ∈ ["get_2", "get"]}
        [("get(address)", "get"), ("get(bool)", "get")]
        [("get(address)", "get_3"), ("get(bool)", "get_4")] := by
  obtain ⟨interfaces, _, methods⟩ := suffixSearches_end
  constructor
  · have registersWell : endsWell (fun name _ => name == "Point_3")
        (Registry.register "Point" [⟨"x", ⟨"bigint", 0⟩, false⟩] .struct crowdedRegistry) := by
      decide +kernel
    obtain ⟨name, after, ends, _, registers, _⟩ :=
      interfaces crowdedRegistry "Point" [⟨"x", ⟨"bigint", 0⟩, false⟩] .struct (by decide) rfl
    have isThird := of_endsWell registersWell registers
    obtain rfl : name = "Point_3" := eq_of_beq isThird
    exact ⟨ends, after, registers⟩
  · obtain ⟨granted, assigned, settles, _⟩ := methods .empty crowdedQueries
    obtain rfl : granted = [("get_2()", "get_2"), ("get(uint256)", "get")] := by
      rw [← List.append_nil granted]
      exact assigned.symm.trans (by decide +kernel)
    have pending : ((MethodPlan.empty.mark (functionsAmong crowdedQueries)).grantWishes
        (functionsAmong crowdedQueries)).2 = [("get(address)", "get"), ("get(bool)", "get")] := by
      decide +kernel
    have settled : (MethodPlan.empty.extend crowdedQueries).2 =
        [("get(address)", "get_3"), ("get(bool)", "get_4")] := by
      decide +kernel
    rwa [pending, settled] at settles

end ContractClient
