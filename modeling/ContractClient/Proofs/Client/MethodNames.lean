/-
This file proves that no two methods of a class bear one name. Whatever is planned, the names given
differ from one another and from those of the members that every class has: a name is given only
if it is free, and a name that is given is free no more (`extend_taken`).

A name that is given stays, as long as the functions of each plan have signatures of their own:
then nothing is put off twice (`grantWishes_pending`), and what is put off is not known yet. Both
hold after any number of plans, those that stop at a signature that cannot be spelled out included
(`planEach_taken`, `planEach_keeps`).
-/

import ContractClient.Client.Pass
import ContractClient.Proofs.Client.Plan
import ContractClient.Proofs.Client.Steps
import ContractClient.Proofs.Naming.Free
import Mathlib.Data.List.Forall2

namespace ContractClient

theorem filterMap_eq_of_forall₂ {α β : Type} {choose : α → Option β} {items : List α}
    {chosen : List β}
    (each : List.Forall₂ (fun item value => choose item = some value) items chosen) :
    items.filterMap choose = chosen := by
  induction each with
  | nil => rfl
  | cons isFirst _ inductionHypothesis =>
    rw [List.filterMap_cons_some isFirst, inductionHypothesis]

theorem empty_taken : MethodPlan.empty.taken.Nodup := by
  decide +kernel

namespace MethodPlan

/-! ### Names that differ -/

theorem assign_taken {plan : MethodPlan} (distinct : plan.taken.Nodup) (signature : String)
    {name : String} (free : name ∉ plan.taken) : (plan.assign signature name).taken.Nodup :=
  List.perm_middle.nodup_iff.mpr (List.nodup_cons.mpr ⟨free, distinct⟩)

theorem grantWishes_taken (functions : List Member) {plan : MethodPlan}
    (distinct : plan.taken.Nodup) : (plan.grantWishes functions).1.taken.Nodup := by
  induction functions generalizing plan with
  | nil => exact distinct
  | cons function rest inductionHypothesis =>
    rw [grantWishes]
    split
    · exact inductionHypothesis distinct
    · split
      · exact inductionHypothesis distinct
      · rename_i free
        exact inductionHypothesis
          (assign_taken distinct _ fun member => free (List.contains_iff_mem.mpr member))

theorem settlePending_taken (pending : List (String × String)) {plan : MethodPlan}
    (distinct : plan.taken.Nodup) : (plan.settlePending pending).1.taken.Nodup := by
  induction pending generalizing plan with
  | nil => exact distinct
  | cons entry rest inductionHypothesis =>
    rw [settlePending]
    exact inductionHypothesis (assign_taken distinct _ (freeNumbered_not_mem _ _))

theorem extend_taken (members : List Member) {plan : MethodPlan} (distinct : plan.taken.Nodup) :
    (plan.extend members).1.taken.Nodup :=
  settlePending_taken _ (grantWishes_taken _ distinct)

theorem mem_assigned {plan : MethodPlan} {signature name : String}
    (named : plan.nameOf? signature = some name) : (signature, name) ∈ plan.assigned := by
  obtain ⟨before, after, split, _⟩ := List.lookup_eq_some_iff.mp named
  exact split ▸ List.mem_append_right before List.mem_cons_self

/-- Where the names differ, each is that of one signature. -/
theorem nameOf?_injective {plan : MethodPlan} (distinct : plan.taken.Nodup)
    {first second name : String} (isFirst : plan.nameOf? first = some name)
    (isSecond : plan.nameOf? second = some name) : first = second := by
  have names : (plan.assigned.map (·.2)).Nodup := (List.nodup_append.mp distinct).2.1
  have same := List.inj_on_of_nodup_map names (mem_assigned isFirst) (mem_assigned isSecond) rfl
  exact congrArg Prod.fst same

/-- Where the names differ, none is that of a member that every class has. -/
theorem nameOf?_not_mem {plan : MethodPlan} (distinct : plan.taken.Nodup)
    {signature name : String} (named : plan.nameOf? signature = some name) :
    name ∉ classMembers := by
  intro isMember
  have isName : name ∈ plan.methodNames := List.mem_map_of_mem (mem_assigned named)
  exact List.disjoint_of_nodup_append distinct isMember isName

/-! ### Names that stay -/

/-- The later plan has every name that the earlier one has. -/
def Keeps (earlier later : MethodPlan) : Prop :=
  ∀ signature name, earlier.nameOf? signature = some name → later.nameOf? signature = some name

theorem Keeps.refl (plan : MethodPlan) : plan.Keeps plan :=
  fun _ _ named => named

theorem Keeps.trans {first second third : MethodPlan} (earlier : first.Keeps second)
    (later : second.Keeps third) : first.Keeps third :=
  fun signature name named => later signature name (earlier signature name named)

/-- A function that has a name keeps having one. -/
theorem Keeps.knows {earlier later : MethodPlan} {signature : String}
    (keeps : earlier.Keeps later) (knows : earlier.Knows signature) : later.Knows signature := by
  obtain ⟨name, named⟩ := Option.isSome_iff_exists.mp knows
  exact Option.isSome_of_eq_some (keeps signature name named)

theorem assign_keeps {plan : MethodPlan} {signature : String} (unknown : ¬plan.Knows signature)
    (name : String) : plan.Keeps (plan.assign signature name) := by
  intro other otherName named
  have differs : other ≠ signature := by
    rintro rfl
    exact unknown (Option.isSome_of_eq_some named)
  rw [nameOf?, assign, List.lookup_cons, beq_eq_false_iff_ne.mpr differs]
  exact named

theorem grantWishes_keeps (functions : List Member) (plan : MethodPlan) :
    plan.Keeps (plan.grantWishes functions).1 := by
  induction functions generalizing plan with
  | nil => exact .refl plan
  | cons function rest inductionHypothesis =>
    rw [grantWishes]
    split
    · exact inductionHypothesis plan
    · rename_i unknown
      split
      · exact inductionHypothesis plan
      · exact (assign_keeps unknown _).trans (inductionHypothesis _)

/-- Granting wishes tells the plan of no signatures but those of the functions. -/
theorem knows_of_grantWishes {functions : List Member} {plan : MethodPlan} {signature : String}
    (knows : (plan.grantWishes functions).1.Knows signature) :
    plan.Knows signature ∨ signature ∈ functions.map Member.signature := by
  induction functions generalizing plan with
  | nil => exact .inl knows
  | cons function rest inductionHypothesis =>
    rw [List.map_cons, List.mem_cons]
    rw [grantWishes] at knows
    split at knows
    · exact (inductionHypothesis knows).imp_right .inr
    · split at knows
      · exact (inductionHypothesis knows).imp_right .inr
      · rcases inductionHypothesis knows with known | later
        · rw [knows_assign_iff] at known
          exact known.elim (fun same => .inr (.inl same)) .inl
        · exact .inr (.inr later)

/-- What is put off are signatures of the functions, in their order. -/
theorem grantWishes_sublist (functions : List Member) (plan : MethodPlan) :
    ((plan.grantWishes functions).2.map (·.1)).Sublist (functions.map Member.signature) := by
  induction functions generalizing plan with
  | nil => exact .slnil
  | cons function rest inductionHypothesis =>
    rw [grantWishes, List.map_cons]
    split
    · exact (inductionHypothesis plan).cons _
    · split
      · exact (inductionHypothesis plan).cons_cons _
      · exact (inductionHypothesis _).cons _

/-- Where every function has a signature of its own, what is put off remains unknown. -/
theorem grantWishes_pending {functions : List Member}
    (distinct : (functions.map Member.signature).Nodup) (plan : MethodPlan) :
    ∀ signature ∈ (plan.grantWishes functions).2.map (·.1),
      ¬(plan.grantWishes functions).1.Knows signature := by
  induction functions generalizing plan with
  | nil => exact fun signature off => nomatch off
  | cons function rest inductionHypothesis =>
    obtain ⟨isFirst, distinct⟩ := List.nodup_cons.mp distinct
    rw [grantWishes]
    split
    · exact inductionHypothesis distinct plan
    · rename_i unknown
      split
      · intro signature off
        rcases List.mem_cons.mp off with rfl | off
        -- What is put off here can only come back with a later function of the same signature.
        · exact fun knows => (knows_of_grantWishes knows).elim unknown isFirst
        · exact inductionHypothesis distinct plan signature off
      · exact inductionHypothesis distinct _

/-- What is unknown stays so when another signature is named. -/
theorem unknown_assign {plan : MethodPlan} {signature : String} {others : List String}
    (differs : signature ∉ others) (unknown : ∀ other ∈ others, ¬plan.Knows other)
    (name : String) : ∀ other ∈ others, ¬(plan.assign signature name).Knows other := by
  intro other isOther knows
  rcases knows_assign_iff.mp knows with rfl | known
  · exact differs isOther
  · exact unknown other isOther known

theorem settlePending_keeps {pending : List (String × String)}
    (distinct : (pending.map (·.1)).Nodup) {plan : MethodPlan}
    (unknown : ∀ signature ∈ pending.map (·.1), ¬plan.Knows signature) :
    plan.Keeps (plan.settlePending pending).1 := by
  induction pending generalizing plan with
  | nil => exact .refl plan
  | cons entry rest inductionHypothesis =>
    obtain ⟨signature, wish⟩ := entry
    obtain ⟨isFirst, distinct⟩ := List.nodup_cons.mp distinct
    rw [settlePending]
    have unknownRest := (List.forall_mem_cons.mp unknown).2
    exact (assign_keeps (unknown signature List.mem_cons_self) _).trans
      (inductionHypothesis distinct (unknown_assign isFirst unknownRest _))

/-- The wishes that have been granted stay when the others are settled. -/
theorem granted_keeps {members : List Member}
    (distinct : ((functionsAmong members).map Member.signature).Nodup) (plan : MethodPlan) :
    ((plan.mark (functionsAmong members)).grantWishes (functionsAmong members)).1.Keeps
      (plan.extend members).1 :=
  settlePending_keeps (distinct.sublist (grantWishes_sublist _ _)) (grantWishes_pending distinct _)

theorem extend_keeps {members : List Member}
    (distinct : ((functionsAmong members).map Member.signature).Nodup) (plan : MethodPlan) :
    plan.Keeps (plan.extend members).1 :=
  (grantWishes_keeps (functionsAmong members) (plan.mark (functionsAmong members))).trans
    (granted_keeps distinct plan)

/-! ### Names and wishes -/

/-- The name is what a function of the other name would like, or that with a number behind it. -/
def IsWish (own name : String) : Prop :=
  name = wishedName own ∨ ∃ taken, name = freeNumbered taken (wishedName own)

/-- Every name of the plan is the wish of one of the functions and stands under its signature. -/
def NamedAfter (functions : List Member) (plan : MethodPlan) : Prop :=
  ∀ entry ∈ plan.assigned, ∃ function ∈ functions,
    function.signature = entry.1 ∧ IsWish function.name entry.2

section

variable {functions : List Member} {plan : MethodPlan}

theorem NamedAfter.assign (named : plan.NamedAfter functions) {function : Member}
    (isFunction : function ∈ functions) {name : String} (isWish : IsWish function.name name) :
    (plan.assign function.signature name).NamedAfter functions :=
  List.forall_mem_cons.mpr ⟨⟨function, isFunction, rfl, isWish⟩, named⟩

/-- Granting wishes names signatures after their functions, and puts off nothing but wishes. -/
theorem grantWishes_namedAfter {some : List Member} (among : some ⊆ functions)
    (named : plan.NamedAfter functions) :
    (plan.grantWishes some).1.NamedAfter functions ∧
      ∀ entry ∈ (plan.grantWishes some).2, ∃ function ∈ functions,
        entry = (function.signature, wishedName function.name) := by
  induction some generalizing plan with
  | nil => exact ⟨named, fun _ => nofun⟩
  | cons function rest inductionHypothesis =>
    obtain ⟨isFunction, among⟩ := List.cons_subset.mp among
    rw [grantWishes]
    split
    · exact inductionHypothesis among named
    · split
      · obtain ⟨granted, pending⟩ := inductionHypothesis among named
        exact ⟨granted, List.forall_mem_cons.mpr ⟨⟨function, isFunction, rfl⟩, pending⟩⟩
      · exact inductionHypothesis among (named.assign isFunction (.inl rfl))

theorem settlePending_namedAfter {pending : List (String × String)}
    (wishes : ∀ entry ∈ pending, ∃ function ∈ functions,
      entry = (function.signature, wishedName function.name))
    (named : plan.NamedAfter functions) :
    (plan.settlePending pending).1.NamedAfter functions := by
  induction pending generalizing plan with
  | nil => exact named
  | cons entry rest inductionHypothesis =>
    obtain ⟨⟨function, isFunction, isFirst⟩, others⟩ := List.forall_mem_cons.mp wishes
    rw [isFirst, settlePending]
    exact inductionHypothesis others (named.assign isFunction (.inr ⟨_, rfl⟩))

/-- The name planned for a signature is the wish of a function that has this signature. -/
theorem exists_wish_of_nameOf? {members : List Member} {signature name : String}
    (named : (empty.extend members).1.nameOf? signature = some name) :
    ∃ function ∈ functionsAmong members, function.signature = signature ∧
      IsWish function.name name := by
  have noNames : (empty.mark (functionsAmong members)).NamedAfter (functionsAmong members) :=
    fun _ => nofun
  obtain ⟨granted, wishes⟩ := grantWishes_namedAfter (List.Subset.refl _) noNames
  exact settlePending_namedAfter wishes granted _ (mem_assigned named)

/-- Where every function has a signature of its own, the name planned for it is its wish. -/
theorem isWish_of_nameOf? {members : List Member}
    (distinct : ((functionsAmong members).map Member.signature).Nodup) {function : Member}
    (isFunction : function ∈ functionsAmong members) {name : String}
    (named : (empty.extend members).1.nameOf? function.signature = some name) :
    IsWish function.name name := by
  obtain ⟨other, isOther, same, isWish⟩ := exists_wish_of_nameOf? named
  rwa [List.inj_on_of_nodup_map distinct isOther isFunction same] at isWish

end

/-! ### Functions that are renamed -/

/-- The name is the function's own, or that with an underscore behind it. -/
def IsOwn (own name : String) : Prop :=
  name = own ∨ name = own ++ "_"

instance (own name : String) : Decidable (IsOwn own name) :=
  inferInstanceAs (Decidable (_ ∨ _))

theorem isOwn_wishedName (own : String) : IsOwn own (wishedName own) := by
  unfold wishedName
  split
  · exact .inr rfl
  · exact .inl rfl

/-- A name with a number behind it is longer than the own one with an underscore. -/
theorem not_isOwn_freeNumbered (taken : List String) (own : String) :
    ¬IsOwn own (freeNumbered taken (wishedName own)) := by
  have wish : own.length ≤ (wishedName own).length := by
    unfold wishedName
    split
    · rw [String.length_append]
      exact Nat.le_add_right _ _
    · exact Nat.le_refl _
  have longer : own.length + 1 < (freeNumbered taken (wishedName own)).length := by
    have digits : 0 < (toString (leastFree taken (numbered (wishedName own)) 2)).length := by
      rw [← String.length_toList, Nat.toString_eq_ofList_toDigits, String.toList_ofList]
      exact List.length_pos_iff.mpr Nat.toDigits_ne_nil
    have underscore : "_".length = 1 := rfl
    rw [freeNumbered, numbered, String.length_append, String.length_append, underscore]
    omega
  rintro (same | same)
  · rw [same] at longer
    omega
  · rw [same, String.length_append] at longer
    exact Nat.lt_irrefl _ longer

/-- What is put off are the functions that remain unknown, with what they would like. -/
theorem grantWishes_snd {functions : List Member}
    (distinct : (functions.map Member.signature).Nodup) (plan : MethodPlan) :
    (plan.grantWishes functions).2 =
      (functions.filter fun function =>
          !((plan.grantWishes functions).1.nameOf? function.signature).isSome).map
        fun function => (function.signature, wishedName function.name) := by
  induction functions generalizing plan with
  | nil => rfl
  | cons function rest inductionHypothesis =>
    obtain ⟨isFirst, distinct⟩ := List.nodup_cons.mp distinct
    rw [grantWishes]
    split
    · rename_i known
      have knows : ((plan.grantWishes rest).1.nameOf? function.signature).isSome :=
        grantWishes_knows_of_knows known
      rw [List.filter_cons_of_neg (by simp [knows]), ← inductionHypothesis distinct]
    · rename_i unknown
      split
      · have stays : ¬((plan.grantWishes rest).1.nameOf? function.signature).isSome :=
          fun knows => (knows_of_grantWishes knows).elim unknown isFirst
        rw [List.filter_cons_of_pos (by simp [stays]), List.map_cons,
          ← inductionHypothesis distinct]
      · have knows : (((plan.assign function.signature
            (wishedName function.name)).grantWishes rest).1.nameOf? function.signature).isSome :=
          grantWishes_knows_of_knows (knows_assign_iff.mpr (.inl rfl))
        rw [List.filter_cons_of_neg (by simp [knows]), ← inductionHypothesis distinct]

/-- A function that was unknown and is named where wishes are granted has what it would like. -/
theorem grantWishes_nameOf? {functions : List Member}
    (distinct : (functions.map Member.signature).Nodup) {plan : MethodPlan} {function : Member}
    (isFunction : function ∈ functions) (unknown : ¬plan.Knows function.signature) {name : String}
    (named : (plan.grantWishes functions).1.nameOf? function.signature = some name) :
    name = wishedName function.name := by
  induction functions generalizing plan with
  | nil => cases isFunction
  | cons first rest inductionHypothesis =>
    obtain ⟨isFirst, distinct⟩ := List.nodup_cons.mp distinct
    rw [grantWishes] at named
    rcases List.mem_cons.mp isFunction with rfl | isLater
    · split at named
      · rename_i known
        exact absurd known unknown
      split at named
      · have knows := Option.isSome_of_eq_some named
        exact ((knows_of_grantWishes knows).elim unknown isFirst).elim
      · have granted := grantWishes_keeps rest
          (plan.assign function.signature (wishedName function.name)) function.signature _
          List.lookup_cons_self
        exact Option.some.inj (named.symm.trans granted)
    · split at named
      · exact inductionHypothesis distinct isLater unknown named
      · split at named
        · exact inductionHypothesis distinct isLater unknown named
        · refine inductionHypothesis distinct isLater (fun knows => ?_) named
          rcases knows_assign_iff.mp knows with same | known
          · exact isFirst (same ▸ List.mem_map_of_mem isLater)
          · exact unknown known

/-- Each pending signature is settled with its wish and a number, and stands so in the plan. -/
theorem settlePending_settles {pending : List (String × String)}
    (distinct : (pending.map (·.1)).Nodup) {plan : MethodPlan}
    (unknown : ∀ signature ∈ pending.map (·.1), ¬plan.Knows signature) :
    List.Forall₂
      (fun entry renamed => renamed.1 = entry.1 ∧
        (plan.settlePending pending).1.nameOf? entry.1 = some renamed.2 ∧
        ∃ taken, renamed.2 = freeNumbered taken entry.2)
      pending (plan.settlePending pending).2 := by
  induction pending generalizing plan with
  | nil => exact .nil
  | cons entry rest inductionHypothesis =>
    obtain ⟨signature, wish⟩ := entry
    obtain ⟨isFirst, distinct⟩ := List.nodup_cons.mp distinct
    rw [settlePending]
    have unknownRest := unknown_assign isFirst (List.forall_mem_cons.mp unknown).2
      (freeNumbered plan.taken wish)
    have stays := settlePending_keeps distinct unknownRest signature _ List.lookup_cons_self
    exact .cons ⟨rfl, stays, _, rfl⟩ (inductionHypothesis distinct unknownRest)

/-- The signature and the planned name of the function, if the name is not its own. -/
def renaming? (plan : MethodPlan) (function : Member) : Option (String × String) :=
  (plan.nameOf? function.signature).bind fun name =>
    if IsOwn function.name name then none else some (function.signature, name)

/-- Where those functions are pending that are unknown, and the others have what they would like,
the pending ones are renamed when they are settled, and nobody else is. -/
theorem settlePending_renamed {functions : List Member} {granted : MethodPlan}
    {pending : List (String × String)}
    (isPending : pending =
      (functions.filter fun function => !(granted.nameOf? function.signature).isSome).map
        fun function => (function.signature, wishedName function.name))
    (distinct : (pending.map (·.1)).Nodup)
    (unknown : ∀ signature ∈ pending.map (·.1), ¬granted.Knows signature)
    (wishes : ∀ function ∈ functions, ∀ name,
      granted.nameOf? function.signature = some name → name = wishedName function.name) :
    (granted.settlePending pending).2 =
      functions.filterMap (renaming? (granted.settlePending pending).1) := by
  have ownNames : ∀ function ∈ functions,
      renaming? (granted.settlePending pending).1 function =
        if !(granted.nameOf? function.signature).isSome then
          renaming? (granted.settlePending pending).1 function
        else none := by
    intro function isFunction
    cases named : granted.nameOf? function.signature with
    | none => rfl
    | some name =>
      have isOwn : IsOwn function.name name :=
        wishes function isFunction name named ▸ isOwn_wishedName function.name
      have stays := settlePending_keeps distinct unknown function.signature name named
      rw [renaming?, stays, Option.bind_some, if_pos isOwn]
      rfl
  have settles := settlePending_settles distinct unknown
  rw [List.filterMap_congr ownNames, ← List.filterMap_filter]
  refine (filterMap_eq_of_forall₂ ?_).symm
  generalize (granted.settlePending pending).1 = planned at settles ⊢
  generalize (granted.settlePending pending).2 = renamed at settles ⊢
  rw [isPending, List.forall₂_map_left_iff] at settles
  refine settles.imp fun function renamed ⟨same, named, taken, numbered⟩ => ?_
  have notOwn : ¬IsOwn function.name renamed.2 :=
    numbered ▸ not_isOwn_freeNumbered taken function.name
  rw [renaming?, named, Option.bind_some, if_neg notOwn]
  exact congrArg some (Prod.ext same.symm rfl)

/-- Where every function has a signature of its own, a first plan renames, in their order, exactly
the functions whose planned names are not their own. -/
theorem extend_renamed {members : List Member}
    (distinct : ((functionsAmong members).map Member.signature).Nodup) :
    (empty.extend members).2 =
      (functionsAmong members).filterMap (renaming? (empty.extend members).1) := by
  let marked := empty.mark (functionsAmong members)
  have noNames : ∀ signature, ¬marked.Knows signature := fun _ => Bool.false_ne_true
  exact settlePending_renamed (grantWishes_snd distinct marked)
    (distinct.sublist (grantWishes_sublist _ marked)) (grantWishes_pending distinct marked)
    fun function isFunction _ => grantWishes_nameOf? distinct isFunction (noNames _)

/-! ### Functions that share a name -/

theorem grantWishes_overloaded (functions : List Member) (plan : MethodPlan) :
    (plan.grantWishes functions).1.overloaded = plan.overloaded := by
  induction functions generalizing plan with
  | nil => rfl
  | cons function rest inductionHypothesis =>
    rw [grantWishes]
    split
    · exact inductionHypothesis plan
    · split
      · exact inductionHypothesis plan
      · exact inductionHypothesis _

theorem settlePending_overloaded (pending : List (String × String)) (plan : MethodPlan) :
    (plan.settlePending pending).1.overloaded = plan.overloaded := by
  induction pending generalizing plan with
  | nil => rfl
  | cons entry rest inductionHypothesis => exact inductionHypothesis _

/-- Planning marks the names that the functions share, and no others. -/
theorem extend_overloaded (members : List Member) (plan : MethodPlan) :
    (plan.extend members).1.overloaded =
      plan.overloaded ++ repeatedNames ((functionsAmong members).map Member.name) := by
  rw [extend, settlePending_overloaded, grantWishes_overloaded, mark]

theorem mem_repeatedNames {names : List String} {name : String} :
    name ∈ repeatedNames names ↔ 1 < names.count name := by
  rw [repeatedNames, List.mem_filter, decide_eq_true_iff, and_iff_right_iff_imp]
  exact fun repeated => List.count_pos_iff.mp (Nat.zero_lt_of_lt repeated)

theorem repeatedNames_eq_nil {names : List String} (distinct : names.Nodup) :
    repeatedNames names = [] := by
  refine List.eq_nil_iff_forall_not_mem.mpr fun name repeated => ?_
  have once := List.nodup_iff_count_le_one.mp distinct name
  exact Nat.not_lt.mpr once (mem_repeatedNames.mp repeated)

end MethodPlan

/-! ### Any number of plans -/

/-- The pass after the names of several lists of functions have been planned one after the other,
whether that succeeds or not. -/
def planEach : List (List Member) → Pass → Pass
  | [], pass => pass
  | members :: rest, pass => planEach rest (Pass.planNames members pass).2

theorem planEach_append (earlier later : List (List Member)) (pass : Pass) :
    planEach (earlier ++ later) pass = planEach later (planEach earlier pass) := by
  induction earlier generalizing pass with
  | nil => rfl
  | cons members rest inductionHypothesis =>
    rw [List.cons_append, planEach, planEach, inductionHypothesis]

/-- Planning leaves a plan for all functions if their signatures can be spelled out. -/
theorem planNames_of_spellable {members : List Member} (spellable : Spellable members)
    (pass : Pass) : (Pass.planNames members pass).2.plan = (pass.plan.extend members).1 := by
  unfold Pass.planNames
  rw [forM_requireSignature_eq_ok_iff.mpr spellable]
  show (pass.planMethods members).plan = _
  rw [planMethods_eq]

/-- Planning leaves a plan for the functions in front of one whose signature cannot be spelled
out. -/
theorem planNames_of_not_spellable {members : List Member} (deep : ¬Spellable members)
    (pass : Pass) : (Pass.planNames members pass).2.plan = pass.plan.extendPartly members := by
  unfold Pass.planNames
  cases ends : (functionsAmong members).forM Member.requireSignature with
  | ok _ => exact (deep (forM_requireSignature_eq_ok_iff.mp ends)).elim
  | error fault => rfl

theorem planNames_plan (members : List Member) (pass : Pass) :
    (Pass.planNames members pass).2.plan = (pass.plan.extend members).1 ∨
      (Pass.planNames members pass).2.plan = pass.plan.extendPartly members := by
  by_cases spellable : Spellable members
  · exact .inl (planNames_of_spellable spellable pass)
  · exact .inr (planNames_of_not_spellable spellable pass)

theorem planEach_taken (plans : List (List Member)) {pass : Pass}
    (distinct : pass.plan.taken.Nodup) : (planEach plans pass).plan.taken.Nodup := by
  induction plans generalizing pass with
  | nil => exact distinct
  | cons members rest inductionHypothesis =>
    refine inductionHypothesis ?_
    rcases planNames_plan members pass with planned | planned
    · rw [planned]
      exact MethodPlan.extend_taken members distinct
    · rw [planned]
      exact MethodPlan.grantWishes_taken _ distinct

theorem planEach_keeps {plans : List (List Member)}
    (distinct : ∀ members ∈ plans, ((functionsAmong members).map Member.signature).Nodup)
    (pass : Pass) : pass.plan.Keeps (planEach plans pass).plan := by
  induction plans generalizing pass with
  | nil => exact .refl _
  | cons members rest inductionHypothesis =>
    refine MethodPlan.Keeps.trans ?_
      (inductionHypothesis (fun other member => distinct other (List.mem_cons_of_mem _ member)) _)
    rcases planNames_plan members pass with planned | planned
    · rw [planned]
      exact MethodPlan.extend_keeps (distinct members List.mem_cons_self) pass.plan
    · rw [planned]
      exact MethodPlan.grantWishes_keeps _ (pass.plan.mark (functionsAmong members))

end ContractClient
