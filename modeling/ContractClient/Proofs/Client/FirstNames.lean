/-
This file says when the first function of a name keeps it. Names are given in one pass over the
functions, in which each gets what it would like unless another one has got it before: its own name,
or that with an underscore behind it where the class has a member of the name
(`extend_nameOf?_of_first`). So the first function of a name may find it taken by a function that the
class has driven from its own. That does not happen exactly if every name with such an underscore is
borne first, or not at all (`planNames_firstKeeps_iff`).
-/

import ContractClient.Options
import ContractClient.Proofs.Client.MethodNames
import Mathlib.Data.List.TakeWhile

namespace ContractClient

namespace MethodPlan

/-! ### Wishes -/

theorem wishedName_of_mem {name : String} (isMember : name ∈ classMembers) :
    wishedName name = name ++ "_" :=
  if_pos (List.contains_iff_mem.mpr isMember)

theorem wishedName_of_not_mem {name : String} (noMember : name ∉ classMembers) :
    wishedName name = name :=
  if_neg fun isMember => noMember (List.contains_iff_mem.mp isMember)

theorem underscored_not_mem {name : String} (isMember : name ∈ classMembers) :
    name ++ "_" ∉ classMembers := by
  have all : ∀ member ∈ classMembers, member ++ "_" ∉ classMembers := by decide
  exact all name isMember

/-- No function would like the name of a member that every class has. -/
theorem wishedName_not_mem (name : String) : wishedName name ∉ classMembers := by
  by_cases isMember : name ∈ classMembers
  · rw [wishedName_of_mem isMember]
    exact underscored_not_mem isMember
  · rwa [wishedName_of_not_mem isMember]

/-- The name of a class member with an underscore behind it is the wish of both names. -/
theorem wishedName_eq_underscored_iff {own name : String} (isMember : own ∈ classMembers) :
    wishedName name = own ++ "_" ↔ name = own ∨ name = own ++ "_" := by
  by_cases alsoMember : name ∈ classMembers
  · have differs : name ≠ own ++ "_" := fun same =>
      underscored_not_mem isMember (same ▸ alsoMember)
    rw [wishedName_of_mem alsoMember, String.append_left_inj, or_iff_left differs]
  · have differs : name ≠ own := fun same => alsoMember (same ▸ isMember)
    rw [wishedName_of_not_mem alsoMember, or_iff_right differs]

/-- What the functions would like to be called, in their order. -/
def wishes (functions : List Member) : List String :=
  functions.map fun function => wishedName function.name

/-! ### First come, first served -/

theorem mem_taken_assign_iff {plan : MethodPlan} {signature name other : String} :
    other ∈ (plan.assign signature name).taken ↔ other = name ∨ other ∈ plan.taken := by
  simp only [taken, methodNames, assign, List.map_cons, List.mem_append, List.mem_cons]
  exact or_left_comm

section

variable {members before after : List Member} {function : Member}

/-- The first function with a wish has it granted if the name is free. -/
theorem grantWishes_nameOf?_of_first {plan : MethodPlan}
    (unknown : ¬plan.Knows function.signature) (free : wishedName function.name ∉ plan.taken)
    (isFirst : wishedName function.name ∉ wishes before)
    (differs : function.signature ∉ before.map Member.signature) :
    (plan.grantWishes (before ++ function :: after)).1.nameOf? function.signature =
      some (wishedName function.name) := by
  induction before generalizing plan with
  | nil =>
    have isFree : plan.taken.contains (wishedName function.name) = false := by
      simpa using free
    rw [List.nil_append, grantWishes, if_neg (show ¬(plan.nameOf? _).isSome from unknown), isFree]
    exact grantWishes_keeps after _ function.signature _ List.lookup_cons_self
  | cons other before inductionHypothesis =>
    rw [wishes, List.map_cons, List.mem_cons, not_or] at isFirst
    rw [List.map_cons, List.mem_cons, not_or] at differs
    rw [List.cons_append, grantWishes]
    split
    · exact inductionHypothesis unknown free isFirst.2 differs.2
    · split
      · exact inductionHypothesis unknown free isFirst.2 differs.2
      · refine inductionHypothesis (fun knows => ?_) (fun isTaken => ?_) isFirst.2 differs.2
        · exact (knows_assign_iff.mp knows).elim differs.1 unknown
        · exact (mem_taken_assign_iff.mp isTaken).elim isFirst.1 free

/-- The first function with a wish gets what it would like. -/
theorem extend_nameOf?_of_first
    (distinct : ((functionsAmong members).map Member.signature).Nodup)
    (split : functionsAmong members = before ++ function :: after)
    (isFirst : wishedName function.name ∉ wishes before) :
    (empty.extend members).1.nameOf? function.signature = some (wishedName function.name) := by
  let marked := empty.mark (functionsAmong members)
  have unknown : ¬marked.Knows function.signature := Bool.false_ne_true
  have free : wishedName function.name ∉ marked.taken := by
    rw [taken, show marked.methodNames = [] from rfl, List.append_nil]
    exact wishedName_not_mem function.name
  have differs : function.signature ∉ before.map Member.signature := by
    rw [split, List.map_append, List.map_cons] at distinct
    exact fun isIn => List.disjoint_of_nodup_append distinct isIn List.mem_cons_self
  refine granted_keeps distinct empty _ _ ?_
  show (marked.grantWishes (functionsAmong members)).1.nameOf? function.signature = _
  rw [split]
  exact grantWishes_nameOf?_of_first unknown free isFirst differs

theorem exists_first_wish {functions : List Member} {wish : String}
    (isWish : wish ∈ wishes functions) :
    ∃ before function after, functions = before ++ function :: after ∧
      wishedName function.name = wish ∧ wish ∉ wishes before := by
  obtain ⟨before, after, split, isFirst⟩ := List.eq_append_cons_of_mem isWish
  obtain ⟨before, rest, rfl, rfl, isRest⟩ := List.map_eq_append_iff.mp split
  obtain ⟨function, after, rfl, isFunction, rfl⟩ := List.map_eq_cons_iff.mp isRest
  exact ⟨before, function, after, rfl, isFunction, isFirst⟩

/-- A wish is given to nobody but the first function that has it. -/
theorem isFirst_of_nameOf? (distinct : ((functionsAmong members).map Member.signature).Nodup)
    (split : functionsAmong members = before ++ function :: after) {wish : String}
    (isWish : wish ∈ wishes (functionsAmong members))
    (named : (empty.extend members).1.nameOf? function.signature = some wish) :
    wishedName function.name = wish ∧ wish ∉ wishes before := by
  -- The first function with the wish has the name, and names differ, so this is the first one.
  obtain ⟨front, first, rest, splitFirst, hasWish, isFirst⟩ := exists_first_wish isWish
  have namedFirst := extend_nameOf?_of_first distinct splitFirst (hasWish ▸ isFirst)
  have sameSignature : first.signature = function.signature :=
    nameOf?_injective (extend_taken members empty_taken) (hasWish ▸ namedFirst) named
  have sameFunction : first = function := by
    refine List.inj_on_of_nodup_map distinct ?_ ?_ sameSignature
    · rw [splitFirst]
      exact List.mem_append_right _ List.mem_cons_self
    · rw [split]
      exact List.mem_append_right _ List.mem_cons_self
  subst sameFunction
  have once : first ∉ front ++ rest :=
    (List.nodup_cons.mp (List.nodup_middle.mp (splitFirst ▸ distinct.of_map))).1
  rw [List.mem_append, not_or] at once
  obtain ⟨rfl, -⟩ :=
    (List.append_cons_inj_of_notMem once.1 once.2).mp (splitFirst.symm.trans split)
  exact ⟨hasWish, isFirst⟩

end

/-! ### Names that are kept -/

/-- The first function of each name that the class has no member of keeps the name, and every other
function has a name that is no function's own. -/
structure FirstKeeps (functions : List Member) (plan : MethodPlan) : Prop where
  first : ∀ {before after : List Member} {function : Member},
    functions = before ++ function :: after → function.name ∉ classMembers →
      function.name ∉ before.map Member.name →
        plan.nameOf? function.signature = some function.name
  others : ∀ {before after : List Member} {function : Member},
    functions = before ++ function :: after →
      function.name ∈ classMembers ∨ function.name ∈ before.map Member.name →
        ∃ name, plan.nameOf? function.signature = some name ∧
          name ∉ functions.map Member.name

/-- If the name of a class member occurs with an underscore behind it, it does so before it occurs
without one. -/
def UnderscoredFirst (names : List String) : Prop :=
  ∀ own ∈ classMembers, own ++ "_" ∈ names → names.idxOf (own ++ "_") < names.idxOf own

instance (names : List String) : Decidable (UnderscoredFirst names) :=
  inferInstanceAs (Decidable (∀ own ∈ classMembers, own ++ "_" ∈ names →
    names.idxOf (own ++ "_") < names.idxOf own))

section

variable {members before after : List Member} {function : Member}

/-- A name that the class has no member of is the wish of every function that bears it. -/
theorem mem_wishes_of_mem {functions : List Member} {name : String}
    (isName : name ∈ functions.map Member.name) (noMember : name ∉ classMembers) :
    name ∈ wishes functions := by
  obtain ⟨function, isFunction, rfl⟩ := List.mem_map.mp isName
  exact List.mem_map.mpr ⟨function, isFunction, wishedName_of_not_mem noMember⟩

/-- In front of a function with the name of a class member stands one with the underscore, if there
is one at all. -/
theorem UnderscoredFirst.mem_before {functions : List Member}
    (ordered : UnderscoredFirst (functions.map Member.name))
    (split : functions = before ++ function :: after) (isMember : function.name ∈ classMembers)
    (occurs : function.name ++ "_" ∈ functions.map Member.name) :
    function.name ++ "_" ∈ before.map Member.name := by
  have earlier := ordered function.name isMember occurs
  rw [split, List.map_append, List.map_cons] at earlier
  by_contra notBefore
  rw [List.idxOf_append_of_notMem notBefore] at earlier
  by_cases isBefore : function.name ∈ before.map Member.name
  · rw [List.idxOf_append_of_mem isBefore] at earlier
    have within := List.idxOf_lt_length_iff.mpr isBefore
    omega
  · rw [List.idxOf_append_of_notMem isBefore, List.idxOf_cons_self] at earlier
    omega

/-- Where underscored names stand first, nobody would like the name of a function that stands behind
and is the first to bear it. -/
theorem UnderscoredFirst.wish_not_before {functions : List Member}
    (ordered : UnderscoredFirst (functions.map Member.name))
    (split : functions = before ++ function :: after)
    (isFirst : function.name ∉ before.map Member.name) : function.name ∉ wishes before := by
  intro isWish
  obtain ⟨other, isOther, wished⟩ := List.mem_map.mp isWish
  by_cases isMember : other.name ∈ classMembers
  · rw [wishedName_of_mem isMember] at wished
    obtain ⟨front, back, rfl⟩ := List.append_of_mem isOther
    rw [List.append_assoc, List.cons_append] at split
    have occurs : other.name ++ "_" ∈ functions.map Member.name := by
      rw [wished, split]
      simp
    have isBefore := ordered.mem_before split isMember occurs
    rw [wished] at isBefore
    exact isFirst (by simp only [List.map_append, List.mem_append, isBefore, true_or])
  · rw [wishedName_of_not_mem isMember] at wished
    exact isFirst (wished ▸ List.mem_map_of_mem isOther)

/-- The first functions keep their names if underscored names stand first. -/
theorem firstKeeps_of_underscoredFirst
    (distinct : ((functionsAmong members).map Member.signature).Nodup)
    (ordered : UnderscoredFirst ((functionsAmong members).map Member.name)) :
    FirstKeeps (functionsAmong members) (empty.extend members).1 where
  first := by
    intro before after function split noMember isFirst
    have wished := wishedName_of_not_mem noMember
    have named := extend_nameOf?_of_first distinct split
      (wished.symm ▸ ordered.wish_not_before split isFirst)
    rwa [wished] at named
  others := by
    intro before after function split reason
    have isFunction : function ∈ functionsAmong members :=
      split ▸ List.mem_append_right _ List.mem_cons_self
    obtain ⟨name, named⟩ := Option.isSome_iff_exists.mp (extend_knows empty isFunction)
    refine ⟨name, named, fun isOwn => ?_⟩
    -- A function with the own name of one in the list was the first to wish for it.
    have noMember := nameOf?_not_mem (extend_taken members empty_taken) named
    obtain ⟨wished, isFirst⟩ :=
      isFirst_of_nameOf? distinct split (mem_wishes_of_mem isOwn noMember) named
    refine isFirst (mem_wishes_of_mem ?_ noMember)
    by_cases isMember : function.name ∈ classMembers
    · rw [wishedName_of_mem isMember] at wished
      exact wished ▸ ordered.mem_before split isMember (wished ▸ isOwn)
    · rw [wishedName_of_not_mem isMember] at wished
      exact wished ▸ reason.resolve_left isMember

/-- If the first functions keep their names, underscored names stand first. -/
theorem FirstKeeps.underscoredFirst
    (distinct : ((functionsAmong members).map Member.signature).Nodup)
    (keeps : FirstKeeps (functionsAmong members) (empty.extend members).1) :
    UnderscoredFirst ((functionsAmong members).map Member.name) := by
  intro own isMember occurs
  obtain ⟨before, function, after, split, wished, isFirst⟩ :=
    exists_first_wish (mem_wishes_of_mem occurs (underscored_not_mem isMember))
  have named := extend_nameOf?_of_first distinct split (wished.symm ▸ isFirst)
  rcases (wishedName_eq_underscored_iff isMember).mp wished with isOwn | isUnderscored
  · obtain ⟨name, namedToo, notOwn⟩ := keeps.others split (.inl (isOwn ▸ isMember))
    rw [wished] at named
    exact (notOwn (Option.some.inj (named.symm.trans namedToo) ▸ occurs)).elim
  · have differs : own ++ "_" ≠ own := fun same => by
      have noMember := underscored_not_mem isMember
      rw [same] at noMember
      exact noMember isMember
    have notBefore : own ++ "_" ∉ before.map Member.name := fun isBefore =>
      isFirst (mem_wishes_of_mem isBefore (underscored_not_mem isMember))
    have ownNotBefore : own ∉ before.map Member.name := fun isBefore => by
      obtain ⟨other, isOther, rfl⟩ := List.mem_map.mp isBefore
      exact isFirst (List.mem_map.mpr ⟨other, isOther, wishedName_of_mem isMember⟩)
    rw [split, List.map_append, List.map_cons, isUnderscored,
      List.idxOf_append_of_notMem notBefore, List.idxOf_append_of_notMem ownNotBefore,
      List.idxOf_cons_self, List.idxOf_cons_ne _ differs]
    omega

/-- Where the first functions keep their names, every function has a name. -/
theorem FirstKeeps.knows {functions : List Member} {plan : MethodPlan}
    (keeps : FirstKeeps functions plan) (isFunction : function ∈ functions) :
    plan.Knows function.signature := by
  obtain ⟨before, after, split⟩ := List.append_of_mem isFunction
  by_cases isLater : function.name ∈ classMembers ∨ function.name ∈ before.map Member.name
  · obtain ⟨name, named, -⟩ := keeps.others split isLater
    exact Option.isSome_of_eq_some named
  · rw [not_or] at isLater
    exact Option.isSome_of_eq_some (keeps.first split isLater.1 isLater.2)

/-- A function whose signature cannot be spelled out gets no name. -/
theorem extendPartly_unknown
    (distinct : ((functionsAmong members).map Member.signature).Nodup)
    (isFunction : function ∈ functionsAmong members)
    (deep : spellableLevels < spelledLevels function.inputs) :
    ¬(empty.extendPartly members).Knows function.signature := by
  intro knows
  rcases knows_of_grantWishes knows with known | isIn
  · exact Bool.false_ne_true known
  · obtain ⟨other, isOther, same⟩ := List.mem_map.mp isIn
    have spelled := List.mem_takeWhile_imp isOther
    have isFunctionToo := (List.takeWhile_prefix _).subset isOther
    rw [List.inj_on_of_nodup_map distinct isFunctionToo isFunction same, Member.requireSignature,
      if_pos deep] at spelled
    cases spelled

end

end MethodPlan

open MethodPlan

/-- Where the signatures of the functions differ, the first function of each name keeps it, and all
others make way, exactly if all signatures can be spelled out and the names of class members occur
with an underscore before they occur without one. -/
theorem planNames_firstKeeps_iff {members : List Member}
    (distinct : ((functionsAmong members).map Member.signature).Nodup) (contract : Json)
    (style : Style) (collector : Collector) :
    FirstKeeps (functionsAmong members)
        (Pass.planNames members (.start contract style collector)).2.plan ↔
      Spellable members ∧ UnderscoredFirst ((functionsAmong members).map Member.name) := by
  constructor
  · intro keeps
    have spellable : Spellable members := by
      intro function isFunction
      by_contra deep
      have notAll : ¬Spellable members := fun spellable => deep (spellable function isFunction)
      have knows := keeps.knows isFunction
      rw [planNames_of_not_spellable notAll] at knows
      exact extendPartly_unknown distinct isFunction (Nat.lt_of_not_le deep) knows
    rw [planNames_of_spellable spellable] at keeps
    exact ⟨spellable, keeps.underscoredFirst distinct⟩
  · rintro ⟨spellable, ordered⟩
    rw [planNames_of_spellable spellable]
    exact firstKeeps_of_underscoredFirst distinct ordered

/-- A function that changes nothing, with inputs of the given types. -/
def query (name : String) (tags : List String) : Member :=
  ⟨.function, name, tags.map fun tag => ⟨"", tag, "", none⟩, [], "view"⟩

/-- Functions that share their wishes, the underscored name in front of the one without. -/
def orderedQueries : List Member :=
  [query "get" ["uint256"], query "balance_" [], query "get" ["address"], query "balance" [],
    query "get_2" []]

theorem orderedQueries_firstKeeps :
    let plan := (Pass.planNames orderedQueries
      (.start (.text "Token") Options.standard.style .absent)).2.plan
    FirstKeeps (functionsAmong orderedQueries) plan ∧
      (orderedQueries.map Member.signature).map plan.nameOf? =
        [some "get", some "balance_", some "get_3", some "balance__2", some "get_2"] := by
  have distinct : ((functionsAmong orderedQueries).map Member.signature).Nodup := by
    decide +kernel
  have spellable : Spellable orderedQueries := by
    unfold Spellable
    decide
  refine ⟨(planNames_firstKeeps_iff distinct _ _ _).mpr ⟨spellable, by decide⟩, ?_⟩
  decide +kernel

/-- The same two functions, the one without an underscore in front. -/
def driftingQueries : List Member :=
  [query "balance" [], query "balance_" []]

/-- A function that leaves its name to the class takes the name of the next one. -/
theorem driftingQueries_not_firstKeeps :
    let plan := (Pass.planNames driftingQueries
      (.start (.text "Token") Options.standard.style .absent)).2.plan
    (driftingQueries.map Member.signature).Nodup ∧
      (driftingQueries.map Member.signature).map plan.nameOf? =
        [some "balance_", some "balance__2"] ∧
      ¬FirstKeeps driftingQueries plan := by
  intro plan
  have named : plan.nameOf? "balance_()" = some "balance__2" := by decide +kernel
  have split : driftingQueries = [query "balance" []] ++ query "balance_" [] :: [] := rfl
  refine ⟨by decide +kernel, by decide +kernel, fun keeps => ?_⟩
  have kept : plan.nameOf? "balance_()" = some "balance_" :=
    keeps.first split (by decide) (by decide)
  exact absurd (named.symm.trans kept) (by decide)

end ContractClient
