/-
This file says which values keep within limits. A value does exactly if no whole number in it has
too many digits and its lists and objects do not stand too deep in each other
(`checkLimits_eq_ok_iff`). So what keeps within limits keeps within wider ones, as does every part
of it, and nothing goes beyond limits that are not set.
-/

import ContractClient.Json.Limits
import ContractClient.Proofs.Steps

namespace ContractClient

/-- The defect is that something goes beyond a limit: a number is too long, or something is nested
too deep. -/
def Defect.IsLimit (limit : Defect) : Prop :=
  limit = .longNumber ∨ limit = .tooDeep

namespace Json

/-! ### What a value holds -/

mutual

/-- The whole numbers in the value, in their order. -/
def numbers : Json → List Int
  | integer value => [value]
  | array items => itemNumbers items
  | object members => memberNumbers members
  | _ => []
termination_by structural value => value

/-- The whole numbers in the items. -/
def itemNumbers : List Json → List Int
  | [] => []
  | item :: rest => item.numbers ++ itemNumbers rest
termination_by structural items => items

/-- The whole numbers in the values of the members. -/
def memberNumbers : List (String × Json) → List Int
  | [] => []
  | (_, value) :: rest => value.numbers ++ memberNumbers rest
termination_by structural members => members

end

mutual

/-- The levels of lists and objects that stand in each other in the value. -/
def depth : Json → Nat
  | array items => itemDepth items + 1
  | object members => memberDepth members + 1
  | _ => 0
termination_by structural value => value

/-- The levels in the deepest of the items. -/
def itemDepth : List Json → Nat
  | [] => 0
  | item :: rest => max item.depth (itemDepth rest)
termination_by structural items => items

/-- The levels in the deepest of the values of the members. -/
def memberDepth : List (String × Json) → Nat
  | [] => 0
  | (_, value) :: rest => max value.depth (memberDepth rest)
termination_by structural members => members

end

/-- The numbers have as many digits as given at most. -/
def AreShort (digits : Nat) (numbers : List Int) : Prop :=
  ∀ number ∈ numbers, number.natAbs < powerOfTen digits

theorem areShort_append_iff {digits : Nat} {first second : List Int} :
    AreShort digits (first ++ second) ↔ AreShort digits first ∧ AreShort digits second :=
  List.forall_mem_append

/-! ### Keeping within limits -/

/-- Of two checks in turn both must pass. -/
theorem check_and_iff {first second : Except Defect Unit} :
    (do first; second) = .ok () ↔ first = .ok () ∧ second = .ok () := by
  cases first with
  | error limit => exact iff_of_false nofun fun both => nomatch both.1
  | ok _ => exact (and_iff_right rfl).symm

section

variable {digits levels : Nat}

/-- What is in a list or an object has one level less. -/
theorem check_inside_iff {check : Limits → Except Defect Unit} {holds : Prop} {depth : Nat}
    (below : ∀ levels, check ⟨some digits, some levels⟩ = .ok () ↔ holds ∧ depth ≤ levels) :
    (do
      let inner ← Limits.inside ⟨some digits, some levels⟩
      check inner) = .ok () ↔ holds ∧ depth + 1 ≤ levels := by
  cases levels with
  | zero => exact iff_of_false nofun fun both => absurd both.2 (Nat.not_succ_le_zero _)
  | succ levels => exact (below levels).trans (and_congr_right' Nat.succ_le_succ_iff.symm)

mutual

/-- A value keeps within limits exactly if its numbers and its depth do. -/
theorem checkLimits_eq_ok_iff : ∀ (value : Json) (levels : Nat),
    checkLimits ⟨some digits, some levels⟩ value = .ok () ↔
      AreShort digits value.numbers ∧ value.depth ≤ levels
  | .null, levels | .boolean _, levels | .float _, levels | .text _, levels =>
    iff_of_true rfl ⟨nofun, Nat.zero_le levels⟩
  | .integer value, levels => by
    show _ ↔ AreShort digits [value] ∧ 0 ≤ levels
    rw [checkLimits, AreShort, List.forall_mem_singleton, and_iff_left (Nat.zero_le levels)]
    simp only [Limits.excludes, Option.any_some, decide_eq_true_eq]
    split
    · rename_i long
      exact iff_of_false nofun (Nat.not_lt.mpr long)
    · rename_i short
      exact iff_of_true rfl (Nat.not_le.mp short)
  | .array items, levels => by
    rw [checkLimits, numbers, depth]
    exact check_inside_iff (checkItems_eq_ok_iff items)
  | .object members, levels => by
    rw [checkLimits, numbers, depth]
    exact check_inside_iff (checkMembers_eq_ok_iff members)

theorem checkItems_eq_ok_iff : ∀ (items : List Json) (levels : Nat),
    checkItems ⟨some digits, some levels⟩ items = .ok () ↔
      AreShort digits (itemNumbers items) ∧ itemDepth items ≤ levels
  | [], levels => iff_of_true rfl ⟨nofun, Nat.zero_le levels⟩
  | item :: rest, levels => by
    rw [checkItems, check_and_iff, checkLimits_eq_ok_iff item, checkItems_eq_ok_iff rest,
      itemNumbers, itemDepth, areShort_append_iff, Nat.max_le, and_and_and_comm]

theorem checkMembers_eq_ok_iff : ∀ (members : List (String × Json)) (levels : Nat),
    checkMembers ⟨some digits, some levels⟩ members = .ok () ↔
      AreShort digits (memberNumbers members) ∧ memberDepth members ≤ levels
  | [], levels => iff_of_true rfl ⟨nofun, Nat.zero_le levels⟩
  | (_, value) :: rest, levels => by
    rw [checkMembers, check_and_iff, checkLimits_eq_ok_iff value, checkMembers_eq_ok_iff rest,
      memberNumbers, memberDepth, areShort_append_iff, Nat.max_le, and_and_and_comm]

end

/-- A value that keeps within limits keeps within limits with more levels. -/
theorem checkLimits_mono {value : Json} {more : Nat} (atMost : levels ≤ more)
    (within : checkLimits ⟨some digits, some levels⟩ value = .ok ()) :
    checkLimits ⟨some digits, some more⟩ value = .ok () := by
  rw [checkLimits_eq_ok_iff] at within ⊢
  exact ⟨within.1, Nat.le_trans within.2 atMost⟩

end

/-! ### Parts -/

section

variable {digits levels : Nat} {items : List Json} {members : List (String × Json)}

theorem checkItems_eq_ok_iff_all {limits : Limits} :
    checkItems limits items = .ok () ↔ ∀ item ∈ items, checkLimits limits item = .ok () := by
  induction items with
  | nil => exact iff_of_true rfl nofun
  | cons item rest inductionHypothesis =>
    rw [checkItems, check_and_iff, inductionHypothesis, List.forall_mem_cons]

theorem checkMembers_eq_ok_iff_all {limits : Limits} :
    checkMembers limits members = .ok () ↔
      ∀ entry ∈ members, checkLimits limits entry.2 = .ok () := by
  induction members with
  | nil => exact iff_of_true rfl nofun
  | cons entry rest inductionHypothesis =>
    rw [checkMembers, check_and_iff, inductionHypothesis, List.forall_mem_cons]

theorem checkLimits_array_iff :
    checkLimits ⟨some digits, some (levels + 1)⟩ (.array items) = .ok () ↔
      ∀ item ∈ items, checkLimits ⟨some digits, some levels⟩ item = .ok () := by
  rw [← checkItems_eq_ok_iff_all, checkLimits]
  rfl

theorem checkLimits_object_iff :
    checkLimits ⟨some digits, some (levels + 1)⟩ (.object members) = .ok () ↔
      ∀ entry ∈ members, checkLimits ⟨some digits, some levels⟩ entry.2 = .ok () := by
  rw [← checkMembers_eq_ok_iff_all, checkLimits]
  rfl

end

theorem mem_of_member? {members : List (String × Json)} {key : String} {value : Json}
    (given : member? members key = some value) : (key, value) ∈ members := by
  obtain ⟨before, after, rfl, _⟩ := List.lookup_eq_some_iff.mp given
  exact List.mem_append_right _ List.mem_cons_self

/-! ### Going beyond limits -/

section

variable {limits : Limits} {limit : Defect}

/-- Of two checks in turn the first one that fails tells the limit. -/
theorem check_fails {holds : Defect → Prop} {first second : Except Defect Unit}
    (isFirst : ∀ limit, first = .error limit → holds limit)
    (isSecond : ∀ limit, second = .error limit → holds limit) (limit : Defect)
    (fails : (do first; second) = .error limit) : holds limit := by
  cases first with
  | error other => exact isFirst limit fails
  | ok _ => exact isSecond limit fails

theorem inside_fails {check : Limits → Except Defect Unit}
    (below : ∀ inner limit, check inner = .error limit → limit.IsLimit) (limit : Defect)
    (fails : (do
      let inner ← limits.inside
      check inner) = .error limit) : limit.IsLimit := by
  unfold Limits.inside at fails
  split at fails
  · exact below _ limit fails
  · cases fails
    exact .inr rfl
  · exact below _ limit fails

mutual

theorem checkLimits_fails : ∀ (value : Json) (limits : Limits) (limit : Defect),
    checkLimits limits value = .error limit → limit.IsLimit
  | .null, _, _, fails | .boolean _, _, _, fails | .float _, _, _, fails
  | .text _, _, _, fails => by cases fails
  | .integer value, limits, limit, fails => by
    rw [checkLimits] at fails
    split at fails
    · cases fails
      exact .inl rfl
    · cases fails
  | .array items, limits, limit, fails => by
    rw [checkLimits] at fails
    exact inside_fails (checkItems_fails items) limit fails
  | .object members, limits, limit, fails => by
    rw [checkLimits] at fails
    exact inside_fails (checkMembers_fails members) limit fails

theorem checkItems_fails : ∀ (items : List Json) (limits : Limits) (limit : Defect),
    checkItems limits items = .error limit → limit.IsLimit
  | [], _, _, fails => by cases fails
  | item :: rest, limits, limit, fails =>
    check_fails (checkLimits_fails item limits) (checkItems_fails rest limits) limit fails

theorem checkMembers_fails : ∀ (members : List (String × Json)) (limits : Limits) (limit : Defect),
    checkMembers limits members = .error limit → limit.IsLimit
  | [], _, _, fails => by cases fails
  | (_, value) :: rest, limits, limit, fails =>
    check_fails (checkLimits_fails value limits) (checkMembers_fails rest limits) limit fails

end

end

/-- The limit that the value goes beyond first, if it goes beyond one. -/
def limit? (limits : Limits) (value : Json) : Option Defect :=
  match checkLimits limits value with
  | .ok _ => none
  | .error limit => some limit

theorem limit?_eq_none_iff {limits : Limits} {value : Json} :
    limit? limits value = none ↔ checkLimits limits value = .ok () := by
  unfold limit?
  cases checkLimits limits value with
  | ok _ => exact iff_of_true rfl rfl
  | error limit => exact iff_of_false nofun nofun

theorem limit?_eq_some_iff {limits : Limits} {value : Json} {limit : Defect} :
    limit? limits value = some limit ↔ checkLimits limits value = .error limit := by
  unfold limit?
  cases checkLimits limits value with
  | ok _ => exact iff_of_false nofun nofun
  | error other => rw [Option.some_inj, Except.error.injEq]

theorem limit?_isLimit {limits : Limits} {value : Json} {limit : Defect}
    (meets : limit? limits value = some limit) : limit.IsLimit :=
  checkLimits_fails value limits limit (limit?_eq_some_iff.mp meets)

theorem requireWithin_eq (limits : Limits) (value : Json) :
    value.requireWithin limits =
      match limit? limits value with
      | none => .ok ()
      | some limit => .error (.defect limit) := by
  unfold requireWithin limit?
  cases checkLimits limits value <;> rfl

theorem requireWithin_eq_defect_iff {limits : Limits} {value : Json} {limit : Defect} :
    value.requireWithin limits = .error (.defect limit) ↔
      checkLimits limits value = .error limit := by
  rw [requireWithin_eq, ← limit?_eq_some_iff]
  cases limit? limits value <;> simp

theorem requireWithin_failsByDefect (limits : Limits) (value : Json) :
    FailsByDefect (value.requireWithin limits) := by
  rw [requireWithin_eq]
  split
  · exact .ok ()
  · exact .defect _

/-- The smallest whole number with more digits than a number may have. It is not to be written out
where a proof looks at it. -/
@[irreducible] def longNumber : Json :=
  .integer (powerOfTen digitLimit)

theorem checkLimits_powerOfTen (digits : Nat) (levels : Option Nat) :
    checkLimits ⟨some digits, levels⟩ (.integer (powerOfTen digits)) = .error .longNumber := by
  have excluded : Limits.excludes ⟨some digits, levels⟩ (.integer (powerOfTen digits)) = true :=
    decide_eq_true (Nat.le_refl (powerOfTen digits))
  exact if_pos excluded

theorem checkLimits_longNumber (levels : Nat) :
    checkLimits (.ofLevels levels) longNumber = .error .longNumber := by
  rw [longNumber]
  exact checkLimits_powerOfTen digitLimit (some levels)

mutual

/-- Nothing goes beyond limits that are not set. -/
theorem checkLimits_unlimited : ∀ value : Json, checkLimits .unlimited value = .ok ()
  | .null => rfl
  | .boolean _ => rfl
  | .integer _ => rfl
  | .float _ => rfl
  | .text _ => rfl
  | .array items => by
    rw [checkLimits]
    exact checkItems_unlimited items
  | .object members => by
    rw [checkLimits]
    exact checkMembers_unlimited members

theorem checkItems_unlimited : ∀ items : List Json, checkItems .unlimited items = .ok ()
  | [] => rfl
  | item :: rest => by
    rw [checkItems, checkLimits_unlimited item]
    exact checkItems_unlimited rest

theorem checkMembers_unlimited :
    ∀ members : List (String × Json), checkMembers .unlimited members = .ok ()
  | [] => rfl
  | (_, value) :: rest => by
    rw [checkMembers, checkLimits_unlimited value]
    exact checkMembers_unlimited rest

end

end Json

end ContractClient
