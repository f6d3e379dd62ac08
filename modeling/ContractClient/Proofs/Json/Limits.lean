/-
This file says what limits do to the reading of a text: they refuse it, and they do nothing else.
What is read within limits is read without them as the same value, and a text that is refused as no
JSON text is none without them either.
-/

import ContractClient.Json.Reader

namespace ContractClient

namespace Json

/-- The first result is the second one, or a limit has stopped it. -/
inductive StopsOnly {α : Type} : Except ReadFault α → Except ReadFault α → Prop where
  | same (result : Except ReadFault α) : StopsOnly result result
  | beyond (limit : Defect) (result : Except ReadFault α) :
      StopsOnly (.error (.beyond limit)) result

namespace StopsOnly

variable {α β : Type}

theorem bind {limited free : Except ReadFault α} {next others : α → Except ReadFault β}
    (stops : StopsOnly limited free) (each : ∀ value, StopsOnly (next value) (others value)) :
    StopsOnly (limited >>= next) (free >>= others) := by
  cases stops with
  | same =>
    cases limited with
    | error fault => exact .same _
    | ok value => exact each value
  | beyond => exact .beyond _ _

/-- What was read within the limits is what is read without. -/
theorem eq_ok {limited free : Except ReadFault α} {value : α} (stops : StopsOnly limited free)
    (reads : limited = .ok value) : free = .ok value := by
  cases stops with
  | same => exact reads
  | beyond => cases reads

/-- What is refused for another reason is refused without the limits. -/
theorem eq_malformed {limited free : Except ReadFault α} (stops : StopsOnly limited free)
    (refuses : limited = .error .malformed) : free = .error .malformed := by
  cases stops with
  | same => exact refuses
  | beyond => cases refuses

end StopsOnly

/-! ### Values -/

theorem opened_stopsOnly {α : Type} (limits : Limits)
    {next others : Limits → Except ReadFault α}
    (each : ∀ inner, StopsOnly (next inner) (others .unlimited)) :
    StopsOnly (limits.opened >>= next) (Limits.opened .unlimited >>= others) := by
  unfold Limits.opened Limits.inside
  split
  · exact each limits
  · exact .beyond _ _
  · exact each _

theorem readLimited_stopsOnly (limits : Limits) (characters : List Char) :
    StopsOnly (readLimited limits characters) (readLimited .unlimited characters) := by
  unfold readLimited
  cases readScalar characters with
  | none => exact .same _
  | some scalar =>
    have free : Limits.excludes .unlimited scalar.1 = false := by
      cases scalar.1 <;> rfl
    simp only [free]
    split
    · exact .beyond _ _
    · exact .same _

/-- Reading takes the same steps within limits and without, up to where a limit stops it. -/
theorem reading_stopsOnly (steps : Nat) : ∀ (limits : Limits) (characters : List Char),
    StopsOnly (readValue limits steps characters) (readValue .unlimited steps characters) ∧
      StopsOnly (readItems limits steps characters) (readItems .unlimited steps characters) ∧
      StopsOnly (readMembers limits steps characters)
        (readMembers .unlimited steps characters) := by
  induction steps with
  | zero =>
    intro limits characters
    rw [readValue, readValue, readItems, readItems, readMembers, readMembers]
    exact ⟨.same _, .same _, .same _⟩
  | succ steps inductionHypothesis =>
    intro limits characters
    refine ⟨?value, ?items, ?members⟩
    case value =>
      cases characters with
      | nil =>
        rw [readValue, readValue]
        exact .same _
      | cons first rest =>
        rw [readValue, readValue]
        split
        · exact .same _
        split
        · refine opened_stopsOnly limits fun inner => ?_
          split
          · exact .same _
          · exact (inductionHypothesis _ _).2.1.bind fun _ => .same _
        split
        · refine opened_stopsOnly limits fun inner => ?_
          split
          · exact .same _
          · exact (inductionHypothesis _ _).2.2.bind fun _ => .same _
        · exact readLimited_stopsOnly limits _
    case items =>
      rw [readItems, readItems]
      refine (inductionHypothesis _ _).1.bind fun read => ?_
      dsimp only
      split
      · exact .same _
      · exact (inductionHypothesis _ _).2.1.bind fun _ => .same _
      · exact .same _
    case members =>
      unfold readMembers
      split
      · exact .same _
      · rename_i steps rest same
        obtain rfl := Nat.succ.inj same
        split
        · exact .same _
        · split
          · refine (inductionHypothesis _ _).1.bind fun read => ?_
            dsimp only
            split
            · exact .same _
            · exact (inductionHypothesis _ _).2.2.bind fun _ => .same _
            · exact .same _
          · exact .same _
      · exact .same _

/-- For all limits and texts: limits refuse the text, or make no difference. -/
theorem readWithin_stopsOnly (limits : Limits) (text : String) :
    StopsOnly (readWithin limits text) (readWithin .unlimited text) :=
  (reading_stopsOnly _ _ _).1.bind fun _ => .same _

end Json

end ContractClient
