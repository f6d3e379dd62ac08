/-
This file shows that a text does not begin with a small ASCII letter once its first character is in
upper case. The upper case of a character comes from ASCII, from one of the tables of the mapping,
or is the character itself (`upperCase_origin`). For ASCII all is known; the tables are gone
through.
-/

import ContractClient.Text.Case

namespace ContractClient

/-! ### Small letters -/

theorem toNat_ofNat {point : Nat} (valid : point.isValidChar) :
    (Char.ofNat point).toNat = point := by
  have same : Char.ofNat point = Char.ofNatAux point valid := dif_pos valid
  rw [same]
  rfl

/-- A character is a small ASCII letter exactly if its code point is among theirs. -/
theorem isLower_iff (character : Char) :
    character.isLower = true ↔ 97 ≤ character.toNat ∧ character.toNat ≤ 122 := by
  show (decide (character.val ≥ 97) && decide (character.val ≤ 122)) = true ↔ _
  simp only [Bool.and_eq_true, decide_eq_true_eq, UInt32.le_iff_toNat_le, Char.toNat]
  exact Iff.rfl

/-- Whether a code point belongs to no small letter of ASCII. -/
def isApart (point : Nat) : Bool :=
  point < 97 || 122 < point

theorem isLower_ofNat {point : Nat} (apart : isApart point) :
    (Char.ofNat point).isLower = false := by
  simp only [isApart, Bool.or_eq_true, decide_eq_true_eq] at apart
  rw [Bool.eq_false_iff, ne_eq, isLower_iff]
  by_cases valid : point.isValidChar
  · rw [toNat_ofNat valid]
    omega
  · have none : Char.ofNat point = Char.ofNat 0 := dif_neg valid
    rw [none]
    decide

/-! ### The mapping to upper case -/

/-- In ASCII, no upper case is a small letter. -/
theorem toUpper_ascii : ∀ point < 128, (Char.ofNat point).toUpper.isLower = false := by
  decide

/-- No run of the table leads to a small letter. -/
theorem upperRuns_apart : ∀ run ∈ upperRuns,
    (run.high : Int) + run.offset < 97 ∨ 122 < (run.low : Int) + run.offset := by
  decide +kernel

/-- No expansion of the table is empty or begins with a small letter. -/
theorem upperExpansions_apart : ∀ entry ∈ upperExpansions, entry.2.head?.any isApart := by
  decide +kernel

theorem CaseRun.image?_apart {run : CaseRun} {point image : Nat}
    (apart : (run.high : Int) + run.offset < 97 ∨ 122 < (run.low : Int) + run.offset)
    (sends : run.image? point = some image) : isApart image := by
  unfold image? at sends
  split at sends
  · rename_i inRun
    simp only [Bool.and_eq_true, decide_eq_true_eq] at inRun
    have := Option.some.inj sends
    simp only [isApart, Bool.or_eq_true, decide_eq_true_eq]
    omega
  · cases sends

/-- Where the upper case of a character comes from. -/
inductive UpperCase (character : Char) : List Char → Prop
  | ascii : isAscii character → UpperCase character [character.toUpper]
  | expanded {points : List Nat} : (character.toNat, points) ∈ upperExpansions →
      UpperCase character (points.map Char.ofNat)
  | moved {run : CaseRun} {point : Nat} : ¬isAscii character → run ∈ upperRuns →
      run.image? character.toNat = some point → UpperCase character [Char.ofNat point]
  | same : ¬isAscii character → UpperCase character [character]

theorem upperCase_origin (character : Char) : UpperCase character (upperCase character) := by
  unfold upperCase
  by_cases ascii : isAscii character
  · rw [if_pos ascii]
    exact .ascii ascii
  · rw [if_neg ascii, mapCase]
    cases expanded : upperExpansions.lookup character.toNat with
    | some points =>
      obtain ⟨before, after, split, _⟩ := List.lookup_eq_some_iff.mp expanded
      exact .expanded (by simp [split])
    | none =>
      cases sent : upperRuns.findSome? (CaseRun.image? · character.toNat) with
      | some point =>
        obtain ⟨run, isRun, sends⟩ := List.exists_of_findSome?_eq_some sent
        exact .moved ascii isRun sends
      | none => exact .same ascii

/-- The upper case of a character begins with a character that is no small letter. -/
theorem upperCase_head (character : Char) :
    ∃ head rest, upperCase character = head :: rest ∧ head.isLower = false := by
  have origin := upperCase_origin character
  generalize upperCase character = image at origin ⊢
  cases origin with
  | ascii isAscii =>
    have notSmall := toUpper_ascii character.toNat (of_decide_eq_true isAscii)
    rw [Char.ofNat_toNat] at notSmall
    exact ⟨_, _, rfl, notSmall⟩
  | @expanded points isEntry =>
    have apart := upperExpansions_apart _ isEntry
    cases points with
    | nil => cases apart
    | cons point rest => exact ⟨_, _, rfl, isLower_ofNat apart⟩
  | @moved run point _ isRun sends =>
    exact ⟨_, _, rfl, isLower_ofNat (CaseRun.image?_apart (upperRuns_apart run isRun) sends)⟩
  | same notAscii =>
    refine ⟨_, _, rfl, Bool.eq_false_iff.mpr fun small => notAscii ?_⟩
    exact decide_eq_true (Nat.lt_of_le_of_lt ((isLower_iff character).mp small).2 (by decide))

theorem capitalized_head {text : String} (notEmpty : text ≠ "") :
    ∃ head rest, (capitalized text).toList = head :: rest ∧ head.isLower = false := by
  unfold capitalized
  split
  · rename_i none
    exact (notEmpty (String.toList_eq_nil_iff.mp none)).elim
  · rename_i first others _
    obtain ⟨head, rest, same, notSmall⟩ := upperCase_head first
    exact ⟨head, rest ++ others, by rw [same, String.toList_ofList, List.cons_append], notSmall⟩

end ContractClient
