/-
This file says which values are shown on one line. A text is shown as it is, so that it brings its
own line breaks along; any other value is shown on one line, since texts inside it are quoted and a
line break between quotes is an escape (`oneLine_displayNested`). The same holds of what stands in
front of lines, however often it is repeated (`oneLine_indentation`).
-/

import ContractClient.Client.Style
import ContractClient.Json.Display
import ContractClient.Proofs.Client.Imported
import ContractClient.Proofs.Text.Lines

namespace ContractClient

/-! ### Numbers -/

theorem noBreak_toDigits (number : Nat) : '\n' ∉ Nat.toDigits 10 number := by
  have isOne := oneLine_toString number
  simpa only [OneLine, Nat.toString_eq_ofList_toDigits, String.toList_ofList] using isOne

theorem noBreak_shortestDecimal (significand exponent : Nat) (narrow : Bool) :
    '\n' ∉ (shortestDecimal significand exponent narrow).digits := by
  unfold shortestDecimal
  dsimp only
  split
  · rename_i steps power _
    intro isBreak
    rw [significantDigits, List.mem_reverse] at isBreak
    exact noBreak_toDigits steps (List.mem_reverse.mp ((List.dropWhile_sublist _).subset isBreak))
  · decide

theorem oneLine_positionalText {decimal : ShortDecimal} (digits : '\n' ∉ decimal.digits) :
    OneLine (positionalText decimal) := by
  have zeros : ∀ count, '\n' ∉ List.replicate count '0' := fun count isBreak =>
    absurd (List.eq_of_mem_replicate isBreak) (by decide)
  unfold positionalText
  dsimp only
  split
  · refine OneLine.append (by decide) (oneLine_ofList_iff.mpr ?_)
    exact fun isBreak => (List.mem_append.mp isBreak).elim (zeros _) digits
  · split
    · refine OneLine.append (oneLine_ofList_iff.mpr ?_) (by decide)
      exact fun isBreak => (List.mem_append.mp isBreak).elim digits (zeros _)
    · refine ((oneLine_ofList_iff.mpr ?_).append (by decide)).append (oneLine_ofList_iff.mpr ?_)
      · exact fun isBreak => digits (List.mem_of_mem_take isBreak)
      · exact fun isBreak => digits (List.mem_of_mem_drop isBreak)

theorem oneLine_scientificText {decimal : ShortDecimal} (digits : '\n' ∉ decimal.digits) :
    OneLine (scientificText decimal) := by
  have exponent : OneLine (exponentText decimal.exponent) := by
    unfold exponentText
    refine OneLine.append (by split <;> decide) ?_
    split
    · exact OneLine.append (by decide) (oneLine_toString _)
    · exact oneLine_toString _
  unfold scientificText
  refine OneLine.append ?_ exponent
  split
  · decide
  · rename_i digit same
    exact oneLine_ofList_iff.mpr (same ▸ digits)
  · rename_i digit rest _ same
    rw [same, List.mem_cons, not_or] at digits
    rw [oneLine_ofList_iff, List.mem_cons, List.mem_cons, not_or, not_or]
    exact ⟨digits.1, by decide, digits.2⟩

theorem oneLine_floatText (bits : UInt64) : OneLine (floatText Json.displayFloats bits) := by
  have signed : ∀ (negative : Bool) {text : String}, OneLine text →
      OneLine (if negative then "-" ++ text else text) := by
    intro negative text isOne
    split
    · exact OneLine.append (by decide) isOne
    · exact isOne
  unfold floatText
  dsimp only
  split
  · decide
  · exact signed _ (by decide)
  · split
    · exact signed _ (by decide)
    · refine signed _ ?_
      unfold ShortDecimal.text
      split
      · exact oneLine_positionalText (noBreak_shortestDecimal _ _ _)
      · exact oneLine_scientificText (noBreak_shortestDecimal _ _ _)

namespace Json

/-! ### Quoted texts -/

theorem noBreak_hexDigits (count value : Nat) : '\n' ∉ hexDigits count value := by
  induction count generalizing value with
  | zero => exact List.not_mem_nil
  | succ count inductionHypothesis =>
    have digit : ∀ value < 16, Nat.digitChar value ≠ '\n' := by decide
    rw [hexDigits, List.mem_append, List.mem_singleton, not_or]
    exact ⟨inductionHypothesis _, (digit _ (Nat.mod_lt _ (by decide))).symm⟩

theorem noBreak_displayEscape (character : Char) : '\n' ∉ displayEscape character := by
  have escape : ∀ sign, sign ≠ '\n' → ∀ count,
      '\n' ∉ '\\' :: sign :: hexDigits count character.toNat := by
    intro sign differs count
    simp only [List.mem_cons, not_or]
    exact ⟨by decide, differs.symm, noBreak_hexDigits _ _⟩
  unfold displayEscape
  dsimp only
  split
  · exact escape 'x' (by decide) _
  · split
    · exact escape 'u' (by decide) _
    · exact escape 'U' (by decide) _

theorem noBreak_displayPiece {quote : Char} (plain : quote ≠ '\n') (piece : TextPiece) :
    '\n' ∉ displayPiece quote piece := by
  cases piece with
  | loneSurrogate unit =>
    simp only [displayPiece, List.mem_cons, not_or]
    exact ⟨by decide, by decide, noBreak_hexDigits _ _⟩
  | character character =>
    simp only [displayPiece, displayChar]
    by_cases isBreak : character = '\n'
    · rw [isBreak, if_neg (by simpa using plain.symm)]
      decide
    · split
      · simpa using Ne.symm isBreak
      · repeat' split
        all_goals first | decide | exact noBreak_displayEscape _ | simpa using Ne.symm isBreak

/-- A text between quotes stands on one line, whatever it says. -/
theorem oneLine_displayText (text : String) : OneLine (displayText text) := by
  have plain : displayQuote text ≠ '\n' := by
    unfold displayQuote
    split <;> decide
  unfold displayText
  dsimp only
  rw [oneLine_ofList_iff, List.mem_cons, List.mem_append, List.mem_singleton, List.mem_flatMap]
  rintro (isQuote | ⟨piece, _, isBreak⟩ | isQuote)
  · exact plain isQuote.symm
  · exact noBreak_displayPiece plain piece isBreak
  · exact plain isQuote.symm

/-! ### Values -/

mutual

/-- A value inside a list or an object is shown on one line. -/
theorem oneLine_displayNested (value : Json) : OneLine (displayNested value) := by
  cases value with
  | null => decide
  | boolean value => cases value <;> decide
  | integer value => exact oneLine_toString_int value
  | float bits => exact oneLine_floatText bits
  | text value => exact oneLine_displayText value
  | array items =>
    rw [displayNested]
    exact ((by decide : OneLine "[").append
      (.intercalate (by decide) (oneLine_displayItems items))).append (by decide)
  | object members =>
    rw [displayNested]
    exact ((by decide : OneLine "\x7b").append
      (.intercalate (by decide) (oneLine_displayMembers members))).append (by decide)
termination_by structural value

theorem oneLine_displayItems (items : List Json) : ∀ text ∈ displayItems items, OneLine text := by
  cases items with
  | nil => exact fun _ none => (List.not_mem_nil none).elim
  | cons item rest =>
    rw [displayItems]
    exact List.forall_mem_cons.mpr ⟨oneLine_displayNested item, oneLine_displayItems rest⟩
termination_by structural items

theorem oneLine_displayMembers (members : List (String × Json)) :
    ∀ text ∈ displayMembers members, OneLine text := by
  match members with
  | [] => exact fun _ none => (List.not_mem_nil none).elim
  | (key, value) :: rest =>
    rw [displayMembers]
    refine List.forall_mem_cons.mpr ⟨?_, oneLine_displayMembers rest⟩
    exact ((oneLine_displayText key).append (by decide)).append (oneLine_displayNested value)
termination_by structural members

end

/-- A value that is no text is shown on one line. -/
theorem oneLine_display {value : Json} (noText : value.text? = none) : OneLine value.display := by
  unfold display
  split
  · cases noText
  · exact oneLine_displayNested value

/-- A value of the same name as another one is shown on one line if the other one is. -/
theorem oneLine_display_of_sameName {first second : Json} (same : first.sameName second)
    (isOne : OneLine first.display) : OneLine second.display := by
  cases isText : second.text? with
  | none => exact oneLine_display isText
  | some name =>
    cases second <;> cases isText
    rw [sameName_text_iff.mp same] at isOne
    exact isOne

end Json

/-! ### Indentation -/

/-- What stands in front of the lines has no line break at any level if it has none at the first. -/
theorem oneLine_indentation {unit : Json} (isOne : OneLine unit.display) (level : Int) :
    OneLine (indentation unit level) := by
  cases isText : unit.text? with
  | some text =>
    cases unit <;> cases isText
    rw [indentation_text]
    refine .join fun text isCopy => ?_
    rw [List.eq_of_mem_replicate isCopy]
    exact isOne
  | none =>
    refine Json.oneLine_display ?_
    cases unit with
    | text _ => cases isText
    | _ => rfl

end ContractClient
