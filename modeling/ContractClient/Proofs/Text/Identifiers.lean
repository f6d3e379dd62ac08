/-
This file is about the names that a script may use: identifiers in which dollar signs may stand for
underscores. Such a name stays one if more of its characters are put behind it, and what is put
behind a text that is no such name does not make it one (`isScriptName_append_iff`). A name with its
first character in upper case is still a name (`isScriptName_capitalized`): for ASCII this is known,
and for all other characters the tables of the mapping are compared with those of the classes.
-/

import ContractClient.Proofs.Text.Capitals
import ContractClient.Text.DecimalDigit
import ContractClient.Text.Identifier

namespace ContractClient

/-! ### Names of a script -/

/-- An underscore in place of a dollar sign, and every other character as it is. -/
def maskDollar (character : Char) : Char :=
  if character = '$' then '_' else character

/-- Whether the text is an identifier once its dollar signs are underscores. -/
def isScriptName (text : String) : Bool :=
  isIdentifier (String.ofList (text.toList.map maskDollar))

/-- Whether the character may stand first in a name. -/
def isScriptStart (character : Char) : Bool :=
  isIdentifierStart (maskDollar character)

/-- Whether the character may stand after the first place of a name. -/
def isScriptContinue (character : Char) : Bool :=
  isIdentifierContinue (maskDollar character)

theorem isScriptName_iff {text : String} :
    isScriptName text ↔ ∃ first rest, text.toList = first :: rest ∧ isScriptStart first ∧
      ∀ character ∈ rest, isScriptContinue character := by
  unfold isScriptName isIdentifier
  rw [String.toList_ofList]
  cases characters : text.toList with
  | nil => simp [isIdentifierChars]
  | cons first rest =>
    rw [List.map_cons, isIdentifierChars, Bool.and_eq_true, List.all_eq_true, List.forall_mem_map]
    constructor
    · exact fun ⟨starts, continues⟩ => ⟨first, rest, rfl, starts, continues⟩
    · rintro ⟨_, _, same, starts, continues⟩
      obtain ⟨rfl, rfl⟩ := List.cons.inj same
      exact ⟨starts, continues⟩

theorem isScriptName_append_iff {first : String} (notEmpty : first ≠ "") (rest : String) :
    isScriptName (first ++ rest) ↔
      isScriptName first ∧ ∀ character ∈ rest.toList, isScriptContinue character := by
  rw [isScriptName_iff, isScriptName_iff, String.toList_append]
  cases characters : first.toList with
  | nil => exact (notEmpty (String.toList_eq_nil_iff.mp characters)).elim
  | cons head tail => simp [or_imp, forall_and, and_assoc]

theorem ne_empty_of_isScriptName {text : String} (isName : isScriptName text) : text ≠ "" := by
  rintro rfl
  cases isName

/-! ### Identifiers -/

theorem maskDollar_of_identifierStart {character : Char}
    (starts : isIdentifierStart character) : maskDollar character = character := by
  refine if_neg ?_
  rintro rfl
  exact absurd starts (by decide)

theorem maskDollar_of_identifierContinue {character : Char}
    (continues : isIdentifierContinue character) : maskDollar character = character := by
  refine if_neg ?_
  rintro rfl
  exact absurd continues (by decide)

theorem isScriptStart_of_identifierStart {character : Char}
    (starts : isIdentifierStart character) : isScriptStart character := by
  rwa [isScriptStart, maskDollar_of_identifierStart starts]

theorem isScriptContinue_of_identifierContinue {character : Char}
    (continues : isIdentifierContinue character) : isScriptContinue character := by
  rwa [isScriptContinue, maskDollar_of_identifierContinue continues]

/-- An identifier is a name as it is. -/
theorem isScriptName_of_isIdentifier {text : String} (isName : isIdentifier text) :
    isScriptName text := by
  rw [isScriptName_iff]
  unfold isIdentifier at isName
  cases characters : text.toList with
  | nil =>
    rw [characters] at isName
    cases isName
  | cons first rest =>
    rw [characters, isIdentifierChars, Bool.and_eq_true, List.all_eq_true] at isName
    exact ⟨first, rest, rfl, isScriptStart_of_identifierStart isName.1,
      fun character member => isScriptContinue_of_identifierContinue (isName.2 character member)⟩

theorem isIdentifierContinue_of_isDigit {character : Char} (isDigit : character.isDigit) :
    isIdentifierContinue character := by
  have ascii : isAscii character := by
    simp only [Char.isDigit, Bool.and_eq_true, decide_eq_true_eq, UInt32.le_iff_toNat_le] at isDigit
    exact decide_eq_true (Nat.lt_of_le_of_lt isDigit.2 (by decide))
  rw [isIdentifierContinue, if_pos ascii, Char.isAlphanum, isDigit, Bool.or_true, Bool.true_or]

theorem isDigit_of_mem_toString {number : Nat} :
    ∀ character ∈ (toString number).toList, character.isDigit := by
  intro character member
  rw [Nat.toString_eq_ofList_toDigits, String.toList_ofList] at member
  exact isDigit_of_mem_toDigits member

/-- The digits of a number may stand behind a name. -/
theorem isScriptContinue_of_mem_toString {number : Nat} :
    ∀ character ∈ (toString number).toList, isScriptContinue character :=
  fun character member => isScriptContinue_of_identifierContinue
    (isIdentifierContinue_of_isDigit (isDigit_of_mem_toString character member))

/-! ### Upper case -/

/-- Whether the character of the code point may start an identifier. -/
def startsIdentifier (point : Nat) : Bool :=
  isIdentifierStart (Char.ofNat point)

/-- Whether a run takes characters that may start an identifier to such characters: all its images
lie in one range of them, or none of its own points is one, or each point is looked at. -/
def CaseRun.keepsStart (run : CaseRun) : Bool :=
  let low := (run.low + run.offset).toNat
  let high := (run.high + run.offset).toNat
  identifierStartRanges.any (fun range => range.1.ble low && high.ble range.2) ||
    identifierStartRanges.all (fun range => run.high.blt range.1 || range.2.blt run.low) ||
    (List.range (run.high - run.low + 1)).all fun distance =>
      (run.image? (run.low + distance)).all startsIdentifier

theorem upperRuns_keepStart : ∀ run ∈ upperRuns, run.keepsStart := by
  decide +kernel

/-- The ranges hold code points of characters above ASCII. -/
theorem identifierStartRanges_valid : ∀ range ∈ identifierStartRanges,
    128 ≤ range.1 ∧ (range.2 < 0xd800 ∨ 0xdfff < range.1 ∧ range.2 < 0x110000) := by
  decide +kernel

/-- Every expansion of the table is an identifier. -/
theorem upperExpansions_identifier : ∀ entry ∈ upperExpansions,
    isIdentifierChars (entry.2.map Char.ofNat) := by
  decide +kernel

theorem isIdentifierStart_ascii : ∀ point < 128,
    isIdentifierStart (Char.ofNat point) → isIdentifierStart (Char.ofNat point).toUpper := by
  decide

theorem startsIdentifier_of_inRanges {point : Nat} (inside : inRanges identifierStartRanges point) :
    startsIdentifier point := by
  obtain ⟨range, isRange, between⟩ := List.any_eq_true.mp inside
  rw [Bool.and_eq_true, decide_eq_true_eq, decide_eq_true_eq] at between
  obtain ⟨above, valid⟩ := identifierStartRanges_valid range isRange
  have isValid : point.isValidChar := by
    unfold Nat.isValidChar
    omega
  have same := toNat_ofNat isValid
  have notAscii : isAscii (Char.ofNat point) = false := by
    rw [isAscii, same]
    exact decide_eq_false (by omega)
  rw [startsIdentifier, isIdentifierStart, notAscii, if_neg Bool.false_ne_true, same]
  exact inside

/-- A run that keeps starts does so at every point. -/
theorem CaseRun.startsIdentifier_image {run : CaseRun} (keeps : run.keepsStart) {point image : Nat}
    (starts : inRanges identifierStartRanges point) (sends : run.image? point = some image) :
    startsIdentifier image := by
  have sent := sends
  unfold image? at sent
  split at sent
  · rename_i inRun
    simp only [Bool.and_eq_true, decide_eq_true_eq] at inRun
    have isImage := Option.some.inj sent
    simp only [keepsStart, Bool.or_eq_true] at keeps
    rcases keeps with (together | apart) | each
    · obtain ⟨range, isRange, around⟩ := List.any_eq_true.mp together
      rw [Bool.and_eq_true, Nat.ble_eq, Nat.ble_eq] at around
      refine startsIdentifier_of_inRanges (List.any_eq_true.mpr ⟨range, isRange, ?_⟩)
      rw [Bool.and_eq_true, decide_eq_true_eq, decide_eq_true_eq]
      omega
    · obtain ⟨range, isRange, between⟩ := List.any_eq_true.mp starts
      rw [Bool.and_eq_true, decide_eq_true_eq, decide_eq_true_eq] at between
      have outside := List.all_eq_true.mp apart range isRange
      rw [Bool.or_eq_true, Nat.blt_eq, Nat.blt_eq] at outside
      omega
    · have reached : run.low + (point - run.low) = point := by omega
      have isPoint := List.all_eq_true.mp each (point - run.low) (List.mem_range.mpr (by omega))
      rw [reached, sends] at isPoint
      exact isPoint
  · cases sent

/-- The upper case of a character that may start an identifier is an identifier. -/
theorem upperCase_identifier {character : Char} (starts : isIdentifierStart character) :
    isIdentifierChars (upperCase character) := by
  have alone : ∀ {other : Char}, isIdentifierStart other → isIdentifierChars [other] := by
    intro other otherStarts
    rw [isIdentifierChars, otherStarts]
    rfl
  have origin := upperCase_origin character
  generalize upperCase character = image at origin ⊢
  cases origin with
  | ascii isAscii =>
    have keeps := isIdentifierStart_ascii character.toNat (of_decide_eq_true isAscii)
    rw [Char.ofNat_toNat] at keeps
    exact alone (keeps starts)
  | expanded isEntry => exact upperExpansions_identifier _ isEntry
  | @moved run point notAscii isRun sends =>
    rw [isIdentifierStart, if_neg notAscii] at starts
    exact alone (CaseRun.startsIdentifier_image (upperRuns_keepStart run isRun) starts sends)
  | same _ => exact alone starts

/-- The upper case of a character that may start a name is a name. -/
theorem upperCase_scriptName {character : Char} (starts : isScriptStart character) :
    isScriptName (String.ofList (upperCase character)) := by
  by_cases isDollar : character = '$'
  · subst isDollar
    decide
  · rw [isScriptStart, maskDollar, if_neg isDollar] at starts
    refine isScriptName_of_isIdentifier ?_
    rw [isIdentifier, String.toList_ofList]
    exact upperCase_identifier starts

theorem isScriptName_capitalized {text : String} (isName : isScriptName text) :
    isScriptName (capitalized text) := by
  obtain ⟨first, rest, characters, starts, continues⟩ := isScriptName_iff.mp isName
  have capital := upperCase_scriptName starts
  rw [capitalized, characters]
  show isScriptName (String.ofList (upperCase first ++ rest))
  rw [String.ofList_append, isScriptName_append_iff (ne_empty_of_isScriptName capital),
    String.toList_ofList]
  exact ⟨capital, continues⟩

end ContractClient
