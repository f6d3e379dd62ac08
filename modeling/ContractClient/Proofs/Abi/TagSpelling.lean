/-
This file says which texts are read as tags. A grammar tells how a tag is spelled: a word, behind
some words a number, and then suffixes in brackets (`Spelling.Spells`). It leaves open which digits
write a number, and what may stand between the parts.

A tag is read from exactly those texts that spell it with digits of any script, with zeros in front
of numbers or not, and with single line breaks between the parts or not (`TypeTag.parse_eq_ok_iff`).
All others are no tags, or they have too long a number where they are read first, from the end on
(`TypeTag.parse_eq_longNumber_iff`).
-/

import ContractClient.Abi.TypeTag
import ContractClient.Proofs.Steps
import Mathlib.Data.Bool.AllAny
import Mathlib.Data.List.Basic
import Mathlib.Data.List.Induction

namespace ContractClient

/-! ### The grammar of tags -/

/-- A way to spell tags: which digits write a number, and which characters may stand behind an
integer type, behind fixed bytes and behind a suffix. -/
structure Spelling where
  WritesNumber : List Char → Nat → Prop
  IsGap : List Char → Prop

namespace Spelling

/-- The base types that are words without a number. -/
def wordTypes : List BaseType :=
  [.bool, .bytes, .string, .address, .tuple]

section

variable (spelling : Spelling)

/-- What stands behind a word gives a number, or none. -/
inductive SpellsCount : List Char → Option Nat → Prop where
  | missing {gap : List Char} (isGap : spelling.IsGap gap) : SpellsCount gap none
  | given {digits gap : List Char} {number : Nat} (isNumber : spelling.WritesNumber digits number)
      (isGap : spelling.IsGap gap) : SpellsCount (digits ++ gap) (some number)

/-- The characters spell the base type. Integers have the largest width if none is given. -/
inductive SpellsBase : List Char → BaseType → Prop where
  | word {characters : List Char} {base : BaseType} (isWord : base ∈ wordTypes)
      (isText : characters = base.text.toList) : SpellsBase characters base
  | unsigned {rest : List Char} {size : Option Nat} {bits : Nat}
      (count : spelling.SpellsCount rest size) (isBits : size.getD 256 = bits)
      (isWidth : 8 ≤ bits ∧ bits ≤ 256 ∧ bits % 8 = 0) :
      SpellsBase ('u' :: 'i' :: 'n' :: 't' :: rest) (.unsigned bits)
  | signed {rest : List Char} {size : Option Nat} {bits : Nat}
      (count : spelling.SpellsCount rest size) (isBits : size.getD 256 = bits)
      (isWidth : 8 ≤ bits ∧ bits ≤ 256 ∧ bits % 8 = 0) :
      SpellsBase ('i' :: 'n' :: 't' :: rest) (.signed bits)
  | fixedBytes {rest : List Char} {size : Nat} (count : spelling.SpellsCount rest (some size))
      (isSize : 1 ≤ size ∧ size ≤ 32) :
      SpellsBase ('b' :: 'y' :: 't' :: 'e' :: 's' :: rest) (.fixedBytes size)

/-- What stands between the brackets of a suffix gives its length, if it has one. -/
inductive SpellsLength : List Char → Option Nat → Prop where
  | any : SpellsLength [] none
  | given {digits : List Char} {length : Nat} (isNumber : spelling.WritesNumber digits length)
      (positive : 1 ≤ length) : SpellsLength digits (some length)

/-- The characters spell the suffixes, from the first one to the last. -/
inductive SpellsSuffixes : List Char → List (Option Nat) → Prop where
  | nil : SpellsSuffixes [] []
  | cons {digits gap rest : List Char} {dimension : Option Nat} {dimensions : List (Option Nat)}
      (length : spelling.SpellsLength digits dimension) (isGap : spelling.IsGap gap)
      (others : SpellsSuffixes rest dimensions) :
      SpellsSuffixes ('[' :: (digits ++ ']' :: (gap ++ rest))) (dimension :: dimensions)

/-- The characters spell the tag. -/
def Spells (characters : List Char) (tag : TypeTag) : Prop :=
  ∃ base suffixes, characters = base ++ suffixes ∧ spelling.SpellsBase base tag.base ∧
    spelling.SpellsSuffixes suffixes tag.dimensions

end

/-- Numbers are written in ASCII without zeros in front, and nothing stands between the parts. -/
def plain : Spelling where
  WritesNumber digits number := digits = Nat.toDigits 10 number
  IsGap gap := gap = []

/-- The characters are decimal digits of any script, one at least. -/
def AreDigits (characters : List Char) : Prop :=
  characters ≠ [] ∧ ∀ character ∈ characters, isDecimalDigit character = true

/-- Numbers are written with any digits, but not too many of them, and a line may break between the
parts. -/
def lenient : Spelling where
  WritesNumber digits number :=
    AreDigits digits ∧ digits.length ≤ digitLimit ∧ decimalNumber digits = number
  IsGap gap := gap = [] ∨ gap = ['\n']

/-- The characters are the digits of a number that has too many of them. -/
def IsLong (characters : List Char) : Prop :=
  AreDigits characters ∧ digitLimit < characters.length

/-- A suffix has too long a number, and all suffixes behind it can be read. What stands in front of
it may be anything. -/
def HasLongLength (characters : List Char) : Prop :=
  ∃ front digits gap suffixes dimensions,
    characters = front ++ '[' :: (digits ++ ']' :: (gap ++ suffixes)) ∧ IsLong digits ∧
      lenient.IsGap gap ∧ lenient.SpellsSuffixes suffixes dimensions

/-- The words that a number may stand behind. -/
def numberedWords : List (List Char) :=
  ["uint".toList, "int".toList, "bytes".toList]

/-- One of these words has too long a number behind it. -/
def HasLongSize (characters : List Char) : Prop :=
  ∃ word ∈ numberedWords, ∃ digits gap, characters = word ++ (digits ++ gap) ∧ IsLong digits ∧
    lenient.IsGap gap

/-- From the end on, the characters can be read up to a number with too many digits. -/
def HasLongNumber (characters : List Char) : Prop :=
  HasLongLength characters ∨
    ∃ base suffixes dimensions, characters = base ++ suffixes ∧ HasLongSize base ∧
      lenient.SpellsSuffixes suffixes dimensions

/-! ### Characters of tags -/

/-- The letters of all words. -/
def wordLetters : List Char :=
  "abdegilnoprstuy".toList

/-- Whatever the parts of a tag are spelled with has the property, brackets apart. -/
structure KeepsTo (spelling : Spelling) (holds : Char → Prop) : Prop where
  letters : ∀ character ∈ wordLetters, holds character
  numbers : ∀ digits number, spelling.WritesNumber digits number →
    ∀ character ∈ digits, holds character
  gaps : ∀ gap, spelling.IsGap gap → ∀ character ∈ gap, holds character

section

variable {spelling : Spelling} {holds : Char → Prop} {characters : List Char}

theorem KeepsTo.count (keeps : spelling.KeepsTo holds) {size : Option Nat}
    (spells : spelling.SpellsCount characters size) :
    ∀ character ∈ characters, holds character := by
  cases spells with
  | missing isGap => exact keeps.gaps _ isGap
  | given isNumber isGap =>
    exact List.forall_mem_append.mpr ⟨keeps.numbers _ _ isNumber, keeps.gaps _ isGap⟩

theorem KeepsTo.base (keeps : spelling.KeepsTo holds) {base : BaseType}
    (spells : spelling.SpellsBase characters base) :
    ∀ character ∈ characters, holds character := by
  have letter := keeps.letters
  cases spells with
  | word isWord isText =>
    have letters : ∀ base ∈ wordTypes, base.text.toList ⊆ wordLetters := by decide
    exact isText ▸ fun character isIn => letter character (letters base isWord isIn)
  | unsigned count =>
    simp only [List.forall_mem_cons]
    exact ⟨letter _ (by decide), letter _ (by decide), letter _ (by decide),
      letter _ (by decide), keeps.count count⟩
  | signed count =>
    simp only [List.forall_mem_cons]
    exact ⟨letter _ (by decide), letter _ (by decide), letter _ (by decide), keeps.count count⟩
  | fixedBytes count =>
    simp only [List.forall_mem_cons]
    exact ⟨letter _ (by decide), letter _ (by decide), letter _ (by decide),
      letter _ (by decide), letter _ (by decide), keeps.count count⟩

theorem KeepsTo.suffixes (keeps : spelling.KeepsTo holds) (opening : holds '[')
    (closing : holds ']') {dimensions : List (Option Nat)}
    (spells : spelling.SpellsSuffixes characters dimensions) :
    ∀ character ∈ characters, holds character := by
  induction spells with
  | nil => exact nofun
  | @cons digits _ _ _ _ length isGap _ inductionHypothesis =>
    have number : ∀ character ∈ digits, holds character := by
      cases length with
      | any => exact nofun
      | given isNumber _ => exact keeps.numbers _ _ isNumber
    simp only [List.forall_mem_cons, List.forall_mem_append]
    exact ⟨opening, number, closing, keeps.gaps _ isGap, inductionHypothesis⟩

theorem KeepsTo.tag (keeps : spelling.KeepsTo holds) (opening : holds '[') (closing : holds ']')
    {tag : TypeTag} (spells : spelling.Spells characters tag) :
    ∀ character ∈ characters, holds character := by
  obtain ⟨base, suffixes, rfl, isBase, areSuffixes⟩ := spells
  exact List.forall_mem_append.mpr
    ⟨keeps.base isBase, keeps.suffixes opening closing areSuffixes⟩

/-- What is read consists of the letters, digits of some script and line breaks. -/
theorem lenient_keepsTo (letters : ∀ character ∈ wordLetters, holds character)
    (digits : ∀ character, isDecimalDigit character = true → holds character)
    (lineBreak : holds '\n') : lenient.KeepsTo holds where
  letters := letters
  numbers _ _ isNumber character isIn := digits character (isNumber.1.2 character isIn)
  gaps gap isGap := by
    rcases isGap with rfl | rfl
    · exact nofun
    · exact List.forall_mem_singleton.mpr lineBreak

end

end Spelling

open Spelling

/-! ### Reading the number behind a word -/

section

variable {characters digits gap : List Char}

theorem exists_gap (characters : List Char) :
    ∃ gap, lenient.IsGap gap ∧ characters = dropFinalBreak characters ++ gap := by
  rw [dropFinalBreak]
  split
  · rename_i isLast
    exact ⟨['\n'], .inr rfl, (List.dropLast_append_getLast? _ isLast).symm⟩
  · exact ⟨[], .inl rfl, (List.append_nil _).symm⟩

theorem dropFinalBreak_append (isGap : lenient.IsGap gap)
    (areDigits : ∀ digit ∈ digits, isDecimalDigit digit = true) :
    dropFinalBreak (digits ++ gap) = digits := by
  rcases isGap with rfl | rfl
  · rw [List.append_nil]
    refine if_neg fun isLast => ?_
    exact absurd (areDigits '\n' (List.mem_of_getLast? isLast)) (by decide +kernel)
  · rw [dropFinalBreak, if_pos List.getLast?_concat, List.dropLast_concat]

theorem readSize_nil (isGap : lenient.IsGap gap) : readSize gap = .ok none := by
  have noDigits : dropFinalBreak ([] ++ gap) = [] :=
    dropFinalBreak_append isGap fun _ isIn => nomatch isIn
  rw [List.nil_append] at noDigits
  rw [readSize, noDigits]

theorem readSize_digits (isGap : lenient.IsGap gap) (areDigits : AreDigits digits) :
    readSize (digits ++ gap) = (readNumber digits).map some := by
  rw [readSize, dropFinalBreak_append isGap areDigits.2]
  split
  · exact absurd rfl areDigits.1
  · rw [if_pos (List.all_eq_true.mpr areDigits.2)]

/-- Behind a word stands nothing but a gap, or digits and a gap, or what cannot be read. -/
theorem readSize_cases (characters : List Char) :
    lenient.IsGap characters ∨
      (∃ digits gap, characters = digits ++ gap ∧ AreDigits digits ∧ lenient.IsGap gap) ∨
      readSize characters = .error .unsupported := by
  obtain ⟨gap, isGap, split⟩ := exists_gap characters
  by_cases none : dropFinalBreak characters = []
  · rw [none, List.nil_append] at split
    exact .inl (split ▸ isGap)
  · by_cases areDigits : (dropFinalBreak characters).all isDecimalDigit = true
    · exact .inr (.inl ⟨_, gap, split, ⟨none, List.all_eq_true.mp areDigits⟩, isGap⟩)
    · refine .inr (.inr ?_)
      rw [readSize]
      split
      · rename_i isNone
        exact absurd isNone none
      · exact if_neg areDigits

theorem readNumber_eq_ok_iff {number : Nat} (areDigits : AreDigits digits) :
    readNumber digits = .ok number ↔ lenient.WritesNumber digits number := by
  rw [readNumber]
  split
  · rename_i long
    exact ⟨nofun, fun isNumber => absurd long (Nat.not_lt.mpr isNumber.2.1)⟩
  · rename_i few
    rw [Except.ok.injEq]
    exact ⟨fun same => ⟨areDigits, Nat.not_lt.mp few, same⟩, fun isNumber => isNumber.2.2⟩

theorem readNumber_eq_longNumber_iff (areDigits : AreDigits digits) :
    readNumber digits = .error .longNumber ↔ IsLong digits := by
  rw [readNumber]
  split
  · rename_i long
    exact iff_of_true rfl ⟨areDigits, long⟩
  · rename_i few
    exact ⟨nofun, fun isLong => absurd isLong.2 few⟩

theorem readSize_eq_ok_iff {size : Option Nat} :
    readSize characters = .ok size ↔ lenient.SpellsCount characters size := by
  constructor
  · intro read
    rcases readSize_cases characters with isGap | ⟨digits, gap, rfl, areDigits, isGap⟩ | unread
    · rw [readSize_nil isGap] at read
      cases read
      exact .missing isGap
    · rw [readSize_digits isGap areDigits] at read
      obtain ⟨number, isNumber, rfl⟩ := exists_of_map_eq_ok read
      exact .given ((readNumber_eq_ok_iff areDigits).mp isNumber) isGap
    · cases unread.symm.trans read
  · intro spells
    cases spells with
    | missing isGap => exact readSize_nil isGap
    | given isNumber isGap =>
      rw [readSize_digits isGap isNumber.1, (readNumber_eq_ok_iff isNumber.1).mpr isNumber]
      rfl

theorem readSize_eq_longNumber_iff :
    readSize characters = .error .longNumber ↔
      ∃ digits gap, characters = digits ++ gap ∧ IsLong digits ∧ lenient.IsGap gap := by
  constructor
  · intro read
    rcases readSize_cases characters with isGap | ⟨digits, gap, rfl, areDigits, isGap⟩ | unread
    · cases (readSize_nil isGap).symm.trans read
    · rw [readSize_digits isGap areDigits] at read
      cases isNumber : readNumber digits with
      | ok number =>
        rw [isNumber] at read
        cases read
      | error fault =>
        rw [isNumber] at read
        cases read
        exact ⟨digits, gap, rfl, (readNumber_eq_longNumber_iff areDigits).mp isNumber, isGap⟩
    · cases unread.symm.trans read
  · rintro ⟨digits, gap, rfl, isLong, isGap⟩
    rw [readSize_digits isGap isLong.1, (readNumber_eq_longNumber_iff isLong.1).mpr isLong]
    rfl

/-! ### Reading base types -/

theorem readWidth_eq_ok_iff {bits : Nat} :
    readWidth characters = .ok bits ↔
      ∃ size, lenient.SpellsCount characters size ∧ size.getD 256 = bits ∧
        8 ≤ bits ∧ bits ≤ 256 ∧ bits % 8 = 0 := by
  have isWidth : ∀ given, isIntegerWidth given = true ↔
      8 ≤ given ∧ given ≤ 256 ∧ given % 8 = 0 := fun given => by
    simp only [isIntegerWidth, Bool.and_eq_true, decide_eq_true_eq, beq_iff_eq, and_assoc]
  constructor
  · intro read
    obtain ⟨size, isSize, read⟩ := exists_of_bind_eq_ok read
    dsimp only at read
    split at read
    · rename_i given
      cases read
      exact ⟨size, readSize_eq_ok_iff.mp isSize, rfl, (isWidth _).mp given⟩
    · cases read
  · rintro ⟨size, isSize, rfl, given⟩
    rw [readWidth, readSize_eq_ok_iff.mpr isSize]
    exact if_pos ((isWidth _).mpr given)

theorem readByteCount_eq_ok_iff {size : Nat} :
    readByteCount characters = .ok size ↔
      lenient.SpellsCount characters (some size) ∧ 1 ≤ size ∧ size ≤ 32 := by
  have isSize : ∀ count : Nat, (decide (1 ≤ count) && decide (count ≤ 32)) = true ↔
      1 ≤ count ∧ count ≤ 32 := fun count => by
    rw [Bool.and_eq_true, decide_eq_true_eq, decide_eq_true_eq]
  constructor
  · intro read
    obtain ⟨count, isCount, read⟩ := exists_of_bind_eq_ok read
    cases count with
    | none => cases read
    | some count =>
      dsimp only at read
      split at read
      · rename_i given
        cases read
        exact ⟨readSize_eq_ok_iff.mp isCount, (isSize _).mp given⟩
      · cases read
  · rintro ⟨isCount, given⟩
    rw [readByteCount, readSize_eq_ok_iff.mpr isCount]
    exact if_pos ((isSize _).mpr given)

theorem readWidth_eq_longNumber_iff :
    readWidth characters = .error .longNumber ↔ readSize characters = .error .longNumber := by
  refine bind_eq_error_iff_of_ne fun size => ?_
  dsimp only
  split <;> simp

theorem readByteCount_eq_longNumber_iff :
    readByteCount characters = .error .longNumber ↔
      readSize characters = .error .longNumber := by
  refine bind_eq_error_iff_of_ne fun size => ?_
  cases size with
  | none => simp
  | some count =>
    dsimp only
    split <;> simp

/-- The word of fixed bytes is the only one that also stands for itself. -/
theorem BaseType.ofChars_bytes (some : characters ≠ []) :
    BaseType.ofChars ('b' :: 'y' :: 't' :: 'e' :: 's' :: characters) =
      (readByteCount characters).map fixedBytes := by
  unfold ofChars
  simp [some]

theorem BaseType.ofChars_eq_ok_iff {base : BaseType} :
    BaseType.ofChars characters = .ok base ↔ lenient.SpellsBase characters base := by
  constructor
  · intro read
    unfold ofChars at read
    -- The five types that are words stand in front.
    iterate 5
      split at read
      · rename_i same
        obtain rfl := Except.ok.inj read
        exact .word (by decide) same
    split at read
    · obtain ⟨bits, isWidth, rfl⟩ := exists_of_map_eq_ok read
      obtain ⟨size, count, isBits, isWidth⟩ := readWidth_eq_ok_iff.mp isWidth
      exact .unsigned count isBits isWidth
    · obtain ⟨bits, isWidth, rfl⟩ := exists_of_map_eq_ok read
      obtain ⟨size, count, isBits, isWidth⟩ := readWidth_eq_ok_iff.mp isWidth
      exact .signed count isBits isWidth
    · obtain ⟨size, isSize, rfl⟩ := exists_of_map_eq_ok read
      obtain ⟨count, isSize⟩ := readByteCount_eq_ok_iff.mp isSize
      exact .fixedBytes count isSize
    · cases read
  · intro spells
    cases spells with
    | word isWord isText =>
      have words : ∀ base ∈ wordTypes, BaseType.ofChars base.text.toList = .ok base := by decide
      exact isText ▸ words base isWord
    | @unsigned rest _ _ count isBits isWidth =>
      show (readWidth rest).map BaseType.unsigned = _
      rw [readWidth_eq_ok_iff.mpr ⟨_, count, isBits, isWidth⟩]
      rfl
    | @signed rest _ _ count isBits isWidth =>
      show (readWidth rest).map BaseType.signed = _
      rw [readWidth_eq_ok_iff.mpr ⟨_, count, isBits, isWidth⟩]
      rfl
    | @fixedBytes rest size count isSize =>
      have some : rest ≠ [] := by
        cases count with
        | given isNumber _ => exact List.append_ne_nil_of_left_ne_nil isNumber.1.1 _
      rw [ofChars_bytes some, readByteCount_eq_ok_iff.mpr ⟨count, isSize⟩]
      rfl

theorem BaseType.ofChars_eq_longNumber_iff :
    BaseType.ofChars characters = .error .longNumber ↔ HasLongSize characters := by
  constructor
  · intro read
    unfold ofChars at read
    iterate 5 (split at read; · cases read)
    split at read
    · rw [map_eq_error_iff, readWidth_eq_longNumber_iff, readSize_eq_longNumber_iff] at read
      obtain ⟨digits, gap, rfl, isLong, isGap⟩ := read
      exact ⟨_, .head _, digits, gap, rfl, isLong, isGap⟩
    · rw [map_eq_error_iff, readWidth_eq_longNumber_iff, readSize_eq_longNumber_iff] at read
      obtain ⟨digits, gap, rfl, isLong, isGap⟩ := read
      exact ⟨_, .tail _ (.head _), digits, gap, rfl, isLong, isGap⟩
    · rw [map_eq_error_iff, readByteCount_eq_longNumber_iff, readSize_eq_longNumber_iff] at read
      obtain ⟨digits, gap, rfl, isLong, isGap⟩ := read
      exact ⟨_, .tail _ (.tail _ (.head _)), digits, gap, rfl, isLong, isGap⟩
    · cases read
  · rintro ⟨word, isWord, digits, gap, rfl, isLong, isGap⟩
    have unread : readSize (digits ++ gap) = .error .longNumber :=
      readSize_eq_longNumber_iff.mpr ⟨digits, gap, rfl, isLong, isGap⟩
    simp only [numberedWords, List.mem_cons, List.not_mem_nil, or_false] at isWord
    rcases isWord with rfl | rfl | rfl
    · show (readWidth (digits ++ gap)).map unsigned = _
      rw [readWidth_eq_longNumber_iff.mpr unread]
      rfl
    · show (readWidth (digits ++ gap)).map signed = _
      rw [readWidth_eq_longNumber_iff.mpr unread]
      rfl
    · have some : digits ++ gap ≠ [] := List.append_ne_nil_of_left_ne_nil isLong.1.1 _
      show BaseType.ofChars ('b' :: 'y' :: 't' :: 'e' :: 's' :: (digits ++ gap)) = _
      rw [ofChars_bytes some, readByteCount_eq_longNumber_iff.mpr unread]
      rfl

/-! ### Reading suffixes -/

theorem readDimension_eq_ok_iff {dimension : Option Nat}
    (areDigits : ∀ digit ∈ digits, isDecimalDigit digit = true) :
    readDimension digits = .ok dimension ↔ lenient.SpellsLength digits dimension := by
  cases digits with
  | nil =>
    constructor
    · rintro ⟨⟩
      exact .any
    · intro spells
      cases spells with
      | any => rfl
      | given isNumber _ => exact absurd rfl isNumber.1.1
  | cons digit digits =>
    have isNumber : ∀ {number}, readNumber (digit :: digits) = .ok number ↔
        lenient.WritesNumber (digit :: digits) number :=
      readNumber_eq_ok_iff ⟨List.cons_ne_nil _ _, areDigits⟩
    constructor
    · intro read
      obtain ⟨number, reads, read⟩ := exists_of_bind_eq_ok read
      split at read
      · cases read
      · rename_i notZero
        cases read
        exact .given (isNumber.mp reads) (Nat.one_le_iff_ne_zero.mpr notZero)
    · intro spells
      cases spells with
      | given number positive =>
        rw [readDimension, List.isEmpty_cons, if_neg Bool.false_ne_true, isNumber.mpr number]
        exact if_neg (Nat.one_le_iff_ne_zero.mp positive)

theorem readDimension_eq_longNumber_iff
    (areDigits : ∀ digit ∈ digits, isDecimalDigit digit = true) :
    readDimension digits = .error .longNumber ↔ IsLong digits := by
  cases digits with
  | nil => exact iff_of_false nofun fun isLong => isLong.1.1 rfl
  | cons digit digits =>
    rw [← readNumber_eq_longNumber_iff ⟨List.cons_ne_nil _ _, areDigits⟩]
    refine bind_eq_error_iff_of_ne fun number => ?_
    split <;> simp

/-- Digits are collected from the right to the left. -/
theorem splitSuffixes_digits {digits : List Char} (dimensions : List (Option Nat))
    (read rest : List Char) (areDigits : ∀ digit ∈ digits, isDecimalDigit digit = true) :
    splitSuffixes dimensions (some read) (digits.reverse ++ rest) =
      splitSuffixes dimensions (some (digits ++ read)) rest := by
  induction digits using List.reverseRecOn generalizing read with
  | nil => rfl
  | append_singleton digits last inductionHypothesis =>
    rw [List.forall_mem_append, List.forall_mem_singleton] at areDigits
    rw [List.reverse_append, List.append_assoc, List.append_assoc]
    show splitSuffixes dimensions (some read) (last :: (digits.reverse ++ rest)) = _
    rw [splitSuffixes, if_pos areDigits.2]
    exact inductionHypothesis _ areDigits.1

/-- A suffix comes off the end of a tag, with the gap behind it. -/
theorem splitSuffixes_suffix (isGap : lenient.IsGap gap)
    (areDigits : ∀ digit ∈ digits, isDecimalDigit digit = true)
    (dimensions : List (Option Nat)) (backwards : List Char) :
    splitSuffixes dimensions none (('[' :: (digits ++ ']' :: gap)).reverse ++ backwards) =
      (readDimension digits >>= fun dimension =>
        splitSuffixes (dimension :: dimensions) none backwards) := by
  have bracket : isDecimalDigit '[' = false := by decide +kernel
  calc splitSuffixes dimensions none (('[' :: (digits ++ ']' :: gap)).reverse ++ backwards)
      = splitSuffixes dimensions none
          (gap.reverse ++ ']' :: (digits.reverse ++ '[' :: backwards)) := by simp
    _ = splitSuffixes dimensions (some []) (digits.reverse ++ '[' :: backwards) := by
        rcases isGap with rfl | rfl <;> simp [splitSuffixes]
    _ = splitSuffixes dimensions (some digits) ('[' :: backwards) := by
        rw [splitSuffixes_digits _ _ _ areDigits, List.append_nil]
    _ = _ := by
        rw [splitSuffixes, bracket, if_neg Bool.false_ne_true, if_pos rfl]
        cases readDimension digits <;> rfl

theorem areDigits_of_spellsLength {dimension : Option Nat}
    (spells : lenient.SpellsLength digits dimension) :
    ∀ digit ∈ digits, isDecimalDigit digit = true := by
  cases spells with
  | any => exact fun _ isIn => nomatch isIn
  | given isNumber _ => exact isNumber.1.2

/-- Suffixes that are spelled come off the end of a tag. -/
theorem splitSuffixes_spelled {suffixes : List Char} {dimensions : List (Option Nat)}
    (spells : lenient.SpellsSuffixes suffixes dimensions) (before : List (Option Nat))
    (backwards : List Char) :
    splitSuffixes before none (suffixes.reverse ++ backwards) =
      splitSuffixes (dimensions ++ before) none backwards := by
  induction spells generalizing backwards with
  | nil => rfl
  | @cons digits gap rest dimension dimensions length isGap _ inductionHypothesis =>
    have areDigits := areDigits_of_spellsLength length
    have parts : '[' :: (digits ++ ']' :: (gap ++ rest)) =
        ('[' :: (digits ++ ']' :: gap)) ++ rest := by simp
    rw [parts, List.reverse_append, List.append_assoc, inductionHypothesis,
      splitSuffixes_suffix isGap areDigits, (readDimension_eq_ok_iff areDigits).mpr length]
    rfl

/-- Characters without a closing bracket are left. -/
theorem splitSuffixes_noBracket (dimensions : List (Option Nat))
    (noBracket : ∀ character ∈ characters, character ≠ ']') :
    splitSuffixes dimensions none characters.reverse = .ok (characters, dimensions) := by
  induction characters using List.reverseRecOn with
  | nil => rfl
  | append_singleton characters last _ =>
    have notLast : characters.getLast? ≠ some ']' := fun isLast =>
      noBracket ']' (List.mem_append_left _ (List.mem_of_getLast? isLast)) rfl
    simp [splitSuffixes, noBracket last (by simp), notLast]

/-- What the suffixes of a tag may be split into: something in front of suffixes that are spelled,
or a suffix with too long a number. -/
def SplitsInto (characters : List Char) :
    Except TagFault (List Char × List (Option Nat)) → Prop
  | .ok (front, dimensions) =>
    ∃ suffixes, characters = front ++ suffixes ∧ lenient.SpellsSuffixes suffixes dimensions
  | .error .longNumber => HasLongLength characters
  | .error .unsupported => True

/-- The characters of a suffix that is being read, from its digits on. -/
def openSuffix : Option (List Char) → List Char
  | none => []
  | some digits => digits ++ [']']

/-- Behind what is still to be read stand the characters of a suffix that has been begun, a gap and
the suffixes that have been read. -/
theorem splitSuffixes_splits {dimensions : List (Option Nat)} {inside? : Option (List Char)}
    {backwards gap suffixes : List Char} (isGap : lenient.IsGap gap)
    (spells : lenient.SpellsSuffixes suffixes dimensions)
    (atBracket : inside? = none → gap ≠ [] → backwards.head? = some ']')
    (areDigits : ∀ digits, inside? = some digits → ∀ digit ∈ digits, isDecimalDigit digit = true) :
    SplitsInto (backwards.reverse ++ (openSuffix inside? ++ (gap ++ suffixes)))
      (splitSuffixes dimensions inside? backwards) := by
  fun_induction splitSuffixes dimensions inside? backwards generalizing gap suffixes with
  | case1 dimensions inside? isNone =>
    obtain rfl := Option.isNone_iff_eq_none.mp isNone
    have noGap : gap = [] := Classical.byContradiction fun some => by simpa using atBracket rfl some
    exact ⟨suffixes, by simp [openSuffix, noGap], spells⟩
  | case2 => trivial
  | case3 dimensions rest inductionHypothesis =>
    have splits := inductionHypothesis isGap spells (by simp) (by simp)
    simpa [openSuffix] using splits
  | case4 dimensions character rest _ isBreak inductionHypothesis =>
    have noGap : gap = [] := Classical.byContradiction fun some => by
      have isBracket := atBracket rfl some
      rw [isBreak.1] at isBracket
      cases isBracket
    -- The line break is the gap in front of the suffixes, behind the one that comes next.
    have splits := inductionHypothesis (.inr rfl) spells (fun _ _ => isBreak.2) (by simp)
    simpa [openSuffix, noGap, isBreak.1] using splits
  | case5 dimensions character rest notBracket _ =>
    have noGap : gap = [] := Classical.byContradiction fun some =>
      notBracket (Option.some.inj (atBracket rfl some))
    exact ⟨suffixes, by simp [openSuffix, noGap], spells⟩
  | case6 dimensions character rest digits isDigit inductionHypothesis =>
    have splits := inductionHypothesis isGap spells (by simp) fun _ same =>
      Option.some.inj same ▸ List.forall_mem_cons.mpr ⟨isDigit, areDigits digits rfl⟩
    simpa [openSuffix] using splits
  | case7 dimensions rest digits fault isFault _ =>
    cases fault with
    | unsupported => trivial
    | longNumber =>
      have isLong := (readDimension_eq_longNumber_iff (areDigits digits rfl)).mp isFault
      exact ⟨rest.reverse, digits, gap, suffixes, dimensions, by simp [openSuffix], isLong, isGap,
        spells⟩
  | case8 dimensions rest digits dimension isDimension _ inductionHypothesis =>
    have length := (readDimension_eq_ok_iff (areDigits digits rfl)).mp isDimension
    have splits := inductionHypothesis (.inl rfl) (.cons length isGap spells) (by simp) (by simp)
    simpa [openSuffix] using splits
  | case9 => trivial

/-- Whatever a tag consists of, it is taken apart at the place where its suffixes begin. -/
theorem splitSuffixes_all (characters : List Char) :
    SplitsInto characters (splitSuffixes [] none characters.reverse) := by
  have splits : SplitsInto (characters.reverse.reverse ++ (openSuffix none ++ ([] ++ [])))
      (splitSuffixes [] none characters.reverse) :=
    splitSuffixes_splits (.inl rfl) .nil (fun _ some => absurd rfl some) nofun
  simpa [openSuffix] using splits

theorem splitSuffixes_parts {base suffixes : List Char} {dimensions : List (Option Nat)}
    (noBracket : ∀ character ∈ base, character ≠ ']')
    (spells : lenient.SpellsSuffixes suffixes dimensions) :
    splitSuffixes [] none (base ++ suffixes).reverse = .ok (base, dimensions) := by
  rw [List.reverse_append, splitSuffixes_spelled spells, List.append_nil,
    splitSuffixes_noBracket _ noBracket]

end

/-! ### Reading tags -/

theorem lenient_noBracket : lenient.KeepsTo (· ≠ ']') :=
  lenient_keepsTo (List.all_iff_forall_prop.mp (by decide))
    (fun _ isDigit same => absurd (same ▸ isDigit) (by decide +kernel)) (by decide)

theorem Spelling.HasLongSize.noBracket {base : List Char} (isLong : HasLongSize base) :
    ∀ character ∈ base, character ≠ ']' := by
  obtain ⟨word, isWord, digits, gap, rfl, isLong, isGap⟩ := isLong
  have letters : ∀ word ∈ numberedWords, ']' ∉ word := by decide
  have noDigit : isDecimalDigit ']' = false := by decide +kernel
  simp only [List.forall_mem_append]
  refine ⟨fun _ isIn same => letters word isWord (same ▸ isIn), fun digit isIn same => ?_,
    lenient_noBracket.gaps gap isGap⟩
  exact absurd (isLong.1.2 digit isIn) (same ▸ noDigit ▸ Bool.false_ne_true)

/-- A tag is read from exactly those texts that spell it, with any digits and with single line
breaks. -/
theorem TypeTag.parse_eq_ok_iff {text : String} {tag : TypeTag} :
    TypeTag.parse text = .ok tag ↔ lenient.Spells (stripChars text.toList) tag := by
  constructor
  · intro read
    obtain ⟨⟨front, dimensions⟩, isSplit, read⟩ := exists_of_bind_eq_ok read
    obtain ⟨base, isBase, read⟩ := exists_of_bind_eq_ok read
    cases read
    have splits := splitSuffixes_all (stripChars text.toList)
    rw [isSplit] at splits
    obtain ⟨suffixes, split, areSuffixes⟩ := splits
    exact ⟨front, suffixes, split, BaseType.ofChars_eq_ok_iff.mp isBase, areSuffixes⟩
  · rintro ⟨base, suffixes, split, isBase, areSuffixes⟩
    rw [TypeTag.parse, split, splitSuffixes_parts (lenient_noBracket.base isBase) areSuffixes]
    show (BaseType.ofChars base >>= fun base => Except.ok (⟨base, tag.dimensions⟩ : TypeTag)) = _
    rw [BaseType.ofChars_eq_ok_iff.mpr isBase]
    rfl

/-- Too long a number is reported exactly where it is the first thing that is met, from the end of
the text on. -/
theorem TypeTag.parse_eq_longNumber_iff {text : String} :
    TypeTag.parse text = .error .longNumber ↔ HasLongNumber (stripChars text.toList) := by
  constructor
  · intro read
    have splits := splitSuffixes_all (stripChars text.toList)
    unfold TypeTag.parse at read
    cases isSplit : splitSuffixes [] none (stripChars text.toList).reverse with
    | error fault =>
      rw [isSplit] at read splits
      cases read
      exact .inl splits
    | ok parts =>
      rw [isSplit] at read splits
      obtain ⟨suffixes, split, areSuffixes⟩ := splits
      replace read : (BaseType.ofChars parts.1 >>= fun base =>
        Except.ok (⟨base, parts.2⟩ : TypeTag)) = .error .longNumber := read
      rw [bind_eq_error_iff_of_ne fun _ => by simp] at read
      exact .inr ⟨parts.1, suffixes, parts.2, split,
        BaseType.ofChars_eq_longNumber_iff.mp read, areSuffixes⟩
  · rintro (⟨front, digits, gap, suffixes, dimensions, split, isLong, isGap, areSuffixes⟩ |
      ⟨base, suffixes, dimensions, split, isLong, areSuffixes⟩)
    · have parts : front ++ '[' :: (digits ++ ']' :: (gap ++ suffixes)) =
          front ++ (('[' :: (digits ++ ']' :: gap)) ++ suffixes) := by simp
      rw [TypeTag.parse, split, parts, List.reverse_append, List.reverse_append, List.append_assoc,
        splitSuffixes_spelled areSuffixes, splitSuffixes_suffix isGap isLong.1.2,
        (readDimension_eq_longNumber_iff isLong.1.2).mpr isLong]
      rfl
    · rw [TypeTag.parse, split, splitSuffixes_parts isLong.noBracket areSuffixes]
      show (BaseType.ofChars base >>= fun base => Except.ok (⟨base, dimensions⟩ : TypeTag)) = _
      rw [BaseType.ofChars_eq_longNumber_iff.mpr isLong]
      rfl

end ContractClient
