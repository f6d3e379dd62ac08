/-
This file proves that tags normalise. The full text of a well-formed tag reads back as the tag
(`TypeTag.parse_text`), every tag that is read is well formed (`TypeTag.wellFormed_of_parse`),
and so a tag that has been read can be written and read again without a change. The bound on the
digits of a number is the only exception: a tag with a longer number has no text at all.

The texts that spell a tag plainly, with numbers in ASCII and nothing between the parts, are the
closed set of tags; each is read unless it has too long a number (`Spelling.Spells.lenient_or_long`).
What is read beside them are the texts that take the liberties of digits, zeros and line breaks
(`requireTag_readsClosedSet_iff`).
-/

import Mathlib.Data.Nat.Digits.Lemmas
import ContractClient.Decimal.Binary64
import ContractClient.Proofs.Abi.TagSpelling
import ContractClient.Proofs.Abi.TypeTag
import ContractClient.Proofs.Registry.Typing

namespace ContractClient

open Spelling

/-! ### Well-formed tags -/

/-- Integers have a width from 8 to 256 that is a multiple of 8, and fixed bytes have a size from
1 to 32. -/
def BaseType.WellFormed : BaseType → Prop
  | fixedBytes size => 1 ≤ size ∧ size ≤ 32
  | unsigned bits => 8 ≤ bits ∧ bits ≤ 256 ∧ bits % 8 = 0
  | signed bits => 8 ≤ bits ∧ bits ≤ 256 ∧ bits % 8 = 0
  | _ => True

instance (base : BaseType) : Decidable base.WellFormed :=
  match base with
  | .fixedBytes size => inferInstanceAs (Decidable (1 ≤ size ∧ size ≤ 32))
  | .unsigned bits => inferInstanceAs (Decidable (8 ≤ bits ∧ bits ≤ 256 ∧ bits % 8 = 0))
  | .signed bits => inferInstanceAs (Decidable (8 ≤ bits ∧ bits ≤ 256 ∧ bits % 8 = 0))
  | .bool | .bytes | .string | .address | .tuple => inferInstanceAs (Decidable True)

/-- The base type is well formed, and no array has the length zero. -/
structure TypeTag.WellFormed (tag : TypeTag) : Prop where
  base : tag.base.WellFormed
  lengths : ∀ length, some length ∈ tag.dimensions → 1 ≤ length

/-- No number of the tag has more digits than a number may have. -/
def TypeTag.IsShort (tag : TypeTag) : Prop :=
  ∀ number ∈ tag.numbers, isShortNumber number = true

instance (tag : TypeTag) : Decidable tag.IsShort :=
  inferInstanceAs (Decidable (∀ number ∈ tag.numbers, isShortNumber number = true))

/-! ### Numbers and their digits -/

theorem length_toDigits_le_iff {number count : Nat} (positive : 0 < count) :
    (Nat.toDigits 10 number).length ≤ count ↔ number < powerOfTen count :=
  Nat.length_toDigits_le_iff (by decide) positive

theorem powerOfTen_le {count more : Nat} (atMost : count ≤ more) :
    powerOfTen count ≤ powerOfTen more :=
  Nat.pow_le_pow_right (by decide) atMost

theorem isShortNumber_iff {number : Nat} :
    isShortNumber number = true ↔ number < powerOfTen digitLimit := by
  rw [isShortNumber, decide_eq_true_eq]
  exact length_toDigits_le_iff (by decide)

theorem isShortNumber_of_le {number bound : Nat} (below : number ≤ bound)
    (short : (Nat.toDigits 10 bound).length ≤ digitLimit) : isShortNumber number = true := by
  rw [isShortNumber_iff]
  exact Nat.lt_of_le_of_lt below (isShortNumber_iff.mp (decide_eq_true short))

/-- The base type of a well-formed tag has numbers of three digits at most. -/
theorem BaseType.WellFormed.numbers_short {base : BaseType} (wellFormed : base.WellFormed) :
    ∀ number ∈ base.numbers, isShortNumber number = true := by
  intro number isNumber
  have small : number ≤ 256 := by
    cases base with
    | fixedBytes size =>
      rw [List.mem_singleton.mp isNumber]
      exact Nat.le_trans wellFormed.2 (by decide)
    | unsigned bits => exact List.mem_singleton.mp isNumber ▸ wellFormed.2.1
    | signed bits => exact List.mem_singleton.mp isNumber ▸ wellFormed.2.1
    | _ => exact absurd isNumber List.not_mem_nil
  exact isShortNumber_of_le small (by decide)

theorem TypeTag.isShort_iff {tag : TypeTag} (wellFormed : tag.base.WellFormed) :
    tag.IsShort ↔ ∀ length, some length ∈ tag.dimensions → isShortNumber length = true := by
  simp only [IsShort, numbers, List.forall_mem_append, List.mem_filterMap, id_eq]
  constructor
  · intro short length isLength
    exact short.2 length ⟨some length, isLength, rfl⟩
  · intro short
    refine ⟨wellFormed.numbers_short, ?_⟩
    rintro length ⟨dimension, isDimension, rfl⟩
    exact short length isDimension

/-- The digits of a number write the number. -/
theorem decimalNumber_toDigits (number : Nat) :
    decimalNumber (Nat.toDigits 10 number) = number := by
  calc decimalNumber (Nat.toDigits 10 number)
      = Nat.ofDigitChars 10 (Nat.toDigits 10 number) 0 := by
        refine List.foldl_ext _ _ _ fun sofar digit isIn => ?_
        rw [digitValue?_of_isDigit (isDigit_of_mem_toDigits isIn)]
        rfl
    _ = number := Nat.ofDigitChars_ten_toDigits

theorem digitValue_lt (character : Char) : (digitValue? character).getD 0 < 10 := by
  rw [digitValue?]
  cases found : digitZeros.find? fun start =>
      start ≤ character.toNat && character.toNat < start + 10 with
  | none => exact Nat.zero_lt_succ 9
  | some start =>
    have inBlock := List.find?_some found
    rw [Bool.and_eq_true, decide_eq_true_eq, decide_eq_true_eq] at inBlock
    show character.toNat - start < 10
    omega

/-- Digits write a number below the power of ten that their count gives. -/
theorem decimalNumber_lt (digits : List Char) :
    decimalNumber digits < powerOfTen digits.length := by
  induction digits using List.reverseRecOn with
  | nil => decide
  | append_singleton digits last inductionHypothesis =>
    have step : decimalNumber (digits ++ [last]) =
        10 * decimalNumber digits + (digitValue? last).getD 0 := by
      rw [decimalNumber, List.foldl_append]
      rfl
    have power : powerOfTen (digits ++ [last]).length = powerOfTen digits.length * 10 := by
      rw [List.length_append]
      rfl
    have digit := digitValue_lt last
    omega

/-- A number that is read is short. -/
theorem isShortNumber_of_writesNumber {digits : List Char} {number : Nat}
    (isNumber : lenient.WritesNumber digits number) : isShortNumber number = true := by
  rw [isShortNumber_iff, ← isNumber.2.2]
  calc decimalNumber digits < powerOfTen digits.length := decimalNumber_lt digits
    _ ≤ powerOfTen digitLimit := powerOfTen_le isNumber.2.1

/-! ### Tags that are spelled plainly -/

section

variable {characters : List Char}

theorem plain_keepsTo {holds : Char → Prop} (letters : ∀ character ∈ wordLetters, holds character)
    (digits : ∀ character, character.isDigit = true → holds character) :
    Spelling.plain.KeepsTo holds where
  letters := letters
  numbers _ _ isNumber character isIn := digits character (isDigit_of_mem_toDigits (isNumber ▸ isIn))
  gaps _ isGap _ isIn := nomatch isGap ▸ isIn

theorem areDigits_toDigits (number : Nat) : AreDigits (Nat.toDigits 10 number) :=
  ⟨Nat.toDigits_ne_nil, fun _ isIn => isDecimalDigit_of_isDigit (isDigit_of_mem_toDigits isIn)⟩

/-- A number that is written plainly is read if it is short, and is too long otherwise. -/
theorem writesNumber_or_isLong (number : Nat) :
    lenient.WritesNumber (Nat.toDigits 10 number) number ∨
      IsLong (Nat.toDigits 10 number) ∧ isShortNumber number = false := by
  by_cases long : digitLimit < (Nat.toDigits 10 number).length
  · exact .inr ⟨⟨areDigits_toDigits number, long⟩, decide_eq_false (Nat.not_le.mpr long)⟩
  · exact .inl ⟨areDigits_toDigits number, Nat.not_lt.mp long, decimalNumber_toDigits number⟩

theorem Spelling.SpellsCount.lenient {size : Option Nat}
    (spells : Spelling.plain.SpellsCount characters size)
    (small : ∀ number, size = some number → number ≤ 256) :
    Spelling.lenient.SpellsCount characters size := by
  cases spells with
  | missing isGap => exact .missing (.inl isGap)
  | @given digits gap number isNumber isGap =>
    obtain rfl : digits = Nat.toDigits 10 number := isNumber
    have short := isShortNumber_of_le (small number rfl) (by decide)
    refine .given ⟨areDigits_toDigits number, of_decide_eq_true short, ?_⟩ (.inl isGap)
    exact decimalNumber_toDigits number

/-- A base type that is spelled plainly is read, since its number is small. -/
theorem Spelling.SpellsBase.lenient {base : BaseType}
    (spells : Spelling.plain.SpellsBase characters base) :
    Spelling.lenient.SpellsBase characters base := by
  cases spells with
  | word isWord isText => exact .word isWord isText
  | unsigned count isBits isWidth =>
    refine .unsigned (count.lenient fun number same => ?_) isBits isWidth
    rw [same, Option.getD_some] at isBits
    exact isBits ▸ isWidth.2.1
  | signed count isBits isWidth =>
    refine .signed (count.lenient fun number same => ?_) isBits isWidth
    rw [same, Option.getD_some] at isBits
    exact isBits ▸ isWidth.2.1
  | fixedBytes count isSize =>
    refine .fixedBytes (count.lenient fun number same => ?_) isSize
    obtain rfl := Option.some.inj same
    exact Nat.le_trans isSize.2 (by decide)

/-- Suffixes that are spelled plainly are read, or one of them has too long a number and all behind
it are read. -/
theorem Spelling.SpellsSuffixes.lenient_or_long {dimensions : List (Option Nat)}
    (spells : Spelling.plain.SpellsSuffixes characters dimensions) :
    Spelling.lenient.SpellsSuffixes characters dimensions ∨
      HasLongLength characters ∧ ∃ length, some length ∈ dimensions ∧
        isShortNumber length = false := by
  induction spells with
  | nil => exact .inl .nil
  | @cons digits gap rest dimension dimensions length isGap _ inductionHypothesis =>
    rcases inductionHypothesis with others |
      ⟨⟨front, longDigits, longGap, suffixes, behind, split, isLong⟩, number, isIn, long⟩
    · cases length with
      | any => exact .inl (.cons .any (.inl isGap) others)
      | @given _ number isNumber positive =>
        obtain rfl : digits = Nat.toDigits 10 number := isNumber
        rcases writesNumber_or_isLong number with isRead | ⟨isLong, long⟩
        · exact .inl (.cons (.given isRead positive) (.inl isGap) others)
        · exact .inr ⟨⟨[], _, gap, rest, dimensions, rfl, isLong, .inl isGap, others⟩, number,
            List.mem_cons_self, long⟩
    · refine .inr ⟨⟨'[' :: (digits ++ ']' :: (gap ++ front)), longDigits, longGap, suffixes,
        behind, ?_, isLong⟩, number, List.mem_cons_of_mem _ isIn, long⟩
      simp [split]

theorem Spelling.Spells.lenient_or_long {tag : TypeTag}
    (spells : Spelling.plain.Spells characters tag) :
    Spelling.lenient.Spells characters tag ∨
      HasLongNumber characters ∧ ∃ length, some length ∈ tag.dimensions ∧
        isShortNumber length = false := by
  obtain ⟨base, suffixes, rfl, isBase, areSuffixes⟩ := spells
  rcases areSuffixes.lenient_or_long with
    areRead | ⟨⟨front, digits, gap, rest, behind, rfl, isLong⟩, long⟩
  · exact .inl ⟨base, suffixes, rfl, isBase.lenient, areRead⟩
  · exact .inr ⟨.inl ⟨base ++ front, digits, gap, rest, behind, by simp, isLong⟩, long⟩

end

/-! ### The full text of a tag -/

theorem TypeTag.toList_text (tag : TypeTag) :
    tag.text.toList =
      tag.base.text.toList ++
        tag.dimensions.flatMap fun suffix => (dimensionText suffix).toList := by
  rw [text, String.toList_append, String.toList_join, List.flatMap_map]

/-- The full text of a well-formed base type spells it plainly. -/
theorem BaseType.spells_text {base : BaseType} (wellFormed : base.WellFormed) :
    Spelling.plain.SpellsBase base.text.toList base := by
  have number : ∀ number, Spelling.plain.SpellsCount (Nat.toDigits 10 number) (some number) :=
    fun number => List.append_nil (Nat.toDigits 10 number) ▸ .given rfl rfl
  cases base with
  | fixedBytes size =>
    have characters : (fixedBytes size).text.toList =
        'b' :: 'y' :: 't' :: 'e' :: 's' :: Nat.toDigits 10 size := by simp [text]
    exact characters ▸ .fixedBytes (number size) wellFormed
  | unsigned bits =>
    have characters : (unsigned bits).text.toList =
        'u' :: 'i' :: 'n' :: 't' :: Nat.toDigits 10 bits := by simp [text]
    exact characters ▸ .unsigned (number bits) rfl wellFormed
  | signed bits =>
    have characters : (signed bits).text.toList =
        'i' :: 'n' :: 't' :: Nat.toDigits 10 bits := by simp [text]
    exact characters ▸ .signed (number bits) rfl wellFormed
  | _ => exact .word (by decide) rfl

/-- The texts of dimensions spell them plainly. -/
theorem spells_dimensions {dimensions : List (Option Nat)}
    (positive : ∀ length, some length ∈ dimensions → 1 ≤ length) :
    Spelling.plain.SpellsSuffixes
      (dimensions.flatMap fun suffix => (dimensionText suffix).toList) dimensions := by
  induction dimensions with
  | nil => exact .nil
  | cons dimension rest inductionHypothesis =>
    have others := inductionHypothesis fun length isIn =>
      positive length (List.mem_cons_of_mem _ isIn)
    cases dimension with
    | none => exact .cons .any rfl others
    | some length =>
      have suffix : Spelling.plain.SpellsSuffixes _ (some length :: rest) :=
        .cons (.given rfl (positive length (by simp))) rfl others
      simpa [dimensionText] using suffix

/-- The full text of a well-formed tag spells it plainly. -/
theorem TypeTag.spells_text {tag : TypeTag} (wellFormed : tag.WellFormed) :
    Spelling.plain.Spells tag.text.toList tag :=
  ⟨_, _, tag.toList_text, BaseType.spells_text wellFormed.base,
    spells_dimensions wellFormed.lengths⟩

/-- A tag that is spelled plainly has no blanks in it. -/
theorem Spelling.Spells.solid {characters : List Char} {tag : TypeTag}
    (spells : Spelling.plain.Spells characters tag) :
    ∀ character ∈ characters, isBlank character = false :=
  (plain_keepsTo (List.all_iff_forall_prop.mp (by decide)) fun _ => isBlank_of_isDigit).tag
    (by decide) (by decide) spells

/-- What is read of a tag is well formed, and its numbers are short. -/
theorem Spelling.Spells.wellFormed {characters : List Char} {tag : TypeTag}
    (spells : Spelling.lenient.Spells characters tag) : tag.WellFormed ∧ tag.IsShort := by
  obtain ⟨base, suffixes, -, isBase, areSuffixes⟩ := spells
  have wellFormed : tag.base.WellFormed := by
    generalize tag.base = named at isBase ⊢
    cases isBase with
    | word isWord _ =>
      have words : ∀ base ∈ wordTypes, base.WellFormed := by decide
      exact words _ isWord
    | unsigned _ _ isWidth => exact isWidth
    | signed _ _ isWidth => exact isWidth
    | fixedBytes _ isSize => exact isSize
  have lengths : ∀ length, some length ∈ tag.dimensions →
      1 ≤ length ∧ isShortNumber length = true := by
    generalize tag.dimensions = dimensions at areSuffixes
    induction areSuffixes with
    | nil => exact nofun
    | cons isLength _ _ inductionHypothesis =>
      intro length isIn
      rcases List.mem_cons.mp isIn with rfl | isIn
      · cases isLength with
        | given isNumber positive => exact ⟨positive, isShortNumber_of_writesNumber isNumber⟩
      · exact inductionHypothesis length isIn
  exact ⟨⟨wellFormed, fun length isIn => (lengths length isIn).1⟩,
    (TypeTag.isShort_iff wellFormed).mpr fun length isIn => (lengths length isIn).2⟩

/-! ### Tags that are written and read -/

/-- The full text of a well-formed tag is read as the tag, unless a number is too long. -/
theorem TypeTag.parse_text {tag : TypeTag} (wellFormed : tag.WellFormed) :
    TypeTag.parse tag.text = if tag.IsShort then .ok tag else .error .longNumber := by
  have spells := spells_text wellFormed
  have stripped := stripChars_of_solid spells.solid
  rcases spells.lenient_or_long with isRead | ⟨isLong, length, isIn, long⟩
  · rw [if_pos isRead.wellFormed.2, parse_eq_ok_iff, stripped]
    exact isRead
  · have notShort : ¬tag.IsShort := fun short =>
      absurd ((isShort_iff wellFormed.base).mp short length isIn) (by simp [long])
    rw [if_neg notShort, parse_eq_longNumber_iff, stripped]
    exact isLong

/-- A tag that is read is well formed, and its numbers are short. -/
theorem TypeTag.wellFormed_of_parse {text : String} {tag : TypeTag}
    (read : TypeTag.parse text = .ok tag) : tag.WellFormed ∧ tag.IsShort :=
  (parse_eq_ok_iff.mp read).wellFormed

theorem TypeTag.write_eq (tag : TypeTag) :
    tag.write = if tag.IsShort then .ok tag.text else .error .longNumber := by
  simp only [write, List.all_eq_true]
  rfl

/-- A well-formed tag that is written and read again is the same tag, unless it has a number with
too many digits: such a tag has no text, and what would be its text is not read. -/
theorem TypeTag.write_parse {tag : TypeTag} (wellFormed : tag.WellFormed) :
    (tag.write >>= TypeTag.parse) = if tag.IsShort then .ok tag else .error .longNumber := by
  rw [write_eq]
  by_cases short : tag.IsShort
  · rw [if_pos short, if_pos short]
    exact (parse_text wellFormed).trans (if_pos short)
  · rw [if_neg short, if_neg short]
    rfl

/-- Tags normalise. The text of a well-formed tag is read as that tag exactly if no number in it
has too many digits. Whatever text a tag is read from, the tag is well formed without such a number,
and so it has a text of its own, which is read as the same tag and written again as the same
text. -/
theorem TypeTag.normalises (tag : TypeTag) :
    (tag.WellFormed →
      TypeTag.parse tag.text = (if tag.IsShort then .ok tag else .error .longNumber) ∧
      ((tag.write >>= TypeTag.parse) = .ok tag ↔ tag.IsShort)) ∧
    ∀ text, TypeTag.parse text = .ok tag →
      (tag.WellFormed ∧ tag.IsShort) ∧
      ∃ written, tag.write = .ok written ∧ TypeTag.parse written = .ok tag ∧
        (TypeTag.parse written >>= TypeTag.write) = .ok written := by
  constructor
  · intro wellFormed
    refine ⟨parse_text wellFormed, ?_⟩
    rw [write_parse wellFormed]
    by_cases short : tag.IsShort <;> simp [short]
  · intro text read
    obtain ⟨wellFormed, short⟩ := wellFormed_of_parse read
    have written : tag.write = .ok tag.text := by rw [write_eq, if_pos short]
    have again : TypeTag.parse tag.text = .ok tag := by rw [parse_text wellFormed, if_pos short]
    refine ⟨⟨wellFormed, short⟩, tag.text, written, again, ?_⟩
    rw [again]
    exact written

theorem byteTable_normalises :
    let tag : TypeTag := ⟨.fixedBytes 32, [some 2, none]⟩
    tag.WellFormed ∧ (tag.write >>= TypeTag.parse) = .ok tag ∧
      TypeTag.parse " bytes032[02][]\n" = .ok tag ∧ ∃ written, tag.write = .ok written ∧
        TypeTag.parse written = .ok tag := by
  let tag : TypeTag := ⟨.fixedBytes 32, [some 2, none]⟩
  have wellFormed : tag.WellFormed := by
    refine ⟨by decide, fun length isIn => ?_⟩
    simp only [tag, List.mem_cons, Option.some.injEq, reduceCtorEq, List.not_mem_nil, or_false]
      at isIn
    omega
  have read : TypeTag.parse " bytes032[02][]\n" = .ok tag := by decide +kernel
  obtain ⟨normal, stays⟩ := TypeTag.normalises tag
  obtain ⟨_, written, isWritten, again, _⟩ := stays _ read
  exact ⟨wellFormed, (normal wellFormed).2.mpr (by decide +kernel), read, written, isWritten, again⟩

/-- An array whose length is the first number with too many digits. -/
def longArray : TypeTag :=
  ⟨.unsigned 8, [some (powerOfTen digitLimit)]⟩

/-- The tag is well formed, but it is neither written nor read. -/
theorem longArray_not_normalised :
    longArray.WellFormed ∧ TypeTag.parse longArray.text = .error .longNumber ∧
      (longArray.write >>= TypeTag.parse) = .error .longNumber := by
  have positive : ∀ count, 1 ≤ powerOfTen count := fun count => Nat.pow_pos (by decide)
  have wellFormed : longArray.WellFormed := by
    refine ⟨by decide, fun length isIn => ?_⟩
    rw [Option.some.inj (List.mem_singleton.mp isIn)]
    exact positive digitLimit
  have long : ¬ longArray.IsShort := by
    intro short
    have isShort := (TypeTag.isShort_iff wellFormed.base).mp short _ (List.mem_singleton.mpr rfl)
    exact Nat.lt_irrefl _ (isShortNumber_iff.mp isShort)
  refine ⟨wellFormed, ?_, ?_⟩
  · rw [TypeTag.parse_text wellFormed, if_neg long]
  · rw [TypeTag.write_parse wellFormed, if_neg long]

/-! ### The closed set of tags -/

/-- The text is read as the closed set demands: it gives the tag that it spells plainly, and if it
spells none, it is refused as an unsupported type, which is reported as it was written. -/
structure ReadsClosedSet (text : String) : Prop where
  accepts : ∀ tag, Spelling.plain.Spells (stripChars text.toList) tag → requireTag text = .ok tag
  refuses : (¬∃ tag, Spelling.plain.Spells (stripChars text.toList) tag) →
    requireTag text = .error (.unsupportedType text "" "")

theorem requireTag_eq_unsupported_iff {text : String} :
    requireTag text = .error (.unsupportedType text "" "") ↔
      TypeTag.parse text = .error .unsupported := by
  unfold requireTag
  cases TypeTag.parse text with
  | ok tag => exact ⟨nofun, nofun⟩
  | error fault => cases fault <;> simp

/-- A tag is read from exactly those texts that spell it, with any digits and with single line
breaks between the parts. The text is read as the closed set demands exactly if no number in it is
too long where it is met, and what it spells so is spelled plainly. -/
theorem requireTag_readsClosedSet_iff (text : String) :
    (∀ tag, requireTag text = .ok tag ↔ lenient.Spells (stripChars text.toList) tag) ∧
    (ReadsClosedSet text ↔
      ¬HasLongNumber (stripChars text.toList) ∧
        ∀ tag, lenient.Spells (stripChars text.toList) tag →
          Spelling.plain.Spells (stripChars text.toList) tag) := by
  have isRead : ∀ tag, requireTag text = .ok tag ↔ lenient.Spells (stripChars text.toList) tag :=
    fun tag => requireTag_eq_ok_iff.trans TypeTag.parse_eq_ok_iff
  refine ⟨isRead, fun reads => ⟨fun isLong => ?_, fun tag spells => ?_⟩, fun ⟨short, plainly⟩ =>
    { accepts := fun tag spells => ?_, refuses := fun unspelled => ?_ }⟩
  · have unread := TypeTag.parse_eq_longNumber_iff.mpr isLong
    by_cases closed : ∃ tag, Spelling.plain.Spells (stripChars text.toList) tag
    · obtain ⟨tag, spells⟩ := closed
      cases unread.symm.trans (requireTag_eq_ok_iff.mp (reads.accepts tag spells))
    · cases unread.symm.trans (requireTag_eq_unsupported_iff.mp (reads.refuses closed))
  · have given := (isRead tag).mpr spells
    by_cases closed : ∃ tag, Spelling.plain.Spells (stripChars text.toList) tag
    · obtain ⟨other, plainly⟩ := closed
      cases given.symm.trans (reads.accepts other plainly)
      exact plainly
    · cases given.symm.trans (reads.refuses closed)
  · exact (isRead tag).mpr (spells.lenient_or_long.resolve_right fun isLong => short isLong.1)
  · rw [requireTag_eq_unsupported_iff]
    cases ends : TypeTag.parse text with
    | ok tag => exact (unspelled ⟨tag, plainly tag (TypeTag.parse_eq_ok_iff.mp ends)⟩).elim
    | error fault =>
      cases fault with
      | unsupported => rfl
      | longNumber => exact (short (TypeTag.parse_eq_longNumber_iff.mp ends)).elim

/-- A line break in front of a suffix is passed over, though no tag of the closed set has one. -/
theorem brokenTag_not_readsClosedSet : ¬ReadsClosedSet "uint8\n[2]" := by
  intro reads
  have unspelled : ¬∃ tag, Spelling.plain.Spells (stripChars "uint8\n[2]".toList) tag := by
    rintro ⟨tag, spells⟩
    exact absurd (spells.solid '\n' (by decide)) (by decide)
  have read : TypeTag.parse "uint8\n[2]" = .ok ⟨.unsigned 8, [some 2]⟩ := by decide +kernel
  cases read.symm.trans (requireTag_eq_unsupported_iff.mp (reads.refuses unspelled))

end ContractClient
