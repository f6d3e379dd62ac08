/-
This file says how much a text asks of the limits for reading. Only what stands outside of quotes
counts: brackets and braces, by how deep they are nested, and words, by the digits of the whole
numbers that they write (`FitsIn`). Between the quotes of a text nothing counts
(`bareChars_readText`), and whatever else is read without a bracket is one word
(`readScalar_writesWord`).
-/

import ContractClient.Json.Reader
import Mathlib.Data.List.Induction
import Mathlib.Data.List.TakeWhile

namespace ContractClient

namespace Json

/-! ### What counts in a text -/

/-- Where a character of a text stands: outside of quotes, between them, or behind a backslash
between them. -/
inductive Place where
  | outside
  | quoted
  | escaped
deriving Repr, DecidableEq

/-- The characters that stand outside of quotes, with one quote left of each quoted text. -/
def bareChars : Place → List Char → List Char
  | _, [] => []
  | .outside, first :: rest =>
    if first = '"' then '"' :: bareChars .quoted rest else first :: bareChars .outside rest
  | .quoted, first :: rest =>
    if first = '"' then bareChars .outside rest
    else if first = '\\' then bareChars .escaped rest
    else bareChars .quoted rest
  | .escaped, _ :: rest => bareChars .quoted rest

/-- The characters that stand between two words. -/
def delimiters : List Char :=
  [' ', '\t', '\n', '\r', ',', ':', '[', ']', '{', '}', '"']

/-- Whether the character stands between two words. -/
def isDelimiter (character : Char) : Bool :=
  delimiters.contains character

/-- Lists and objects stand in each other at most so deep. -/
def NestsWithin : Nat → List Char → Prop
  | _, [] => True
  | levels, first :: rest =>
    if first = '[' ∨ first = '{' then 0 < levels ∧ NestsWithin (levels - 1) rest
    else if first = ']' ∨ first = '}' then NestsWithin (levels + 1) rest
    else NestsWithin levels rest

/-- The number of digits of a whole number that the word writes, or zero if it writes none. -/
def wholeDigits (word : List Char) : Nat :=
  let digits := if word.head? = some '-' then word.tail else word
  if digits.all Char.isDigit then digits.length else 0

/-- Lists and objects are nested at most so deep, and whole numbers have at most so many digits. -/
structure FitsIn (digits levels : Nat) (bare : List Char) : Prop where
  nested : NestsWithin levels bare
  short : ∀ word ∈ bare.splitOnP isDelimiter, wholeDigits word ≤ digits

/-! ### Words and brackets -/

section

variable {digits levels : Nat} {bare : List Char}

/-- A delimiter in front adds a word without digits. -/
theorem short_cons_iff {character : Char} (isDelimited : isDelimiter character = true) :
    (∀ word ∈ (character :: bare).splitOnP isDelimiter, wholeDigits word ≤ digits) ↔
      ∀ word ∈ bare.splitOnP isDelimiter, wholeDigits word ≤ digits := by
  rw [← List.nil_append (character :: bare), List.splitOnP_append_cons_of_forall_mem
    (fun _ none => (List.not_mem_nil none).elim) character isDelimited, List.forall_mem_cons]
  exact and_iff_right (Nat.zero_le _)

theorem fitsIn_nil : FitsIn digits levels [] :=
  ⟨trivial, fun word isWord => by
    obtain rfl := List.mem_singleton.mp isWord
    exact Nat.zero_le _⟩

/-- A list or an object takes one level for what is in it. -/
theorem fitsIn_open_iff {character : Char} (opens : character = '[' ∨ character = '{') :
    FitsIn digits levels (character :: bare) ↔
      ∃ below, levels = below + 1 ∧ FitsIn digits below bare := by
  have isDelimited : isDelimiter character = true := by
    rcases opens with rfl | rfl <;> decide
  have nests : NestsWithin levels (character :: bare) ↔
      0 < levels ∧ NestsWithin (levels - 1) bare := by
    rw [NestsWithin, if_pos opens]
  constructor
  · rintro ⟨nested, short⟩
    obtain ⟨positive, nested⟩ := nests.mp nested
    exact ⟨levels - 1, (Nat.sub_add_cancel positive).symm, nested, (short_cons_iff isDelimited).mp
      short⟩
  · rintro ⟨below, rfl, nested, short⟩
    exact ⟨nests.mpr ⟨Nat.succ_pos below, nested⟩, (short_cons_iff isDelimited).mpr short⟩

theorem fitsIn_close_iff {character : Char} (closes : character = ']' ∨ character = '}') :
    FitsIn digits levels (character :: bare) ↔ FitsIn digits (levels + 1) bare := by
  have isDelimited : isDelimiter character = true := by
    rcases closes with rfl | rfl <;> decide
  have nests : NestsWithin levels (character :: bare) ↔ NestsWithin (levels + 1) bare := by
    rw [NestsWithin, if_neg (by rcases closes with rfl | rfl <;> decide), if_pos closes]
  exact ⟨fun ⟨nested, short⟩ => ⟨nests.mp nested, (short_cons_iff isDelimited).mp short⟩,
    fun ⟨nested, short⟩ => ⟨nests.mpr nested, (short_cons_iff isDelimited).mpr short⟩⟩

/-- Characters that are no brackets leave the levels as they are. -/
theorem nestsWithin_append_iff {plain : List Char}
    (areNone : ∀ character ∈ plain, character ∉ ['[', ']', '{', '}']) :
    NestsWithin levels (plain ++ bare) ↔ NestsWithin levels bare := by
  induction plain with
  | nil => exact Iff.rfl
  | cons first rest inductionHypothesis =>
    obtain ⟨isNone, others⟩ := List.forall_mem_cons.mp areNone
    simp only [List.mem_cons, List.not_mem_nil, or_false, not_or] at isNone
    obtain ⟨notOpen, notClosed, notOpenToo, notClosedToo⟩ := isNone
    rw [List.cons_append, NestsWithin, if_neg (not_or.mpr ⟨notOpen, notOpenToo⟩),
      if_neg (not_or.mpr ⟨notClosed, notClosedToo⟩), inductionHypothesis others]

/-- Any other delimiter asks nothing. -/
theorem fitsIn_delimiter_iff {character : Char} (isDelimited : isDelimiter character = true)
    (isNone : character ∉ ['[', ']', '{', '}']) :
    FitsIn digits levels (character :: bare) ↔ FitsIn digits levels bare := by
  have nests : NestsWithin levels (character :: bare) ↔ NestsWithin levels bare :=
    @nestsWithin_append_iff levels bare [character] (List.forall_mem_singleton.mpr isNone)
  exact ⟨fun ⟨nested, short⟩ => ⟨nests.mp nested, (short_cons_iff isDelimited).mp short⟩,
    fun ⟨nested, short⟩ => ⟨nests.mpr nested, (short_cons_iff isDelimited).mpr short⟩⟩

/-- The characters end, or go on with a delimiter. -/
def EndsWord (characters : List Char) : Prop :=
  ∀ first ∈ characters.head?, isDelimiter first = true

/-- A word asks for its digits, if it writes a whole number. -/
theorem fitsIn_word_iff {word : List Char}
    (plain : ∀ character ∈ word, isDelimiter character = false) (ends : EndsWord bare) :
    FitsIn digits levels (word ++ bare) ↔
      wholeDigits word ≤ digits ∧ FitsIn digits levels bare := by
  have nests : NestsWithin levels (word ++ bare) ↔ NestsWithin levels bare := by
    refine nestsWithin_append_iff fun character isLetter isBracket => ?_
    have brackets : ∀ bracket ∈ ['[', ']', '{', '}'], isDelimiter bracket = true :=
      List.all_eq_true.mp (by decide)
    exact Bool.false_ne_true ((plain character isLetter).symm.trans (brackets character isBracket))
  have words : (∀ part ∈ (word ++ bare).splitOnP isDelimiter, wholeDigits part ≤ digits) ↔
      wholeDigits word ≤ digits ∧
        ∀ part ∈ bare.splitOnP isDelimiter, wholeDigits part ≤ digits := by
    cases bare with
    | nil =>
      rw [List.append_nil, List.splitOnP_eq_singleton plain, List.splitOnP_nil,
        List.forall_mem_singleton, List.forall_mem_singleton]
      exact (and_iff_left (Nat.zero_le _)).symm
    | cons first rest =>
      have isDelimited := ends first rfl
      rw [List.splitOnP_append_cons_of_forall_mem plain first isDelimited, List.forall_mem_cons,
        short_cons_iff isDelimited]
  constructor
  · rintro ⟨nested, short⟩
    exact ⟨(words.mp short).1, nests.mp nested, (words.mp short).2⟩
  · rintro ⟨isShort, nested, short⟩
    exact ⟨nests.mpr nested, words.mpr ⟨isShort, short⟩⟩

end

/-! ### Quoted texts -/

section

variable {characters rest : List Char}

/-- A hexadecimal digit neither ends a text nor escapes anything. -/
theorem bareChars_hexDigit {first : Char} {value : Nat} (isDigit : hexValue? first = some value) :
    bareChars .quoted (first :: rest) = bareChars .quoted rest := by
  have notQuote : first ≠ '"' := by
    rintro rfl
    cases isDigit
  have notEscape : first ≠ '\\' := by
    rintro rfl
    cases isDigit
  rw [bareChars, if_neg notQuote, if_neg notEscape]

theorem bareChars_readHex4 {unit : Nat} (reads : readHex4 characters = some (unit, rest)) :
    bareChars .quoted characters = bareChars .quoted rest := by
  unfold readHex4 at reads
  split at reads
  · rename_i first second third fourth others
    simp only [Option.bind_eq_bind, Option.bind_eq_some_iff] at reads
    obtain ⟨_, isFirst, _, isSecond, _, isThird, _, isFourth, same⟩ := reads
    obtain rfl := (Prod.mk.inj (Option.some.inj same)).2
    rw [bareChars_hexDigit isFirst, bareChars_hexDigit isSecond, bareChars_hexDigit isThird,
      bareChars_hexDigit isFourth]
  · cases reads

theorem bareChars_escape (letter : Char) :
    bareChars .quoted ('\\' :: letter :: rest) = bareChars .quoted rest := by
  rw [bareChars, if_neg (by decide), if_pos rfl, bareChars]

theorem bareChars_readLowSurrogate {unit : Nat}
    (reads : readLowSurrogate characters = some (unit, rest)) :
    bareChars .quoted characters = bareChars .quoted rest := by
  unfold readLowSurrogate at reads
  split at reads
  · obtain ⟨⟨unit, behind⟩, readsUnit, reads⟩ := Option.bind_eq_some_iff.mp reads
    dsimp only at reads
    split at reads
    · obtain rfl := (Prod.mk.inj (Option.some.inj reads)).2
      rw [bareChars_escape, bareChars_readHex4 readsUnit]
    · cases reads
  · cases reads

theorem bareChars_readUnit {meant : List Char} (reads : readUnit characters = some (meant, rest)) :
    bareChars .quoted characters = bareChars .quoted rest := by
  obtain ⟨⟨unit, behind⟩, readsUnit, reads⟩ := Option.bind_eq_some_iff.mp reads
  rw [bareChars_readHex4 readsUnit]
  dsimp only at reads
  split at reads
  · split at reads
    · rename_i low others readsLow
      obtain rfl := (Prod.mk.inj (Option.some.inj reads)).2
      exact bareChars_readLowSurrogate readsLow
    · obtain rfl := (Prod.mk.inj (Option.some.inj reads)).2
      rfl
  · split at reads <;> obtain rfl := (Prod.mk.inj (Option.some.inj reads)).2 <;> rfl

theorem bareChars_readEscape {meant : List Char}
    (reads : readEscape characters = some (meant, rest)) :
    bareChars .quoted ('\\' :: characters) = bareChars .quoted rest := by
  unfold readEscape at reads
  split at reads
  · cases reads
  · rename_i letter others
    rw [bareChars_escape]
    split at reads
    · exact bareChars_readUnit reads
    · obtain ⟨meant, _, same⟩ := Option.map_eq_some_iff.mp reads
      obtain rfl := (Prod.mk.inj same).2
      rfl

/-- Nothing of a text counts between its quotes. -/
theorem bareChars_readText {steps : Nat} {text : List Char}
    (reads : readText steps characters = some (text, rest)) :
    bareChars .quoted characters = bareChars .outside rest := by
  induction steps generalizing characters text with
  | zero => cases reads
  | succ steps inductionHypothesis =>
    cases characters with
    | nil => cases reads
    | cons first others =>
      rw [readText] at reads
      split at reads
      · rename_i isQuote
        obtain rfl := (Prod.mk.inj (Option.some.inj reads)).2
        rw [bareChars, if_pos isQuote]
      · rename_i notQuote
        have goesOn : ∀ {meant behind : List Char},
            ((readText steps behind).bind fun read => some (meant ++ read.1, read.2)) =
              some (text, rest) → bareChars .quoted behind = bareChars .outside rest := by
          intro meant behind reads
          obtain ⟨read, readsRest, same⟩ := Option.bind_eq_some_iff.mp reads
          obtain rfl := (Prod.mk.inj (Option.some.inj same)).2
          exact inductionHypothesis readsRest
        dsimp only at reads
        split at reads
        · rename_i isEscape
          obtain ⟨⟨meant, behind⟩, readsEscape, reads⟩ := Option.bind_eq_some_iff.mp reads
          rw [isEscape, bareChars_readEscape readsEscape, goesOn reads]
        · rename_i notEscape
          split at reads
          · cases reads
          · rw [bareChars, if_neg notQuote, if_neg notEscape, goesOn reads]

theorem isDelimiter_of_isGap {character : Char} (isGap : isGap character = true) :
    isDelimiter character = true := by
  simp only [Json.isGap, Bool.or_eq_true, beq_iff_eq] at isGap
  rcases isGap with ((rfl | rfl) | rfl) | rfl <;> decide

/-- What stands between two tokens asks nothing. -/
theorem fitsIn_skipGap_iff {digits levels : Nat} :
    FitsIn digits levels (bareChars .outside (skipGap characters)) ↔
      FitsIn digits levels (bareChars .outside characters) := by
  induction characters with
  | nil => exact Iff.rfl
  | cons first others inductionHypothesis =>
    rw [skipGap, List.dropWhile_cons]
    split
    · rename_i isGap
      have notQuote : first ≠ '"' := by
        rintro rfl
        cases isGap
      have isNone : first ∉ ['[', ']', '{', '}'] := by
        intro isBracket
        have noGap : ∀ bracket ∈ ['[', ']', '{', '}'], ¬Json.isGap bracket = true :=
          List.any_eq_false.mp (by decide)
        exact noGap first isBracket isGap
      rw [bareChars, if_neg notQuote, fitsIn_delimiter_iff (isDelimiter_of_isGap isGap) isNone]
      exact inductionHypothesis
    · exact Iff.rfl

end

/-! ### Numbers -/

theorem isDelimiter_of_isDigit {character : Char} (isDigit : character.isDigit = true) :
    isDelimiter character = false := by
  have noDigits : ∀ delimiter ∈ delimiters, ¬delimiter.isDigit = true :=
    List.any_eq_false.mp (by decide)
  exact Bool.eq_false_iff.mpr fun isDelimited =>
    noDigits character (List.contains_iff_mem.mp isDelimited) isDigit

theorem digit_bounds {character : Char} (isDigit : character.isDigit = true) :
    '0'.toNat ≤ character.toNat ∧ character.toNat ≤ '9'.toNat := by
  rw [Char.isDigit, Bool.and_eq_true, decide_eq_true_eq, decide_eq_true_eq] at isDigit
  exact isDigit

/-- Digits write a number below the power of ten that their count gives. -/
theorem digitsNumber_lt {digits : List Char} (areDigits : ∀ digit ∈ digits, digit.isDigit = true) :
    digitsNumber digits < powerOfTen digits.length := by
  induction digits using List.reverseRecOn with
  | nil => decide
  | append_singleton digits last inductionHypothesis =>
    obtain ⟨others, isLast⟩ := List.forall_mem_append.mp areDigits
    have below := inductionHypothesis others
    have step : digitsNumber (digits ++ [last]) =
        10 * digitsNumber digits + (last.toNat - '0'.toNat) := by
      rw [digitsNumber, List.foldl_append]
      rfl
    have power : powerOfTen (digits ++ [last]).length = powerOfTen digits.length * 10 := by
      rw [List.length_append]
      rfl
    have digit : last.toNat ≤ 57 := (digit_bounds (isLast last List.mem_cons_self)).2
    have zero : '0'.toNat = 48 := rfl
    omega

/-- Digits that do not begin with a zero write no smaller number than their count asks for. -/
theorem le_digitsNumber {first : Char} (isDigit : first.isDigit = true) (notZero : first ≠ '0')
    (rest : List Char) : powerOfTen rest.length ≤ digitsNumber (first :: rest) := by
  have same : digitsNumber (first :: rest) =
      10 ^ rest.length * (first.toNat - '0'.toNat) + Nat.ofDigitChars 10 rest 0 := by
    rw [← Nat.ofDigitChars_eq_ofDigitChars_zero]
    show Nat.ofDigitChars 10 rest (10 * 0 + (first.toNat - '0'.toNat)) = _
    rw [Nat.mul_zero, Nat.zero_add]
  have differs : first.toNat ≠ '0'.toNat := fun equal => notZero (Char.toNat_inj.mp equal)
  have positive : 1 ≤ first.toNat - '0'.toNat := by
    have bound := (digit_bounds isDigit).1
    omega
  calc powerOfTen rest.length = 10 ^ rest.length * 1 := (Nat.mul_one _).symm
    _ ≤ 10 ^ rest.length * (first.toNat - '0'.toNat) := Nat.mul_le_mul_left _ positive
    _ ≤ digitsNumber (first :: rest) := same ▸ Nat.le_add_right _ _

/-- The digits write a whole number without a superfluous zero. -/
structure AreWhole (whole : List Char) : Prop where
  digits : ∀ digit ∈ whole, digit.isDigit = true
  normal : whole = ['0'] ∨ ∃ first rest, whole = first :: rest ∧ first ≠ '0'

/-- A whole number has as many digits as it takes to write it. -/
theorem AreWhole.length_le_iff {whole : List Char} (areWhole : AreWhole whole) {digits : Nat}
    (positive : 0 < digits) :
    whole.length ≤ digits ↔ digitsNumber whole < powerOfTen digits := by
  constructor
  · intro atMost
    calc digitsNumber whole < powerOfTen whole.length := digitsNumber_lt areWhole.digits
      _ ≤ powerOfTen digits := Nat.pow_le_pow_right (by decide) atMost
  · intro below
    obtain rfl | ⟨first, rest, rfl, notZero⟩ := areWhole.normal
    · exact positive
    · have atLeast := le_digitsNumber (areWhole.digits first List.mem_cons_self) notZero rest
      exact (Nat.pow_lt_pow_iff_right (by decide)).mp (Nat.lt_of_le_of_lt atLeast below)

section

variable {characters rest : List Char}

theorem readWhole_splits {whole : List Char} (reads : readWhole characters = some (whole, rest)) :
    characters = whole ++ rest ∧ AreWhole whole := by
  unfold readWhole at reads
  split at reads
  · obtain ⟨rfl, rfl⟩ := Prod.mk.inj (Option.some.inj reads)
    exact ⟨rfl, List.forall_mem_singleton.mpr (by decide), .inl rfl⟩
  · rename_i notZero
    split at reads
    · cases reads
    · rename_i digits filled
      obtain ⟨rfl, rfl⟩ := Prod.mk.inj (Option.some.inj reads)
      refine ⟨List.takeWhile_append_dropWhile.symm, fun digit => List.mem_takeWhile_imp, .inr ?_⟩
      cases characters with
      | nil => exact (filled rfl).elim
      | cons first others =>
        rw [List.takeWhile_cons] at filled ⊢
        split at filled
        · rename_i isDigit
          refine ⟨first, _, if_pos isDigit, ?_⟩
          rintro rfl
          exact notZero others rfl
        · exact (filled rfl).elim

/-- A part of a number behind its digits, which may be missing. It begins with something else. -/
structure IsPart (isThere : Bool) (part : List Char) : Prop where
  plain : ∀ character ∈ part, isDelimiter character = false
  missing : isThere = false → part = []
  starts : isThere = true → ∃ first others, part = first :: others ∧ first.isDigit = false

theorem IsPart.none : IsPart false [] :=
  ⟨fun _ => nofun, fun _ => rfl, nofun⟩

theorem IsPart.append {first second : Bool} {part next : List Char} (isFirst : IsPart first part)
    (isSecond : IsPart second next) : IsPart (first || second) (part ++ next) := by
  refine ⟨List.forall_mem_append.mpr ⟨isFirst.plain, isSecond.plain⟩, ?_, ?_⟩
  · intro isMissing
    obtain ⟨noFirst, noSecond⟩ := Bool.or_eq_false_iff.mp isMissing
    rw [isFirst.missing noFirst, isSecond.missing noSecond, List.append_nil]
  · cases isThere : first with
    | false =>
      rw [isFirst.missing isThere, List.nil_append, Bool.false_or]
      exact isSecond.starts
    | true =>
      obtain ⟨head, others, rfl, notDigit⟩ := isFirst.starts isThere
      exact fun _ => ⟨head, others ++ next, rfl, notDigit⟩

theorem readFraction_splits (characters : List Char) :
    ∃ part, characters = part ++ (readFraction characters).2 ∧
      IsPart (readFraction characters).1.isSome part := by
  unfold readFraction
  split
  · rename_i others
    split
    · exact ⟨[], rfl, .none⟩
    · refine ⟨'.' :: others.takeWhile Char.isDigit, ?_, ?_, nofun, fun _ => ⟨_, _, rfl, rfl⟩⟩
      · rw [List.cons_append, List.takeWhile_append_dropWhile]
      · exact List.forall_mem_cons.mpr ⟨by decide, fun digit isDigit =>
          isDelimiter_of_isDigit (List.mem_takeWhile_imp isDigit)⟩
  · exact ⟨[], rfl, .none⟩

theorem readExponentSign_splits (characters : List Char) :
    ∃ sign, characters = sign ++ (readExponentSign characters).2 ∧
      ∀ character ∈ sign, isDelimiter character = false := by
  unfold readExponentSign
  split
  · exact ⟨['-'], rfl, List.forall_mem_singleton.mpr (by decide)⟩
  · exact ⟨['+'], rfl, List.forall_mem_singleton.mpr (by decide)⟩
  · exact ⟨[], rfl, fun _ => nofun⟩

theorem readExponent_splits (characters : List Char) :
    ∃ part, characters = part ++ (readExponent characters).2 ∧
      IsPart (readExponent characters).1.isSome part := by
  unfold readExponent
  split
  · rename_i letter others
    split
    · rename_i isExponent
      have isLetter : letter.isDigit = false ∧ isDelimiter letter = false := by
        rw [Bool.or_eq_true, beq_iff_eq, beq_iff_eq] at isExponent
        rcases isExponent with rfl | rfl <;> decide
      obtain ⟨sign, splits, plain⟩ := readExponentSign_splits others
      dsimp only
      split
      · exact ⟨[], rfl, .none⟩
      · refine ⟨letter :: (sign ++ (readExponentSign others).2.takeWhile Char.isDigit), ?_, ?_,
          nofun, fun _ => ⟨_, _, rfl, isLetter.1⟩⟩
        · rw [List.cons_append, List.append_assoc, List.takeWhile_append_dropWhile, ← splits]
        · refine List.forall_mem_cons.mpr ⟨isLetter.2, List.forall_mem_append.mpr ⟨plain, ?_⟩⟩
          exact fun digit isDigit => isDelimiter_of_isDigit (List.mem_takeWhile_imp isDigit)
    · exact ⟨[], rfl, .none⟩
  · exact ⟨[], rfl, .none⟩

/-- The value is the whole number of the digits, or a floating-point number if more of it is
there. -/
def IsNumberOf (whole : List Char) : Bool → Json → Prop
  | false, value => ∃ number : Int, value = .integer number ∧ number.natAbs = digitsNumber whole
  | true, value => ∃ bits, value = .float bits

theorem readUnsigned_splits {negative : Bool} {value : Json}
    (reads : readUnsigned negative characters = some (value, rest)) :
    ∃ whole part isThere, characters = whole ++ part ++ rest ∧ AreWhole whole ∧
      IsPart isThere part ∧ IsNumberOf whole isThere value := by
  obtain ⟨⟨whole, behind⟩, readsWhole, readsMore⟩ := Option.bind_eq_some_iff.mp reads
  obtain ⟨rfl, areWhole⟩ := readWhole_splits readsWhole
  obtain ⟨part, isBehind, isPart⟩ := readFraction_splits behind
  dsimp only at readsMore
  generalize readFraction behind = read at *
  obtain ⟨fraction, afterFraction⟩ := read
  obtain ⟨next, isNext, isNextPart⟩ := readExponent_splits afterFraction
  dsimp only at readsMore isBehind isPart
  generalize readExponent afterFraction = readNext at *
  obtain ⟨power, last⟩ := readNext
  dsimp only at readsMore isNext isNextPart
  have ends : rest = last ∧ IsNumberOf whole (fraction.isSome || power.isSome) value := by
    split at readsMore
    · obtain ⟨rfl, rfl⟩ := Prod.mk.inj (Option.some.inj readsMore)
      refine ⟨rfl, _, rfl, ?_⟩
      split
      · rw [Int.natAbs_neg, Int.natAbs_natCast]
      · exact Int.natAbs_natCast _
    · rename_i notWhole
      obtain ⟨rfl, rfl⟩ := Prod.mk.inj (Option.some.inj readsMore)
      have isThere : (fraction.isSome || power.isSome) = true := by
        cases fraction <;> cases power <;> simp_all
      exact ⟨rfl, isThere ▸ ⟨_, rfl⟩⟩
  obtain ⟨rfl, isNumber⟩ := ends
  refine ⟨whole, part ++ next, _, ?_, areWhole, isPart.append isNextPart, isNumber⟩
  rw [isBehind, isNext]
  simp only [List.append_assoc]

/-! ### Words -/

theorem AreWhole.head_ne {whole part : List Char} (areWhole : AreWhole whole) :
    ∃ first others, whole ++ part = first :: others ∧ first ≠ '-' := by
  have digit : ∀ {first : Char}, first ∈ whole → first ≠ '-' := by
    rintro _ isIn rfl
    cases areWhole.digits _ isIn
  obtain rfl | ⟨first, rest, rfl, _⟩ := areWhole.normal
  · exact ⟨'0', part, rfl, by decide⟩
  · exact ⟨first, rest ++ part, rfl, digit List.mem_cons_self⟩

/-- A number counts with its digits if it is a whole one, whatever its sign. -/
theorem wholeDigits_number {whole part : List Char} {isThere : Bool} (areWhole : AreWhole whole)
    (isPart : IsPart isThere part) {sign : List Char} (isSign : sign = [] ∨ sign = ['-']) :
    wholeDigits (sign ++ (whole ++ part)) = if isThere then 0 else whole.length := by
  obtain ⟨first, others, same, notSign⟩ := @AreWhole.head_ne whole part areWhole
  have unsigned : wholeDigits (sign ++ (whole ++ part)) =
      if (whole ++ part).all Char.isDigit then (whole ++ part).length else 0 := by
    rcases isSign with rfl | rfl
    · simp only [wholeDigits, List.nil_append, same, List.head?_cons, Option.some.injEq,
        if_neg notSign]
    · simp only [wholeDigits, List.singleton_append, List.head?_cons, if_true, List.tail_cons]
  rw [unsigned]
  cases isThere with
  | false =>
    rw [isPart.missing rfl, List.append_nil, if_pos (List.all_eq_true.mpr areWhole.digits)]
    rfl
  | true =>
    obtain ⟨head, behind, rfl, notDigit⟩ := isPart.starts rfl
    rw [if_neg, if_pos rfl]
    rw [List.all_append, List.all_cons, notDigit, Bool.false_and, Bool.and_false]
    exact Bool.false_ne_true

/-- The characters behind the rest make up one word, and it has more digits than there may be
exactly if the value is a whole number that the limits exclude. -/
def WritesWord (digits : Nat) (characters rest : List Char) (value : Json) : Prop :=
  ∃ word, characters = word ++ rest ∧ (∀ character ∈ word, isDelimiter character = false) ∧
    ∀ levels, wholeDigits word ≤ digits ↔ Limits.excludes ⟨some digits, levels⟩ value = false

theorem readNumber_writesWord {digits : Nat} (positive : 0 < digits) {value : Json}
    (reads : readNumber characters = some (value, rest)) :
    WritesWord digits characters rest value := by
  have number : ∃ sign negative unsigned, characters = sign ++ unsigned ∧
      (sign = [] ∨ sign = ['-']) ∧ readUnsigned negative unsigned = some (value, rest) := by
    unfold readNumber at reads
    split at reads
    · exact ⟨['-'], true, _, rfl, .inr rfl, reads⟩
    · exact ⟨[], false, _, rfl, .inl rfl, reads⟩
  obtain ⟨sign, negative, unsigned, rfl, isSign, readsUnsigned⟩ := number
  obtain ⟨whole, part, isThere, rfl, areWhole, isPart, isNumber⟩ :=
    readUnsigned_splits readsUnsigned
  refine ⟨sign ++ (whole ++ part), by simp only [List.append_assoc], ?_, fun levels => ?_⟩
  · refine List.forall_mem_append.mpr ⟨?_, List.forall_mem_append.mpr ⟨?_, isPart.plain⟩⟩
    · rcases isSign with rfl | rfl
      · exact fun _ => nofun
      · exact List.forall_mem_singleton.mpr (by decide)
    · exact fun digit isIn => isDelimiter_of_isDigit (areWhole.digits digit isIn)
  · rw [wholeDigits_number areWhole isPart isSign]
    cases isThere with
    | false =>
      obtain ⟨number, rfl, size⟩ := isNumber
      rw [if_neg Bool.false_ne_true, areWhole.length_le_iff positive, ← size]
      simp [Limits.excludes]
    | true =>
      obtain ⟨bits, rfl⟩ := isNumber
      exact iff_of_true (Nat.zero_le _) rfl

theorem afterWord?_splits {word : List Char} (follows : afterWord? word characters = some rest) :
    characters = word ++ rest := by
  induction word generalizing characters with
  | nil => exact Option.some.inj follows
  | cons letter others inductionHypothesis =>
    cases characters with
    | nil => cases follows
    | cons first behind =>
      rw [afterWord?] at follows
      split at follows
      · rename_i same
        rw [inductionHypothesis follows, same, List.cons_append]
      · cases follows

theorem readWord_writesWord (digits : Nat) {value : Json}
    (reads : readWord valueWords characters = some (value, rest)) :
    WritesWord digits characters rest value := by
  obtain ⟨entry, isEntry, found⟩ := List.exists_of_findSome?_eq_some reads
  obtain ⟨behind, follows, same⟩ := Option.map_eq_some_iff.mp found
  obtain ⟨rfl, rfl⟩ := Prod.mk.inj same
  have plain : ∀ entry ∈ valueWords,
      (!entry.1.toList.any isDelimiter && wholeDigits entry.1.toList == 0) = true :=
    List.all_eq_true.mp (by decide)
  obtain ⟨noDelimiter, noDigits⟩ := Bool.and_eq_true_iff.mp (plain entry isEntry)
  have noNumber : ∀ entry ∈ valueWords, ∀ limits, Limits.excludes limits entry.2 = false := by
    simp [valueWords, Limits.excludes]
  refine ⟨entry.1.toList, afterWord?_splits follows, fun character isLetter => ?_, fun levels => ?_⟩
  · rw [Bool.not_eq_true'] at noDelimiter
    exact Bool.eq_false_iff.mpr (List.any_eq_false.mp noDelimiter character isLetter)
  · rw [eq_of_beq noDigits]
    exact iff_of_true (Nat.zero_le _) (noNumber entry isEntry _)

/-- A value that is no text, list or object is written as one word. -/
theorem readScalar_writesWord {digits : Nat} (positive : 0 < digits) {value : Json}
    (reads : readScalar characters = some (value, rest)) :
    WritesWord digits characters rest value := by
  rcases Option.or_eq_some_iff.mp reads with isWord | ⟨_, isNumber⟩
  · exact readWord_writesWord digits isWord
  · exact readNumber_writesWord positive isNumber

end

end Json

end ContractClient
