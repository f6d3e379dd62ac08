/-
This file is about texts of several lines. A text has a gap if two of its lines in a row are empty,
that is if three line breaks follow each other in it. A gap does not reach over any other character,
so texts that neither begin nor end with a line break can be put one behind the other, with one line
break or two between them, and the whole has no gap that is not in one of them
(`hasGap_intercalate_iff`).
-/

import ContractClient.Text.Blank
import Mathlib.Data.List.DropRight
import Mathlib.Data.List.Infix

namespace ContractClient

/-! ### Patterns of one character -/

section

variable {α : Type} {pattern front back : List α} {item : α}

/-- A pattern is found in front of an item that it does not have, or not at all. -/
theorem prefix_append_cons_iff (absent : item ∉ pattern) :
    pattern <+: front ++ item :: back ↔ pattern <+: front := by
  induction front generalizing pattern with
  | nil =>
    cases pattern with
    | nil => simp
    | cons first rest =>
      have differs : first ≠ item := fun same => absent (same ▸ List.mem_cons_self)
      simp [List.cons_prefix_cons, differs]
  | cons other rest inductionHypothesis =>
    cases pattern with
    | nil => simp
    | cons first rest' =>
      rw [List.cons_append, List.cons_prefix_cons, List.cons_prefix_cons,
        inductionHypothesis fun isLater => absent (List.mem_cons_of_mem _ isLater)]

/-- A pattern is found on one side of an item that it does not have. -/
theorem infix_append_cons_iff (filled : pattern ≠ []) (absent : item ∉ pattern) :
    pattern <:+: front ++ item :: back ↔ pattern <:+: front ∨ pattern <:+: back := by
  induction front with
  | nil =>
    have notFirst : ¬ pattern <+: item :: back := fun isPrefix =>
      filled (List.prefix_nil.mp ((@prefix_append_cons_iff _ _ [] back _ absent).mp isPrefix))
    rw [List.nil_append, List.infix_cons_iff, or_iff_right notFirst, List.infix_nil,
      or_iff_right filled]
  | cons other rest inductionHypothesis =>
    rw [List.cons_append, List.infix_cons_iff, ← List.cons_append, prefix_append_cons_iff absent,
      inductionHypothesis, List.infix_cons_iff, or_assoc]

end

/-! ### Texts of one line -/

/-- The text has no line break. -/
def OneLine (text : String) : Prop := '\n' ∉ text.toList

instance (text : String) : Decidable (OneLine text) :=
  inferInstanceAs (Decidable (¬ _))

section

variable {first second text : String}

theorem oneLine_append_iff : OneLine (first ++ second) ↔ OneLine first ∧ OneLine second := by
  rw [OneLine, String.toList_append, List.mem_append, not_or]
  exact Iff.rfl

theorem OneLine.append (isFirst : OneLine first) (isSecond : OneLine second) :
    OneLine (first ++ second) :=
  oneLine_append_iff.mpr ⟨isFirst, isSecond⟩

theorem oneLine_ofList_iff {characters : List Char} :
    OneLine (String.ofList characters) ↔ '\n' ∉ characters := by
  rw [OneLine, String.toList_ofList]

theorem OneLine.intercalate {separator : String} {texts : List String}
    (between : OneLine separator) (each : ∀ text ∈ texts, OneLine text) :
    OneLine (separator.intercalate texts) := by
  induction texts with
  | nil => exact List.not_mem_nil
  | cons first rest inductionHypothesis =>
    obtain ⟨isFirst, others⟩ := List.forall_mem_cons.mp each
    cases rest with
    | nil => exact String.intercalate_singleton ▸ isFirst
    | cons second rest =>
      rw [String.intercalate_cons_cons]
      exact (isFirst.append between).append (inductionHypothesis others)

theorem OneLine.join {texts : List String} (each : ∀ text ∈ texts, OneLine text) :
    OneLine (String.join texts) := by
  induction texts with
  | nil => exact List.not_mem_nil
  | cons first rest inductionHypothesis =>
    obtain ⟨isFirst, others⟩ := List.forall_mem_cons.mp each
    rw [String.join_cons]
    exact isFirst.append (inductionHypothesis others)

/-- The decimal digits of a number stand on one line. -/
theorem oneLine_toString (number : Nat) : OneLine (toString number) := by
  simp only [OneLine, Nat.toString_eq_ofList_toDigits, String.toList_ofList]
  exact fun digit => absurd (Nat.isDigit_of_mem_toDigits (by decide) (by decide) digit) (by decide)

theorem oneLine_toString_int (number : Int) : OneLine (toString number) := by
  cases number with
  | ofNat number => exact oneLine_toString number
  | negSucc number => exact OneLine.append (by decide) (oneLine_toString (number + 1))

end

/-! ### Gaps -/

/-- Two lines of the text in a row are empty: three line breaks follow each other. -/
def HasGap (text : String) : Prop := ['\n', '\n', '\n'] <:+: text.toList

instance (text : String) : Decidable (HasGap text) :=
  inferInstanceAs (Decidable (_ <:+: _))

/-- The text does not begin with a line break. -/
def StartsPlain (text : String) : Prop :=
  ∃ first rest, text.toList = first :: rest ∧ first ≠ '\n'

/-- The text does not end with a line break. -/
def EndsPlain (text : String) : Prop :=
  ∃ front last, text.toList = front ++ [last] ∧ last ≠ '\n'

section

variable {first second text : String}

theorem OneLine.not_hasGap (isOne : OneLine text) : ¬ HasGap text := fun gap =>
  isOne (gap.subset List.mem_cons_self)

theorem hasGap_append_of_starts (starts : StartsPlain second) :
    HasGap (first ++ second) ↔ HasGap first ∨ HasGap second := by
  obtain ⟨character, rest, same, plain⟩ := starts
  have absent : character ∉ ['\n', '\n', '\n'] := by simpa using plain
  have alone := @infix_append_cons_iff _ _ [] rest _ (List.cons_ne_nil _ _) absent
  rw [HasGap, String.toList_append, same, infix_append_cons_iff (List.cons_ne_nil _ _) absent,
    HasGap, HasGap, same, ← List.nil_append (character :: rest), alone, List.infix_nil,
    or_iff_right (List.cons_ne_nil _ _)]

theorem hasGap_append_of_ends (ends : EndsPlain first) :
    HasGap (first ++ second) ↔ HasGap first ∨ HasGap second := by
  obtain ⟨front, character, same, plain⟩ := ends
  have absent : character ∉ ['\n', '\n', '\n'] := by simpa using plain
  rw [HasGap, String.toList_append, same, List.append_assoc, List.singleton_append,
    infix_append_cons_iff (List.cons_ne_nil _ _) absent, HasGap, HasGap, same,
    infix_append_cons_iff (List.cons_ne_nil _ _) absent, List.infix_nil,
    or_iff_left (List.cons_ne_nil _ _)]

/-- What stands in front of a text on its first line does not matter. -/
theorem StartsPlain.append_left (isOne : OneLine first) (starts : StartsPlain second) :
    StartsPlain (first ++ second) := by
  obtain ⟨character, rest, same, plain⟩ := starts
  cases characters : first.toList with
  | nil => exact ⟨character, rest, by rw [String.toList_append, characters, same]; rfl, plain⟩
  | cons other others =>
    refine ⟨other, others ++ second.toList, by rw [String.toList_append, characters]; rfl, ?_⟩
    rintro rfl
    exact isOne (characters ▸ List.mem_cons_self)

theorem StartsPlain.append_right (starts : StartsPlain first) : StartsPlain (first ++ second) := by
  obtain ⟨character, rest, same, plain⟩ := starts
  exact ⟨character, rest ++ second.toList, by rw [String.toList_append, same]; rfl, plain⟩

theorem EndsPlain.append_left (ends : EndsPlain second) : EndsPlain (first ++ second) := by
  obtain ⟨front, character, same, plain⟩ := ends
  exact ⟨first.toList ++ front, character,
    by rw [String.toList_append, same, List.append_assoc], plain⟩

/-- What stands behind a text on its last line does not matter. -/
theorem EndsPlain.append_right (ends : EndsPlain first) (isOne : OneLine second) :
    EndsPlain (first ++ second) := by
  obtain ⟨front, character, same, plain⟩ := ends
  cases List.eq_nil_or_concat' second.toList with
  | inl none => exact ⟨front, character, by rw [String.toList_append, none, List.append_nil, same],
      plain⟩
  | inr filled =>
    obtain ⟨others, other, characters⟩ := filled
    refine ⟨first.toList ++ others, other,
      by rw [String.toList_append, characters, List.append_assoc], ?_⟩
    rintro rfl
    exact isOne (characters ▸ List.mem_append_right _ List.mem_cons_self)

end

/-! ### Framed texts -/

/-- The text neither begins nor ends with a line break, and it is not empty. -/
structure Framed (text : String) : Prop where
  starts : StartsPlain text
  ends : EndsPlain text

section

variable {first second text : String}

theorem OneLine.framed (isOne : OneLine text) (filled : text ≠ "") : Framed text := by
  have filled : text.toList ≠ [] := fun none => filled (String.toList_eq_nil_iff.mp none)
  constructor
  · obtain ⟨first, rest, same⟩ := List.exists_cons_of_ne_nil filled
    exact ⟨first, rest, same, fun isBreak => isOne (isBreak ▸ same ▸ List.mem_cons_self)⟩
  · refine ⟨text.toList.dropLast, text.toList.getLast filled,
      (List.dropLast_append_getLast filled).symm, fun isBreak => isOne ?_⟩
    exact isBreak ▸ List.getLast_mem filled

theorem Framed.append (isFirst : StartsPlain first) (isSecond : EndsPlain second) :
    Framed (first ++ second) :=
  ⟨isFirst.append_right, isSecond.append_left⟩

/-- Framed texts put one behind the other are framed. -/
theorem Framed.intercalate {separator : String} {texts : List String} (filled : texts ≠ [])
    (framed : ∀ text ∈ texts, Framed text) : Framed (separator.intercalate texts) := by
  induction texts with
  | nil => exact (filled rfl).elim
  | cons first rest inductionHypothesis =>
    obtain ⟨isFirst, others⟩ := List.forall_mem_cons.mp framed
    cases rest with
    | nil => exact String.intercalate_singleton ▸ isFirst
    | cons second rest =>
      rw [String.intercalate_cons_cons]
      exact .append isFirst.starts.append_right (inductionHypothesis (by simp) others).ends

/-- Framed texts put one behind the other have the gaps that they have themselves. -/
theorem hasGap_intercalate_iff {separator : String} {texts : List String}
    (between : ¬ HasGap separator) (framed : ∀ text ∈ texts, Framed text) :
    HasGap (separator.intercalate texts) ↔ ∃ text ∈ texts, HasGap text := by
  induction texts with
  | nil => simp [HasGap]
  | cons first rest inductionHypothesis =>
    obtain ⟨isFirst, others⟩ := List.forall_mem_cons.mp framed
    cases rest with
    | nil => simp
    | cons second rest =>
      rw [List.exists_mem_cons_iff]
      have isRest : Framed (separator.intercalate (second :: rest)) :=
        .intercalate (List.cons_ne_nil _ _) others
      rw [String.intercalate_cons_cons, hasGap_append_of_starts isRest.starts,
        hasGap_append_of_ends isFirst.ends, or_iff_left between, inductionHypothesis others]

end

/-! ### Lines -/

/-- The text is a line that is not empty. -/
structure IsLine (text : String) : Prop where
  oneLine : OneLine text
  filled : text ≠ ""

instance (text : String) : Decidable (IsLine text) :=
  decidable_of_iff (OneLine text ∧ text ≠ "") ⟨fun holds => ⟨holds.1, holds.2⟩,
    fun isLine => ⟨isLine.oneLine, isLine.filled⟩⟩

section

variable {first second text : String}

/-- A literal is a line if none of its characters is a line break. -/
theorem isLine_ofList {first : Char} {rest : List Char} (plain : '\n' ∉ first :: rest) :
    IsLine (String.ofList (first :: rest)) :=
  ⟨oneLine_ofList_iff.mpr plain, fun none => by cases String.ofList_eq_empty_iff.mp none⟩

theorem IsLine.framed (isLine : IsLine text) : Framed text :=
  isLine.oneLine.framed isLine.filled

theorem IsLine.append_left (isSecond : IsLine second) (isFirst : OneLine first) :
    IsLine (first ++ second) :=
  ⟨isFirst.append isSecond.oneLine,
    fun none => isSecond.filled (String.append_eq_empty_iff.mp none).2⟩

theorem IsLine.append_right (isFirst : IsLine first) (isSecond : OneLine second) :
    IsLine (first ++ second) :=
  ⟨isFirst.oneLine.append isSecond,
    fun none => isFirst.filled (String.append_eq_empty_iff.mp none).1⟩

end

/-! ### Framed texts and their gaps -/

/-- The text is framed, and it has a gap exactly where the statement holds. -/
structure LaidOut (text : String) (gap : Prop) : Prop where
  framed : Framed text
  hasGap_iff : HasGap text ↔ gap

section

variable {text : String} {gap : Prop}

theorem Framed.laidOut (framed : Framed text) : LaidOut text (HasGap text) :=
  ⟨framed, Iff.rfl⟩

theorem IsLine.laidOut (isLine : IsLine text) : LaidOut text False :=
  ⟨isLine.framed, iff_of_false isLine.oneLine.not_hasGap id⟩

/-- What stands around a text on its first and its last line brings no gap. -/
theorem LaidOut.surround {front back : String} (laidOut : LaidOut text gap)
    (isFront : OneLine front) (isBack : OneLine back) : LaidOut (front ++ text ++ back) gap := by
  obtain ⟨⟨starts, ends⟩, hasGap_iff⟩ := laidOut
  refine ⟨⟨(starts.append_left isFront).append_right, ends.append_left.append_right isBack⟩, ?_⟩
  rw [hasGap_append_of_ends ends.append_left, or_iff_left isBack.not_hasGap,
    hasGap_append_of_starts starts, or_iff_right isFront.not_hasGap, hasGap_iff]

/-- Texts put one behind the other with a separator without gaps have the gaps that they have
themselves. -/
theorem LaidOut.intercalate {α : Type} {separator : String} {items : List α} {text : α → String}
    {gap : α → Prop} (between : ¬ HasGap separator) (filled : items ≠ [])
    (laidOut : ∀ item ∈ items, LaidOut (text item) (gap item)) :
    LaidOut (separator.intercalate (items.map text)) (∃ item ∈ items, gap item) := by
  have framed : ∀ shown ∈ items.map text, Framed shown :=
    List.forall_mem_map.mpr fun item isItem => (laidOut item isItem).framed
  refine ⟨.intercalate (by simpa using filled) framed, ?_⟩
  rw [hasGap_intercalate_iff between framed]
  simp only [List.mem_map, exists_exists_and_eq_and]
  exact exists_congr fun item => and_congr_right fun isItem => (laidOut item isItem).hasGap_iff

/-- Lines put one behind the other have no gap. -/
theorem LaidOut.lines {lines : List String} (filled : lines ≠ [])
    (areLines : ∀ line ∈ lines, IsLine line) : LaidOut ("\n".intercalate lines) False := by
  have laidOut := LaidOut.intercalate (by decide : ¬ HasGap "\n") filled
    fun line isMember => (areLines line isMember).laidOut
  rw [List.map_id'] at laidOut
  exact ⟨laidOut.framed, laidOut.hasGap_iff.trans (by simp)⟩

end

/-! ### Trimmed texts -/

/-- A text that is not empty once it is trimmed is framed. -/
theorem strip_framed {text : String} (filled : strip text ≠ "") : Framed (strip text) := by
  have plain : ∀ character : Char, isBlank character = false → character ≠ '\n' := by
    rintro _ isPlain rfl
    cases isPlain
  have front : stripChars text.toList <+: text.toList.dropWhile isBlank :=
    List.rdropWhile_prefix isBlank _
  have some : stripChars text.toList ≠ [] := fun none =>
    filled (String.toList_eq_nil_iff.mp (String.toList_ofList.trans none))
  constructor
  · obtain ⟨first, rest, same⟩ := List.exists_cons_of_ne_nil some
    refine ⟨first, rest, String.toList_ofList.trans same, plain first ?_⟩
    obtain ⟨behind, characters⟩ := front
    have notBlank := List.head?_dropWhile_not isBlank text.toList
    rw [← characters, same] at notBlank
    exact notBlank
  · refine ⟨_, _, String.toList_ofList.trans (List.dropLast_append_getLast some).symm, plain _ ?_⟩
    exact Bool.eq_false_iff.mpr (List.rdropWhile_last_not isBlank _ some)

end ContractClient
