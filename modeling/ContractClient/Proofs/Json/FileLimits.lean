/-
This file says which texts of files keep within the limits (`KeepsFileLimits`). A text that is read
without limits is read within them exactly if it keeps them (`ofFileText_eq_ok_iff`).

Reading goes from left to right, so each step is compared with what the text asks of the limits from
there on (`reading_fits`). What it asks behind a value is what it asks in front of it, but for the
words and the brackets in the value.
-/

import ContractClient.Json.FileText
import ContractClient.Proofs.Json.Extent
import ContractClient.Proofs.Json.Limits
import ContractClient.Proofs.Steps

namespace ContractClient

namespace Json

/-! ### Reading -/

theorem head?_bareChars (characters : List Char) :
    (bareChars .outside characters).head? = characters.head? := by
  cases characters with
  | nil => rfl
  | cons first rest =>
    rw [bareChars]
    split
    · rename_i isQuote
      rw [isQuote]
      rfl
    · rfl

theorem EndsWord.of_skipGap {characters : List Char} (ends : EndsWord (skipGap characters)) :
    EndsWord characters := by
  cases characters with
  | nil => exact ends
  | cons first others =>
    rw [skipGap, List.dropWhile_cons] at ends
    split at ends
    · rename_i isGap
      rintro _ ⟨⟩
      exact isDelimiter_of_isGap isGap
    · exact ends

theorem endsWord_of_skipGap {characters rest : List Char} {first : Char}
    (goesOn : skipGap characters = first :: rest) (isDelimited : isDelimiter first = true) :
    EndsWord characters := by
  refine .of_skipGap ?_
  rw [goesOn]
  rintro _ ⟨⟩
  exact isDelimited

/-- What follows a step ends well within limits if the step does, and gives what it gives without
them. -/
theorem StopsOnly.bind_eq_ok_iff {α β : Type} {limited free : Except ReadFault α} {value : α}
    {next : α → Except ReadFault β} {result : β} (stops : StopsOnly limited free)
    (reads : free = .ok value) :
    (limited >>= next) = .ok result ↔ limited = .ok value ∧ next value = .ok result := by
  constructor
  · intro ends
    obtain ⟨other, isOther, goesOn⟩ := exists_of_bind_eq_ok ends
    obtain rfl := Except.ok.inj ((stops.eq_ok isOther).symm.trans reads)
    exact ⟨isOther, goesOn⟩
  · rintro ⟨rfl, goesOn⟩
    exact goesOn

/-- What is read without limits is read within limits, and what follows it fits into them,
exactly if all of it does. -/
def FitsAsRead {α : Type} (digits levels after : Nat) (characters : List Char)
    (limited free : Except ReadFault (α × List Char)) : Prop :=
  ∀ value rest, free = .ok (value, rest) → EndsWord rest →
    (FitsIn digits levels (bareChars .outside characters) ↔
      limited = .ok (value, rest) ∧ FitsIn digits after (bareChars .outside rest))

section

variable {digits levels steps : Nat} {characters : List Char}

theorem bareChars_cons {first : Char} (notQuote : first ≠ '"') :
    bareChars .outside (first :: characters) = first :: bareChars .outside characters := by
  rw [bareChars, if_neg notQuote]

theorem bareChars_append {word : List Char}
    (plain : ∀ character ∈ word, isDelimiter character = false) :
    bareChars .outside (word ++ characters) = word ++ bareChars .outside characters := by
  induction word with
  | nil => rfl
  | cons first rest inductionHypothesis =>
    obtain ⟨isPlain, others⟩ := List.forall_mem_cons.mp plain
    have notQuote : first ≠ '"' := by
      rintro rfl
      cases isPlain
    rw [List.cons_append, bareChars_cons notQuote, inductionHypothesis others, List.cons_append]

theorem fitsIn_closed_iff {first : Char} {behind : List Char}
    (closes : first = ']' ∨ first = '}') (goesOn : skipGap characters = first :: behind) :
    FitsIn digits levels (bareChars .outside characters) ↔
      FitsIn digits (levels + 1) (bareChars .outside behind) := by
  have notQuote : first ≠ '"' := by rcases closes with rfl | rfl <;> decide
  rw [← fitsIn_skipGap_iff, goesOn, bareChars_cons notQuote, fitsIn_close_iff closes]

theorem fitsIn_separated_iff {first : Char} {behind : List Char}
    (separates : first = ',' ∨ first = ':') (goesOn : skipGap characters = first :: behind) :
    FitsIn digits levels (bareChars .outside characters) ↔
      FitsIn digits levels (bareChars .outside (skipGap behind)) := by
  have plain : first ≠ '"' ∧ isDelimiter first = true ∧ first ∉ ['[', ']', '{', '}'] := by
    rcases separates with rfl | rfl <;> decide
  rw [← fitsIn_skipGap_iff, goesOn, bareChars_cons plain.1,
    fitsIn_delimiter_iff plain.2.1 plain.2.2, fitsIn_skipGap_iff]

theorem readText_fits {text rest : List Char}
    (reads : readText steps characters = some (text, rest)) :
    FitsIn digits levels (bareChars .outside ('"' :: characters)) ↔
      FitsIn digits levels (bareChars .outside rest) := by
  rw [bareChars, if_pos rfl, fitsIn_delimiter_iff (by decide) (by decide),
    bareChars_readText reads]

theorem readLimited_fits (positive : 0 < digits) :
    FitsAsRead digits levels levels characters
      (readLimited ⟨some digits, some levels⟩ characters)
      (readLimited .unlimited characters) := by
  intro value rest reads ends
  unfold readLimited at reads ⊢
  split at reads
  · cases reads
  · rename_i other behind isScalar
    split at reads
    · cases reads
    · obtain ⟨rfl, rfl⟩ := Prod.mk.inj (Except.ok.inj reads)
      obtain ⟨word, rfl, plain, isShort⟩ := readScalar_writesWord positive isScalar
      have endsToo : EndsWord (bareChars .outside behind) := by
        rw [EndsWord, head?_bareChars]
        exact ends
      rw [bareChars_append plain, fitsIn_word_iff plain endsToo, isShort (some levels)]
      refine and_congr_left fun _ => ?_
      split
      · rename_i excluded
        exact iff_of_false (excluded ▸ nofun) nofun
      · rename_i included
        exact iff_of_true (Bool.eq_false_iff.mpr included) rfl

/-- What is in a list or an object is read with one level less. -/
theorem opened_fits {α : Type} {first : Char} (opens : first = '[' ∨ first = '{')
    {next : Limits → Except ReadFault (α × List Char)}
    (inside : ∀ below, FitsAsRead digits below (below + 1) characters
      (next ⟨some digits, some below⟩) (next .unlimited)) :
    FitsAsRead digits levels levels (first :: characters)
      (Limits.opened ⟨some digits, some levels⟩ >>= next)
      (Limits.opened .unlimited >>= next) := by
  intro value rest reads ends
  have notQuote : first ≠ '"' := by rcases opens with rfl | rfl <;> decide
  rw [bareChars_cons notQuote, fitsIn_open_iff opens]
  cases levels with
  | zero =>
    refine iff_of_false (fun ⟨_, noLevel, _⟩ => nomatch noLevel) fun ⟨within, _⟩ => ?_
    cases within
  | succ below =>
    have fits := inside below value rest reads ends
    constructor
    · rintro ⟨_, same, fitsBelow⟩
      obtain rfl := Nat.succ.inj same
      exact fits.mp fitsBelow
    · exact fun within => ⟨below, rfl, fits.mpr within⟩

theorem closed_fits {α : Type} {result : α} {first : Char} {behind : List Char}
    (closes : first = ']' ∨ first = '}') (goesOn : skipGap characters = first :: behind) :
    FitsAsRead digits levels (levels + 1) characters (.ok (result, behind))
      (.ok (result, behind)) := by
  intro value rest reads _
  obtain ⟨rfl, rfl⟩ := Prod.mk.inj (Except.ok.inj reads)
  exact (fitsIn_closed_iff closes goesOn).trans (and_iff_right rfl).symm

section

variable {α β : Type} {middle after : Nat} {limited free : Except ReadFault (α × List Char)}

theorem FitsAsRead.error {fault : ReadFault} :
    FitsAsRead digits levels after characters limited (.error fault) := by
  intro value rest reads
  cases reads

theorem FitsAsRead.of_iff {others : List Char}
    (fits : FitsAsRead digits levels after others limited free)
    (same : FitsIn digits levels (bareChars .outside characters) ↔
      FitsIn digits levels (bareChars .outside others)) :
    FitsAsRead digits levels after characters limited free :=
  fun value rest reads ends => same.trans (fits value rest reads ends)

/-- Two parts in turn, where a word ends behind the first one if it does behind the second one. -/
theorem FitsAsRead.bind (fits : FitsAsRead digits levels middle characters limited free)
    (stops : StopsOnly limited free)
    {next others : α × List Char → Except ReadFault (β × List Char)}
    (each : ∀ value behind,
      FitsAsRead digits middle after behind (next (value, behind)) (others (value, behind)) ∧
        ∀ result rest, others (value, behind) = .ok (result, rest) → EndsWord rest →
          EndsWord behind) :
    FitsAsRead digits levels after characters (limited >>= next) (free >>= others) := by
  intro result rest reads ends
  obtain ⟨⟨value, behind⟩, readsValue, readsRest⟩ := exists_of_bind_eq_ok reads
  obtain ⟨fitsRest, endsBoth⟩ := each value behind
  rw [stops.bind_eq_ok_iff readsValue,
    fits value behind readsValue (endsBoth result rest readsRest ends),
    fitsRest result rest readsRest ends, and_assoc]

/-- What is done with the items or the members does not matter. -/
theorem FitsAsRead.give (fits : FitsAsRead digits levels after characters limited free)
    (stops : StopsOnly limited free) (give : α → β) :
    FitsAsRead digits levels after characters
      (limited >>= fun read => .ok (give read.1, read.2))
      (free >>= fun read => .ok (give read.1, read.2)) := by
  refine fits.bind stops fun value behind => ⟨?_, ?_⟩
  · intro result rest reads _
    obtain ⟨rfl, rfl⟩ := Prod.mk.inj (Except.ok.inj reads)
    exact (and_iff_right rfl).symm
  · intro result rest reads ends
    obtain ⟨rfl, rfl⟩ := Prod.mk.inj (Except.ok.inj reads)
    exact ends

end

end

/-- For all steps: whatever is read fits as it is read. Behind a list or an object there is one
level more than in it. -/
theorem reading_fits {digits : Nat} (positive : 0 < digits) (steps : Nat) :
    ∀ (levels : Nat) (characters : List Char),
      FitsAsRead digits levels levels characters
        (readValue ⟨some digits, some levels⟩ steps characters)
        (readValue .unlimited steps characters) ∧
      FitsAsRead digits levels (levels + 1) characters
        (readItems ⟨some digits, some levels⟩ steps characters)
        (readItems .unlimited steps characters) ∧
      FitsAsRead digits levels (levels + 1) characters
        (readMembers ⟨some digits, some levels⟩ steps characters)
        (readMembers .unlimited steps characters) := by
  induction steps with
  | zero =>
    intro levels characters
    rw [readValue, readValue, readItems, readItems, readMembers, readMembers]
    exact ⟨.error, .error, .error⟩
  | succ steps inductionHypothesis =>
    intro levels characters
    refine ⟨?value, ?items, ?members⟩
    case value =>
      cases characters with
      | nil =>
        rw [readValue, readValue]
        exact .error
      | cons first others =>
        rw [readValue, readValue]
        split
        · rename_i isQuote
          intro value rest reads ends
          split at reads
          · cases reads
          · rename_i text behind readsText
            obtain ⟨rfl, rfl⟩ := Prod.mk.inj (Except.ok.inj reads)
            rw [isQuote, readText_fits readsText]
            exact (and_iff_right rfl).symm
        split
        · rename_i isOpen
          refine opened_fits (.inl isOpen) fun below => ?_
          split
          · rename_i behind goesOn
            exact closed_fits (.inl rfl) goesOn
          · exact ((inductionHypothesis below _).2.1.give (reading_stopsOnly _ _ _).2.1
              Json.array).of_iff fitsIn_skipGap_iff.symm
        split
        · rename_i isOpen
          refine opened_fits (.inr isOpen) fun below => ?_
          split
          · rename_i behind goesOn
            exact closed_fits (.inr rfl) goesOn
          · exact ((inductionHypothesis below _).2.2.give (reading_stopsOnly _ _ _).2.2
              (Json.object ∘ uniqueMembers)).of_iff fitsIn_skipGap_iff.symm
        · exact readLimited_fits positive
    case items =>
      rw [readItems, readItems]
      refine (inductionHypothesis _ _).1.bind (reading_stopsOnly _ _ _).1 fun item behind => ?_
      dsimp only
      split
      · rename_i others goesOn
        exact ⟨closed_fits (.inl rfl) goesOn,
          fun _ _ _ _ => endsWord_of_skipGap goesOn (by decide)⟩
      · rename_i others goesOn
        exact ⟨((inductionHypothesis _ _).2.1.give (reading_stopsOnly _ _ _).2.1
          (item :: ·)).of_iff (fitsIn_separated_iff (.inl rfl) goesOn),
          fun _ _ _ _ => endsWord_of_skipGap goesOn (by decide)⟩
      · exact ⟨.error, fun _ _ reads => by cases reads⟩
    case members =>
      unfold readMembers
      split
      · exact .error
      · rename_i steps rest same
        obtain rfl := Nat.succ.inj same
        split
        · exact .error
        · rename_i key behindKey readsKey
          split
          · rename_i first goesOn
            refine .of_iff (.bind (inductionHypothesis _ _).1 (reading_stopsOnly _ _ _).1
              fun value behind => ?_)
              ((readText_fits readsKey).trans (fitsIn_separated_iff (.inr rfl) goesOn))
            dsimp only
            split
            · rename_i others goesOn
              exact ⟨closed_fits (.inr rfl) goesOn,
                fun _ _ _ _ => endsWord_of_skipGap goesOn (by decide)⟩
            · rename_i others goesOn
              exact ⟨((inductionHypothesis _ _).2.2.give (reading_stopsOnly _ _ _).2.2
                ((String.ofList key, value) :: ·)).of_iff
                  (fitsIn_separated_iff (.inl rfl) goesOn),
                fun _ _ _ _ => endsWord_of_skipGap goesOn (by decide)⟩
            · exact ⟨.error, fun _ _ reads => by cases reads⟩
          · exact .error
      · exact .error

/-- For all limits: what is read without limits is read within them exactly if it fits. -/
theorem readWithin_eq_ok_iff {digits levels : Nat} (positive : 0 < digits) {text : String}
    {value : Json} (reads : readWithin .unlimited text = .ok value) :
    readWithin ⟨some digits, some levels⟩ text = .ok value ↔
      FitsIn digits levels (bareChars .outside text.toList) := by
  obtain ⟨⟨found, rest⟩, readsFound, readsEnd⟩ := exists_of_bind_eq_ok reads
  have finishes : skipGap rest = [] := by
    dsimp only at readsEnd
    split at readsEnd
    · assumption
    · cases readsEnd
  have ends : EndsWord rest := .of_skipGap (finishes ▸ nofun)
  have fitsRest : FitsIn digits levels (bareChars .outside rest) := by
    rw [← fitsIn_skipGap_iff, finishes]
    exact fitsIn_nil
  rw [← fitsIn_skipGap_iff, (reading_fits positive _ levels _).1 found rest readsFound ends,
    and_iff_left fitsRest]
  exact ((reading_stopsOnly _ _ _).1.bind_eq_ok_iff readsFound).trans (and_iff_left readsEnd)

/-! ### Files -/

/-- The text of a file keeps within the limits of files: outside of quotes, lists and objects are
nested at most 989 levels deep, and no word writes a whole number of more than 4300 digits. -/
def KeepsFileLimits (text : String) : Prop :=
  FitsIn digitLimit 989 (bareChars .outside text.toList)

/-- The text of a file is read as it would be without limits, if it keeps within them. -/
theorem ofFileText_eq_ok_iff {text : String} {value : Json} (reads : read? text = some value)
    {found : Option Json} :
    ofFileText text = .ok found ↔ KeepsFileLimits text ∧ found = some value := by
  have readsFree : readWithin .unlimited text = .ok value := by
    unfold read? at reads
    cases free : readWithin .unlimited text with
    | error fault =>
      rw [free] at reads
      cases reads
    | ok other =>
      rw [free] at reads
      exact congrArg _ (Option.some.inj reads)
  have fits : readWithin .ofFiles text = .ok value ↔ KeepsFileLimits text :=
    readWithin_eq_ok_iff (by decide) readsFree
  have stops := readWithin_stopsOnly .ofFiles text
  rw [← fits]
  unfold ofFileText
  cases within : readWithin .ofFiles text with
  | ok other =>
    obtain rfl := Except.ok.inj ((stops.eq_ok within).symm.trans readsFree)
    simp [eq_comm]
  | error fault =>
    cases fault with
    | malformed =>
      rw [stops.eq_malformed within] at readsFree
      cases readsFree
    | beyond limit => simp

end Json

end ContractClient
