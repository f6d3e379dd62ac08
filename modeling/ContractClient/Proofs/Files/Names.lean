/-
This file proves that a file is listed under a name of its own. What is read from bytes has these
bytes again (`bytesPieces_bytes`), and is read back from the text that holds it; so a name and the
one that it is listed under have the same bytes, and two texts of characters with the same bytes are
the same text (`listedName_injective`).
-/

import ContractClient.FileName

namespace ContractClient

/-! ### Bytes -/

theorem charOfBytes?_bytes {bytes : List UInt8} {character : Char}
    (reads : charOfBytes? bytes = some character) : String.utf8EncodeChar character = bytes := by
  simp only [charOfBytes?] at reads
  split at reads
  · rename_i same
    exact Option.some.inj reads ▸ same
  · cases reads

theorem firstChar?_bytes {bytes : List UInt8} {character : Char} {count : Nat}
    (reads : firstChar? bytes = some (character, count)) :
    0 < count ∧ String.utf8EncodeChar character = bytes.take count := by
  obtain ⟨tried, isTried, reads⟩ := List.exists_of_findSome?_eq_some reads
  obtain ⟨other, readsOther, same⟩ := Option.map_eq_some_iff.mp reads
  obtain ⟨rfl, rfl⟩ := Prod.mk.inj same
  refine ⟨?_, charOfBytes?_bytes readsOther⟩
  simp only [List.mem_cons, List.not_mem_nil, or_false] at isTried
  omega

/-- What is read from bytes has these bytes. -/
theorem bytesPieces_bytes (known : Nat) (bytes : List UInt8) :
    (bytesPieces known bytes).flatMap TextPiece.bytes = bytes.drop known := by
  induction bytes generalizing known with
  | nil => cases known <;> rfl
  | cons byte rest inductionHypothesis =>
    cases known with
    | succ known => exact inductionHypothesis known
    | zero =>
      rw [bytesPieces]
      cases reads : firstChar? (byte :: rest) with
      | none =>
        have sameByte : UInt8.ofNat (0xdc00 + byte.toNat - 0xdc00) = byte := by
          rw [Nat.add_sub_cancel_left, UInt8.ofNat_toNat]
        simp only [List.flatMap_cons, TextPiece.bytes, inductionHypothesis, sameByte]
        rfl
      | some first =>
        obtain ⟨character, count⟩ := first
        obtain ⟨positive, encodes⟩ := firstChar?_bytes reads
        obtain ⟨count, rfl⟩ := Nat.exists_eq_succ_of_ne_zero (Nat.ne_of_gt positive)
        simp only [List.flatMap_cons, TextPiece.bytes, inductionHypothesis, encodes]
        exact List.take_append_drop (count + 1) (byte :: rest)

/-! ### Pieces that are held -/

/-- The piece is one that a text can hold. -/
def TextPiece.IsHoldable : TextPiece → Prop
  | character _ => True
  | loneSurrogate unit => isHighSurrogate unit || isLowSurrogate unit

/-- The mark holds a piece together with the character behind it. -/
theorem textPieces_mark {second : Char} {piece : TextPiece}
    (holds : TextPiece.ofSecond? second = some piece) (rest : List Char) :
    textPieces (heldMark :: second :: rest) = piece :: textPieces rest := by
  -- Rewriting with the definition would also unfold the pieces of the rest.
  refine (if_pos (rfl : heldMark = heldMark)).trans ?_
  rw [holds]

/-- A piece is read back from the characters that hold it. -/
theorem textPieces_held {piece : TextPiece} (holdable : piece.IsHoldable) (rest : List Char) :
    textPieces (piece.held ++ rest) = piece :: textPieces rest := by
  cases piece with
  | character plain =>
    rw [TextPiece.held, heldChar]
    split
    · rename_i same
      subst same
      rfl
    · rename_i plain
      exact textPieces_cons plain rest
  | loneSurrogate unit =>
    simp only [TextPiece.IsHoldable, isHighSurrogate, isLowSurrogate, Bool.or_eq_true,
      Bool.and_eq_true, decide_eq_true_eq] at holdable
    have valid : (unit + heldShift).isValidChar := by
      unfold Nat.isValidChar heldShift
      omega
    have code : (Char.ofNat (unit + heldShift)).toNat - heldShift = unit := by
      rw [Char.ofNat, dif_pos valid]
      exact Nat.add_sub_cancel unit heldShift
    have mark : heldMark.toNat = 0xe000 := by decide
    have notMark : unit ≠ heldMark.toNat := by omega
    have second : TextPiece.ofSecond? (Char.ofNat (unit + heldShift)) =
        some (.loneSurrogate unit) := by
      simp only [TextPiece.ofSecond?, code, if_neg notMark]
      refine if_pos ?_
      simp only [isHighSurrogate, isLowSurrogate, Bool.or_eq_true, Bool.and_eq_true,
        decide_eq_true_eq]
      omega
    exact textPieces_mark second rest

theorem textPieces_flatMap_held {pieces : List TextPiece}
    (holdable : ∀ piece ∈ pieces, piece.IsHoldable) :
    textPieces (pieces.flatMap TextPiece.held) = pieces := by
  induction pieces with
  | nil => rfl
  | cons piece rest inductionHypothesis =>
    rw [List.flatMap_cons, textPieces_held (holdable piece List.mem_cons_self),
      inductionHypothesis fun other isLater => holdable other (List.mem_cons_of_mem _ isLater)]

theorem bytesPieces_holdable (known : Nat) (bytes : List UInt8) :
    ∀ piece ∈ bytesPieces known bytes, piece.IsHoldable := by
  induction bytes generalizing known with
  | nil => cases known <;> exact nofun
  | cons byte rest inductionHypothesis =>
    cases known with
    | succ known => exact inductionHypothesis known
    | zero =>
      rw [bytesPieces]
      cases firstChar? (byte :: rest) with
      | some first => exact List.forall_mem_cons.mpr ⟨trivial, inductionHypothesis _⟩
      | none =>
        refine List.forall_mem_cons.mpr ⟨?_, inductionHypothesis _⟩
        have small : byte.toNat < 256 := byte.toNat_lt
        simp only [TextPiece.IsHoldable, isLowSurrogate, Bool.or_eq_true, Bool.and_eq_true,
          decide_eq_true_eq]
        omega

/-! ### Names -/

/-- A name and the one that it is listed under have the same bytes. -/
theorem nameBytes_listedName (name : String) : nameBytes (listedName name) = nameBytes name := by
  rw [nameBytes, listedName, String.toList_ofList,
    textPieces_flatMap_held (bytesPieces_holdable 0 _), bytesPieces_bytes, List.drop_zero]

/-- The bytes of a text of characters are those of its characters. -/
theorem nameBytes_of_plain {name : String} (plain : heldMark ∉ name.toList) :
    nameBytes name = name.toList.flatMap String.utf8EncodeChar := by
  have pieces : ∀ characters : List Char, heldMark ∉ characters →
      (textPieces characters).flatMap TextPiece.bytes =
        characters.flatMap String.utf8EncodeChar := by
    intro characters
    induction characters with
    | nil => exact fun _ => rfl
    | cons first rest inductionHypothesis =>
      intro plain
      obtain ⟨isPlain, plain⟩ := not_or.mp (mt List.mem_cons.mpr plain)
      rw [textPieces_cons (Ne.symm isPlain), List.flatMap_cons, List.flatMap_cons,
        inductionHypothesis plain]
      rfl
  exact pieces name.toList plain

/-- Texts of characters are listed under one name only if they are the same. -/
theorem listedName_injective {first second : String} (isPlain : heldMark ∉ first.toList)
    (isPlainToo : heldMark ∉ second.toList) (same : listedName first = listedName second) :
    first = second := by
  have sameBytes : nameBytes first = nameBytes second := by
    rw [← nameBytes_listedName first, same, nameBytes_listedName]
  rw [nameBytes_of_plain isPlain, nameBytes_of_plain isPlainToo] at sameBytes
  have sameEncoding : first.toList.utf8Encode = second.toList.utf8Encode :=
    congrArg List.toByteArray sameBytes
  rw [String.utf8Encode_toList, String.utf8Encode_toList] at sameEncoding
  exact String.toByteArray_inj.mp sameEncoding

end ContractClient
