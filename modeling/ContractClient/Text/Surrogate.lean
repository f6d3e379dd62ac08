/-
This file holds texts that may have lone surrogates. A JSON text may name one half of a pair of
UTF-16 units without the other. Such a half is no character, so two characters hold its place: a
mark, which is the first character behind the halves, and a private one that tells which half it
is. Where the character of the mark itself is meant, two characters hold it as well.

So every sequence of characters and halves is held by one text only, joined sequences by joined
texts, and the order of the texts is the order of what they hold. A text of characters is read
back from the text that holds it (`textPieces_heldChars`).
-/

namespace ContractClient

/-! ### Units -/

/-- Whether the unit is the first half of a pair. -/
def isHighSurrogate (unit : Nat) : Bool :=
  0xd800 ≤ unit && unit < 0xdc00

/-- Whether the unit is the second half of a pair. -/
def isLowSurrogate (unit : Nat) : Bool :=
  0xdc00 ≤ unit && unit < 0xe000

/-- The character of a pair of halves. -/
def pairedChar (high low : Nat) : Char :=
  Char.ofNat (0x10000 + (high - 0xd800) * 0x400 + (low - 0xdc00))

/-! ### Holding -/

/-- The first of two characters that hold what one character cannot. -/
def heldMark : Char := '\ue000'

/-- How far the second of the two characters lies behind the code that it tells. -/
def heldShift : Nat := 0x800

/-- The two characters that hold a half, or the mark. -/
def heldCode (code : Nat) : List Char :=
  [heldMark, Char.ofNat (code + heldShift)]

/-- The characters that hold a character. -/
def heldChar (character : Char) : List Char :=
  if character = heldMark then heldCode heldMark.toNat else [character]

/-- The characters that hold a sequence of characters. -/
def heldChars (characters : List Char) : List Char :=
  characters.flatMap heldChar

/-- The text that holds a text of characters. -/
def heldText (text : String) : String :=
  String.ofList (heldChars text.toList)

/-! ### Pieces -/

/-- What a text holds. -/
inductive TextPiece where
  | character (character : Char)
  | loneSurrogate (unit : Nat)
deriving Repr, DecidableEq

/-- The characters that hold a piece. -/
def TextPiece.held : TextPiece → List Char
  | character plain => heldChar plain
  | loneSurrogate unit => heldCode unit

/-- What the mark holds together with the character behind it. -/
def TextPiece.ofSecond? (second : Char) : Option TextPiece :=
  let code := second.toNat - heldShift
  if code = heldMark.toNat then some (.character heldMark)
  else if isHighSurrogate code || isLowSurrogate code then some (.loneSurrogate code)
  else none

/-- What the characters of a text hold. -/
def textPieces : List Char → List TextPiece
  | [] => []
  | [only] => [.character only]
  | first :: second :: rest =>
    if first = heldMark then
      match TextPiece.ofSecond? second with
      | some piece => piece :: textPieces rest
      | none => .character first :: textPieces (second :: rest)
    else .character first :: textPieces (second :: rest)

theorem textPieces_cons {first : Char} (plain : first ≠ heldMark) (rest : List Char) :
    textPieces (first :: rest) = .character first :: textPieces rest := by
  cases rest with
  | nil => rfl
  | cons second rest => exact if_neg plain

/-- What holds characters holds nothing else. -/
theorem textPieces_heldChars (characters : List Char) :
    textPieces (heldChars characters) = characters.map .character := by
  induction characters with
  | nil => rfl
  | cons first rest inductionHypothesis =>
    rw [heldChars, List.flatMap_cons, List.map_cons, ← inductionHypothesis, heldChar]
    split
    · rename_i same
      subst same
      rfl
    · rename_i plain
      exact textPieces_cons plain _

/-! ### Texts of characters -/

/-- Whether the piece is a character. -/
def TextPiece.isCharacter : TextPiece → Bool
  | character _ => true
  | loneSurrogate _ => false

/-- Whether the text holds characters only, so that it can be written to a file. -/
def isWritable (text : String) : Bool :=
  (textPieces text.toList).all TextPiece.isCharacter

/-- The character that is shown for a piece. -/
def TextPiece.shown : TextPiece → Char
  | character plain => plain
  | loneSurrogate _ => '\ufffd'

/-- The text as it is shown, where one character stands for all halves. -/
def shownText (text : String) : String :=
  String.ofList ((textPieces text.toList).map TextPiece.shown)

end ContractClient
