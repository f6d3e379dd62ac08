/-
This file holds the names of files. A file is named by bytes: a text names the file whose bytes
write its characters in UTF-8, and in place of a byte that belongs to no character the text holds
the lone surrogate that lies as far behind U+DC00. Several texts may name one file; the one that
is read from the bytes is the name under which the file is listed.
-/

import ContractClient.Text.Surrogate

namespace ContractClient

/-! ### Bytes -/

/-- Whether the piece can stand in a name: a character, or the place of a byte that belongs to
none. -/
def TextPiece.isNameable : TextPiece → Bool
  | character _ => true
  | loneSurrogate unit => 0xdc80 ≤ unit && unit < 0xdd00

/-- Whether the text can be written as the name of a file. -/
def isNameable (text : String) : Bool :=
  (textPieces text.toList).all TextPiece.isNameable

/-- The bytes of a piece of a name. -/
def TextPiece.bytes : TextPiece → List UInt8
  | character plain => String.utf8EncodeChar plain
  | loneSurrogate unit => [UInt8.ofNat (unit - 0xdc00)]

/-- The bytes of a name. -/
def nameBytes (name : String) : List UInt8 :=
  (textPieces name.toList).flatMap TextPiece.bytes

/-! ### Reading bytes -/

/-- The code point that up to four bytes write together, if they are well formed. -/
def bytesPoint : List UInt8 → Nat
  | [first] => first.toNat
  | [first, second] => first.toNat % 32 * 64 + second.toNat % 64
  | [first, second, third] =>
    (first.toNat % 16 * 64 + second.toNat % 64) * 64 + third.toNat % 64
  | [first, second, third, fourth] =>
    ((first.toNat % 8 * 64 + second.toNat % 64) * 64 + third.toNat % 64) * 64 +
      fourth.toNat % 64
  | _ => 0

/-- The character whose bytes are these. -/
def charOfBytes? (bytes : List UInt8) : Option Char :=
  let character := Char.ofNat (bytesPoint bytes)
  if String.utf8EncodeChar character = bytes then some character else none

/-- The character whose bytes come first, and the number of its bytes. -/
def firstChar? (bytes : List UInt8) : Option (Char × Nat) :=
  [1, 2, 3, 4].findSome? fun count =>
    (charOfBytes? (bytes.take count)).map fun character => (character, count)

/-- What the bytes write behind the first few of them, which are read already. -/
def bytesPieces : Nat → List UInt8 → List TextPiece
  | _, [] => []
  | known + 1, _ :: rest => bytesPieces known rest
  | 0, byte :: rest =>
    match firstChar? (byte :: rest) with
    | some (character, count) => .character character :: bytesPieces (count - 1) rest
    | none => .loneSurrogate (0xdc00 + byte.toNat) :: bytesPieces 0 rest

/-- The name under which the file of the given name is listed. -/
def listedName (name : String) : String :=
  String.ofList ((bytesPieces 0 (nameBytes name)).flatMap TextPiece.held)

end ContractClient
