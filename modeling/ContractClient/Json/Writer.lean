/-
This file writes JSON values as compact texts of printable ASCII: no blanks between tokens, and
every character outside the printable ASCII range as an escape of its UTF-16 units, as is every
lone surrogate.
-/

import ContractClient.Json.Basic
import ContractClient.Decimal.Shortest
import ContractClient.Text.Surrogate

namespace ContractClient

namespace Json

/-! ### Texts -/

/-- One hexadecimal digit in lower case. -/
def hexDigit (value : Nat) : Char :=
  Nat.digitChar (value % 16)

/-- A UTF-16 unit as an escape. -/
def escapeUnit (unit : Nat) : List Char :=
  ['\\', 'u', hexDigit (unit / 4096), hexDigit (unit / 256), hexDigit (unit / 16), hexDigit unit]

/-- A character inside a written text. -/
def escapeChar (character : Char) : List Char :=
  match character with
  | '"' => ['\\', '"']
  | '\\' => ['\\', '\\']
  | '\n' => ['\\', 'n']
  | '\r' => ['\\', 'r']
  | '\t' => ['\\', 't']
  | '\x08' => ['\\', 'b']
  | '\x0c' => ['\\', 'f']
  | _ =>
    let point := character.toNat
    if 0x20 ≤ point && point < 0x7f then [character]
    else if point < 0x10000 then escapeUnit point
    else
      escapeUnit (0xd800 + (point - 0x10000) / 0x400) ++
        escapeUnit (0xdc00 + (point - 0x10000) % 0x400)

/-- A piece of a text inside a written text. -/
def escapePiece : TextPiece → List Char
  | .character character => escapeChar character
  | .loneSurrogate unit => escapeUnit unit

/-- A text between quotes. -/
def quoteChars (text : String) : List Char :=
  '"' :: ((textPieces text.toList).flatMap escapePiece ++ ['"'])

/-! ### Values -/

/-- The spelling of floating-point values in JSON texts. -/
def floatSpelling : FloatSpelling := ⟨"NaN", "Infinity"⟩

/-- The lists of characters with a comma between any two of them. -/
def commaSeparated : List (List Char) → List Char
  | [] => []
  | [only] => only
  | first :: rest => first ++ ',' :: commaSeparated rest

mutual

/-- The characters of a written value. -/
def writeChars : Json → List Char
  | null => ['n', 'u', 'l', 'l']
  | boolean true => ['t', 'r', 'u', 'e']
  | boolean false => ['f', 'a', 'l', 's', 'e']
  | integer value => (toString value).toList
  | float bits => (floatText floatSpelling bits).toList
  | text value => quoteChars value
  | array items => '[' :: (commaSeparated (writeItems items) ++ [']'])
  | object members => '{' :: (commaSeparated (writeMembers members) ++ ['}'])
termination_by structural value => value

/-- The written items of a list. -/
def writeItems : List Json → List (List Char)
  | [] => []
  | item :: rest => writeChars item :: writeItems rest
termination_by structural items => items

/-- The written members of an object. -/
def writeMembers : List (String × Json) → List (List Char)
  | [] => []
  | (key, value) :: rest => (quoteChars key ++ ':' :: writeChars value) :: writeMembers rest
termination_by structural members => members

end

/-- The value as a JSON text. -/
def write (value : Json) : String :=
  String.ofList (writeChars value)

end Json

end ContractClient
