/-
This file gives the text of a JSON value inside a message. A text stands as it is; inside a list
or an object it stands between quotes, with what has no printed form written as an escape.
-/

import ContractClient.Json.Writer
import ContractClient.Text.Printable

namespace ContractClient

namespace Json

/-! ### Quoted texts -/

/-- The quote put around a text: the single one, unless the text has single quotes and no double
one. -/
def displayQuote (text : String) : Char :=
  if text.contains '\'' && !text.contains '"' then '"' else '\''

/-- The lowest `count` hexadecimal digits of a number. -/
def hexDigits : Nat → Nat → List Char
  | 0, _ => []
  | count + 1, value => hexDigits count (value / 16) ++ [hexDigit value]

/-- A character without a printed form, as an escape of two, four or eight digits. -/
def displayEscape (character : Char) : List Char :=
  let point := character.toNat
  if point < 0x100 then '\\' :: 'x' :: hexDigits 2 point
  else if point < 0x10000 then '\\' :: 'u' :: hexDigits 4 point
  else '\\' :: 'U' :: hexDigits 8 point

/-- A character between the given quotes. -/
def displayChar (quote character : Char) : List Char :=
  if character == quote || character == '\\' then ['\\', character]
  else if character == '\n' then ['\\', 'n']
  else if character == '\r' then ['\\', 'r']
  else if character == '\t' then ['\\', 't']
  else if isPrintable character then [character]
  else displayEscape character

/-- A piece of a text between the given quotes. -/
def displayPiece (quote : Char) : TextPiece → List Char
  | .character character => displayChar quote character
  | .loneSurrogate unit => '\\' :: 'u' :: hexDigits 4 unit

/-- A text between quotes. -/
def displayText (text : String) : String :=
  let quote := displayQuote text
  String.ofList (quote :: ((textPieces text.toList).flatMap (displayPiece quote) ++ [quote]))

/-! ### Values -/

/-- The spelling of floating-point values in messages. -/
def displayFloats : FloatSpelling := ⟨"nan", "inf"⟩

mutual

/-- A value inside a list or an object. -/
def displayNested : Json → String
  | null => "None"
  | boolean true => "True"
  | boolean false => "False"
  | integer value => toString value
  | float bits => floatText displayFloats bits
  | text value => displayText value
  | array items => "[" ++ ", ".intercalate (displayItems items) ++ "]"
  | object members => "\x7b" ++ ", ".intercalate (displayMembers members) ++ "\x7d"
termination_by structural value => value

/-- The items of a list. -/
def displayItems : List Json → List String
  | [] => []
  | item :: rest => displayNested item :: displayItems rest
termination_by structural items => items

/-- The members of an object. -/
def displayMembers : List (String × Json) → List String
  | [] => []
  | (key, value) :: rest => (displayText key ++ ": " ++ displayNested value) :: displayMembers rest
termination_by structural members => members

end

/-- The text of a value inside a message. -/
def display : Json → String
  | text value => value
  | value => displayNested value

end Json

end ContractClient
