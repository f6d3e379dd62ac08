/-
This file reads JSON texts. The grammar is the usual one with three words more, for the
floating-point values that are no numbers. Among members of one key the last value counts, at
the place of the first. A number with a fraction or an exponent is a floating-point number, and
any other is whole and of any size. Limits may be set to the digits of a whole number and to the
depth of lists and objects. Two steps at most are taken for each character, so twice their number
always suffices.
-/

import ContractClient.Json.Limits
import ContractClient.Decimal.Binary64
import ContractClient.Text.Surrogate

namespace ContractClient

namespace Json

/-! ### Blanks and digits -/

/-- Whether the character may stand between two tokens. -/
def isGap (character : Char) : Bool :=
  character == ' ' || character == '\t' || character == '\n' || character == '\r'

/-- The characters from the first token on. -/
def skipGap (characters : List Char) : List Char :=
  characters.dropWhile isGap

/-- The value of a hexadecimal digit. -/
def hexValue? (character : Char) : Option Nat :=
  if '0' ≤ character && character ≤ '9' then some (character.toNat - '0'.toNat)
  else if 'a' ≤ character && character ≤ 'f' then some (character.toNat - 'a'.toNat + 10)
  else if 'A' ≤ character && character ≤ 'F' then some (character.toNat - 'A'.toNat + 10)
  else none

/-- Four hexadecimal digits as one number, and what follows them. -/
def readHex4 : List Char → Option (Nat × List Char)
  | first :: second :: third :: fourth :: rest => do
    let first ← hexValue? first
    let second ← hexValue? second
    let third ← hexValue? third
    let fourth ← hexValue? fourth
    some (((first * 16 + second) * 16 + third) * 16 + fourth, rest)
  | _ => none

/-- The number that ASCII digits write in base ten. -/
def digitsNumber (digits : List Char) : Nat :=
  digits.foldl (fun number digit => 10 * number + (digit.toNat - '0'.toNat)) 0

/-! ### Texts -/

/-- The character that stands for itself, or for a control character, after a backslash. -/
def shortEscape? : Char → Option Char
  | '"' => some '"'
  | '\\' => some '\\'
  | '/' => some '/'
  | 'b' => some '\x08'
  | 'f' => some '\x0c'
  | 'n' => some '\n'
  | 'r' => some '\r'
  | 't' => some '\t'
  | _ => none

/-- The low surrogate that an escape at the head of the characters writes, and what follows. -/
def readLowSurrogate : List Char → Option (Nat × List Char)
  | '\\' :: 'u' :: rest => do
    let (unit, rest) ← readHex4 rest
    if isLowSurrogate unit then some (unit, rest) else none
  | _ => none

/-- What one unit of a `\u` escape writes, together with a low surrogate if one follows, and the
rest. A surrogate without its partner is held by two characters. -/
def readUnit (characters : List Char) : Option (List Char × List Char) := do
  let (unit, rest) ← readHex4 characters
  if isHighSurrogate unit then
    match readLowSurrogate rest with
    | some (low, rest) => some ([pairedChar unit low], rest)
    | none => some (heldCode unit, rest)
  else if isLowSurrogate unit then some (heldCode unit, rest)
  else some (heldChar (Char.ofNat unit), rest)

/-- What an escape writes, read from behind its backslash, and the rest. -/
def readEscape : List Char → Option (List Char × List Char)
  | [] => none
  | letter :: rest =>
    if letter = 'u' then readUnit rest else (shortEscape? letter).map fun meant => ([meant], rest)

/-- The characters of a text up to its closing quote, and what follows the quote. -/
def readText : Nat → List Char → Option (List Char × List Char)
  | 0, _ => none
  | _ + 1, [] => none
  | steps + 1, first :: rest =>
    if first = '"' then some ([], rest)
    else do
      let (meant, rest) ←
        if first = '\\' then readEscape rest
        else if first.toNat < 0x20 then none
        else some ([first], rest)
      let (characters, rest) ← readText steps rest
      some (meant ++ characters, rest)

/-! ### Numbers -/

/-- The digits of a whole number without a superfluous zero in front, and the rest. -/
def readWhole : List Char → Option (List Char × List Char)
  | '0' :: rest => some (['0'], rest)
  | characters =>
    match characters.takeWhile Char.isDigit with
    | [] => none
    | digits => some (digits, characters.dropWhile Char.isDigit)

/-- The digits after a point, if there are any, and the rest. -/
def readFraction (characters : List Char) : Option (List Char) × List Char :=
  match characters with
  | '.' :: rest =>
    match rest.takeWhile Char.isDigit with
    | [] => (none, characters)
    | digits => (some digits, rest.dropWhile Char.isDigit)
  | _ => (none, characters)

/-- The sign of an exponent, and the rest. -/
def readExponentSign : List Char → Bool × List Char
  | '-' :: rest => (true, rest)
  | '+' :: rest => (false, rest)
  | characters => (false, characters)

/-- The power of ten after the letter `e`, if there is one, and the rest. -/
def readExponent (characters : List Char) : Option Int × List Char :=
  match characters with
  | letter :: rest =>
    if letter == 'e' || letter == 'E' then
      let (negative, rest) := readExponentSign rest
      match rest.takeWhile Char.isDigit with
      | [] => (none, characters)
      | digits =>
        let power : Int := digitsNumber digits
        (some (if negative then -power else power), rest.dropWhile Char.isDigit)
    else (none, characters)
  | [] => (none, characters)

/-- A number with its sign already read, and the rest. -/
def readUnsigned (negative : Bool) (characters : List Char) : Option (Json × List Char) := do
  let (whole, rest) ← readWhole characters
  let (fraction?, rest) := readFraction rest
  let (power?, rest) := readExponent rest
  match fraction?, power? with
  | none, none =>
    let number : Int := digitsNumber whole
    some (.integer (if negative then -number else number), rest)
  | _, _ =>
    let fraction := fraction?.getD []
    let power := power?.getD 0
    let digits := digitsNumber (whole ++ fraction)
    some (.float (nearestBinary64 negative digits (power - fraction.length)), rest)

/-- A number, and the rest. -/
def readNumber : List Char → Option (Json × List Char)
  | '-' :: rest => readUnsigned true rest
  | characters => readUnsigned false characters

/-! ### Words -/

/-- The words that stand for values. -/
def valueWords : List (String × Json) :=
  [("null", .null), ("true", .boolean true), ("false", .boolean false),
    ("NaN", .float undefinedBits), ("Infinity", .float infiniteBits),
    ("-Infinity", .float (infiniteBits ||| 0x8000000000000000))]

/-- What follows the word, if the characters begin with it. -/
def afterWord? : List Char → List Char → Option (List Char)
  | [], rest => some rest
  | _ :: _, [] => none
  | letter :: word, character :: rest => if letter = character then afterWord? word rest else none

/-- The value of the first of the words that the characters begin with, and the rest. -/
def readWord (words : List (String × Json)) (characters : List Char) :
    Option (Json × List Char) :=
  words.findSome? fun entry =>
    (afterWord? entry.1.toList characters).map fun rest => (entry.2, rest)

/-- A word or a number, and the rest. -/
def readScalar (characters : List Char) : Option (Json × List Char) :=
  (readWord valueWords characters).or (readNumber characters)

/-! ### Limits -/

/-- Why characters do not write a value. -/
inductive ReadFault where
  | malformed
  /-- What they write goes beyond a limit. -/
  | beyond (limit : Defect)
deriving Repr, DecidableEq

/-- The limits inside one more list or object that is read. -/
def Limits.opened (limits : Limits) : Except ReadFault Limits :=
  limits.inside.mapError .beyond

/-- A word or a number within the limits, and the rest. -/
def readLimited (limits : Limits) (characters : List Char) :
    Except ReadFault (Json × List Char) :=
  match readScalar characters with
  | none => .error .malformed
  | some (value, rest) =>
    if limits.excludes value then .error (.beyond .longNumber) else .ok (value, rest)

/-! ### Values -/

mutual

/-- One value at the head of the characters, and the rest. -/
def readValue (limits : Limits) : Nat → List Char → Except ReadFault (Json × List Char)
  | 0, _ => .error .malformed
  | _ + 1, [] => .error .malformed
  | steps + 1, first :: rest =>
    if first = '"' then
      match readText steps rest with
      | none => .error .malformed
      | some (characters, rest) => .ok (.text (String.ofList characters), rest)
    else if first = '[' then do
      let limits ← limits.opened
      match skipGap rest with
      | ']' :: rest => .ok (.array [], rest)
      | rest =>
        let (items, rest) ← readItems limits steps rest
        .ok (.array items, rest)
    else if first = '{' then do
      let limits ← limits.opened
      match skipGap rest with
      | '}' :: rest => .ok (.object [], rest)
      | rest =>
        let (members, rest) ← readMembers limits steps rest
        .ok (.object (uniqueMembers members), rest)
    else readLimited limits (first :: rest)

/-- The items of a list from one of them on, and what follows the closing bracket. -/
def readItems (limits : Limits) :
    Nat → List Char → Except ReadFault (List Json × List Char)
  | 0, _ => .error .malformed
  | steps + 1, characters => do
    let (item, rest) ← readValue limits steps characters
    match skipGap rest with
    | ']' :: rest => .ok ([item], rest)
    | ',' :: rest =>
      let (items, rest) ← readItems limits steps (skipGap rest)
      .ok (item :: items, rest)
    | _ => .error .malformed

/-- The members of an object from one of them on, and what follows the closing brace. -/
def readMembers (limits : Limits) :
    Nat → List Char → Except ReadFault (List (String × Json) × List Char)
  | 0, _ => .error .malformed
  | steps + 1, '"' :: rest =>
    match readText steps rest with
    | none => .error .malformed
    | some (key, rest) =>
      match skipGap rest with
      | ':' :: rest => do
        let (value, rest) ← readValue limits steps (skipGap rest)
        let entry := (String.ofList key, value)
        match skipGap rest with
        | '}' :: rest => .ok ([entry], rest)
        | ',' :: rest =>
          let (members, rest) ← readMembers limits steps (skipGap rest)
          .ok (entry :: members, rest)
        | _ => .error .malformed
      | _ => .error .malformed
  | _ + 1, _ => .error .malformed

end

/-- The value that the characters write within the limits, if they write one and nothing else. -/
def readChars (limits : Limits) (characters : List Char) : Except ReadFault Json := do
  let (value, rest) ← readValue limits (2 * characters.length + 1) (skipGap characters)
  match skipGap rest with
  | [] => .ok value
  | _ => .error .malformed

/-- The value that the text writes within the limits, if it is a JSON text. -/
def readWithin (limits : Limits) (text : String) : Except ReadFault Json :=
  readChars limits text.toList

/-- The value that the text writes, if it is a JSON text. -/
def read? (text : String) : Option Json :=
  (readWithin .unlimited text).toOption

end Json

end ContractClient
