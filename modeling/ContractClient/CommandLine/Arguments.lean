/-
This file reads the arguments of the command line: one input file and a few switches. A long
switch may be cut short as long as it stays the only one of its beginning; a value stands behind
its switch, after an equals sign or as the next argument; short switches may be joined, and an
equals sign may stand behind the first of them. Behind two dashes nothing is a switch any more,
and as a value attached to a switch they stand for no value.
-/

import ContractClient.Text.Blank
import ContractClient.Text.DecimalDigit

namespace ContractClient

/-! ### Switches -/

/-- The switches of the program. -/
inductive Switch where
  | help
  | output
  | stdout
  | solcVersion
  | config
  | contract
  | verbose
deriving Repr, DecidableEq

namespace Switch

/-- All switches. -/
def all : List Switch :=
  [help, output, stdout, solcVersion, config, contract, verbose]

/-- The long name of a switch. -/
def longName : Switch → String
  | help => "--help"
  | output => "--output"
  | stdout => "--stdout"
  | solcVersion => "--solc-version"
  | config => "--config"
  | contract => "--contract"
  | verbose => "--verbose"

/-- The letter of a switch. -/
def letter? : Switch → Option Char
  | help => some 'h'
  | output => some 'o'
  | verbose => some 'v'
  | _ => none

/-- Whether the switch takes a value. -/
def takesValue : Switch → Bool
  | output => true
  | solcVersion => true
  | config => true
  | contract => true
  | _ => false

/-- The switch of the given letter. -/
def ofLetter? (letter : Char) : Option Switch :=
  all.find? (·.letter? == some letter)

/-- The switches whose long name begins with the given characters. -/
def beginning (characters : List Char) : List Switch :=
  all.filter fun switch => characters.isPrefixOf switch.longName.toList

end Switch

/-! ### Single arguments -/

/-- What is written behind a switch in the same argument. -/
inductive Attachment where
  | nothing
  /-- What follows an equals sign. -/
  | equated (text : List Char)
  /-- What follows the letter directly. -/
  | joined (text : List Char)
deriving Repr, DecidableEq

/-- What one argument is. -/
inductive Token where
  | value (text : String)
  | dashes
  | switch (switch : Switch) (attachment : Attachment)
  /-- A switch that does not exist. -/
  | unknown
deriving Repr, DecidableEq

/-- How the reading ends where it does not give arguments: with the help, or with the news that
the arguments are wrong. -/
inductive Stop where
  | help
  | misuse
deriving Repr, DecidableEq

/-- The code that the program ends with. -/
def Stop.code : Stop → Nat
  | help => 0
  | misuse => 2

/-- The characters before the first equals sign, and those behind it if there is one. -/
def splitEquals (characters : List Char) : List Char × Option (List Char) :=
  match characters.dropWhile (· != '=') with
  | [] => (characters, none)
  | _ :: rest => (characters.takeWhile (· != '='), some rest)

/-- What follows an equals sign, if there is one. -/
def Attachment.ofEquals : Option (List Char) → Attachment
  | none => .nothing
  | some text => .equated text

/-- Whether the characters write a negative number. -/
def isNegativeNumber (characters : List Char) : Bool :=
  match dropFinalBreak characters with
  | '-' :: rest =>
    match rest.dropWhile isDecimalDigit with
    | [] => !rest.isEmpty
    | '.' :: fraction => !fraction.isEmpty && fraction.all isDecimalDigit
    | _ => false
  | _ => false

/-- What an argument is that starts with two dashes. -/
def readLong (characters : List Char) : Except Stop Token :=
  let (name, rest) := splitEquals characters
  match Switch.all.find? fun switch => switch.longName.toList == name with
  | some switch => .ok (.switch switch (.ofEquals rest))
  | none =>
    match Switch.beginning name with
    | [switch] => .ok (.switch switch (.ofEquals rest))
    | [] =>
      .ok (if characters.contains ' ' then .value (String.ofList characters) else .unknown)
    | _ => .error .misuse

/-- What an argument is that starts with one dash and has a letter behind it. -/
def readShort (letter : Char) (rest : List Char) : Token :=
  let characters := '-' :: letter :: rest
  match Switch.ofLetter? letter, rest with
  | some switch, [] => .switch switch .nothing
  | some switch, '=' :: text =>
    .switch switch (if switch.takesValue || text.isEmpty then .equated text else .joined text)
  | some switch, text => .switch switch (.joined text)
  | none, _ =>
    if isNegativeNumber characters || characters.contains ' ' then
      .value (String.ofList characters)
    else .unknown

/-- What an argument is. -/
def readToken (argument : String) : Except Stop Token :=
  match argument.toList with
  | ['-', '-'] => .ok .dashes
  | '-' :: '-' :: rest => readLong ('-' :: '-' :: rest)
  | '-' :: letter :: rest => .ok (readShort letter rest)
  | _ => .ok (.value argument)

/-- What all the arguments are. A switch that cannot be told is misuse, wherever it stands. -/
def readTokens : List String → Except Stop (List Token)
  | [] => .ok []
  | argument :: rest => do
    let token ← readToken argument
    if token = .dashes then return .dashes :: rest.map .value
    let tokens ← readTokens rest
    return token :: tokens

/-! ### All arguments -/

/-- What is given as the value of a switch: a text, or two dashes attached to it, which hold no
text. -/
inductive SwitchValue where
  | text (text : String)
  | dashes
deriving Repr, DecidableEq, Inhabited

/-- The value of a switch to which the characters are attached. -/
def SwitchValue.ofAttached (characters : List Char) : SwitchValue :=
  if characters = ['-', '-'] then .dashes else .text (String.ofList characters)

/-- The arguments of the program. -/
structure Arguments where
  input : String
  output : Option SwitchValue
  stdout : Bool
  solcVersion : Option SwitchValue
  config : SwitchValue
  contracts : List SwitchValue
  verbose : Bool
deriving Repr, DecidableEq, Inhabited

/-- The name of the file of settings that is read where none is given. -/
def standardConfig : String := "abi2ts.json"

/-- What was read of the arguments so far: the input file if it was met, whether anything was met
that has no place, and the switches. -/
structure Reading where
  input : Option String
  surplus : Bool
  arguments : Arguments
deriving Repr, DecidableEq

/-- The start of the reading. -/
def Reading.start : Reading :=
  ⟨none, false, ⟨"", none, false, none, .text standardConfig, [], false⟩⟩

namespace Reading

/-- The reading after a switch without a value. -/
def turnOn (reading : Reading) (switch : Switch) : Except Stop Reading :=
  match switch with
  | .help => .error .help
  | .stdout => .ok { reading with arguments := { reading.arguments with stdout := true } }
  | .verbose => .ok { reading with arguments := { reading.arguments with verbose := true } }
  | _ => .ok reading

/-- The reading after a switch with a value. -/
def assign (reading : Reading) (switch : Switch) (value : SwitchValue) : Reading :=
  let arguments := reading.arguments
  let changed := match switch with
    | .output => { arguments with output := some value }
    | .solcVersion => { arguments with solcVersion := some value }
    | .config => { arguments with config := value }
    | .contract => { arguments with contracts := arguments.contracts ++ [value] }
    | _ => arguments
  { reading with arguments := changed }

/-- The reading with something that has no place. -/
def withSurplus (reading : Reading) : Reading :=
  { reading with surplus := true }

/-- The reading after the switches without values, in their order. -/
def turnAllOn (reading : Reading) : List Switch → Except Stop Reading
  | [] => .ok reading
  | switch :: rest => do
    let reading ← reading.turnOn switch
    reading.turnAllOn rest

end Reading

/-- What joined letters come to. -/
inductive Joined where
  /-- Switches without values only. -/
  | switches (switches : List Switch)
  /-- At the end of switches without values one that takes a value, which is given or must
  follow. -/
  | valued (switches : List Switch) (last : Switch) (value : Option (List Char))
deriving Repr, DecidableEq

/-- Reads what is joined to a switch: its value, or more letters, each of which must be that of a
switch. -/
def readJoined (before : List Switch) (switch : Switch) : List Char → Except Stop Joined
  | [] =>
    if switch.takesValue then .ok (.valued before switch none)
    else .ok (.switches (before ++ [switch]))
  | letter :: rest =>
    if switch.takesValue then .ok (.valued before switch (some (letter :: rest)))
    else
      match Switch.ofLetter? letter with
      | some next => readJoined (before ++ [switch]) next rest
      | none => .error .misuse

/-- What a switch comes to together with what is attached to it. -/
def readAttachment (switch : Switch) : Attachment → Except Stop Joined
  | .nothing => readJoined [] switch []
  | .equated value =>
    if switch.takesValue then .ok (.valued [] switch (some value)) else .error .misuse
  | .joined text => readJoined [] switch text

/-- Goes through the arguments. Two dashes have their place before the input file or directly
behind it. -/
def readAll (reading : Reading) : List Token → Except Stop Reading
  | [] => .ok reading
  | .unknown :: rest => readAll reading.withSurplus rest
  | .dashes :: rest =>
    readAll (if reading.input.isSome then reading.withSurplus else reading) rest
  | .value text :: .dashes :: rest =>
    if reading.input.isSome then readAll reading.withSurplus rest
    else readAll { reading with input := some text } rest
  | .value text :: rest =>
    if reading.input.isSome then readAll reading.withSurplus rest
    else readAll { reading with input := some text } rest
  | .switch switch attachment :: rest =>
    match readAttachment switch attachment with
    | .error stop => .error stop
    | .ok (.switches switches) =>
      match reading.turnAllOn switches with
      | .error stop => .error stop
      | .ok after => readAll after rest
    | .ok (.valued switches last (some value)) =>
      match reading.turnAllOn switches with
      | .error stop => .error stop
      | .ok after => readAll (after.assign last (.ofAttached value)) rest
    | .ok (.valued switches last none) =>
      match rest with
      | .value text :: rest =>
        match reading.turnAllOn switches with
        | .error stop => .error stop
        | .ok after => readAll (after.assign last (.text text)) rest
      | _ => .error .misuse

/-- The arguments of the program. -/
def readArguments (arguments : List String) : Except Stop Arguments := do
  let tokens ← readTokens arguments
  let reading ← readAll .start tokens
  match reading.input with
  | none => throw .misuse
  | some input =>
    if reading.surplus then throw .misuse
    return { reading.arguments with input := input }

end ContractClient
