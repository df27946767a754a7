import SwiftInterface.Json.Basic
import SwiftInterface.Machine
import SwiftInterface.Number.Integer

/-!
# Reading JSON

The reader is strict about structure and control characters and also accepts
the names `NaN`, `Infinity` and `-Infinity` as numbers.  A fault is described
by its cause and by the text that remains where it was found; line and column
follow from that.  Arrays and objects can only be open inside one another as
far as there is room for it.
-/

namespace SwiftInterface

namespace Json

/-- What is wrong with a text that is not JSON. -/
inductive Problem where
  | byteOrderMark
  | expectingValue
  | expectingName
  | expectingColon
  | expectingComma
  | unterminatedString
  | controlCharacter
  | invalidEscape
  | invalidCodeEscape
  | extraData
deriving DecidableEq, Repr, Inhabited

/-- The wording of a problem. -/
def Problem.message : Problem → String
  | byteOrderMark => "Unexpected UTF-8 BOM (decode using utf-8-sig)"
  | expectingValue => "Expecting value"
  | expectingName => "Expecting property name enclosed in double quotes"
  | expectingColon => "Expecting ':' delimiter"
  | expectingComma => "Expecting ',' delimiter"
  | unterminatedString => "Unterminated string starting at"
  | controlCharacter => "Invalid control character at"
  | invalidEscape => "Invalid \\escape"
  | invalidCodeEscape => "Invalid \\uXXXX escape"
  | extraData => "Extra data"

/-- A fault met by the reader; the text that remains tells where. -/
inductive Fault where
  | malformed (problem : Problem) (remaining : List Char)
  | tooManyDigits (digits : Nat)
  | tooDeep (descent : Descent)
deriving DecidableEq, Repr, Inhabited

/-- The white space between tokens. -/
def isSpace (char : Char) : Bool :=
  char == ' ' || char == '\t' || char == '\n' || char == '\r'

/-- Skip the white space between tokens. -/
def skipSpace (chars : List Char) : List Char :=
  chars.dropWhile isSpace

/-- The code unit that four hexadecimal digits spell, and what follows
them. -/
def codeUnit? : List Char → Option (Nat × List Char)
  | first :: second :: third :: fourth :: rest => do
      let first ← Text.hexDigitValue? first
      let second ← Text.hexDigitValue? second
      let third ← Text.hexDigitValue? third
      let fourth ← Text.hexDigitValue? fourth
      return (((first * 16 + second) * 16 + third) * 16 + fourth, rest)
  | _ => none

/-- Whether a code unit is the first half of a pair. -/
def isHighUnit (unit : Nat) : Bool :=
  0xd800 ≤ unit && unit ≤ 0xdbff

/-- Whether a code unit is the second half of a pair. -/
def isLowUnit (unit : Nat) : Bool :=
  0xdc00 ≤ unit && unit ≤ 0xdfff

/-- The character of a code point, or the one that stands for a half. -/
def charOfCode (halves : Text.Halves) (code : Nat) : Char :=
  if isHighUnit code || isLowUnit code then halves.standIn code
  else Char.ofNat code

/-- The character of a pair of code units. -/
def charOfPair (high low : Nat) : Char :=
  Char.ofNat (0x10000 + (high - 0xd800) * 0x400 + (low - 0xdc00))

/-- Read the digits of a code escape and of the second half that may follow.
`mark` is the text from the letter of the escape on.  A code escape is only
complete when the text goes on after it. -/
def readCodeEscape (halves : Text.Halves) (mark chars : List Char) :
    Except Fault (Char × List Char) :=
  match codeUnit? chars with
  | none => .error (.malformed .invalidCodeEscape mark)
  | some (_, []) => .error (.malformed .invalidCodeEscape mark)
  | some (unit, rest) =>
      if !isHighUnit unit then .ok (charOfCode halves unit, rest)
      else
        match rest with
        | '\\' :: 'u' :: digits =>
            if (digits.drop 4).isEmpty then .ok (charOfCode halves unit, rest)
            else
              match codeUnit? digits with
              | none => .error (.malformed .invalidCodeEscape ('u' :: digits))
              | some (low, afterPair) =>
                  if isLowUnit low then .ok (charOfPair unit low, afterPair)
                  else .ok (charOfCode halves unit, rest)
        | _ => .ok (charOfCode halves unit, rest)

/-- The character of a one-letter escape. -/
def simpleEscape? : Char → Option Char
  | '"' => some '"'
  | '\\' => some '\\'
  | '/' => some '/'
  | 'b' => some '\x08'
  | 'f' => some '\x0c'
  | 'n' => some '\n'
  | 'r' => some '\r'
  | 't' => some '\t'
  | _ => none

/-- Read the rest of a string up to its closing quote.  `opening` is the text
from the opening quote on and `read` holds the characters read so far, last
one first.  Every step takes at least one character, so the length of the
text is enough fuel. -/
def readString (halves : Text.Halves) (opening : List Char) :
    Nat → List Char → List Char → Except Fault (String × List Char)
  | 0, _, _ => .error (.malformed .unterminatedString opening)
  | _ + 1, _, [] => .error (.malformed .unterminatedString opening)
  | fuel + 1, read, char :: rest =>
      if char == '"' then .ok (String.ofList read.reverse, rest)
      else if char == '\\' then
        match rest with
        | [] => .error (.malformed .unterminatedString opening)
        | 'u' :: digits => do
            let (decoded, remaining) ← readCodeEscape halves rest digits
            readString halves opening fuel (decoded :: read) remaining
        | letter :: remaining =>
            match simpleEscape? letter with
            | none => .error (.malformed .invalidEscape (char :: rest))
            | some decoded =>
                readString halves opening fuel (decoded :: read) remaining
      else if char.toNat ≤ 0x1f then
        .error (.malformed .controlCharacter (char :: rest))
      else readString halves opening fuel (char :: read) rest

/-- Split off the basic digits at the front. -/
def spanDigits (chars : List Char) : List Char × List Char :=
  (chars.takeWhile Text.isBasicDigit, chars.dropWhile Text.isBasicDigit)

/-- The whole part of a number: a zero, or digits that do not start with
one. -/
def wholePart? : List Char → Option (List Char × List Char)
  | '0' :: rest => some (['0'], rest)
  | chars =>
      let (digits, rest) := spanDigits chars
      if digits.isEmpty then none else some (digits, rest)

/-- The digits after a decimal point, if there is one with digits. -/
def fractionPart : List Char → List Char × List Char
  | '.' :: rest =>
      let (digits, remaining) := spanDigits rest
      if digits.isEmpty then ([], '.' :: rest) else (digits, remaining)
  | chars => ([], chars)

/-- The exponent of a number, if there is one with digits. -/
def exponentPart (chars : List Char) : Option Int × List Char :=
  match chars with
  | mark :: rest =>
      if mark == 'e' || mark == 'E' then
        let (negative, digitChars) := Number.splitSign rest
        let (digits, remaining) := spanDigits digitChars
        if digits.isEmpty then (none, chars)
        else (some (Number.signed negative (Text.decimalValue digits)),
          remaining)
      else (none, chars)
  | [] => (none, chars)

/-- Read a number.  It is an integer unless it has a fraction or an
exponent. -/
def readNumber (chars : List Char) : Except Fault (Json × List Char) :=
  let (negative, magnitude) :=
    match chars with
    | '-' :: rest => (true, rest)
    | _ => (false, chars)
  match wholePart? magnitude with
  | none => .error (.malformed .expectingValue chars)
  | some (whole, afterWhole) =>
      let (fraction, afterFraction) := fractionPart afterWhole
      let (exponent, remaining) := exponentPart afterFraction
      if fraction.isEmpty && exponent.isNone then
        if whole.length > Number.digitLimit then
          .error (.tooManyDigits whole.length)
        else
          .ok (.int (Number.signed negative (Text.decimalValue whole)),
            remaining)
      else
        .ok (.float (Number.Double.ofDecimal negative
          (Text.decimalValue (whole ++ fraction))
          (exponent.getD 0 - fraction.length)), remaining)

/-- The values that are written as a word. -/
def wordValues : List (String × Json) :=
  [ ("null", .null), ("true", .bool true), ("false", .bool false),
    ("NaN", .float .nan), ("Infinity", .float (.infinite false)),
    ("-Infinity", .float (.infinite true)) ]

/-- Read a value that is written as a word. -/
def readWord? (chars : List Char) : Option (Json × List Char) :=
  wordValues.findSome? fun (word, value) =>
    if word.toList.isPrefixOf chars then
      some (value, chars.drop word.toList.length)
    else none

/-- The room inside a collection that is entered. -/
def enter (descent : Descent) : Nat → Except Fault Nat
  | 0 => .error (.tooDeep descent)
  | room + 1 => .ok room

mutual

/-- Read one value that starts at the first character.  `room` is the number
of collections that may be open inside one another.  Entering a collection
takes two units of fuel and at least one character, so twice the length of
the text is enough, and it always leaves enough for a string as well. -/
def readValue (halves : Text.Halves) (room : Nat) :
    Nat → List Char → Except Fault (Json × List Char)
  | 0, chars => .error (.malformed .expectingValue chars)
  | fuel + 1, chars =>
      match chars with
      | '"' :: rest => do
          let (text, remaining) ← readString halves chars fuel [] rest
          return (.string text, remaining)
      | '\x7b' :: rest => do
          let inner ← enter .readingObject room
          match skipSpace rest with
          | '\x7d' :: remaining => .ok (.object [], remaining)
          | inside => do
              let (members, remaining) ← readMembers halves inner fuel inside
              return (.object (unifyMembers members), remaining)
      | '[' :: rest => do
          let inner ← enter .readingArray room
          match skipSpace rest with
          | ']' :: remaining => .ok (.array [], remaining)
          | inside => do
              let (items, remaining) ← readItems halves inner fuel inside
              return (.array items, remaining)
      | _ =>
          match readWord? chars with
          | some result => .ok result
          | none => readNumber chars

/-- Read the items of an array up to its closing bracket. -/
def readItems (halves : Text.Halves) (room : Nat) :
    Nat → List Char → Except Fault (List Json × List Char)
  | 0, chars => .error (.malformed .expectingValue chars)
  | fuel + 1, chars => do
      let (item, afterItem) ← readValue halves room fuel chars
      match skipSpace afterItem with
      | ']' :: remaining => return ([item], remaining)
      | ',' :: rest =>
          let (items, remaining) ← readItems halves room fuel (skipSpace rest)
          return (item :: items, remaining)
      | other => throw (.malformed .expectingComma other)

/-- Read the members of an object up to its closing brace. -/
def readMembers (halves : Text.Halves) (room : Nat) :
    Nat → List Char → Except Fault (List (String × Json) × List Char)
  | 0, chars => .error (.malformed .expectingName chars)
  | fuel + 1, chars =>
      match chars with
      | '"' :: rest => do
          let (name, afterName) ← readString halves chars fuel [] rest
          match skipSpace afterName with
          | ':' :: afterColon =>
              let (value, afterValue) ←
                readValue halves room fuel (skipSpace afterColon)
              match skipSpace afterValue with
              | '\x7d' :: remaining => return ([(name, value)], remaining)
              | ',' :: more =>
                  let (members, remaining) ←
                    readMembers halves room fuel (skipSpace more)
                  return ((name, value) :: members, remaining)
              | other => throw (.malformed .expectingComma other)
          | other => throw (.malformed .expectingColon other)
      | _ => .error (.malformed .expectingName chars)

end

/-- Read a text that holds one value and white space around it. -/
def read (machine : Machine) (chars : List Char) : Except Fault Json :=
  match chars with
  | '\ufeff' :: _ => .error (.malformed .byteOrderMark chars)
  | _ => do
      let (value, rest) ←
        readValue machine.halves machine.reach.json (2 * chars.length + 1)
          (skipSpace chars)
      match skipSpace rest with
      | [] => return value
      | extra => throw (.malformed .extraData extra)

/-- The line, the column and the offset of the place where `remaining` is
left of `chars`.  Lines and columns count from one. -/
def placeOf (chars remaining : List Char) : Nat × Nat × Nat :=
  let offset := chars.length - remaining.length
  let before := chars.take offset
  let column := (before.reverse.takeWhile (· ≠ '\n')).length + 1
  (before.count '\n' + 1, column, offset)

/-- What is said of an integer with more digits than can be read. -/
def digitLimitMessage (digits : Nat) : String :=
  "Exceeds the limit (" ++ toString Number.digitLimit ++
    " digits) for integer string conversion: value has " ++ toString digits ++
    " digits; use sys.set_int_max_str_digits() to increase the limit"

/-- The wording of a fault found in a text. -/
def Fault.message (chars : List Char) : Fault → String
  | malformed problem remaining =>
      let (line, column, offset) := placeOf chars remaining
      problem.message ++ ": line " ++ toString line ++ " column " ++
        toString column ++ " (char " ++ toString offset ++ ")"
  | tooManyDigits digits => digitLimitMessage digits
  | tooDeep descent => descent.message

end Json

end SwiftInterface
