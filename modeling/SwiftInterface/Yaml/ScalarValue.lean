import SwiftInterface.Text.LowerCase
import SwiftInterface.Value.Basic
import SwiftInterface.Yaml.Tag

/-!
# Values of YAML scalars

A scalar is a text with a type, and its value is what the text spells in that
type: a flag, a number, a day, a point in time, bytes, or the text itself.
-/

namespace SwiftInterface

namespace Yaml

/-- A text without underscores. -/
def dropLines (text : String) : List Char :=
  text.toList.filter (· ≠ '_')

/-- Read digits in a base; the text is quoted if it is no number. -/
def integerIn (base : Nat) (chars : List Char) : Except Fault Int :=
  match Number.readInteger base chars with
  | .ok number => .ok number
  | .error .malformed => .error (.notInteger base (String.ofList chars))
  | .error (.tooLong digits) => .error (.unreadableInteger digits)

/-- The number with the given digits to base sixty. -/
def ofSixtyDigits (digits : List Int) : Int :=
  digits.foldl (fun value digit => 60 * value + digit) 0

/-- The integer that a text without its sign spells. -/
def unsignedInteger (chars : List Char) : Except Fault Int :=
  match chars with
  | [] => .error .emptyNumber
  | ['0'] => .ok 0
  | '0' :: 'b' :: digits => integerIn 2 digits
  | '0' :: 'x' :: digits => integerIn 16 digits
  | '0' :: _ => integerIn 8 chars
  | _ =>
      if chars.contains ':' then do
        let digits ← (chars.splitOn ':').mapM (integerIn 10)
        return ofSixtyDigits digits
      else integerIn 10 chars

/-- The integer that a text spells. -/
def integerValue (text : String) : Except Fault Value :=
  match dropLines text with
  | [] => .error .emptyNumber
  | chars => do
      let magnitude ← unsignedInteger (dropSign chars)
      return .int (if chars.head? = some '-' then -magnitude else magnitude)

/-- The decimal number that characters spell: digits with an optional point
and an optional exponent. -/
def decimalOf? (negative : Bool) (chars : List Char) :
    Option Number.Double := do
  let whole := chars.takeWhile Text.isBasicDigit
  let afterWhole := chars.dropWhile Text.isBasicDigit
  let (fraction, afterFraction) :=
    match afterWhole with
    | '.' :: rest => (rest.takeWhile Text.isBasicDigit,
        rest.dropWhile Text.isBasicDigit)
    | rest => ([], rest)
  if whole.isEmpty && fraction.isEmpty then none
  let exponent ←
    match afterFraction with
    | [] => some 0
    | mark :: rest =>
        let (negativeExponent, digits) := Number.splitSign rest
        if (mark == 'e' || mark == 'E') &&
            isMadeOf Text.isBasicDigit digits then
          some (Number.signed negativeExponent (Text.decimalValue digits))
        else none
  return Number.Double.ofDecimal negative
    (Text.decimalValue (whole ++ fraction)) (exponent - fraction.length)

/-- The floating-point number that a text spells. -/
def floatOf (chars : List Char) : Except Fault Number.Double :=
  let plain := Number.plainChars chars
  let (negative, magnitude) := Number.splitSign plain
  let word := String.ofList (magnitude.map Char.toLower)
  if word = "inf" ∨ word = "infinity" then .ok (.infinite negative)
  else if word = "nan" then .ok .nan
  else
    match decimalOf? negative magnitude with
    | some number => .ok number
    | none => .error (.notFloat (String.ofList chars))

/-- Add parts of a number to base sixty to a sum, the last part first.  The
weight of the next part must lie in the floating-point format. -/
def addSixtyParts (sum : Number.Double) (weight : Nat) :
    List Number.Double → Except Fault Number.Double
  | [] => .ok sum
  | part :: rest =>
      match Number.Double.ofInt weight with
      | .infinite _ => .error .integerTooLarge
      | factor => addSixtyParts (sum.add (part.mul factor)) (weight * 60) rest

/-- The number with the given parts to base sixty. -/
def ofSixtyParts (parts : List Number.Double) : Except Fault Number.Double :=
  addSixtyParts (Number.Double.ofInt 0) 1 parts.reverse

/-- The floating-point number of a text without its sign. -/
def unsignedFloat (chars : List Char) : Except Fault Number.Double :=
  if chars = ['.', 'i', 'n', 'f'] then .ok (.infinite false)
  else if chars = ['.', 'n', 'a', 'n'] then .ok .nan
  else if chars.contains ':' then do
    let parts ← (chars.splitOn ':').mapM floatOf
    ofSixtyParts parts
  else floatOf chars

/-- The characters of a floating-point number: in lower case and without
underscores. -/
def floatChars (text : String) : List Char :=
  Text.lower (dropLines text)

/-- The floating-point number that a text spells.  The usual spelling of the
not-a-number value always has the same origin, and other spellings have the
given one. -/
def floatValue (origin : Nat) (text : String) : Except Fault Value :=
  match floatChars text with
  | [] => .error .emptyNumber
  | chars => do
      let magnitude ← unsignedFloat (dropSign chars)
      let number :=
        if chars.head? = some '-' then magnitude.negate else magnitude
      return .float number
        (if dropSign chars = ['.', 'n', 'a', 'n'] then 0 else origin)

/-- The flag that a word stands for. -/
def flagValue (text : String) : Except Fault Value :=
  let word := String.ofList (Text.lower text.toList)
  if word = "yes" ∨ word = "true" ∨ word = "on" then .ok (.bool true)
  else if word = "no" ∨ word = "false" ∨ word = "off" then .ok (.bool false)
  else .error (.notFlag word)

/-- A date that exists. -/
def validDate (year month day : Nat) : Except Fault Date :=
  if year = 0 ∨ 9999 < year then .error (.calendar (.year year))
  else if month = 0 ∨ 12 < month then .error (.calendar .month)
  else if day = 0 ∨ Date.daysIn year month < day then .error (.calendar .day)
  else .ok { year, month, day }

/-- An offset of less than a day, in seconds. -/
def validOffset (negative : Bool) (hours minutes : Nat) : Except Fault Int :=
  let seconds := Number.signed negative (hours * 3600 + minutes * 60)
  if seconds.natAbs < 86400 then .ok seconds
  else .error (.calendar (.offset (spanText seconds)))

/-- The microseconds that the digits after the seconds spell. -/
def microseconds (fraction : List Char) : Nat :=
  let digits := fraction.take 6
  Text.decimalValue (digits ++ List.replicate (6 - digits.length) '0')

/-- The day or point in time of a written form. -/
def timeValue (form : TimeForm) : Except Fault Value :=
  match form.clock with
  | none => do
      let date ← validDate form.year form.month form.day
      return .date date
  | some (hour, minute, second) => do
      let offset ←
        match form.offset with
        | none => pure none
        | some (negative, hours, minutes) =>
            (validOffset negative hours minutes).map some
      let date ← validDate form.year form.month form.day
      if 23 < hour then throw (.calendar .hour)
      if 59 < minute then throw (.calendar .minute)
      if 59 < second then throw (.calendar .second)
      return .moment { date, hour, minute, second,
                       microsecond := microseconds form.fraction, offset }

/-- The value of a digit of a text in base sixty-four. -/
def sixtyFourDigit? (char : Char) : Option Nat :=
  if 'A' ≤ char ∧ char ≤ 'Z' then some (char.toNat - 'A'.toNat)
  else if 'a' ≤ char ∧ char ≤ 'z' then some (char.toNat - 'a'.toNat + 26)
  else if '0' ≤ char ∧ char ≤ '9' then some (char.toNat - '0'.toNat + 52)
  else if char = '+' then some 62
  else if char = '/' then some 63
  else none

/-- Decode a text in base sixty-four.  `place` is the number of digits read
of the current group of four, `left` what is left of the last one and `pads`
the number of padding marks just read.  Other characters are passed over. -/
def decodeSixtyFour (place left pads : Nat) : List Char → Option (List UInt8)
  | [] => if place = 0 then some [] else none
  | char :: rest =>
      if char = '=' then
        if 2 ≤ place then
          if 4 ≤ place + pads + 1 then some []
          else decodeSixtyFour place left (pads + 1) rest
        else decodeSixtyFour place left pads rest
      else
        match sixtyFourDigit? char with
        | none => decodeSixtyFour place left pads rest
        | some digit =>
            match place with
            | 0 => decodeSixtyFour 1 digit 0 rest
            | 1 =>
                (decodeSixtyFour 2 (digit % 16) 0 rest).map
                  (UInt8.ofNat (left * 4 + digit / 16) :: ·)
            | 2 =>
                (decodeSixtyFour 3 (digit % 4) 0 rest).map
                  (UInt8.ofNat (left * 16 + digit / 4) :: ·)
            | _ =>
                (decodeSixtyFour 0 0 0 rest).map
                  (UInt8.ofNat (left * 64 + digit) :: ·)

/-- The bytes that a text in base sixty-four stands for. -/
def binaryValue (text : String) : Except Problem Value :=
  if text.toList.all fun char => char.toNat < 128 then
    match decodeSixtyFour 0 0 0 text.toList with
    | some bytes => .ok (.bytes bytes)
    | none => .error .malformed
  else .error .malformed

/-- The day or point in time that a text spells. -/
def timestampValue (text : String) : Except Fault Value :=
  match readTime (formChars text) with
  | none => .error .notTime
  | some form => timeValue form

/-- The value of a text of the given type.  A value that is not a number gets
the given origin. -/
def scalarValue (origin : Nat) (tag : Tag) (text : String) :
    Except Problem Value :=
  match tag with
  | .null => .ok .null
  | .text => .ok (.text text)
  | .bool => (flagValue text).mapError .fault
  | .int => (integerValue text).mapError .fault
  | .float => (floatValue origin text).mapError .fault
  | .binary => binaryValue text
  | .timestamp => (timestampValue text).mapError .fault
  | _ => .error .malformed

end Yaml

end SwiftInterface
