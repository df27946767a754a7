import SwiftInterface.Text.Blank
import SwiftInterface.Text.Digit

/-!
# Reading integers

An integer is written with an optional sign and with digits of any script;
one underscore may stand between two digits, and white space around the
number is ignored.  The information separators do not count as white space
here.  Decimal numbers may have at most 4300 digits.
-/

namespace SwiftInterface

namespace Number

/-- Why a text is no integer. -/
inductive IntegerFault where
  | malformed
  | tooLong (digits : Nat)
deriving DecidableEq, Repr, Inhabited

/-- The largest number of decimal digits of an integer that is read or
written. -/
def digitLimit : Nat :=
  4300

/-- The ASCII stand-in for a character of a number: a digit of any script
becomes a basic digit, white space outside ASCII a space and every other such
character a question mark. -/
def plainChar (char : Char) : Char :=
  if char.toNat < 127 then char
  else if Text.isBlank char then ' '
  else
    match Text.digitValue? char with
    | some value => Char.ofNat ('0'.toNat + value)
    | none => '?'

/-- The white space that may stand around a number. -/
def isNumberBlank (char : Char) : Bool :=
  char == ' ' || (0x09 ≤ char.toNat && char.toNat ≤ 0x0d)

/-- The characters of a number without the white space around it. -/
def plainChars (text : List Char) : List Char :=
  Text.trimBy isNumberBlank (text.map plainChar)

/-- Split off a sign; the flag tells whether it is a minus. -/
def splitSign : List Char → Bool × List Char
  | '-' :: rest => (true, rest)
  | '+' :: rest => (false, rest)
  | chars => (false, chars)

/-- Attach a sign to a magnitude. -/
def signed (negative : Bool) (magnitude : Nat) : Int :=
  if negative then -(magnitude : Int) else magnitude

/-- The value of a digit in a base. -/
def digitIn? (base : Nat) (char : Char) : Option Nat :=
  (Text.hexDigitValue? char).filter (· < base)

/-- The values of the digits at the front of a text in a base, where one
underscore may stand between two digits, and what follows them.  The front
must start and end with a digit. -/
def digitsIn? (base : Nat) : List Char → Option (List Nat × List Char)
  | [] => none
  | [char] => (digitIn? base char).map fun digit => ([digit], [])
  | char :: '_' :: rest => do
      let digit ← digitIn? base char
      let (digits, others) ← digitsIn? base rest
      return (digit :: digits, others)
  | char :: next :: rest => do
      let digit ← digitIn? base char
      if (digitIn? base next).isNone then return ([digit], next :: rest)
      let (digits, others) ← digitsIn? base (next :: rest)
      return (digit :: digits, others)

/-- The number with the given digits in a base, most significant first. -/
def ofDigits (base : Nat) (digits : List Nat) : Nat :=
  digits.foldl (fun value digit => base * value + digit) 0

/-- Remove the mark of a base, `0b`, `0o` or `0x`, and an underscore after
it. -/
def dropBaseMark (base : Nat) : List Char → List Char
  | '0' :: mark :: rest =>
      if (base == 2 && (mark == 'b' || mark == 'B')) ||
          (base == 8 && (mark == 'o' || mark == 'O')) ||
          (base == 16 && (mark == 'x' || mark == 'X')) then
        match rest with
        | '_' :: digits => digits
        | digits => digits
      else '0' :: mark :: rest
  | chars => chars

/-- Read an integer in a base.  Only decimal numbers are limited in length,
and a number that is too long is reported even if other characters follow
it. -/
def readInteger (base : Nat) (text : List Char) : Except IntegerFault Int :=
  let (negative, magnitude) := splitSign (plainChars text)
  match digitsIn? base (dropBaseMark base magnitude) with
  | none => .error .malformed
  | some (digits, others) =>
      if base == 10 && digits.length > digitLimit then
        .error (.tooLong digits.length)
      else if others.isEmpty then
        .ok (signed negative (ofDigits base digits))
      else .error .malformed

/-- Read a decimal integer. -/
def readDecimal (text : String) : Except IntegerFault Int :=
  readInteger 10 text.toList

/-- Whether an integer has more decimal digits than can be written.  Its power of
ten is not to be computed in proofs. -/
@[irreducible]
def exceedsDigits (number : Int) : Bool :=
  Nat.pow 10 digitLimit ≤ number.natAbs

end Number

end SwiftInterface
