import SwiftInterface.Yaml.Cursor

/-!
# Tags of YAML

A tag names the type of a node.  A plain scalar without a tag gets the type
whose written form it has: null, a flag, a number, a point in time, or one of
the two marks for merging and for default values.  Any other scalar is text.
-/

namespace SwiftInterface

namespace Yaml

/-- The type of a node. -/
inductive Tag where
  | null
  | bool
  | int
  | float
  | binary
  | timestamp
  | orderedMap
  | pairs
  | set
  | text
  | sequence
  | mapping
  | merge
  | default
  | unknown (name : String)
deriving DecidableEq, Repr, Inhabited

namespace Tag

/-- What stands in front of the names of the standard tags. -/
def standardLeader : String :=
  "tag:yaml.org,2002:"

/-- The standard tags by name. -/
def standard : List (String × Tag) :=
  [ ("null", null), ("bool", bool), ("int", int), ("float", float),
    ("binary", binary), ("timestamp", timestamp), ("omap", orderedMap),
    ("pairs", pairs), ("set", set), ("str", text), ("seq", sequence),
    ("map", mapping), ("merge", merge), ("value", default) ]

/-- The tag with a full name. -/
def ofName (name : String) : Tag :=
  match standard.find? fun entry => standardLeader ++ entry.1 == name with
  | some entry => entry.2
  | none => unknown name

end Tag

/-! ## Written forms of scalars -/

/-- The words for flags. -/
def flagWords : List String :=
  [ "yes", "Yes", "YES", "no", "No", "NO", "true", "True", "TRUE", "false",
    "False", "FALSE", "on", "On", "ON", "off", "Off", "OFF" ]

/-- The words for null. -/
def nullWords : List String :=
  ["~", "null", "Null", "NULL", ""]

/-- Whether a character is a basic digit or an underscore. -/
def isDigitOrLine (char : Char) : Bool :=
  Text.isBasicDigit char || char == '_'

/-- Remove one sign from the front. -/
def dropSign : List Char → List Char
  | '-' :: rest => rest
  | '+' :: rest => rest
  | chars => chars

/-- Whether a text is not empty and made of the characters of a class. -/
def isMadeOf (belongs : Char → Bool) (chars : List Char) : Bool :=
  !chars.isEmpty && chars.all belongs

/-- Whether a text is a part after a colon of a number to base sixty. -/
def isSixtyPart : List Char → Bool
  | [digit] => Text.isBasicDigit digit
  | [ten, digit] => '0' ≤ ten && ten ≤ '5' && Text.isBasicDigit digit
  | _ => false

/-- Whether a text starts with a digit of a class and goes on with digits and
underscores. -/
def isGroupedNumber (starts : Char → Bool) : List Char → Bool
  | [] => false
  | char :: rest => starts char && rest.all isDigitOrLine

/-- Whether a character is a digit other than zero. -/
def isLeadingDigit (char : Char) : Bool :=
  '1' ≤ char && char ≤ '9'

/-- Whether a text is a number to base sixty whose first part starts with a
digit of a class. -/
def isSixtyNumber (starts : Char → Bool) (chars : List Char) : Bool :=
  match chars.splitOn ':' with
  | first :: second :: others =>
      isGroupedNumber starts first && (second :: others).all isSixtyPart
  | _ => false

/-- Whether a text has the form of an integer. -/
def isIntForm (chars : List Char) : Bool :=
  let magnitude := dropSign chars
  match magnitude with
  | '0' :: 'b' :: digits =>
      isMadeOf (fun char => char == '0' || char == '1' || char == '_') digits
  | '0' :: 'x' :: digits =>
      isMadeOf (fun char =>
        (Text.hexDigitValue? char).isSome || char == '_') digits
  | '0' :: digits =>
      digits.all fun char => ('0' ≤ char && char ≤ '7') || char == '_'
  | _ =>
      isGroupedNumber isLeadingDigit magnitude ||
        isSixtyNumber isLeadingDigit magnitude

/-- Whether a text is an exponent with its sign, or empty. -/
def isExponentForm : List Char → Bool
  | [] => true
  | mark :: sign :: digits =>
      (mark == 'e' || mark == 'E') && (sign == '-' || sign == '+') &&
        isMadeOf Text.isBasicDigit digits
  | _ => false

/-- Whether a text has the form of a floating-point number. -/
def isFloatForm (chars : List Char) : Bool :=
  let magnitude := dropSign chars
  let whole := magnitude.takeWhile (· ≠ '.')
  let afterPoint := (magnitude.dropWhile (· ≠ '.')).drop 1
  let hasPoint := magnitude.contains '.'
  let afterDigits := afterPoint.dropWhile isDigitOrLine
  if !hasPoint then false
  else if whole.isEmpty then
    ["inf", "Inf", "INF"].any (fun word => word.toList == afterPoint) ||
      (chars.head? == some '.' &&
        (["nan", "NaN", "NAN"].any (fun word => word.toList == afterPoint) ||
          ((afterPoint.head?.map Text.isBasicDigit).getD false &&
            isExponentForm afterDigits)))
  else
    (isGroupedNumber Text.isBasicDigit whole && isExponentForm afterDigits) ||
      (isSixtyNumber Text.isBasicDigit whole && afterDigits.isEmpty)

/-! ## Points in time -/

/-- The numbers of a written point in time. -/
structure TimeForm where
  year : Nat
  month : Nat
  day : Nat
  clock : Option (Nat × Nat × Nat) := none
  /-- The digits after the seconds. -/
  fraction : List Char := []
  /-- The offset from universal time: its sign, hours and minutes. -/
  offset : Option (Bool × Nat × Nat) := none
  /-- Whether month and day have two digits each. -/
  fullDate : Bool
deriving DecidableEq, Repr, Inhabited

/-- Between `least` and `most` digits at the front, and what follows. -/
def someDigits (least most : Nat) (chars : List Char) :
    Option (List Char × List Char) :=
  let digits := (chars.take most).takeWhile Text.isBasicDigit
  if least ≤ digits.length then some (digits, chars.drop digits.length)
  else none

/-- A character at the front, and what follows. -/
def expectChar (char : Char) : List Char → Option (List Char)
  | first :: rest => if first == char then some rest else none
  | [] => none

/-- The offset at the end of a point in time. -/
def readOffset (chars : List Char) : Option (Option (Bool × Nat × Nat)) :=
  match chars.dropWhile fun char => char == ' ' || char == '\t' with
  | [] => if chars.isEmpty then some none else none
  | ['Z'] => some (some (false, 0, 0))
  | sign :: rest => do
      if sign ≠ '+' ∧ sign ≠ '-' then none
      let (hours, afterHours) ← someDigits 1 2 rest
      let minutes ←
        match afterHours with
        | [] => some []
        | ':' :: digits =>
            if digits.length = 2 ∧ digits.all Text.isBasicDigit then
              some digits
            else none
        | _ => none
      return some (sign == '-', Text.decimalValue hours,
        Text.decimalValue minutes)

/-- The separator between date and time, and what follows it. -/
def dropTimeSeparator : List Char → Option (List Char)
  | 'T' :: rest => some rest
  | 't' :: rest => some rest
  | char :: rest =>
      if char == ' ' || char == '\t' then
        some (rest.dropWhile fun char => char == ' ' || char == '\t')
      else none
  | [] => none

/-- Read the written form of a point in time. -/
def readTime (chars : List Char) : Option TimeForm := do
  let (year, afterYear) ← someDigits 4 4 chars
  let (month, afterMonth) ← (expectChar '-' afterYear).bind (someDigits 1 2)
  let (day, afterDay) ← (expectChar '-' afterMonth).bind (someDigits 1 2)
  let date : TimeForm :=
    { year := Text.decimalValue year
      month := Text.decimalValue month
      day := Text.decimalValue day
      fullDate := month.length == 2 && day.length == 2 }
  if afterDay.isEmpty then return date
  let (hour, afterHour) ← (dropTimeSeparator afterDay).bind (someDigits 1 2)
  let (minute, afterMinute) ← (expectChar ':' afterHour).bind (someDigits 2 2)
  let (second, afterSecond) ← (expectChar ':' afterMinute).bind (someDigits 2 2)
  let (fraction, afterFraction) :=
    match afterSecond with
    | '.' :: rest => (rest.takeWhile Text.isBasicDigit,
        rest.dropWhile Text.isBasicDigit)
    | rest => ([], rest)
  let offset ← readOffset afterFraction
  return { date with
    clock := some (Text.decimalValue hour, Text.decimalValue minute,
      Text.decimalValue second)
    fraction, offset }

/-- The characters that decide the form of a scalar: one line feed at the end
of a longer text does not count. -/
def formChars (text : String) : List Char :=
  let chars := text.toList
  if 1 < chars.length ∧ chars.getLast? = some '\n' then chars.dropLast
  else chars

/-- Whether a text has the form of a point in time.  A day alone needs two
digits for month and day. -/
def isTimeForm (chars : List Char) : Bool :=
  match readTime chars with
  | none => false
  | some form => form.clock.isSome || form.fullDate

/-- The type of a scalar that is told by its form. -/
def tagOfForm (wholeText : String) : Tag :=
  let chars := formChars wholeText
  let text := String.ofList chars
  if flagWords.contains text then .bool
  else if isFloatForm chars then .float
  else if isIntForm chars then .int
  else if text = "<<" then .merge
  else if nullWords.contains text then .null
  else if isTimeForm chars then .timestamp
  else if text = "=" then .default
  else if text = "!" ∨ text = "&" ∨ text = "*" then
    .unknown (Tag.standardLeader ++ "yaml")
  else .text

end Yaml

end SwiftInterface
