import SwiftInterface.Value.Basic

/-!
# Stamps of log lines

The time of a record and the identifier of a run as they are written in
structured lines.
-/

namespace SwiftInterface

namespace Log

/-- A number written with at least the given number of digits. -/
def padded (width number : Nat) : String :=
  let digits := (Nat.toDigits 10 number)
  String.ofList (List.replicate (width - digits.length) '0' ++ digits)

/-- The month and day of a year with the given number of days before it in
that year.  Fuel is the number of months still to be tried. -/
def monthAndDay (year : Nat) : Nat → Nat → Nat → Nat × Nat
  | 0, month, days => (month, days + 1)
  | fuel + 1, month, days =>
      if days < Date.daysIn year month then (month, days + 1)
      else monthAndDay year fuel (month + 1) (days - Date.daysIn year month)

/-- The number of days of a year. -/
def daysOfYear (year : Nat) : Nat :=
  if Date.isLeapYear year then 366 else 365

/-- The date a number of days after the first day of a year.  Every round
goes one year on, so the number of days is enough fuel. -/
def dateAfter : Nat → Nat → Nat → Date
  | 0, year, _ => { year, month := 1, day := 1 }
  | fuel + 1, year, days =>
      if days < daysOfYear year then
        let (month, day) := monthAndDay year 12 1 days
        { year, month, day }
      else dateAfter fuel (year + 1) (days - daysOfYear year)

/-- The text of a time, which is given in milliseconds since 1970. -/
def timeText (milliseconds : Nat) : String :=
  let seconds := milliseconds / 1000
  let days := seconds / 86400
  let date := dateAfter (days + 1) 1970 days
  "-".intercalate
      [padded 4 date.year, padded 2 date.month, padded 2 date.day] ++ " " ++
    ":".intercalate
      [ padded 2 (seconds / 3600 % 24), padded 2 (seconds / 60 % 60),
        padded 2 (seconds % 60) ] ++
    "," ++ padded 3 (milliseconds % 1000)

/-- The two hexadecimal digits of a byte. -/
def hexByte (byte : UInt8) : String :=
  String.ofList
    [Nat.digitChar (byte.toNat / 16), Nat.digitChar (byte.toNat % 16)]

/-- The identifier of a run, made of sixteen random bytes.  Six bits are fixed
and mark an identifier that was made at random. -/
def runIdText (random : List UInt8) : String :=
  let marked := random.mapIdx fun index byte =>
    if index = 6 then byte &&& 0x0f ||| 0x40
    else if index = 8 then byte &&& 0x3f ||| 0x80
    else byte
  let digits (first count : Nat) : String :=
    String.join (((marked.drop first).take count).map hexByte)
  "-".intercalate
    [digits 0 4, digits 4 2, digits 6 2, digits 8 2, digits 10 6]

end Log

end SwiftInterface
