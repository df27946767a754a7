import SwiftInterface.Json.Basic
import SwiftInterface.Machine
import SwiftInterface.Number.Integer
import SwiftInterface.Number.Shortest

/-!
# Values of settings files

The values that a settings file can hold.  Beside the values of JSON there
are dates, points in time, bytes, sets, pairs and mappings with keys of any
scalar type.

A collection can be shared by several others and can even hold itself, so a
value only names the place of a collection, and the collections of a file
stand in one array.  A JSON value becomes such a content as well.
-/

namespace SwiftInterface

/-- A day of the calendar. -/
structure Date where
  year : Nat
  month : Nat
  day : Nat
deriving DecidableEq, Repr, Inhabited

/-- A point in time.  The offset from universal time is in seconds. -/
structure Moment where
  date : Date
  hour : Nat
  minute : Nat
  second : Nat
  microsecond : Nat
  offset : Option Int
deriving DecidableEq, Repr, Inhabited

/-- A value of a settings file. -/
inductive Value where
  | null
  | bool (flag : Bool)
  | int (number : Int)
  /-- A floating-point number.  Values that are not a number are told apart
  by their origin. -/
  | float (number : Number.Double) (origin : Nat)
  | text (chars : String)
  | bytes (content : List UInt8)
  | date (day : Date)
  | moment (time : Moment)
  /-- The collection at a place. -/
  | collection (place : Nat)
deriving DecidableEq, Repr, Inhabited

/-- A value made of other values. -/
inductive Collection where
  | list (items : List Value)
  | pair (first second : Value)
  | mapping (entries : List (Value × Value))
  | set (members : List Value)
deriving DecidableEq, Repr, Inhabited

/-- The collections of a file by place, on a machine that shows them in
messages. -/
structure Collections where
  machine : Machine
  places : Array Collection := #[]
deriving Inhabited

/-- What a file holds: a value and the collections that it leads to. -/
structure Content where
  collections : Collections
  root : Value
deriving Inhabited

/-! ## Days and points in time -/

namespace Date

/-- The numbers of a date in order. -/
def numbers (date : Date) : List String :=
  [toString date.year, toString date.month, toString date.day]

/-- The text of a date in messages. -/
def text (date : Date) : String :=
  "datetime.date(" ++ ", ".intercalate date.numbers ++ ")"

/-- Whether a year has a leap day. -/
def isLeapYear (year : Nat) : Bool :=
  year % 4 == 0 && (year % 100 != 0 || year % 400 == 0)

/-- The number of days of a month. -/
def daysIn (year month : Nat) : Nat :=
  if month == 2 then if isLeapYear year then 29 else 28
  else if month == 4 || month == 6 || month == 9 || month == 11 then 30
  else 31

/-- The number of days between the start of the calendar and a date. -/
def dayNumber (date : Date) : Nat :=
  let years := date.year - 1
  let months := (List.range (date.month - 1)).foldl
    (fun days month => days + daysIn date.year (month + 1)) 0
  years * 365 + years / 4 - years / 100 + years / 400 + months +
    (date.day - 1)

end Date

/-- The text of a time span in whole seconds, as days and seconds of a day. -/
def spanText (seconds : Int) : String :=
  let days := seconds.fdiv 86400
  let rest := seconds.fmod 86400
  let parts :=
    (if days = 0 then [] else ["days=" ++ toString days]) ++
      (if rest = 0 then [] else ["seconds=" ++ toString rest])
  "datetime.timedelta(" ++
    (if parts.isEmpty then "0" else ", ".intercalate parts) ++ ")"

/-- The text of an offset from universal time. -/
def offsetText (seconds : Int) : String :=
  if seconds = 0 then "datetime.timezone.utc"
  else "datetime.timezone(" ++ spanText seconds ++ ")"

namespace Moment

/-- The text of a point in time.  Trailing zero seconds and microseconds are
left out. -/
def text (moment : Moment) : String :=
  let clock := [toString moment.hour, toString moment.minute]
  let seconds :=
    if moment.microsecond ≠ 0 then
      [toString moment.second, toString moment.microsecond]
    else if moment.second ≠ 0 then [toString moment.second]
    else []
  let zone :=
    match moment.offset with
    | none => []
    | some offset => ["tzinfo=" ++ offsetText offset]
  "datetime.datetime(" ++
    ", ".intercalate (moment.date.numbers ++ clock ++ seconds ++ zone) ++ ")"

/-- The seconds from the start of the calendar, after taking off the offset
from universal time. -/
def universalSeconds (moment : Moment) : Int :=
  moment.date.dayNumber * 86400 + moment.hour * 3600 + moment.minute * 60 +
    moment.second - moment.offset.getD 0

/-- Whether two points in time are the same.  A point in time without offset
is never the same as one with an offset. -/
def isSame (first second : Moment) : Bool :=
  first.offset.isSome == second.offset.isSome &&
    first.universalSeconds == second.universalSeconds &&
    first.microsecond == second.microsecond

end Moment

/-! ## Keys -/

namespace Value

/-- The number of a flag, as keys are compared. -/
def flagNumber (flag : Bool) : Int :=
  if flag then 1 else 0

/-- Whether two floating-point values are the same key. -/
def sameFloat (first : Number.Double) (firstOrigin : Nat)
    (second : Number.Double) (secondOrigin : Nat) : Bool :=
  first.sameNumber second ||
    (first == .nan && second == .nan && firstOrigin == secondOrigin)

/-- Whether two scalar values are the same key.  Flags and numbers are
compared by their numerical value. -/
def sameKey : Value → Value → Bool
  | null, null => true
  | bool first, bool second => first == second
  | bool first, int second => flagNumber first == second
  | bool first, float second _ => second.equalsInt (flagNumber first)
  | int first, bool second => first == flagNumber second
  | int first, int second => first == second
  | int first, float second _ => second.equalsInt first
  | float first _, bool second => first.equalsInt (flagNumber second)
  | float first _, int second => first.equalsInt second
  | float first firstOrigin, float second secondOrigin =>
      sameFloat first firstOrigin second secondOrigin
  | text first, text second => first == second
  | bytes first, bytes second => first == second
  | date first, date second => first == second
  | moment first, moment second => first.isSame second
  | _, _ => false

/-- Whether a value may be a key: collections may not. -/
def isKey : Value → Bool
  | collection _ => false
  | _ => true

/-- Add an entry, or replace the value of the entry with its key. -/
def insertEntry (key value : Value) :
    List (Value × Value) → List (Value × Value)
  | [] => [(key, value)]
  | entry :: rest =>
      if entry.1.sameKey key then (entry.1, value) :: rest
      else entry :: insertEntry key value rest

/-- The mapping with the given entries; for equal keys the last value counts
and stands where the key stood first. -/
def mappingOf (entries : List (Value × Value)) : List (Value × Value) :=
  entries.foldl (fun kept entry => insertEntry entry.1 entry.2 kept) []

end Value

/-! ## Texts of values in messages -/

/-- Why a value cannot be shown in a message. -/
inductive Obstacle where
  /-- It leads to an integer with more digits than can be written. -/
  | longInteger
  /-- Its collections nest too deeply. -/
  | tooDeep
deriving DecidableEq, Repr, Inhabited

namespace Collection

/-- The name of a collection's type. -/
def typeName : Collection → String
  | list _ => "list"
  | pair _ _ => "tuple"
  | mapping _ => "dict"
  | set _ => "set"

/-- The text of a collection that is met inside itself. -/
def again : Collection → String
  | list _ => "[...]"
  | pair _ _ => "(...)"
  | mapping _ => "\x7b...\x7d"
  | set _ => "set(...)"

/-- Texts in braces. -/
def inBraces (texts : List String) : String :=
  "\x7b" ++ ", ".intercalate texts ++ "\x7d"

/-- The text of a collection, when `describe` gives the texts of the values
in it. -/
def describeBy (describe : Value → Except Obstacle String) :
    Collection → Except Obstacle String
  | list items => do
      let texts ← items.mapM describe
      return "[" ++ ", ".intercalate texts ++ "]"
  | pair first second => do
      return "(" ++ (← describe first) ++ ", " ++ (← describe second) ++ ")"
  | mapping entries => do
      let texts ← entries.mapM fun (key, value) => do
        return (← describe key) ++ ": " ++ (← describe value)
      return inBraces texts
  | set members => do
      let texts ← members.mapM describe
      return if texts.isEmpty then "set()" else inBraces texts

end Collection

namespace Collections

/-- The text of a value inside the collections at the given open places, or
the first obstacle to it.  Every collection that is opened takes a level of
the room. -/
def describeWithin (collections : Collections) :
    Nat → List Nat → Value → Except Obstacle String
  | _, _, .null => .ok "None"
  | _, _, .bool flag => .ok (if flag then "True" else "False")
  | _, _, .int number =>
      if Number.exceedsDigits number then .error .longInteger
      else .ok (toString number)
  | _, _, .float number _ => .ok number.text
  | _, _, .text chars => .ok (collections.machine.halves.quoted chars)
  | _, _, .bytes content => .ok (Text.quotedBytes content)
  | _, _, .date day => .ok day.text
  | _, _, .moment time => .ok time.text
  | room, opened, .collection place =>
      match collections.places[place]? with
      | none => .ok ""
      | some found =>
          if opened.contains place then .ok found.again
          else
            match room with
            | 0 => .error .tooDeep
            | inner + 1 =>
                found.describeBy
                  (describeWithin collections inner (place :: opened))

/-- The text of a value in messages, or the first obstacle to it.  A
collection that is met inside itself is only hinted at. -/
def describe (collections : Collections) (value : Value) :
    Except Obstacle String :=
  describeWithin collections collections.machine.reach.shown [] value

/-- The name of a value's type in messages. -/
def typeName (collections : Collections) : Value → String
  | .null => "NoneType"
  | .bool _ => "bool"
  | .int _ => "int"
  | .float _ _ => "float"
  | .text _ => "str"
  | .bytes _ => "bytes"
  | .date _ => "date"
  | .moment _ => "datetime"
  | .collection place =>
      ((collections.places[place]?).map Collection.typeName).getD ""

/-- The items of a value that is a list. -/
def items? (collections : Collections) : Value → Option (List Value)
  | .collection place =>
      match collections.places[place]? with
      | some (.list items) => some items
      | _ => none
  | _ => none

/-- The entries of a value that is a mapping. -/
def entries? (collections : Collections) :
    Value → Option (List (Value × Value))
  | .collection place =>
      match collections.places[place]? with
      | some (.mapping entries) => some entries
      | _ => none
  | _ => none

/-- Put a collection at a new place. -/
def add (collections : Collections) (added : Collection) :
    Value × Collections :=
  (.collection collections.places.size,
    { collections with places := collections.places.push added })

end Collections

/-! ## JSON values -/

namespace Content

mutual

/-- A JSON value as a value, with its collections added to some others. -/
def addJson (collections : Collections) : Json → Value × Collections
  | .null => (.null, collections)
  | .bool flag => (.bool flag, collections)
  | .int number => (.int number, collections)
  | .float number => (.float number 0, collections)
  | .string chars => (.text chars, collections)
  | .array items =>
      let (values, after) := addItems collections items
      after.add (.list values)
  | .object members =>
      let (entries, after) := addMembers collections members
      after.add (.mapping entries)
termination_by structural json => json

/-- JSON items as values. -/
def addItems (collections : Collections) :
    List Json → List Value × Collections
  | [] => ([], collections)
  | item :: rest =>
      let (value, afterItem) := addJson collections item
      let (values, after) := addItems afterItem rest
      (value :: values, after)
termination_by structural items => items

/-- JSON members as entries of a mapping. -/
def addMembers (collections : Collections) :
    List (String × Json) → List (Value × Value) × Collections
  | [] => ([], collections)
  | (name, json) :: rest =>
      let (value, afterValue) := addJson collections json
      let (entries, after) := addMembers afterValue rest
      ((.text name, value) :: entries, after)
termination_by structural members => members

end

/-- The content of a JSON value. -/
def ofJson (machine : Machine) (json : Json) : Content :=
  let (root, collections) := addJson { machine } json
  { collections, root }

/-- The text of the whole content in messages, or the first obstacle to
it. -/
def describe (content : Content) : Except Obstacle String :=
  content.collections.describe content.root

end Content

end SwiftInterface
