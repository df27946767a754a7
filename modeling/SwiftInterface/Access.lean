import SwiftInterface.Text.Blank
import SwiftInterface.Text.LetterCase
import SwiftInterface.Text.UpperCase

/-!
# Access levels

The five access levels of Swift, from the most to the least restrictive, and
how a level is read from a classification text.  A classification is the
keyword of the level, alone or after the key that the source indexer puts in
front of it.  Whatever is not recognised counts as the most restrictive level.
-/

namespace SwiftInterface

/-- How widely a declaration is visible. -/
inductive AccessLevel where
  | privateAccess
  | fileprivateAccess
  | internalAccess
  | publicAccess
  | openAccess
deriving DecidableEq, Repr, Inhabited

namespace AccessLevel

/-- All levels in ascending order. -/
def all : List AccessLevel :=
  [privateAccess, fileprivateAccess, internalAccess, publicAccess, openAccess]

/-- The place of a level in the order from `private` to `open`. -/
def rank : AccessLevel → Nat
  | privateAccess => 0
  | fileprivateAccess => 1
  | internalAccess => 2
  | publicAccess => 3
  | openAccess => 4

/-- The keyword of a level. -/
def label : AccessLevel → String
  | privateAccess => "private"
  | fileprivateAccess => "fileprivate"
  | internalAccess => "internal"
  | publicAccess => "public"
  | openAccess => "open"

instance : LE AccessLevel where
  le first second := first.rank ≤ second.rank

instance : LT AccessLevel where
  lt first second := first.rank < second.rank

instance (first second : AccessLevel) : Decidable (first ≤ second) :=
  inferInstanceAs (Decidable (first.rank ≤ second.rank))

instance (first second : AccessLevel) : Decidable (first < second) :=
  inferInstanceAs (Decidable (first.rank < second.rank))

/-- The signed distance between two levels: negative, zero or positive as the
first is below, equal to or above the second. -/
def compare (first second : AccessLevel) : Int :=
  (first.rank : Int) - (second.rank : Int)

/-- The key that the source indexer writes in front of a level. -/
def classificationKey : String :=
  "source.lang.swift.accessibility."

/-- Remove one classification key from the front, if there is one. -/
def dropKey (chars : List Char) : List Char :=
  if classificationKey.toList.isPrefixOf chars then
    chars.drop classificationKey.toList.length
  else chars

/-- The keyword of a level in upper case, as keywords are compared. -/
def upperLabel (level : AccessLevel) : List Char :=
  level.label.toList.map Char.toUpper

/-- The level whose keyword a lower-case text spells. -/
def ofKeyword? (chars : List Char) : Option AccessLevel :=
  if Text.isLowerCase chars then
    all.find? fun level => level.upperLabel == Text.upper chars
  else none

/-- The level that a classification text names, with white space around it
and one classification key in front allowed. -/
def lookup? (text : String) : Option AccessLevel :=
  ofKeyword? (dropKey (Text.trimBy Text.isBlank text.toList))

/-- The level of a declaration with the given raw classification.  What is
absent or unknown is `private`. -/
def parse (raw : Option String) : AccessLevel :=
  (raw.bind lookup?).getD privateAccess

/-- The level used when a user names none that exists. -/
def fallback : AccessLevel :=
  publicAccess

/-- The level with the given keyword. -/
def ofLabel? (label : String) : Option AccessLevel :=
  all.find? fun level => level.label == label

end AccessLevel

end SwiftInterface
