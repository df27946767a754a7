import SwiftInterface.Failure

/-!
# Cursors over YAML text

A cursor is the text that remains together with the line and column reached.
The end of the text is seen as the null character, which no YAML text holds.
-/

namespace SwiftInterface

namespace Yaml

/-- Why a YAML text cannot be read. -/
inductive Problem where
  /-- The text is not YAML, or holds a value that cannot be built. -/
  | malformed
  /-- A scalar does not have the form that its type needs. -/
  | fault (fault : Fault)
deriving DecidableEq, Repr, Inhabited

/-- The character seen at the end of the text. -/
def endMark : Char :=
  '\x00'

/-- Whether a character ends a line. -/
def isBreak (char : Char) : Bool :=
  char == '\n' || char == '\r' || char == '\x85' || char == '\u2028' ||
    char == '\u2029'

/-- Whether a line ends here. -/
def isBreakOrEnd (char : Char) : Bool :=
  char == endMark || isBreak char

/-- Whether a token may end here: at a space, a tab or the end of a line. -/
def isBoundary (char : Char) : Bool :=
  char == ' ' || char == '\t' || isBreakOrEnd char

/-- Whether a directive or tag may end here: at a space or the end of a
line. -/
def isSpaceOrEnd (char : Char) : Bool :=
  char == ' ' || isBreakOrEnd char

/-- Whether a character may stand in names. -/
def isWordChar (char : Char) : Bool :=
  ('0' ≤ char && char ≤ '9') || ('A' ≤ char && char ≤ 'Z') ||
    ('a' ≤ char && char ≤ 'z') || char == '-' || char == '_'

/-- A place in a text, on a machine with characters that stand for halves. -/
structure Cursor where
  halves : Text.Halves
  rest : List Char
  index : Nat := 0
  line : Nat := 0
  column : Nat := 0
deriving Inhabited

namespace Cursor

/-- The character at the cursor. -/
def peek (cursor : Cursor) : Char :=
  cursor.rest.headD endMark

/-- The character some places after the cursor. -/
def peekAt (cursor : Cursor) (distance : Nat) : Char :=
  (cursor.rest.drop distance).headD endMark

/-- Go over one character.  A byte order mark takes no column. -/
def forward (cursor : Cursor) : Cursor :=
  match cursor.rest with
  | [] => cursor
  | char :: rest =>
      if isBreak char && !(char == '\r' && rest.head? == some '\n') then
        { cursor with
          rest, index := cursor.index + 1, line := cursor.line + 1,
          column := 0 }
      else if char == '\ufeff' then
        { cursor with rest, index := cursor.index + 1 }
      else
        { cursor with
          rest, index := cursor.index + 1, column := cursor.column + 1 }

/-- Go over some characters. -/
def advance (cursor : Cursor) : Nat → Cursor
  | 0 => cursor
  | count + 1 => cursor.forward.advance count

/-- The characters of a class at the cursor, and the cursor after them. -/
def span (cursor : Cursor) (belongs : Char → Bool) : List Char × Cursor :=
  let chars := cursor.rest.takeWhile belongs
  (chars, cursor.advance chars.length)

/-- Go over the characters of a class. -/
def skip (cursor : Cursor) (belongs : Char → Bool) : Cursor :=
  (cursor.span belongs).2

/-- Go over spaces. -/
def skipSpaces (cursor : Cursor) : Cursor :=
  cursor.skip (· == ' ')

/-- Go over a comment. -/
def skipComment (cursor : Cursor) : Cursor :=
  if cursor.peek == '#' then cursor.skip fun char => !isBreakOrEnd char
  else cursor

/-- The line break at the cursor and the cursor after it; the break is empty
if there is none.  The usual breaks all count as a line feed. -/
def lineBreak (cursor : Cursor) : List Char × Cursor :=
  match cursor.rest with
  | '\r' :: '\n' :: _ => (['\n'], cursor.advance 2)
  | char :: _ =>
      if char == '\u2028' || char == '\u2029' then ([char], cursor.forward)
      else if isBreak char then (['\n'], cursor.forward)
      else ([], cursor)
  | [] => ([], cursor)

/-- Whether a marker between documents stands at the cursor. -/
def atDocumentMark (cursor : Cursor) : Bool :=
  (['-', '-', '-'].isPrefixOf cursor.rest ||
    ['.', '.', '.'].isPrefixOf cursor.rest) && isBoundary (cursor.peekAt 3)

/-- Go over the rest of a line that may only hold a comment. -/
def skipIgnoredLine (cursor : Cursor) : Except Problem Cursor :=
  let after := cursor.skipSpaces.skipComment
  if isBreakOrEnd after.peek then .ok after.lineBreak.2
  else .error .malformed

end Cursor

end Yaml

end SwiftInterface
