import SwiftInterface.Text.Blank

/-!
# Lines

Two notions of a line live side by side.  A *segment* ends at any of the line
boundaries of the Unicode standard and keeps its end; indentation works on
segments.  A *row* ends at a line feed only and does not keep it;
documentation comments work on rows.
-/

namespace SwiftInterface

namespace Text

/-- The characters that end a segment. -/
def isLineEnd (char : Char) : Bool :=
  let code := char.toNat
  (0x0a ≤ code && code ≤ 0x0d) || (0x1c ≤ code && code ≤ 0x1e) ||
    code == 0x85 || code == 0x2028 || code == 0x2029

/-- Put a character in front of the first segment. -/
def consSegment (char : Char) : List (List Char) → List (List Char)
  | [] => [[char]]
  | segment :: segments => (char :: segment) :: segments

/-- The segments of a text with their ends.  A carriage return and the line
feed after it are one end. -/
def segments : List Char → List (List Char)
  | [] => []
  | '\r' :: '\n' :: rest => ['\r', '\n'] :: segments rest
  | char :: rest =>
      if isLineEnd char then [char] :: segments rest
      else consSegment char (segments rest)

/-- Put a mark in front of a segment, unless the segment is blank. -/
def indentSegment (mark segment : List Char) : List Char :=
  if isAllBlank segment then segment else mark ++ segment

/-- Put a mark in front of every segment that is not blank. -/
def indentChars (mark chars : List Char) : List Char :=
  (segments chars).flatMap (indentSegment mark)

/-- Put a mark in front of every line that is not blank. -/
def indent (mark text : String) : String :=
  String.ofList (indentChars mark.toList text.toList)

/-- The rows of a text: what stands between its line feeds. -/
def rowsOf (text : String) : List String :=
  (text.toList.splitOn '\n').map String.ofList

/-- Join texts by line feeds. -/
def joinRows (texts : List String) : String :=
  String.intercalate "\n" texts

/-- Write every line end of the three usual kinds as a line feed. -/
def unifyLineEnds : List Char → List Char
  | [] => []
  | '\r' :: '\n' :: rest => '\n' :: unifyLineEnds rest
  | '\r' :: rest => '\n' :: unifyLineEnds rest
  | char :: rest => char :: unifyLineEnds rest

end Text

end SwiftInterface
