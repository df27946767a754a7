import SwiftInterface.Yaml.Cursor

/-!
# Scalars of YAML

The texts of scalars in their five styles: plain, single and double quoted,
literal and folded.  Every function starts at a cursor and yields the text
and the cursor after it.  Fuel is always the length of the text that remains,
which every round of a loop makes shorter.
-/

namespace SwiftInterface

namespace Yaml

/-- The number that hexadecimal digits spell. -/
def hexNumber? (chars : List Char) : Option Nat :=
  chars.foldlM
    (fun value char => (Text.hexDigitValue? char).map (16 * value + ·)) 0

/-! ## Quoted scalars -/

/-- The line breaks between two lines of a quoted scalar.  A marker between
documents may not stand at the start of a line. -/
def quotedBreaks : Nat → Cursor → Except Problem (List Char × Cursor)
  | 0, cursor => .ok ([], cursor)
  | fuel + 1, cursor =>
      if cursor.atDocumentMark then .error .malformed
      else
        let lineStart := cursor.skip fun char => char == ' ' || char == '\t'
        if isBreak lineStart.peek then do
          let (lineEnd, next) := lineStart.lineBreak
          let (others, after) ← quotedBreaks fuel next
          return (lineEnd ++ others, after)
        else return ([], lineStart)

/-- How a line break and the empty lines after it are folded: a single usual
break becomes a space, and in front of empty lines it vanishes. -/
def foldBreaks (lineEnd others : List Char) : List Char :=
  if lineEnd ≠ ['\n'] then lineEnd ++ others
  else if others.isEmpty then [' ']
  else others

/-- White space inside a quoted scalar. -/
def quotedSpaces (cursor : Cursor) : Except Problem (List Char × Cursor) :=
  let (blanks, after) := cursor.span fun char => char == ' ' || char == '\t'
  if after.peek == endMark then .error .malformed
  else if isBreak after.peek then do
    let (lineEnd, next) := after.lineBreak
    let (others, last) ← quotedBreaks (next.rest.length + 1) next
    return (foldBreaks lineEnd others, last)
  else .ok (blanks, after)

/-- The characters of one-letter escapes. -/
def escapeOf? : Char → Option Char
  | '0' => some '\x00'
  | 'a' => some '\x07'
  | 'b' => some '\x08'
  | 't' => some '\t'
  | '\t' => some '\t'
  | 'n' => some '\n'
  | 'v' => some '\x0b'
  | 'f' => some '\x0c'
  | 'r' => some '\r'
  | 'e' => some '\x1b'
  | ' ' => some ' '
  | '"' => some '"'
  | '\\' => some '\\'
  | '/' => some '/'
  | 'N' => some '\x85'
  | '_' => some '\xa0'
  | 'L' => some '\u2028'
  | 'P' => some '\u2029'
  | _ => none

/-- The number of digits of a code escape. -/
def escapeWidth? : Char → Option Nat
  | 'x' => some 2
  | 'u' => some 4
  | 'U' => some 8
  | _ => none

/-- The character of a code escape. -/
def charOfEscape (halves : Text.Halves) (code : Nat) : Except Problem Char :=
  if code < 0x110000 then .ok (Json.charOfCode halves code)
  else if code < 0x80000000 then .error (.fault .codePointTooLarge)
  else .error (.fault .codePointOverflow)

/-- An escape of a double quoted scalar; the cursor stands after the
backslash. -/
def quotedEscape (cursor : Cursor) : Except Problem (List Char × Cursor) :=
  match escapeOf? cursor.peek with
  | some char => .ok ([char], cursor.forward)
  | none =>
      match escapeWidth? cursor.peek with
      | some width => do
          let digits := cursor.forward.rest.take width
          if digits.length < width then throw .malformed
          match hexNumber? digits with
          | none => throw .malformed
          | some code =>
              let char ← charOfEscape cursor.halves code
              return ([char], cursor.forward.advance width)
      | none =>
          if isBreak cursor.peek then
            let next := cursor.lineBreak.2
            quotedBreaks (next.rest.length + 1) next
          else .error .malformed

/-- Whether a character is an ordinary one of a quoted scalar. -/
def isQuotedChar (char : Char) : Bool :=
  !(char == '\'' || char == '"' || char == '\\' || isBoundary char)

/-- The characters of a quoted scalar up to white space or its end. -/
def quotedWord (double : Bool) :
    Nat → Cursor → Except Problem (List Char × Cursor)
  | 0, cursor => .ok ([], cursor)
  | fuel + 1, cursor =>
      let (chars, after) := cursor.span isQuotedChar
      let char := after.peek
      let goOn (piece : List Char) (next : Cursor) :
          Except Problem (List Char × Cursor) := do
        let (others, last) ← quotedWord double fuel next
        return (chars ++ piece ++ others, last)
      if !double && char == '\'' && after.peekAt 1 == '\'' then
        goOn ['\''] (after.advance 2)
      else if (double && char == '\'') ||
          (!double && (char == '"' || char == '\\')) then
        goOn [char] after.forward
      else if double && char == '\\' then do
        let (piece, next) ← quotedEscape after.forward
        goOn piece next
      else .ok (chars, after)

/-- The parts of a quoted scalar up to its closing quote. -/
def quotedParts (quote : Char) :
    Nat → Cursor → Except Problem (List Char × Cursor)
  | 0, _ => .error .malformed
  | fuel + 1, cursor =>
      if cursor.peek == quote then .ok ([], cursor.forward)
      else do
        let (blanks, afterBlanks) ← quotedSpaces cursor
        let (word, afterWord) ←
          quotedWord (quote == '"') (fuel + 1) afterBlanks
        let (others, last) ← quotedParts quote fuel afterWord
        return (blanks ++ word ++ others, last)

/-- A quoted scalar; the cursor stands at the opening quote. -/
def quotedScalar (cursor : Cursor) : Except Problem (List Char × Cursor) := do
  let quote := cursor.peek
  let inside := cursor.forward
  let (word, afterWord) ←
    quotedWord (quote == '"') (inside.rest.length + 1) inside
  let (others, last) ← quotedParts quote (afterWord.rest.length + 1) afterWord
  return (word ++ others, last)

/-! ## Block scalars -/

/-- What to do with the line breaks at the end of a block scalar. -/
inductive Chomping where
  | clip
  | strip
  | keep
deriving DecidableEq, Repr, Inhabited

/-- The chomping that a sign asks for. -/
def chompingOf? : Char → Option Chomping
  | '+' => some .keep
  | '-' => some .strip
  | _ => none

/-- The header of a block scalar: chomping and indentation in either order. -/
def blockHeader (cursor : Cursor) :
    Except Problem (Chomping × Option Nat × Cursor) := do
  let (chomping, afterSign) :=
    match chompingOf? cursor.peek with
    | some chomping => (some chomping, cursor.forward)
    | none => (none, cursor)
  let (increment, afterDigit) ←
    if Text.isBasicDigit afterSign.peek then
      if afterSign.peek == '0' then throw Problem.malformed
      else pure (some (Text.basicDigitValue afterSign.peek), afterSign.forward)
    else pure (none, afterSign)
  let (chomping, last) :=
    match chomping, increment, chompingOf? afterDigit.peek with
    | none, some _, some late => (some late, afterDigit.forward)
    | early, _, _ => (early, afterDigit)
  if isSpaceOrEnd last.peek then
    return (chomping.getD .clip, increment, last)
  else throw .malformed

/-- The breaks in front of the first line of a block scalar, and the largest
column reached by spaces among them. -/
def blockIndentation : Nat → Nat → Cursor → List Char × Nat × Cursor
  | 0, widest, cursor => ([], widest, cursor)
  | fuel + 1, widest, cursor =>
      if cursor.peek == ' ' then
        let next := cursor.forward
        blockIndentation fuel (max widest next.column) next
      else if isBreak cursor.peek then
        let (lineEnd, next) := cursor.lineBreak
        let (others, found, last) := blockIndentation fuel widest next
        (lineEnd ++ others, found, last)
      else ([], widest, cursor)

/-- Go over spaces up to a column. -/
def skipIndent (indent : Nat) (cursor : Cursor) : Cursor :=
  cursor.advance
    ((cursor.rest.take (indent - cursor.column)).takeWhile (· == ' ')).length

/-- The breaks between two lines of a block scalar. -/
def blockBreaks (indent : Nat) : Nat → Cursor → List Char × Cursor
  | 0, cursor => ([], cursor)
  | fuel + 1, cursor =>
      let start := skipIndent indent cursor
      if isBreak start.peek then
        let (lineEnd, next) := start.lineBreak
        let (others, last) := blockBreaks indent fuel next
        (lineEnd ++ others, last)
      else ([], start)

/-- Whether a character starts a line that is indented further. -/
def isExtraIndent (char : Char) : Bool :=
  char == ' ' || char == '\t'

/-- The lines of a block scalar with the breaks between them.  The result is
the text, the last line break, the breaks after it and the cursor. -/
def blockLines (folded : Bool) (indent : Nat) :
    Nat → List Char → Cursor → List Char × List Char × List Char × Cursor
  | 0, breaks, cursor => ([], [], breaks, cursor)
  | fuel + 1, breaks, cursor =>
      let (line, lineDone) := cursor.span fun char => !isBreakOrEnd char
      let (lineEnd, next) := lineDone.lineBreak
      let (others, start) := blockBreaks indent (next.rest.length + 1) next
      if start.column = indent ∧ start.peek ≠ endMark then
        let joint :=
          if folded && lineEnd == ['\n'] && !isExtraIndent cursor.peek &&
              !isExtraIndent start.peek then
            if others.isEmpty then [' '] else []
          else lineEnd
        let (text, finalBreak, finalBreaks, last) :=
          blockLines folded indent fuel others start
        (breaks ++ line ++ joint ++ text, finalBreak, finalBreaks, last)
      else (breaks ++ line, lineEnd, others, start)

/-- A block scalar inside a collection with the given indentation; the cursor
stands at its style mark. -/
def blockScalar (outerIndent : Int) (cursor : Cursor) :
    Except Problem (List Char × Cursor) := do
  let folded := cursor.peek == '>'
  let (chomping, increment, afterHeader) ← blockHeader cursor.forward
  let body ← afterHeader.skipIgnoredLine
  let least := max 1 (outerIndent + 1).toNat
  let (indent, breaks, start) :=
    match increment with
    | none =>
        let (breaks, widest, start) :=
          blockIndentation (body.rest.length + 1) 0 body
        (max least widest, breaks, start)
    | some increment =>
        let indent := least + increment - 1
        let (breaks, start) := blockBreaks indent (body.rest.length + 1) body
        (indent, breaks, start)
  let (text, finalBreak, finalBreaks, last) :=
    if start.column = indent ∧ start.peek ≠ endMark then
      blockLines folded indent (start.rest.length + 1) breaks start
    else ([], [], breaks, start)
  let tail :=
    match chomping with
    | .strip => []
    | .clip => finalBreak
    | .keep => finalBreak ++ finalBreaks
  return (text ++ tail, last)

/-! ## Plain scalars -/

/-- The white space after a word of a plain scalar.  The answer is absent at
a marker between documents; the flag tells whether a line was ended. -/
def plainBreaks : Nat → Cursor → Option (List Char) × Cursor
  | 0, cursor => (some [], cursor)
  | fuel + 1, cursor =>
      if cursor.peek == ' ' then plainBreaks fuel cursor.forward
      else if isBreak cursor.peek then
        let (lineEnd, next) := cursor.lineBreak
        if next.atDocumentMark then (none, next)
        else
          match plainBreaks fuel next with
          | (some others, last) => (some (lineEnd ++ others), last)
          | (none, last) => (none, last)
      else (some [], cursor)

/-- The white space after a word of a plain scalar, whether it ended a line,
and the cursor after it.  It is empty where the scalar must end. -/
def plainSpaces (cursor : Cursor) : List Char × Bool × Cursor :=
  let (blanks, after) := cursor.span (· == ' ')
  if isBreak after.peek then
    let (lineEnd, next) := after.lineBreak
    if next.atDocumentMark then ([], true, next)
    else
      match plainBreaks (next.rest.length + 1) next with
      | (none, last) => ([], true, last)
      | (some others, last) => (foldBreaks lineEnd others, true, last)
  else (blanks, false, after)

/-- Whether a character ends plain scalars inside brackets. -/
def isFlowMark (char : Char) : Bool :=
  char == ',' || char == '[' || char == ']' || char == '\x7b' ||
    char == '\x7d'

/-- The length of the plain word at the front of a text. -/
def plainWordLength (inFlow : Bool) : List Char → Nat
  | [] => 0
  | char :: rest =>
      let next := rest.headD endMark
      if isBoundary char ||
          (char == ':' &&
            (isBoundary next || (inFlow && isFlowMark next))) ||
          (inFlow && (char == '?' || isFlowMark char)) then 0
      else plainWordLength inFlow rest + 1

/-- The words of a plain scalar after its first white space.  `spaces` is the
white space in front of the cursor.  The flag in the result tells whether a
line was ended after the last word. -/
def plainWords (inFlow : Bool) (indent : Int) :
    Nat → List Char → Bool → Cursor → List Char × Bool × Cursor
  | 0, _, lineEnded, cursor => ([], lineEnded, cursor)
  | fuel + 1, spaces, lineEnded, cursor =>
      let size := plainWordLength inFlow cursor.rest
      if cursor.peek == '#' || size = 0 then ([], lineEnded, cursor)
      else
        let word := cursor.rest.take size
        let (blanks, lineEnded, next) := plainSpaces (cursor.advance size)
        if blanks.isEmpty || next.peek == '#' ||
            (!inFlow && (next.column : Int) < indent) then
          (spaces ++ word, lineEnded, next)
        else
          let (others, lineEnded, last) :=
            plainWords inFlow indent fuel blanks lineEnded next
          (spaces ++ word ++ others, lineEnded, last)

/-- A plain scalar inside a collection with the given indentation, and
whether a line was ended after it. -/
def plainScalar (inFlow : Bool) (outerIndent : Int) (cursor : Cursor) :
    List Char × Bool × Cursor :=
  plainWords inFlow (outerIndent + 1) (cursor.rest.length + 1) [] false cursor

end Yaml

end SwiftInterface
