import SwiftInterface.Yaml.Scalar

/-!
# Tokens of YAML

A YAML text is a sequence of tokens.  The indentation of blocks becomes
tokens of its own.  A key is only recognised by the colon after it, so the
place where a key may have started is remembered until the colon is met; its
token is then put in at that place.
-/

namespace SwiftInterface

namespace Yaml

/-- What a directive says. -/
inductive Directive where
  | version (major minor : Nat)
  | tag (handle leader : String)
  | other
deriving DecidableEq, Repr, Inhabited

/-- A token.  A problem stands where the text stops being readable. -/
inductive Token where
  | streamEnd
  | directive (directive : Directive)
  | documentStart
  | documentEnd
  | blockSequenceStart
  | blockMappingStart
  | blockEnd
  | flowSequenceStart
  | flowSequenceEnd
  | flowMappingStart
  | flowMappingEnd
  | blockEntry
  | flowEntry
  | key
  | value
  | alias (name : String)
  | anchor (name : String)
  | tag (handle : Option String) (suffix : String)
  | scalar (text : String) (plain : Bool)
  | problem (problem : Problem)
deriving DecidableEq, Repr, Inhabited

/-- A place where a key may have started. -/
structure PendingKey where
  /-- The number of tokens in front of it. -/
  position : Nat
  /-- Whether a key must follow because the line is a new entry of a block. -/
  required : Bool
  index : Nat
  line : Nat
  column : Nat
deriving DecidableEq, Repr, Inhabited

/-- The state of the token reader. -/
structure Reader where
  cursor : Cursor
  /-- The tokens read so far, the latest first. -/
  latest : List Token := []
  /-- How many tokens were read so far. -/
  count : Nat := 0
  /-- How many brackets are open. -/
  flowLevel : Nat := 0
  /-- The column of the innermost open block. -/
  indent : Int := -1
  /-- The columns of the blocks around it. -/
  outerIndents : List Int := []
  /-- Whether a key may start here. -/
  keyAllowed : Bool := true
  /-- The places of possible keys by bracket level. -/
  pendingKeys : List (Nat × PendingKey) := []
deriving Inhabited

namespace Reader

/-- The first tokens read, in order. -/
def firstTokens (reader : Reader) (number : Nat) : List Token :=
  (reader.latest.drop (reader.count - number)).reverse

/-- Add a token. -/
def emit (reader : Reader) (token : Token) : Reader :=
  { reader with latest := token :: reader.latest, count := reader.count + 1 }

/-- Put a token in after the first tokens. -/
def insertAt (reader : Reader) (position : Nat) (token : Token) : Reader :=
  let later := reader.count - position
  { reader with
    latest := reader.latest.take later ++ token :: reader.latest.drop later
    count := reader.count + 1 }

/-- Whether the reader is inside brackets. -/
def inFlow (reader : Reader) : Bool :=
  reader.flowLevel ≠ 0

/-- Open a block at a column unless one is open there already. -/
def openBlock (reader : Reader) (column : Int) : Bool × Reader :=
  if reader.indent < column then
    (true, { reader with
      outerIndents := reader.indent :: reader.outerIndents, indent := column })
  else (false, reader)

/-- Close the blocks to the right of a column.  Fuel is the number of open
blocks. -/
def closeBlocksFrom (column : Int) : Nat → Reader → Reader
  | 0, reader => reader
  | fuel + 1, reader =>
      if column < reader.indent then
        match reader.outerIndents with
        | [] => { reader with indent := -1 }
        | outer :: others =>
            closeBlocksFrom column fuel
              { (reader.emit .blockEnd) with
                indent := outer, outerIndents := others }
      else reader

/-- Close the blocks to the right of a column, unless inside brackets. -/
def closeBlocks (reader : Reader) (column : Int) : Reader :=
  if reader.inFlow then reader
  else closeBlocksFrom column (reader.outerIndents.length + 1) reader

/-- Forget the possible key of the current bracket level; one that is
required may not be forgotten. -/
def dropPendingKey (reader : Reader) : Except Problem Reader :=
  match reader.pendingKeys.lookup reader.flowLevel with
  | none => .ok reader
  | some pending =>
      if pending.required then .error .malformed
      else
        .ok { reader with
          pendingKeys := reader.pendingKeys.filter
            fun entry => entry.1 ≠ reader.flowLevel }

/-- Remember that a key may start at the cursor. -/
def savePendingKey (reader : Reader) : Except Problem Reader :=
  if reader.keyAllowed then do
    let cleared ← reader.dropPendingKey
    let pending : PendingKey :=
      { position := reader.count
        required := !reader.inFlow &&
          reader.indent == (reader.cursor.column : Int)
        index := reader.cursor.index
        line := reader.cursor.line
        column := reader.cursor.column }
    return { cleared with
      pendingKeys := (reader.flowLevel, pending) :: cleared.pendingKeys }
  else .ok reader

/-- The greatest distance between the start of a key and its colon. -/
def keyReach : Nat :=
  1024

/-- Whether a possible key cannot be one any more at a cursor. -/
def isStale (cursor : Cursor) (pending : PendingKey) : Bool :=
  pending.line ≠ cursor.line || keyReach < cursor.index - pending.index

/-- Forget the possible keys that cannot be keys any more. -/
def dropStaleKeys (reader : Reader) : Except Problem Reader :=
  if reader.pendingKeys.any fun entry =>
      isStale reader.cursor entry.2 && entry.2.required then
    .error .malformed
  else
    .ok { reader with
      pendingKeys := reader.pendingKeys.filter
        fun entry => !isStale reader.cursor entry.2 }

/-- Go to the next token over spaces, comments and line ends.  Outside
brackets a key may start after a line end. -/
def skipToToken : Nat → Reader → Reader
  | 0, reader => reader
  | fuel + 1, reader =>
      let after := reader.cursor.skipSpaces.skipComment
      if isBreak after.peek then
        skipToToken fuel
          { reader with
            cursor := after.lineBreak.2
            keyAllowed := reader.keyAllowed || !reader.inFlow }
      else { reader with cursor := after }

/-- Go over a byte order mark at the start of the text. -/
def skipByteOrderMark (reader : Reader) : Reader :=
  if reader.cursor.index = 0 ∧ reader.cursor.peek = '\ufeff' then
    { reader with cursor := reader.cursor.forward }
  else reader

/-! ## Directives, tags and names -/

/-- A name after a mark such as `&`. -/
def word (cursor : Cursor) : Except Problem (String × Cursor) :=
  let (chars, after) := cursor.span isWordChar
  if chars.isEmpty then .error .malformed
  else .ok (String.ofList chars, after)

/-- A number of a version directive. -/
def versionNumber (cursor : Cursor) : Except Problem (Nat × Cursor) :=
  let (digits, after) := cursor.span Text.isBasicDigit
  if digits.isEmpty then .error .malformed
  else if Number.digitLimit < digits.length then
    .error (.fault (.unreadableInteger digits.length))
  else .ok (Text.decimalValue digits, after)

/-- Whether a character may stand in a tag. -/
def isTagChar (char : Char) : Bool :=
  isWordChar char || ";/?:@&=+$,.!~*'()[]".toList.contains char

/-- The bytes of percent escapes. -/
def percentBytes : Nat → Cursor → Except Problem (List UInt8 × Cursor)
  | 0, cursor => .ok ([], cursor)
  | fuel + 1, cursor =>
      match cursor.rest with
      | '%' :: high :: low :: _ =>
          match hexNumber? [high, low] with
          | none => .error .malformed
          | some code => do
              let (others, last) ← percentBytes fuel (cursor.advance 3)
              return (UInt8.ofNat code :: others, last)
      | '%' :: _ => .error .malformed
      | _ => .ok ([], cursor)

/-- The characters of a tag, with percent escapes decoded. -/
def tagChars : Nat → Cursor → Except Problem (List Char × Cursor)
  | 0, cursor => .ok ([], cursor)
  | fuel + 1, cursor =>
      let (chars, after) := cursor.span isTagChar
      if after.peek == '%' then do
        let (bytes, next) ← percentBytes (after.rest.length + 1) after
        match String.fromUTF8? ⟨bytes.toArray⟩ with
        | none => throw .malformed
        | some decoded =>
            let (others, last) ← tagChars fuel next
            return (chars ++ decoded.toList ++ others, last)
      else .ok (chars, after)

/-- The text of a tag, which may not be empty. -/
def tagText (cursor : Cursor) : Except Problem (String × Cursor) := do
  let (chars, after) ← tagChars (cursor.rest.length + 1) cursor
  if after.index = cursor.index then throw .malformed
  return (String.ofList chars, after)

/-- A handle of tags: an exclamation mark, or a name between two. -/
def tagHandle (cursor : Cursor) : Except Problem (String × Cursor) :=
  if cursor.peek ≠ '!' then .error .malformed
  else if cursor.peekAt 1 == ' ' then .ok ("!", cursor.forward)
  else
    let (chars, after) := cursor.forward.span isWordChar
    if after.peek == '!' then
      .ok (String.ofList ('!' :: chars ++ ['!']), after.forward)
    else .error .malformed

/-- A directive; the cursor stands at its percent sign. -/
def directive (cursor : Cursor) : Except Problem (Directive × Cursor) := do
  let (name, afterName) ← word cursor.forward
  if !isSpaceOrEnd afterName.peek then throw .malformed
  if name = "YAML" then
    let (major, afterMajor) ← versionNumber afterName.skipSpaces
    if afterMajor.peek ≠ '.' then throw .malformed
    let (minor, afterMinor) ← versionNumber afterMajor.forward
    if !isSpaceOrEnd afterMinor.peek then throw .malformed
    return (.version major minor, ← afterMinor.skipIgnoredLine)
  else if name = "TAG" then
    let (handle, afterHandle) ← tagHandle afterName.skipSpaces
    if afterHandle.peek ≠ ' ' then throw .malformed
    let (leader, afterLeader) ← tagText afterHandle.skipSpaces
    if !isSpaceOrEnd afterLeader.peek then throw .malformed
    return (.tag handle leader, ← afterLeader.skipIgnoredLine)
  else
    let afterText := afterName.skip fun char => !isBreakOrEnd char
    return (.other, ← afterText.skipIgnoredLine)

/-- Whether the tag at the cursor has a handle with two marks. -/
def hasNamedHandle (cursor : Cursor) : Bool :=
  (cursor.rest.drop 1).takeWhile (fun char => !isSpaceOrEnd char)
    |>.contains '!'

/-- A tag; the cursor stands at its exclamation mark. -/
def tag (cursor : Cursor) : Except Problem (Token × Cursor) := do
  let next := cursor.peekAt 1
  let (token, after) ←
    if next == '<' then do
      let (suffix, afterSuffix) ← tagText (cursor.advance 2)
      if afterSuffix.peek ≠ '>' then throw Problem.malformed
      pure (Token.tag none suffix, afterSuffix.forward)
    else if isBoundary next then pure (Token.tag none "!", cursor.forward)
    else do
      let (handle, afterHandle) ←
        if hasNamedHandle cursor then tagHandle cursor
        else pure ("!", cursor.forward)
      let (suffix, afterSuffix) ← tagText afterHandle
      pure (Token.tag (some handle) suffix, afterSuffix)
  if isSpaceOrEnd after.peek then return (token, after)
  else throw .malformed

/-- The name of an anchor or alias; the cursor stands at its mark. -/
def anchorName (cursor : Cursor) : Except Problem (String × Cursor) := do
  let (name, after) ← word cursor.forward
  if isBoundary after.peek ||
      "?:,]\x7d%@\x60".toList.contains after.peek then
    return (name, after)
  else throw .malformed

/-! ## One token -/

/-- End the text. -/
def readStreamEnd (reader : Reader) : Except Problem Reader := do
  let closed := reader.closeBlocks (-1)
  let cleared ← closed.dropPendingKey
  return { (cleared.emit .streamEnd) with
    keyAllowed := false, pendingKeys := [] }

/-- Read a directive. -/
def readDirective (reader : Reader) : Except Problem Reader := do
  let cleared ← (reader.closeBlocks (-1)).dropPendingKey
  let (directive, after) ← directive reader.cursor
  return { (cleared.emit (.directive directive)) with
    keyAllowed := false, cursor := after }

/-- Read a marker between documents. -/
def readDocumentMark (reader : Reader) (token : Token) :
    Except Problem Reader := do
  let cleared ← (reader.closeBlocks (-1)).dropPendingKey
  return { (cleared.emit token) with
    keyAllowed := false, cursor := reader.cursor.advance 3 }

/-- Read an opening bracket. -/
def readFlowStart (reader : Reader) (token : Token) :
    Except Problem Reader := do
  let saved ← reader.savePendingKey
  return { (saved.emit token) with
    flowLevel := reader.flowLevel + 1, keyAllowed := true
    cursor := reader.cursor.forward }

/-- Read a closing bracket. -/
def readFlowEnd (reader : Reader) (token : Token) : Except Problem Reader := do
  let cleared ← reader.dropPendingKey
  return { (cleared.emit token) with
    flowLevel := reader.flowLevel - 1, keyAllowed := false
    cursor := reader.cursor.forward }

/-- Read a comma between entries. -/
def readFlowEntry (reader : Reader) : Except Problem Reader := do
  let cleared ← reader.dropPendingKey
  return { (cleared.emit .flowEntry) with
    keyAllowed := true, cursor := reader.cursor.forward }

/-- Open a block with a start token, if a block may start here. -/
def startBlock (reader : Reader) (token : Token) : Except Problem Reader :=
  if reader.inFlow then .ok reader
  else if !reader.keyAllowed then .error .malformed
  else
    let (opened, next) := reader.openBlock reader.cursor.column
    .ok (if opened then next.emit token else next)

/-- Read the dash of a sequence entry. -/
def readBlockEntry (reader : Reader) : Except Problem Reader := do
  let started ← reader.startBlock .blockSequenceStart
  let cleared ← started.dropPendingKey
  return { (cleared.emit .blockEntry) with
    keyAllowed := true, cursor := reader.cursor.forward }

/-- Read the question mark of a key. -/
def readKey (reader : Reader) : Except Problem Reader := do
  let started ← reader.startBlock .blockMappingStart
  let cleared ← started.dropPendingKey
  return { (cleared.emit .key) with
    keyAllowed := !reader.inFlow, cursor := reader.cursor.forward }

/-- Read the colon in front of a value.  It turns the possible key of this
bracket level into a key. -/
def readValue (reader : Reader) : Except Problem Reader := do
  let marked ←
    match reader.pendingKeys.lookup reader.flowLevel with
    | some pending =>
        let taken := { reader with
          pendingKeys := reader.pendingKeys.filter
            fun entry => entry.1 ≠ reader.flowLevel }
        let withKey := taken.insertAt pending.position .key
        let opened :=
          if reader.inFlow then withKey
          else
            match withKey.openBlock pending.column with
            | (true, next) => next.insertAt pending.position .blockMappingStart
            | (false, next) => next
        pure { opened with keyAllowed := false }
    | none =>
        let started ← reader.startBlock .blockMappingStart
        let cleared ← started.dropPendingKey
        pure { cleared with keyAllowed := !reader.inFlow }
  return { (marked.emit .value) with cursor := reader.cursor.forward }

/-- Read an anchor or an alias. -/
def readAnchor (reader : Reader) (token : String → Token) :
    Except Problem Reader := do
  let saved ← reader.savePendingKey
  let (name, after) ← anchorName reader.cursor
  return { (saved.emit (token name)) with keyAllowed := false, cursor := after }

/-- Read a tag. -/
def readTag (reader : Reader) : Except Problem Reader := do
  let saved ← reader.savePendingKey
  let (token, after) ← tag reader.cursor
  return { (saved.emit token) with keyAllowed := false, cursor := after }

/-- Read a literal or folded scalar. -/
def readBlockScalar (reader : Reader) : Except Problem Reader := do
  let cleared ← reader.dropPendingKey
  let (text, after) ← blockScalar reader.indent reader.cursor
  return { (cleared.emit (.scalar (String.ofList text) false)) with
    keyAllowed := true, cursor := after }

/-- Read a quoted scalar. -/
def readQuotedScalar (reader : Reader) : Except Problem Reader := do
  let saved ← reader.savePendingKey
  let (text, after) ← quotedScalar reader.cursor
  return { (saved.emit (.scalar (String.ofList text) false)) with
    keyAllowed := false, cursor := after }

/-- Read a plain scalar. -/
def readPlainScalar (reader : Reader) : Except Problem Reader := do
  let saved ← reader.savePendingKey
  let (text, lineEnded, after) :=
    plainScalar reader.inFlow reader.indent reader.cursor
  return { (saved.emit (.scalar (String.ofList text) true)) with
    keyAllowed := lineEnded, cursor := after }

/-- Whether a plain scalar may start at the cursor. -/
def atPlainScalar (reader : Reader) : Bool :=
  let char := reader.cursor.peek
  !(isBoundary char ||
    "-?:,[]\x7b\x7d#&*!|>'\"%@\x60".toList.contains char) ||
    (!isBoundary (reader.cursor.peekAt 1) &&
      (char == '-' || (!reader.inFlow && (char == '?' || char == ':'))))

/-- Whether a mark such as a dash is followed by a boundary. -/
def markEnds (reader : Reader) : Bool :=
  isBoundary (reader.cursor.peekAt 1)

/-- Read the token at the cursor. -/
def readToken (reader : Reader) : Except Problem Reader :=
  let char := reader.cursor.peek
  let atStart := reader.cursor.column == 0
  let atMark := atStart && reader.cursor.atDocumentMark
  if char == endMark then reader.readStreamEnd
  else if char == '%' && atStart then reader.readDirective
  else if char == '-' && atMark then reader.readDocumentMark .documentStart
  else if char == '.' && atMark then reader.readDocumentMark .documentEnd
  else if char == '[' then reader.readFlowStart .flowSequenceStart
  else if char == '\x7b' then reader.readFlowStart .flowMappingStart
  else if char == ']' then reader.readFlowEnd .flowSequenceEnd
  else if char == '\x7d' then reader.readFlowEnd .flowMappingEnd
  else if char == ',' then reader.readFlowEntry
  else if char == '-' && reader.markEnds then reader.readBlockEntry
  else if char == '?' && (reader.inFlow || reader.markEnds) then
    reader.readKey
  else if char == ':' && (reader.inFlow || reader.markEnds) then
    reader.readValue
  else if char == '*' then reader.readAnchor .alias
  else if char == '&' then reader.readAnchor .anchor
  else if char == '!' then reader.readTag
  else if (char == '|' || char == '>') && !reader.inFlow then
    reader.readBlockScalar
  else if char == '\'' || char == '"' then reader.readQuotedScalar
  else if reader.atPlainScalar then reader.readPlainScalar
  else .error .malformed

/-- Go to the next token and read it.  Fuel is at least the number of lines
in front of the token. -/
def readNext (fuel : Nat) (reader : Reader) : Except Problem Reader := do
  let arrived := skipToToken fuel reader.skipByteOrderMark
  let fresh ← arrived.dropStaleKeys
  (fresh.closeBlocks fresh.cursor.column).readToken

/-- The number of tokens that can be told before the next one is read.  A
token that may turn out to be a key is not told before that is settled. -/
def settledCount (reader : Reader) : Nat :=
  let waiting := reader.pendingKeys.filter fun entry =>
    !isStale reader.cursor entry.2
  (waiting.map fun entry => entry.2.position).foldl min reader.count

/-- Read all tokens.  Every token takes at least one character, so the length
of the text is enough fuel.  A problem stands in place of the tokens that
cannot be told because of it. -/
def readAll : Nat → Reader → List Token
  | 0, reader => reader.firstTokens reader.count ++ [.problem .malformed]
  | fuel + 1, reader =>
      match reader.readNext fuel with
      | .error problem =>
          reader.firstTokens reader.settledCount ++ [.problem problem]
      | .ok next =>
          if next.latest.head? = some .streamEnd then
            next.firstTokens next.count
          else readAll fuel next

end Reader

/-- Whether a character may stand in a YAML text. -/
def isAllowed (char : Char) : Bool :=
  let code := char.toNat
  code == 0x09 || code == 0x0a || code == 0x0d ||
    (0x20 ≤ code && code ≤ 0x7e) || code == 0x85 ||
    (0xa0 ≤ code && code ≤ 0xfffd) || 0x10000 ≤ code

/-- The tokens of a text. -/
def tokensOf (halves : Text.Halves) (chars : List Char) : List Token :=
  if chars.all isAllowed then
    Reader.readAll (chars.length + 2) { cursor := { halves, rest := chars } }
  else [.problem .malformed]

end Yaml

end SwiftInterface
