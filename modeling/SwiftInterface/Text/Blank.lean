/-!
# White space

The white space class used when texts are trimmed, split into words or tested
for being blank.  It is the class of the Unicode standard together with the
four information separators, so it is larger than the ASCII class.
-/

namespace SwiftInterface

namespace Text

/-- White space: tabs and line ends, the information separators, the spaces
and the two Unicode line separators. -/
def isBlank (char : Char) : Bool :=
  let code := char.toNat
  (0x09 ≤ code && code ≤ 0x0d) || (0x1c ≤ code && code ≤ 0x20) ||
    code == 0x85 || code == 0xa0 || code == 0x1680 ||
    (0x2000 ≤ code && code ≤ 0x200a) || code == 0x2028 || code == 0x2029 ||
    code == 0x202f || code == 0x205f || code == 0x3000

/-- Remove the characters of a class from both ends. -/
def trimBy (drops : Char → Bool) (chars : List Char) : List Char :=
  ((chars.dropWhile drops).reverse.dropWhile drops).reverse

/-- A text without the white space at its two ends. -/
def trim (text : String) : String :=
  String.ofList (trimBy isBlank text.toList)

/-- Whether a text holds nothing but white space. -/
def isAllBlank (chars : List Char) : Bool :=
  chars.all isBlank

/-- The words of a text, which white space separates; `current` holds the
characters of the word being read, last character first. -/
def wordsFrom (current : List Char) : List Char → List (List Char)
  | [] => if current.isEmpty then [] else [current.reverse]
  | char :: rest =>
      if isBlank char then
        if current.isEmpty then wordsFrom [] rest
        else current.reverse :: wordsFrom [] rest
      else wordsFrom (char :: current) rest

/-- The words of a text, in order. -/
def words (text : String) : List String :=
  (wordsFrom [] text.toList).map String.ofList

end Text

end SwiftInterface
