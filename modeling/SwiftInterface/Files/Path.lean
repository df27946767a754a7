/-!
# Path texts

Paths are texts with parts separated by slashes.  This module joins and
splits such texts without looking at any file.
-/

namespace SwiftInterface

namespace Files

/-- A folder as it is asked for.  The name of a folder can get lost on the
way, and then nothing can be done with the folder. -/
inductive Folder where
  | named (path : String)
  | nameless
deriving DecidableEq, Repr, Inhabited

/-- The parts of a path between its slashes, empty ones included. -/
def partsOf (path : String) : List String :=
  (path.toList.splitOn '/').map String.ofList

/-- A name inside a folder.  A name that starts with a slash stands for
itself, and an empty folder adds nothing. -/
def join (folder name : String) : String :=
  if name.toList.head? = some '/' then name
  else if folder = "" ∨ folder.toList.getLast? = some '/' then folder ++ name
  else folder ++ "/" ++ name

/-- The slashes kept at the front of a path: two stay two, any other number
becomes one. -/
def rootOf (chars : List Char) : String :=
  match (chars.takeWhile (· == '/')).length with
  | 0 => ""
  | 2 => "//"
  | _ => "/"

/-- The parts of a path that name something. -/
def namedParts (path : String) : List String :=
  (partsOf path).filter fun part => part ≠ "" ∧ part ≠ "."

/-- A path without superfluous slashes and dots; an empty path is a dot. -/
def tidy (path : String) : String :=
  let text := rootOf path.toList ++ "/".intercalate (namedParts path)
  if text = "" then "." else text

/-- The part of a name from its last dot on, unless the dot is the first or
the last character. -/
def suffixOfName (name : List Char) : List Char :=
  let after := name.reverse.takeWhile (· ≠ '.')
  if after.length + 1 < name.length && !after.isEmpty then
    '.' :: after.reverse
  else []

/-- The suffix of the last part of a path. -/
def suffix (path : String) : String :=
  match (namedParts path).getLast? with
  | none => ""
  | some name => String.ofList (suffixOfName name.toList)

/-- Remove the slashes at the end, unless there is nothing else. -/
def dropEndSlashes (chars : List Char) : List Char :=
  if chars.all (· == '/') then chars
  else (chars.reverse.dropWhile (· == '/')).reverse

/-- Split a path at its last slash into the folder and the last part. -/
def splitLast (chars : List Char) : List Char × List Char :=
  let last := (chars.reverse.takeWhile (· ≠ '/')).reverse
  (dropEndSlashes (chars.take (chars.length - last.length)), last)

/-- Split a path at its last slash, ignoring slashes at the end. -/
def splitFolder (chars : List Char) : List Char × List Char :=
  match splitLast chars with
  | (folder, []) => splitLast folder
  | parts => parts

end Files

end SwiftInterface
