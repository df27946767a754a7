import SwiftInterface.Files.Path
import SwiftInterface.Machine

/-!
# File trees

A file tree maps locations to folders and files.  A path text is resolved
part by part from the working folder or from the root.  Operations that are
refused say why and leave the tree as it is, except that creating a chain of
folders keeps the folders it has already created.  Such a chain is created
from its end on, and there is room for a certain number of folders only that
wait until those above them exist.
-/

namespace SwiftInterface

namespace Files

/-- The parts of a place in the tree, from the root on. -/
abbrev Location := List String

/-- What stands at a location.  There are only folders and regular files:
trees with symbolic links, and files with more than one location, are left
out. -/
inductive Entry where
  | folder
  | file (content : ByteArray)
deriving Inhabited

/-- Entries are compared by their bytes. -/
instance : DecidableEq Entry
  | .folder, .folder => isTrue rfl
  | .folder, .file _ => isFalse nofun
  | .file _, .folder => isFalse nofun
  | .file ⟨first⟩, .file ⟨second⟩ =>
      if same : first = second then isTrue (by rw [same])
      else isFalse (by rintro ⟨⟩; exact same rfl)

/-- Why an operation on a path is refused. -/
inductive Refusal where
  | notFound
  | denied
  | occupied
  | notFolder
  | isFolder
  | nameTooLong
  | nullCharacter
  /-- More folders are missing than can wait for one another. -/
  | tooDeep
  /-- The writing of a content broke off. -/
  | brokenOff (number : Nat) (wording : String)
deriving DecidableEq, Repr, Inhabited

namespace Refusal

/-- Whether the system has refused.  The other refusals come from the
program's surroundings inside the process. -/
def isOfSystem : Refusal → Bool
  | nullCharacter => false
  | tooDeep => false
  | _ => true

/-- The number of a refusal of the system. -/
def code : Refusal → Nat
  | notFound => 2
  | denied => 13
  | occupied => 17
  | notFolder => 20
  | isFolder => 21
  | nameTooLong => 36
  | brokenOff number _ => number
  | nullCharacter => 0
  | tooDeep => 0

/-- The wording of a refusal. -/
def wording : Refusal → String
  | notFound => "No such file or directory"
  | denied => "Permission denied"
  | occupied => "File exists"
  | notFolder => "Not a directory"
  | isFolder => "Is a directory"
  | nameTooLong => "File name too long"
  | brokenOff _ wording => wording
  | nullCharacter => "embedded null byte"
  | tooDeep => Descent.calls.message

/-- Whether the path is named with a refusal. -/
def namesPath : Refusal → Bool
  | brokenOff _ _ => false
  | _ => true

end Refusal

/-- A refusal together with the path it concerns. -/
structure Error where
  refusal : Refusal
  path : String
deriving DecidableEq, Repr, Inhabited

/-- The wording of an error. -/
def Error.message (error : Error) : String :=
  if error.refusal.isOfSystem then
    "[Errno " ++ toString error.refusal.code ++ "] " ++
      error.refusal.wording ++
      if error.refusal.namesPath then ": " ++ Text.quoted error.path else ""
  else error.refusal.wording

/-- Folders and files by location.  The root is always a folder. -/
structure Tree where
  entries : List (Location × Entry) := []
deriving DecidableEq, Inhabited

/-- The greatest number of bytes in one part of a path. -/
def partLimit : Nat :=
  255

/-- The greatest number of bytes in a path. -/
def pathLimit : Nat :=
  4095

namespace Tree

/-- What stands at a location. -/
def get? (tree : Tree) (location : Location) : Option Entry :=
  if location = [] then some .folder else tree.entries.lookup location

/-- Put an entry at a location. -/
def put (tree : Tree) (location : Location) (entry : Entry) : Tree where
  entries :=
    (location, entry) :: tree.entries.filter fun old => old.1 ≠ location

/-- Remove what stands at a location. -/
def erase (tree : Tree) (location : Location) : Tree where
  entries := tree.entries.filter fun old => old.1 ≠ location

/-- Go from a location to one of its parts. -/
def step (tree : Tree) (location : Location) (part : String) :
    Except Refusal Location :=
  match tree.get? location with
  | none => .error .notFound
  | some (.file _) => .error .notFolder
  | some .folder =>
      if part = "" ∨ part = "." then .ok location
      else if part = ".." then .ok location.dropLast
      else if partLimit < part.utf8ByteSize then .error .nameTooLong
      else if (tree.get? (location ++ [part])).isSome then
        .ok (location ++ [part])
      else .error .notFound

/-- Go along parts, all of which must exist. -/
def walk (tree : Tree) : Location → List String → Except Refusal Location
  | location, [] => .ok location
  | location, part :: rest =>
      match tree.step location part with
      | .error refusal => .error refusal
      | .ok next => tree.walk next rest

/-- The location at which a path starts. -/
def startOf (here : Location) (path : String) : Location :=
  if path.toList.head? = some '/' then [] else here

/-- Why a path cannot be resolved whatever the tree holds. -/
def refusalOf? (path : String) : Option Refusal :=
  if path.toList.contains '\x00' then some .nullCharacter
  else if path = "" then some .notFound
  else if pathLimit < path.utf8ByteSize then some .nameTooLong
  else none

/-- The location of a path that exists. -/
def locate (tree : Tree) (here : Location) (path : String) :
    Except Refusal Location :=
  match refusalOf? path with
  | some refusal => .error refusal
  | none => tree.walk (startOf here path) (partsOf path)

/-- Whether a path exists. -/
def holds (tree : Tree) (here : Location) (path : String) : Bool :=
  match tree.locate here path with
  | .ok _ => true
  | .error _ => false

/-- Whether a path is a folder. -/
def isFolder (tree : Tree) (here : Location) (path : String) : Bool :=
  match tree.locate here path with
  | .ok location => tree.get? location == some .folder
  | .error _ => false

/-- Whether a path is a file. -/
def isFile (tree : Tree) (here : Location) (path : String) : Bool :=
  match tree.locate here path with
  | .ok location =>
      match tree.get? location with
      | some (.file _) => true
      | _ => false
  | .error _ => false

/-- The content of the file at a path. -/
def read (tree : Tree) (here : Location) (path : String) :
    Except Refusal ByteArray :=
  match tree.locate here path with
  | .error refusal => .error refusal
  | .ok location =>
      match tree.get? location with
      | some (.file content) => .ok content
      | some .folder => .error .isFolder
      | none => .error .notFound

/-- The location of the last part of a path inside the folder of the other
parts; the part itself need not exist. -/
def slot (tree : Tree) (here : Location) (parts : List String) (path : String) :
    Except Refusal Location :=
  match parts.getLast? with
  | none => .error .notFound
  | some last =>
      match tree.walk (startOf here path) parts.dropLast with
      | .error refusal => .error refusal
      | .ok folder =>
          match tree.get? folder with
          | none => .error .notFound
          | some (.file _) => .error .notFolder
          | some .folder =>
              if partLimit < last.utf8ByteSize then .error .nameTooLong
              else .ok (folder ++ [last])

/-- The location to which a file with the given path is written: that of the
file if it exists, a new one in an existing folder otherwise. -/
def writeTarget (tree : Tree) (here : Location) (path : String) :
    Except Refusal Location :=
  match tree.locate here path with
  | .ok location =>
      if tree.get? location = some .folder then .error .isFolder
      else .ok location
  | .error .notFound =>
      if path = "" then .error .notFound
      else tree.slot here (partsOf path) path
  | .error refusal => .error refusal

/-- The parts of a path without the empty ones at its end. -/
def partsBeforeEnd (path : String) : List String :=
  ((partsOf path).reverse.dropWhile (· == "")).reverse

/-- Create one folder inside an existing one. -/
def makeFolder (tree : Tree) (here : Location) (path : String) :
    Except Refusal Tree :=
  match refusalOf? path with
  | some refusal => .error refusal
  | none =>
      let parts := partsBeforeEnd path
      match parts.getLast? with
      | none => .error .occupied
      | some last =>
          match tree.slot here parts path with
          | .error refusal => .error refusal
          | .ok location =>
              if last = "." ∨ last = ".." then .error .occupied
              else if (tree.get? location).isSome then .error .occupied
              else .ok (tree.put location .folder)

/-- Create one folder; it is no error if it exists already. -/
def ensureFolder (tree : Tree) (here : Location) (path : String) :
    Except Error Unit × Tree :=
  match tree.makeFolder here path with
  | .ok created => (.ok (), created)
  | .error refusal =>
      if tree.isFolder here path then (.ok (), tree)
      else (.error ⟨refusal, path⟩, tree)

/-- Create a folder and the folders above it that do not exist.  `room` is the
number of folders that may wait until those above them exist. -/
def makeFolders (here : Location) (room : Nat) (chars : List Char)
    (tree : Tree) : Except Error Unit × Tree :=
  let path := String.ofList chars
  let (folder, last) := splitFolder chars
  if folder.isEmpty || last.isEmpty ||
      tree.holds here (String.ofList folder) then
    tree.ensureFolder here path
  else
    match room with
    | 0 => (.error ⟨.tooDeep, path⟩, tree)
    | room + 1 =>
        match makeFolders here room folder tree with
        | (.ok (), grown) =>
            if last = ['.'] then (.ok (), grown)
            else grown.ensureFolder here path
        | (.error error, grown) =>
            if error.refusal = .occupied then
              if last = ['.'] then (.ok (), grown)
              else grown.ensureFolder here path
            else (.error error, grown)

/-- Create a folder and the folders above it. -/
def createFolder (tree : Tree) (room : Nat) (here : Location) (path : String) :
    Except Error Unit × Tree :=
  makeFolders here room path.toList tree

end Tree

end Files

end SwiftInterface
