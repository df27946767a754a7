import SwiftInterface.Declaration
import SwiftInterface.Json.Basic

/-!
# Declaration dumps

The source indexer writes the declarations of a module as JSON: one structure,
an object that maps file paths to structures, or an array of such values.
Reading a dump keeps the file order and passes over whatever is malformed;
each file becomes one declaration without a kind.  Structures are read one
after the other, so the notes up to one that nests too deeply are taken all
the same.
-/

namespace SwiftInterface

namespace Declaration

/-- The member that holds the kind. -/
def kindKey : String :=
  "key.kind"

/-- The member that holds the name. -/
def nameKey : String :=
  "key.name"

/-- The member that holds the raw classification of the access level. -/
def accessibilityKey : String :=
  "key.accessibility"

/-- The member that holds the documentation comment. -/
def documentationKey : String :=
  "key.doc.comment"

/-- The member that holds the header of the declaration. -/
def signatureKey : String :=
  "key.parsed_declaration"

/-- The member that holds the nested declarations. -/
def childrenKey : String :=
  "key.substructure"

/-- The text of a member; a value of another type counts as absent. -/
def textMember (name : String) (members : List (String × Json)) :
    Option String :=
  (Json.find? name members).bind Json.text?

mutual

/-- The declaration that a JSON object describes; other values describe
none. -/
def ofJson? : Json → Option Declaration
  | .object members =>
      some
        { kind := textMember kindKey members
          name := textMember nameKey members
          accessibility := textMember accessibilityKey members
          documentation := textMember documentationKey members
          signature := textMember signatureKey members
          children := childrenOfMembers members }
  | _ => none
termination_by structural json => json

/-- The nested declarations among the members of an object. -/
def childrenOfMembers : List (String × Json) → List Declaration
  | [] => []
  | (name, value) :: rest =>
      if name == childrenKey then childrenOfValue value
      else childrenOfMembers rest
termination_by structural members => members

/-- The declarations in an array; a value of another type holds none. -/
def childrenOfValue : Json → List Declaration
  | .array items => ofItems items
  | _ => []
termination_by structural json => json

/-- The declarations among the items of an array, in order. -/
def ofItems : List Json → List Declaration
  | [] => []
  | item :: rest => (ofJson? item).toList ++ ofItems rest
termination_by structural items => items

end

mutual

/-- Whether a declaration nests no more deeply than there is room for. -/
def fits : Nat → Declaration → Bool
  | 0, _ => false
  | room + 1, ⟨_, _, _, _, _, children⟩ => allFit room children
termination_by structural _ declaration => declaration

/-- Whether sibling declarations nest no more deeply than there is room
for. -/
def allFit : Nat → List Declaration → Bool
  | _, [] => true
  | room, declaration :: rest => fits room declaration && allFit room rest
termination_by structural _ declarations => declarations

end

end Declaration

namespace Dump

/-- Something worth a message while a dump is read. -/
inductive Note where
  /-- The value of a file is no structure. -/
  | skippedFile (path : String)
  /-- The structure of a file was read. -/
  | loadedFile (path : String)
  /-- An entry of the outer array is no object. -/
  | skippedEntry (typeName : String)
deriving DecidableEq, Repr, Inhabited

/-- The declarations of a dump with the notes taken while reading it. -/
structure Harvest where
  forest : Forest := []
  notes : List Note := []
deriving Inhabited

namespace Harvest

/-- Two harvests one after the other. -/
protected def append (first second : Harvest) : Harvest where
  forest := first.forest ++ second.forest
  notes := first.notes ++ second.notes

instance : Append Harvest where
  append := Harvest.append

end Harvest

/-- Whether an object is a structure rather than a map of files. -/
def isStructure (members : List (String × Json)) : Bool :=
  Json.hasMember Declaration.childrenKey members ||
    Json.hasMember Declaration.kindKey members

/-- The harvest of one entry of a map of files. -/
def ofFile (path : String) (structureValue : Json) : Harvest :=
  match Declaration.ofJson? structureValue with
  | none => { notes := [.skippedFile path] }
  | some declaration =>
      { forest := [declaration], notes := [.loadedFile path] }

/-- The harvest of a map of files, in its order. -/
def ofFiles : List (String × Json) → Harvest
  | [] => {}
  | (path, structureValue) :: rest => ofFile path structureValue ++ ofFiles rest

/-- The harvest of one object. -/
def ofMembers (members : List (String × Json)) : Harvest :=
  if isStructure members then
    { forest := (Declaration.ofJson? (.object members)).toList }
  else ofFiles members

/-- The harvest of one entry of the outer array. -/
def ofEntry : Json → Harvest
  | .object members => ofMembers members
  | other => { notes := [.skippedEntry other.typeName] }

/-- The harvest of the entries of the outer array, in order. -/
def ofEntries : List Json → Harvest
  | [] => {}
  | entry :: rest => ofEntry entry ++ ofEntries rest

/-- The harvest of a dump; only objects and arrays are dumps. -/
def ofJson? : Json → Option Harvest
  | .object members => some (ofMembers members)
  | .array entries => some (ofEntries entries)
  | _ => none

/-! ## Nesting -/

/-- Whether a value is a structure that nests too deeply. -/
def isTooDeep (room : Nat) (value : Json) : Bool :=
  match Declaration.ofJson? value with
  | none => false
  | some declaration => !declaration.fits room

/-- The notes taken in a map of files up to a structure that nests too deeply;
absent if there is none.  The note on a file comes before its structure is
read. -/
def notesOfFiles? (room : Nat) : List (String × Json) → Option (List Note)
  | [] => none
  | (path, structureValue) :: rest =>
      let notes := (ofFile path structureValue).notes
      if isTooDeep room structureValue then some notes
      else (notesOfFiles? room rest).map (notes ++ ·)

/-- The notes taken in one entry of the outer array up to a structure that
nests too deeply; absent if there is none. -/
def notesOfItem? (room : Nat) : Json → Option (List Note)
  | .object members =>
      if isStructure members then
        if isTooDeep room (.object members) then some [] else none
      else notesOfFiles? room members
  | _ => none

/-- The notes taken in the outer array up to a structure that nests too deeply;
absent if there is none. -/
def notesOfItems? (room : Nat) : List Json → Option (List Note)
  | [] => none
  | entry :: rest =>
      match notesOfItem? room entry with
      | some notes => some notes
      | none => (notesOfItems? room rest).map ((ofEntry entry).notes ++ ·)

/-- The notes taken in a dump up to a structure that nests too deeply; absent if
there is none. -/
def notesUpTo? (room : Nat) : Json → Option (List Note)
  | .array entries => notesOfItems? room entries
  | payload => notesOfItem? room payload

end Dump

end SwiftInterface
