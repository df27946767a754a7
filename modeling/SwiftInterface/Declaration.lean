import SwiftInterface.Access

/-!
# Declarations

A declaration of a Swift module with the declarations nested in it.  A
declaration without a kind stands for a source file.
-/

namespace SwiftInterface

/-- One node of a declaration tree.  A part is absent when the source indexer
did not report it. -/
structure Declaration where
  /-- What is declared; absent for a source file. -/
  kind : Option String
  /-- The declared name. -/
  name : Option String
  /-- The raw classification of the access level. -/
  accessibility : Option String
  /-- The documentation comment, without comment marks. -/
  documentation : Option String
  /-- The header of the declaration. -/
  signature : Option String
  /-- The nested declarations in source order. -/
  children : List Declaration
deriving Inhabited, Repr

/-- The top-level declarations of a module in source order. -/
abbrev Forest := List Declaration

namespace Declaration

/-- The kind of an enum case group, whose children are its elements. -/
def enumCaseKind : String :=
  "source.lang.swift.decl.enumcase"

/-- The kinds whose members are printed as a nested body. -/
def containerKinds : List String :=
  [ "source.lang.swift.decl.struct",
    "source.lang.swift.decl.class",
    "source.lang.swift.decl.enum",
    "source.lang.swift.decl.protocol",
    "source.lang.swift.decl.extension",
    "source.lang.swift.decl.extension.class",
    "source.lang.swift.decl.extension.enum",
    "source.lang.swift.decl.extension.protocol",
    "source.lang.swift.decl.extension.struct" ]

/-- Whether members of a declaration of this kind are printed as a body. -/
def isContainerKind : Option String → Bool
  | none => false
  | some kind => containerKinds.contains kind

/-- Whether a kind is that of an enum case group. -/
def isEnumCaseKind (kind : Option String) : Bool :=
  kind == some enumCaseKind

/-- The access level of a declaration. -/
def accessLevel (declaration : Declaration) : AccessLevel :=
  AccessLevel.parse declaration.accessibility

/-- Whether the members of this declaration are printed as a body. -/
def isContainer (declaration : Declaration) : Bool :=
  isContainerKind declaration.kind

/-- Whether this is an enum case group. -/
def isEnumCaseGroup (declaration : Declaration) : Bool :=
  isEnumCaseKind declaration.kind

end Declaration

end SwiftInterface
