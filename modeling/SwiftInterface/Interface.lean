import SwiftInterface.Text.Lines

/-!
# Interface texts

An interface text is an import header followed by the blocks of a module.
-/

namespace SwiftInterface

namespace Interface

/-- The header of an interface. -/
def header (moduleName : String) : String :=
  "import " ++ moduleName ++ "\n\n"

/-- The header over the blocks. -/
def assemble (blocks : List String) (moduleName : String) : String :=
  header moduleName ++ Text.joinRows blocks

/-- The ending of interface files. -/
def fileExtension : String :=
  ".swift"

/-- The name of a module that has none. -/
def unknownModule : String :=
  "Unknown"

/-- The name of a module, or the name for one without. -/
def nameOrUnknown (moduleName : String) : String :=
  if moduleName = "" then unknownModule else moduleName

/-- The file name of a module's interface. -/
def fileName (moduleName : String) : String :=
  let name := nameOrUnknown moduleName
  if fileExtension.toList.isSuffixOf name.toList then name
  else name ++ fileExtension

end Interface

end SwiftInterface
