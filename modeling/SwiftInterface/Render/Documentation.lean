import SwiftInterface.Text.Lines

/-!
# Documentation comments

Every row of a documentation text that is not empty becomes a comment line.
-/

namespace SwiftInterface

namespace Render

/-- The mark in front of a documentation line. -/
def documentationMark : String :=
  "/// "

/-- One documentation row as a comment line. -/
def commentLine (row : String) : String :=
  documentationMark ++ row ++ "\n"

/-- A documentation text as comment lines, one for each row that is not
empty. -/
def formatDocumentation (documentation : String) : String :=
  String.join
    (((Text.rowsOf documentation).filter fun row => row ≠ "").map commentLine)

end Render

end SwiftInterface
