import SwiftInterface.Yaml.Construction

/-!
# YAML documents

A text is read as a single document.  The problems of a text that is not YAML
are not told apart: what is said of them is a matter of the machine.
-/

namespace SwiftInterface

namespace Yaml

/-- Read the content of a text; a text without a document is null. -/
def read (machine : Machine) (chars : List Char) :
    Except Problem Content := do
  match ← nodesOf machine chars with
  | (none, _) => return { collections := { machine }, root := .null }
  | (some root, nodes) => contentOf machine nodes root

end Yaml

end SwiftInterface
