import SwiftInterface.Access
import SwiftInterface.Value.Basic
import SwiftInterface.World

/-!
# Choosing an access level by name

A user names the minimum access level.  A name that is not recognised is
reported and replaced by the fallback level.
-/

namespace SwiftInterface

namespace AccessLevel

/-- The level that a value names, if it is a text that names one. -/
def named? : Json → Option AccessLevel
  | .string name => lookup? name
  | _ => none

/-- The warning about a name that is not recognised. -/
def unknownNameWarning (machine : Machine) (name : Json) : String :=
  "Unknown access level " ++
    ((Content.ofJson machine name).describe.toOption.getD "") ++
    "; falling back to " ++ fallback.label

/-- The level that a value names, or the fallback level with a warning. -/
def choose (name : Json) : Run AccessLevel :=
  match named? name with
  | some level => pure level
  | none => do
      Run.warn .access (unknownNameWarning (← get).machine name)
      return fallback

end AccessLevel

end SwiftInterface
