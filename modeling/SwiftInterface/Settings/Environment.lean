import SwiftInterface.Settings.Basic
import SwiftInterface.World

/-!
# Settings from the environment

The defaults of some settings come from environment variables.  A variable
with an unusable number is reported and ignored.
-/

namespace SwiftInterface

namespace Environment

/-- The values of environment variables by name. -/
abbrev Variables := List (String × String)

/-- The flag of a variable; one that is not set gives the default, and any
text but a word for yes means no. -/
def flag (value : Option String) (default : Bool) : Bool :=
  match value with
  | none => default
  | some text => Setting.trueWords.contains (Setting.comparedWord text)

/-- How a variable gives a positive number. -/
inductive Reading where
  | unset
  | notInteger
  | notPositive
  | number (value : Int)
deriving DecidableEq, Repr, Inhabited

/-- Read a positive number out of the value of a variable.  A blank value
counts as not set. -/
def readPositive : Option String → Reading
  | none => .unset
  | some text =>
      let trimmed := Text.trimBy Text.isBlank text.toList
      if trimmed.isEmpty then .unset
      else
        match Number.readInteger 10 trimmed with
        | .error _ => .notInteger
        | .ok number => if 0 < number then .number number else .notPositive

/-- The warning about a variable that is ignored. -/
def ignoredWarning (kind name : String) (value : Option String)
    (default : Int) : String :=
  "Ignoring " ++ kind ++ " " ++ name ++ "=" ++ Text.quoted (value.getD "") ++
    "; using " ++ toString default

/-- The positive number of a variable, or the default. -/
def positive (name : String) (value : Option String) (default : Int) :
    Run Int :=
  match readPositive value with
  | .unset => pure default
  | .number number => pure number
  | .notInteger => do
      Run.warn .settings (ignoredWarning "non-integer" name value default)
      return default
  | .notPositive => do
      Run.warn .settings (ignoredWarning "non-positive" name value default)
      return default

/-- The settings that the environment gives. -/
def settings (environment : Variables) : Run Settings := do
  let usual : Settings := {}
  let timeout ← positive "MODULEINTERFACE_TIMEOUT"
    (environment.lookup "MODULEINTERFACE_TIMEOUT") usual.timeout
  return { usual with
    skipUnbalanced :=
      flag (environment.lookup "MODULEINTERFACE_SKIP_UNBALANCED") false
    indexerPath :=
      (environment.lookup "SOURCEKITTEN_PATH").getD usual.indexerPath
    formatterPath :=
      (environment.lookup "SWIFTFORMAT_PATH").getD usual.formatterPath
    timeout }

end Environment

end SwiftInterface
