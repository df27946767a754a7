import SwiftInterface.Text.Halves

/-!
# The machine

What a run depends on beside its files, its programs and its inputs: how far
nesting can be followed before the stack is used up, how the writing of a file
can break off, and two matters that are settled outside the program, the
wording of the YAML reader and the characters that stand for halves of pairs.
-/

namespace SwiftInterface

/-- How many levels of nesting can be followed.  What nests more deeply ends
in a fault.  The numbers depend on how much of the stack is in use already, so
they belong to a run and not to the program. -/
structure Reach where
  /-- Arrays and objects of JSON inside one another. -/
  json : Nat := 990
  /-- Nodes of YAML inside one another. -/
  yaml : Nat := 490
  /-- Mappings of YAML that are reached from one another by merging or as
  default values. -/
  links : Nat := 980
  /-- Collections inside one another in a value that a message shows. -/
  shown : Nat := 980
  /-- Declarations inside one another when a dump is read. -/
  declarations : Nat := 490
  /-- Declarations inside one another when they are rendered. -/
  rendering : Nat := 490
  /-- Missing folders above a folder that is created. -/
  folders : Nat := 980
deriving DecidableEq, Repr, Inhabited

/-- What was going on when nesting could not be followed further. -/
inductive Descent where
  | calls
  | readingArray
  | readingObject
  | showingValue
deriving DecidableEq, Repr, Inhabited

/-- The wording of the fault in which nesting that is too deep ends. -/
def Descent.message (descent : Descent) : String :=
  "maximum recursion depth exceeded" ++
    match descent with
    | calls => ""
    | readingArray => " while decoding a JSON array from a unicode string"
    | readingObject => " while decoding a JSON object from a unicode string"
    | showingValue => " while getting the repr of an object"

/-- How the writing of a file breaks off: the number of bytes that the file
keeps, and the number and the wording of the refusal. -/
structure Shortfall where
  kept : Nat
  number : Nat
  wording : String
deriving DecidableEq, Repr, Inhabited

/-- The machine of a run. -/
structure Machine where
  halves : Text.Halves := default
  reach : Reach := {}
  /-- How the writing to an opened file breaks off, if it does. -/
  shortfall : Option Shortfall := none
  /-- What the YAML reader says of a text that is not YAML. -/
  yamlProblem : String → String := fun _ => "not a YAML document"
deriving Inhabited

end SwiftInterface
