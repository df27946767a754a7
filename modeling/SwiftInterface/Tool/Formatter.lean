import SwiftInterface.Interface
import SwiftInterface.Tool.Indexer

/-!
# Formatting interface texts

An assembled interface is formatted by an external program that reads it, or
left as it is.
-/

namespace SwiftInterface

namespace Tool

/-- The source formatter. -/
structure SourceFormatter where
  executable : String := "swiftformat"
  arguments : List String := []
  /-- The time it may take, in seconds. -/
  timeout : Int := 600
deriving DecidableEq, Repr, Inhabited

/-- How an interface text is formatted. -/
inductive Formatter where
  /-- The text is left as it is. -/
  | identity
  /-- The text is passed through a program. -/
  | program (formatter : SourceFormatter)
deriving DecidableEq, Repr, Inhabited

namespace SourceFormatter

/-- The program and the arguments with which it reads a text. -/
def command (formatter : SourceFormatter) : List String :=
  [formatter.executable, "stdin", "--quiet"] ++ formatter.arguments

/-- The output of a program that succeeded, or the failure that its outcome
stands for. -/
def outputOf (formatter : SourceFormatter) : Outcome → Run String
  | .finished output => pure output
  | .exited status errorOutput =>
      Run.fail (.format (.toolFailed status (errorDetail errorOutput)))
  | .missing =>
      Run.fail (.format (.executableMissing formatter.executable))
  | .timedOut => Run.fail (.format (.toolTimedOut formatter.timeout))
  | .denied =>
      Run.fail (.fault (.refused ⟨.denied, formatter.executable⟩))
  | .troubled trouble =>
      Run.fail (.fault (.program formatter.executable trouble))

/-- Hand a text to a program that was started.  A text with halves cannot be
handed over, whatever would have become of the program. -/
def handOver (text : String) (outcome : Outcome) : Run Unit := do
  match (← get).machine.halves.encodeFault? text with
  | none => pure ()
  | some fault =>
      if outcome.wasStarted then Run.fail (.fault (.unencodable fault))

/-- Pass a text through the program. -/
def format (formatter : SourceFormatter) (text : String) : Run String := do
  Run.debug .formatter
    ("Running formatter: " ++ " ".intercalate formatter.command)
  let outcome ← Run.start
    { command := formatter.command, folder := none,
      timeout := formatter.timeout, input := some text }
  handOver text outcome
  formatter.outputOf outcome

end SourceFormatter

/-- Format a text. -/
def Formatter.format : Formatter → String → Run String
  | identity, text => pure text
  | program formatter, text => formatter.format text

end Tool

namespace Interface

/-- Assemble an interface text; a module without a name is reported. -/
def assembleLogged (blocks : List String) (moduleName : String) :
    Run String := do
  if moduleName = "" then
    Run.warn .assembler "Assembling interface without a module name"
  return assemble blocks moduleName

/-- Assemble an interface text and format it. -/
def compose (blocks : List String) (moduleName : String)
    (formatter : Tool.Formatter) : Run String := do
  let text ← assembleLogged blocks moduleName
  Run.info .assembler ("Formatting " ++ toString blocks.length ++
    " blocks (" ++ toString text.length ++ " characters)")
  formatter.format text

end Interface

end SwiftInterface
