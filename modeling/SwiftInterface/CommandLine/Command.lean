import SwiftInterface.CommandLine.Arguments
import SwiftInterface.CommandLine.Help

/-!
# Commands

The commands of the tool with their arguments, and how they are read from a
command line.  More detail in the log can be asked for in front of the
command or among its arguments.
-/

namespace SwiftInterface

namespace CommandLine

/-- The arguments of the command that generates an interface. -/
structure GenerateArguments where
  packageModule : Option String := none
  moduleName : Option String := none
  inputFolder : Option Files.Folder := none
  inputDump : Option String := none
  outputFolder : Option Files.Folder := none
  minimumLevel : Option String := none
  clean : Bool := false
  skipUnbalanced : Bool := false
  noFormat : Bool := false
  config : Option String := none
  buildArguments : List String := []
deriving DecidableEq, Repr, Inhabited

/-- The arguments of the command that removes an interface. -/
structure CleanArguments where
  outputFolder : Option Files.Folder := none
  config : Option String := none
  moduleName : String
deriving DecidableEq, Repr, Inhabited

/-- A command with its arguments. -/
inductive Command where
  /-- No command was given. -/
  | nothing
  | version
  | generate (arguments : GenerateArguments)
  | clean (arguments : CleanArguments)
deriving DecidableEq, Repr, Inhabited

namespace Command

/-- The name of a command. -/
def name : Command → String
  | nothing => ""
  | version => "version"
  | generate _ => "generate"
  | clean _ => "clean"

end Command

/-- A command line that was accepted. -/
structure Invocation where
  verbose : Bool
  command : Command
deriving DecidableEq, Repr, Inhabited

/-- The answer to a command line that starts no command. -/
inductive Answer where
  /-- The help text that was asked for. -/
  | help (text : String)
  /-- The report of a usage error. -/
  | usage (text : String)
deriving DecidableEq, Repr, Inhabited

/-! ## Grammars -/

/-- The option that asks for help. -/
def helpOption : OptionSpec where
  names := ["-h", "--help"]
  asksHelp := true

/-- The option that asks for more detail in the log. -/
def verboseOption : OptionSpec where
  names := ["-v", "--verbose"]

/-- A flag with a long name. -/
def flag (name : String) : OptionSpec where
  names := [name]

/-- An option with a long name and a value. -/
def valued (name : String) : OptionSpec where
  names := [name]
  takesValue := true

/-- What may stand in front of a command, and the command. -/
def mainGrammar : Grammar where
  options := [helpOption, verboseOption]
  positional := .subcommand

/-- What the command that generates an interface accepts. -/
def generateGrammar : Grammar where
  options :=
    [ helpOption, verboseOption, valued "--spm-module",
      valued "--module-name", valued "--input-folder", valued "--input-json",
      valued "--output-folder", valued "--min-acl",
      { names := ["-c", "--clean"] }, flag "--skip-unbalanced",
      flag "--no-format", valued "--config" ]
  positional := .many

/-- What the command that removes an interface accepts. -/
def cleanGrammar : Grammar where
  options :=
    [helpOption, verboseOption, valued "--output-folder", valued "--config"]
  positional := .single "module"

/-- What the command that shows the version accepts. -/
def versionGrammar : Grammar where
  options := [helpOption]
  positional := .nothing

/-- The names of the commands. -/
def commandNames : List String :=
  ["generate", "clean", "version"]

/-! ## Reading commands -/

/-- The answer to a command line whose reading ended early. -/
def answerOf (manual : Manual) : Stop → Answer
  | .help => .help manual.help
  | .usage error => .usage (manual.report error.message)

/-- Read the arguments of a command. -/
def readWith (manual : Manual) (grammar : Grammar) (arguments : List String) :
    Except Answer Found :=
  (read grammar arguments).mapError (answerOf manual)

/-- The arguments of the generating command. -/
def generateArguments (found : Found) : GenerateArguments where
  packageModule := found.value? "--spm-module"
  moduleName := found.value? "--module-name"
  inputFolder := found.folder? "--input-folder"
  inputDump := found.value? "--input-json"
  outputFolder := found.folder? "--output-folder"
  minimumLevel := found.value? "--min-acl"
  clean := found.has "--clean"
  skipUnbalanced := found.has "--skip-unbalanced"
  noFormat := found.has "--no-format"
  config := found.value? "--config"
  buildArguments := found.positionals.getD []

/-- The arguments of the removing command. -/
def cleanArguments (found : Found) : CleanArguments where
  outputFolder := found.folder? "--output-folder"
  config := found.value? "--config"
  moduleName := (found.positionals.getD []).headD ""

/-- Read a command by its name: whether it asks for more detail, the command
and the arguments that it does not take. -/
def readCommand (name : String) (arguments : List String) :
    Except Answer (Bool × Command × List String) :=
  if name = "generate" then do
    let found ← readWith generateManual generateGrammar arguments
    return (found.has "--verbose", .generate (generateArguments found),
      found.extras)
  else if name = "clean" then do
    let found ← readWith cleanManual cleanGrammar arguments
    return (found.has "--verbose", .clean (cleanArguments found),
      found.extras)
  else if name = "version" then do
    let found ← readWith versionManual versionGrammar arguments
    return (false, .version, found.extras)
  else
    .error (answerOf mainManual
      (.usage (.invalidChoice name commandNames)))

/-- Read the command after what stands in front of it. -/
def readAfter (found : Found) :
    Except Answer (Bool × Command × List String) :=
  match found.positionals with
  | some (name :: arguments) => readCommand name arguments
  | _ => .ok (false, .nothing, [])

/-- Read a whole command line. -/
def readInvocation (arguments : List String) : Except Answer Invocation := do
  let found ← readWith mainManual mainGrammar arguments
  let (verbose, command, commandExtras) ← readAfter found
  let extras := found.extras ++ commandExtras
  if extras.isEmpty then
    return { verbose := found.has "--verbose" || verbose, command }
  else throw (answerOf mainManual (.usage (.unrecognized extras)))

end CommandLine

end SwiftInterface
