import SwiftInterface.Access.Choice
import SwiftInterface.CommandLine.Command
import SwiftInterface.Generation
import SwiftInterface.Settings.File

/-!
# Executing command lines

A command line is read, its command is run and the result is a status with
the texts written to the two standard streams.  A failed command is reported
by one record at the error level.
-/

namespace SwiftInterface

namespace CommandLine

/-- What a command line leaves behind besides the world. -/
structure Output where
  status : Nat
  standardOutput : String := ""
  standardError : String := ""
deriving DecidableEq, Repr, Inhabited

/-- The line that shows the version. -/
def versionLine : String :=
  "ModuleInterface v0.0.3\n"

/-- The build arguments without a double dash in front. -/
def buildArguments : List String → List String
  | "--" :: rest => rest
  | arguments => arguments

/-- The name of the minimum access level: that of the command line unless it
is empty, else that of the settings. -/
def levelName (arguments : GenerateArguments) (settings : Settings) : String :=
  (Generation.given? arguments.minimumLevel).getD settings.minimumLevel

/-- The generation that a command line and the settings ask for. -/
def generationOf (arguments : GenerateArguments) (settings : Settings) :
    Run Generation := do
  let minimumLevel ←
    AccessLevel.choose (.string (levelName arguments settings))
  return {
    outputFolder := arguments.outputFolder.getD (.named settings.outputFolder)
    minimumLevel
    clean := arguments.clean
    packageModule := arguments.packageModule
    moduleName := arguments.moduleName
    inputFolder := arguments.inputFolder
    inputDump := arguments.inputDump
    buildArguments := buildArguments arguments.buildArguments
    skipUnbalanced := arguments.skipUnbalanced || settings.skipUnbalanced }

/-- The indexer that the settings ask for. -/
def indexerOf (settings : Settings) : Tool.Indexer where
  executable := settings.indexerPath
  timeout := settings.timeout

/-- The formatter that a command line and the settings ask for. -/
def formatterOf (arguments : GenerateArguments) (settings : Settings) :
    Tool.Formatter :=
  if arguments.noFormat then .identity
  else
    .program
      { executable := settings.formatterPath
        arguments := settings.formatterArguments
        timeout := settings.timeout }

/-- Run the command that generates an interface. -/
def runGenerate (defaults : Settings) (arguments : GenerateArguments) :
    Run Unit := do
  let settings ← Settings.load arguments.config defaults
  let generation ← generationOf arguments settings
  Run.info .commandLine "Generating Module Interface..."
  let result ← Run.inModule generation.targetModule
    (generation.run (indexerOf settings) (formatterOf arguments settings))
  Run.info .commandLine ("Done: " ++ result.outputPath ++ " (" ++
    toString result.blockCount ++ " top-level declarations)")

/-- Run the command that removes an interface. -/
def runClean (defaults : Settings) (arguments : CleanArguments) :
    Run Unit := do
  let settings ← Settings.load arguments.config defaults
  let folder := arguments.outputFolder.getD (.named settings.outputFolder)
  Run.inModule arguments.moduleName do
    let path ← Store.folderPath folder
    let _ ← Store.remove path arguments.moduleName

/-- Report a failed command.  The origin of a failure is shown if it was not
foreseen. -/
def reportFailure (name : String) (failure : Failure) (world : World) :
    World :=
  let message := failure.message world.machine.halves
  if failure.isForeseen then
    world.log .error .commandLine message none
  else
    world.log .error .commandLine (name ++ " failed: " ++ message)
      (some failure)

/-- Run a command that may fail, and report a failure. -/
def finish (name : String) (body : Run Unit) (world : World) :
    Output × World :=
  match body world with
  | .ok () after => ({ status := 0 }, after)
  | .error failure after =>
      ({ status := 1 }, reportFailure name failure after)

/-- Run a command. -/
def runCommand (defaults : Settings) (command : Command) (world : World) :
    Output × World :=
  match command with
  | .nothing => ({ status := 0, standardOutput := mainManual.help }, world)
  | .version => ({ status := 0, standardOutput := versionLine }, world)
  | .generate arguments =>
      finish command.name (runGenerate defaults arguments) world
  | .clean arguments =>
      finish command.name (runClean defaults arguments) world

/-- The world in which an accepted command runs: the log has the detail that
was asked for and a fresh run identifier. -/
def startWorld (verbose : Bool) (runId : String) (world : World) : World :=
  { world with
    threshold := if verbose then .debug else .info
    context := world.context.startRun none runId }

/-- Execute a command line. -/
def execute (defaults : Settings) (runId : String) (arguments : List String)
    (world : World) : Output × World :=
  match readInvocation arguments with
  | .error (.help text) => ({ status := 0, standardOutput := text }, world)
  | .error (.usage text) => ({ status := 2, standardError := text }, world)
  | .ok invocation =>
      runCommand defaults invocation.command
        (startWorld invocation.verbose runId world)

end CommandLine

end SwiftInterface
