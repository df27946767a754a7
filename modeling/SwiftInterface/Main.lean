import Std.Time.DateTime.Timestamp
import SwiftInterface.CommandLine.Survey
import SwiftInterface.Log.Handler
import SwiftInterface.Log.Stamp
import SwiftInterface.Settings.Environment

/-!
# The command line program

The program looks up what its command line touches, executes the command line
on these files and carries out the changes.  External programs are not
started: declarations come from a dump, and without the option against
formatting a run ends as if the formatter were missing.
-/

namespace SwiftInterface

namespace CommandLine

/-- The path of a location. -/
def pathOf (location : Files.Location) : String :=
  "/" ++ "/".intercalate location

/-- What an open handle stands for.  A folder can be opened but not read. -/
def entryOf (handle : IO.FS.Handle) : IO Files.Entry := do
  try
    return .file (← handle.readBinToEnd)
  catch _ =>
    return .folder

/-- What stands at a location. -/
def lookUp (location : Files.Location) : IO (Option Files.Entry) := do
  try
    return some (← entryOf (← IO.FS.Handle.mk (pathOf location) .read))
  catch _ =>
    return none

/-- Take the locations on the way to some paths into the world. -/
def survey (world : World) (paths : List String) : IO World := do
  let locations := (paths.flatMap (locationsTo world.here)).eraseDups
  let mut files := world.files
  for location in locations do
    if let some entry ← lookUp location then
      if location ≠ [] then files := files.put location entry
  return { world with files }

/-- Carry out a change. -/
def carryOut : Change → IO Unit
  | .create location => IO.FS.createDirAll (pathOf location)
  | .write location content =>
      IO.FS.writeBinFile (pathOf location) content
  | .remove location => IO.FS.removeFile (pathOf location)

/-- The environment variables that settings come from. -/
def readVariables : IO Environment.Variables := do
  let names :=
    [ "MODULEINTERFACE_SKIP_UNBALANCED", "MODULEINTERFACE_TIMEOUT",
      "SOURCEKITTEN_PATH", "SWIFTFORMAT_PATH" ]
  let pairs ← names.mapM fun name => do
    return (← IO.getEnv name).map fun value => (name, value)
  return pairs.filterMap id

/-- Write records to the standard error stream. -/
def writeRecords (handler : Log.Handler) (runId : String)
    (records : List Log.Record) : IO Unit := do
  let now ← Std.Time.Timestamp.now
  let time := Log.timeText now.toMillisecondsSinceUnixEpoch.val.toNat
  for record in records do
    let context : Log.Context :=
      { runId, phase := record.phase, moduleName := record.moduleName }
    IO.eprint (handler.line time record.level context record.source.name
      record.message)

/-- The working folder. -/
def workingFolder : IO Files.Location := do
  return Files.namedParts (toString (← IO.currentDir))

/-- The world with everything that a command line touches. -/
def worldFor (defaults : Settings) (arguments : List String) : IO World := do
  let world : World := { here := ← workingFolder }
  match readInvocation arguments with
  | .error _ => return world
  | .ok invocation =>
      let first ← survey world (namedPaths invocation.command)
      let whole ←
        survey first (interfacePaths first defaults invocation.command)
      return { whole with machine := machineOf whole.files }

/-- Execute a command line and answer its status. -/
def runProgram (arguments : List String) : IO UInt32 := do
  let runId := Log.runIdText (← IO.getRandomBytes 16).toList
  let environment ← readVariables
  let (defaults, warnings) :=
    match Environment.settings environment {} with
    | .ok settings after => (settings, after.records)
    | .error _ after => ({}, after.records)
  writeRecords {} runId warnings
  let world ← worldFor defaults arguments
  let (output, after) := execute defaults runId arguments world
  (changesBetween world.files after.files).forM carryOut
  writeRecords (Log.Handler.configure {}) runId after.records
  IO.print output.standardOutput
  IO.eprint output.standardError
  return output.status.toUInt32

end CommandLine

end SwiftInterface

/-- The command line program. -/
def main (arguments : List String) : IO UInt32 :=
  SwiftInterface.CommandLine.runProgram arguments
