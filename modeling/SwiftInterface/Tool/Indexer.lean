import SwiftInterface.Declaration.Dump
import SwiftInterface.Text.Lines
import SwiftInterface.World

/-!
# Producing declarations

Declarations come from the source indexer, which is run as an external
program, or from a dump that it wrote to a file before.
-/

namespace SwiftInterface

namespace Dump

/-- Write the record of a note. -/
def logNote : Note → Run Unit
  | .skippedFile path =>
      Run.warn .producer
        ("Skipping " ++ path ++ ": structure is not an object")
  | .loadedFile path => Run.debug .producer ("Loaded structure for " ++ path)
  | .skippedEntry typeName =>
      Run.warn .producer ("Skipping non-object entry of type " ++ typeName)

/-- Write the records of notes in order. -/
def logNotes : List Note → Run Unit
  | [] => pure ()
  | note :: rest => do
      logNote note
      logNotes rest

/-- The declarations of a decoded dump. -/
def forestOf (payload : Json) : Run Forest :=
  match ofJson? payload with
  | none => Run.fail (.producer (.unexpectedPayload payload.typeName))
  | some harvest => do
      logNotes harvest.notes
      return harvest.forest

/-- The declarations of a decoded dump, as far as their nesting can be
followed. -/
def forestWithin (payload : Json) : Run Forest := do
  match notesUpTo? (← get).machine.reach.declarations payload with
  | none => forestOf payload
  | some notes =>
      logNotes notes
      Run.fail (.fault (.tooDeep .calls))

/-- Decode the text of a dump.  `describe` turns the wording of a problem into
a failure. -/
def decode (text : String) (describe : String → ProducerFailure) :
    Run Json := do
  match Json.read (← get).machine text.toList with
  | .ok payload => pure payload
  | .error (.tooManyDigits digits) =>
      Run.fail (.fault (.unreadableInteger digits))
  | .error (.tooDeep descent) => Run.fail (.fault (.tooDeep descent))
  | .error fault =>
      Run.fail (.producer (describe (fault.message text.toList)))

/-- The text of a file, read as UTF-8 with unified line ends. -/
def fileText (content : ByteArray) : Except Text.Utf8Fault String :=
  (Text.decodeUtf8 content).map fun text =>
    String.ofList (Text.unifyLineEnds text.toList)

/-- The text of the file at a path. -/
def readText (path : String) : Run String := do
  let world ← get
  match world.files.read world.here path with
  | .error .notFound => Run.fail (.producer (.dumpMissing path))
  | .error .nullCharacter =>
      Run.fail (.fault (.refused ⟨.nullCharacter, path⟩))
  | .error refusal =>
      Run.fail (.producer (.dumpUnreadable path ⟨refusal, path⟩))
  | .ok content =>
      match fileText content with
      | .error fault => Run.fail (.fault (.undecodable fault))
      | .ok text => pure text

/-- The declarations of a dump that was written to a file. -/
def load (givenPath : String) : Run Forest := do
  let path := Files.tidy givenPath
  let text ← readText path
  let payload ← decode text (.invalidDump path)
  let forest ← forestWithin payload
  Run.info .producer ("Loaded " ++ toString forest.length ++
    " file structures from " ++ path)
  return forest

end Dump

namespace Tool

/-- The error output of a program as it is quoted in messages. -/
def errorDetail (errorOutput : Option String) : String :=
  let detail := Text.trim (errorOutput.getD "")
  if detail = "" then "no error output" else detail

/-- The source indexer. -/
structure Indexer where
  executable : String := "sourcekitten"
  /-- The time it may take, in seconds. -/
  timeout : Int := 600
deriving DecidableEq, Repr, Inhabited

/-- What the indexer documents. -/
inductive Subject where
  /-- A module of the package in the working folder. -/
  | package (moduleName : String)
  /-- A module that is built with the given arguments in a folder. -/
  | module (moduleName : String) (arguments : List String)
      (folder : Files.Folder)
  /-- The project in a folder. -/
  | project (arguments : List String) (folder : Files.Folder)
deriving DecidableEq, Repr, Inhabited

namespace Subject

/-- The arguments of the indexer for a subject. -/
def arguments : Subject → List String
  | package moduleName => ["doc", "--spm", "--module-name", moduleName]
  | module moduleName arguments _ =>
      ["doc", "--module-name", moduleName, "--"] ++ arguments
  | project arguments _ => ["doc", "--"] ++ arguments

/-- The name of a subject in messages. -/
def description : Subject → String
  | package moduleName => "SPM module '" ++ moduleName ++ "'"
  | module moduleName _ _ => "module '" ++ moduleName ++ "'"
  | project _ _ => "project"

/-- The folder in which the indexer runs. -/
def folder? : Subject → Option Files.Folder
  | package _ => none
  | module _ _ folder => some folder
  | project _ folder => some folder

end Subject

namespace Indexer

/-- The path of the folder of a subject, if it has one; the folder must have
a name and exist. -/
def folderPath : Option Files.Folder → Run (Option String)
  | none => pure none
  | some .nameless => Run.fail (.fault .namelessInput)
  | some (.named folder) => do
      let world ← get
      if world.files.isFolder world.here folder then pure (some folder)
      else Run.fail (.producer (.inputFolderMissing folder))

/-- The output of a program that succeeded, or the failure that its outcome
stands for. -/
def outputOf (indexer : Indexer) (subject : Subject) : Outcome → Run String
  | .finished output => pure output
  | .exited status errorOutput =>
      Run.fail (.producer (.toolFailed subject.description status
        (errorDetail errorOutput)))
  | .missing => Run.fail (.producer (.executableMissing indexer.executable))
  | .timedOut =>
      Run.fail (.producer (.toolTimedOut indexer.timeout subject.description))
  | .denied =>
      Run.fail (.fault (.refused ⟨.denied, indexer.executable⟩))
  | .troubled trouble =>
      Run.fail (.fault (.program indexer.executable trouble))

/-- Run the indexer and read the declarations it writes. -/
def document (indexer : Indexer) (subject : Subject) : Run Forest := do
  let command := indexer.executable :: subject.arguments
  let folder ← folderPath subject.folder?
  Run.info .producer ("Running SourceKitten for " ++ subject.description ++
    ": " ++ " ".intercalate command)
  let outcome ← Run.start
    { command, folder, timeout := indexer.timeout, input := none }
  let output ← indexer.outputOf subject outcome
  let payload ← Dump.decode output (.invalidOutput subject.description)
  let forest ← Dump.forestWithin payload
  if forest.isEmpty then
    Run.fail (.producer (.noDeclarations subject.description))
  else
    Run.info .producer ("SourceKitten documented " ++
      toString forest.length ++ " files for " ++ subject.description)
    return forest

end Indexer

end Tool

end SwiftInterface
