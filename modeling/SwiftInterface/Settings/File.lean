import SwiftInterface.Settings.Basic
import SwiftInterface.Tool.Indexer
import SwiftInterface.Yaml.Document

/-!
# Settings files

A settings file is a JSON or YAML mapping from names of settings to values.
All names must be known and all values acceptable; the settings that are not
named keep their defaults.
-/

namespace SwiftInterface

namespace Settings

/-- The name that an entry's key stands for. -/
def nameOf? : Value → Option Setting.Name
  | .text label => Setting.Name.ofLabel? label
  | _ => none

/-- The keys that are no texts. -/
def nonTextKeys (entries : List (Value × Value)) : List Value :=
  (entries.map Prod.fst).filter fun
    | .text _ => false
    | _ => true

/-- The text keys that name no setting, in the order of their code points. -/
def unknownNames (collections : Collections)
    (entries : List (Value × Value)) : List String :=
  let codes := collections.machine.halves.codesOf
  let names := entries.filterMap fun
    | (.text label, _) =>
        if (Setting.Name.ofLabel? label).isNone then some label else none
    | _ => none
  names.mergeSort fun first second =>
    !(codes second).lex (codes first) Nat.blt

/-- Fail unless every key names a setting. -/
def requireNames (collections : Collections)
    (entries : List (Value × Value)) : Except Failure Unit := do
  let keys := nonTextKeys entries
  if !keys.isEmpty then
    let texts ← keys.mapM (Setting.describe collections)
    throw (.settings (.namesNotText texts))
  let names := unknownNames collections entries
  if !names.isEmpty then throw (.settings (.unknownNames names))

/-- Accept the entries in order. -/
def acceptEntries (collections : Collections) :
    List (Value × Value) → Except Failure (List Setting)
  | [] => .ok []
  | (key, value) :: rest =>
      match nameOf? key with
      | none => acceptEntries collections rest
      | some name => do
          let setting ← Setting.accept collections name value
          let others ← acceptEntries collections rest
          return setting :: others

/-- Fail if the path of a program is empty; the indexer comes first. -/
def requirePaths (accepted : List Setting) : Except Failure Unit :=
  if accepted.contains (.indexerPath "") then
    .error (.settings (.emptyText Setting.Name.indexerPath.label))
  else if accepted.contains (.formatterPath "") then
    .error (.settings (.emptyText Setting.Name.formatterPath.label))
  else .ok ()

/-- The settings that the entries of a mapping name. -/
def overrides (collections : Collections) (entries : List (Value × Value)) :
    Except Failure (List Setting) := do
  requireNames collections entries
  let accepted ← acceptEntries collections entries
  requirePaths accepted
  return accepted

/-- The defaults with some settings replaced. -/
def override (defaults : Settings) (accepted : List Setting) : Settings :=
  accepted.foldl Setting.apply defaults

/-! ## Reading the file -/

/-- The ending of JSON files; other files are YAML. -/
def jsonSuffix : String :=
  ".json"

/-- Whether the path of a file asks for JSON.  Letter case does not matter. -/
def isJsonPath (path : String) : Bool :=
  (Files.suffix path).toList.map Char.toLower == jsonSuffix.toList

/-- The content that the text of a file holds. -/
def parse (machine : Machine) (path text : String) : Except Failure Content :=
  if isJsonPath path then
    match Json.read machine text.toList with
    | .ok json => .ok (Content.ofJson machine json)
    | .error (.tooManyDigits digits) =>
        .error (.fault (.unreadableInteger digits))
    | .error (.tooDeep descent) => .error (.fault (.tooDeep descent))
    | .error fault =>
        .error (.settings (.unparsable path (fault.message text.toList)))
  else
    match Yaml.read machine text.toList with
    | .ok content => .ok content
    | .error (.fault fault) => .error (.fault fault)
    | .error .malformed =>
        .error (.settings (.unparsable path (machine.yamlProblem text)))

/-- The bytes of the settings file at a path. -/
def readBytes (world : World) (path : String) : Except Failure ByteArray :=
  match world.files.read world.here path with
  | .ok content => .ok content
  | .error .nameTooLong =>
      .error (.fault (.refused ⟨.nameTooLong, path⟩))
  | .error _ => .error (.settings (.fileMissing path))

/-- The content of the settings file at a path. -/
def readContent (world : World) (path : String) : Except Failure Content := do
  let bytes ← readBytes world path
  match Dump.fileText bytes with
  | .error fault => throw (.fault (.undecodable fault))
  | .ok text => parse world.machine path text

/-- The entries of the settings file at a path with its collections; an empty
file has none and is reported. -/
def readEntries (path : String) :
    Run (Collections × List (Value × Value)) := do
  match readContent (← get) path with
  | .error failure => Run.fail failure
  | .ok ⟨collections, .null⟩ =>
      Run.warn .settings ("Settings file " ++ path ++
        " is empty; using defaults")
      return (collections, [])
  | .ok ⟨collections, root⟩ =>
      match collections.entries? root with
      | some entries => return (collections, entries)
      | none => Run.fail (.settings (.notMapping (collections.typeName root)))

/-- The defaults with the settings of a file in place; without a path they
stay as they are. -/
def load (path : Option String) (defaults : Settings) : Run Settings :=
  match path with
  | none => pure defaults
  | some "" => pure defaults
  | some path => do
      let (collections, entries) ← readEntries (Files.tidy path)
      match overrides collections entries with
      | .error failure => Run.fail failure
      | .ok accepted => do
          Run.info .settings ("Loaded settings from " ++ path ++ " (" ++
            toString accepted.length ++ " overrides)")
          return override defaults accepted

end Settings

end SwiftInterface
