import SwiftInterface.CommandLine.Execution

/-!
# What a command line touches

The paths that a command reads and writes, so that the surroundings of a run
can be prepared before it.  The output folder may come from the settings file,
so it is only known after that file was read.
-/

namespace SwiftInterface

namespace CommandLine

/-- The path of a folder, if it has a name. -/
def folderPath? : Option Files.Folder → Option String
  | some (.named path) => some path
  | _ => none

/-- The paths that a command names itself. -/
def namedPaths : Command → List String
  | .generate arguments =>
      [ arguments.config, arguments.inputDump,
        folderPath? arguments.inputFolder ].filterMap id
  | .clean arguments => arguments.config.toList
  | _ => []

/-- The settings of a command in the world as it is; the defaults if they
cannot be read. -/
def settingsIn (world : World) (defaults : Settings)
    (config : Option String) : Settings :=
  match Settings.load config defaults world with
  | .ok settings _ => settings
  | .error _ _ => defaults

/-- The path of the interface that a command writes or removes. -/
def interfacePaths (world : World) (defaults : Settings) :
    Command → List String
  | .generate arguments =>
      let settings := settingsIn world defaults arguments.config
      let folder :=
        (folderPath? arguments.outputFolder).getD settings.outputFolder
      let generation : Generation :=
        { packageModule := arguments.packageModule
          moduleName := arguments.moduleName }
      [Store.interfacePath folder generation.targetModule]
  | .clean arguments =>
      let settings := settingsIn world defaults arguments.config
      let folder :=
        (folderPath? arguments.outputFolder).getD settings.outputFolder
      [Store.interfacePath folder arguments.moduleName]
  | _ => []

/-- The locations on the way along parts of a path, from the first on. -/
def locationsAlong : Files.Location → List String → List Files.Location
  | location, [] => [location]
  | location, part :: rest =>
      let next :=
        if part = "" ∨ part = "." then location
        else if part = ".." then location.dropLast
        else location ++ [part]
      location :: locationsAlong next rest

/-- The locations on the way to a path. -/
def locationsTo (here : Files.Location) (path : String) :
    List Files.Location :=
  locationsAlong [] here ++
    locationsAlong (Files.Tree.startOf here path) (Files.partsOf path)

/-- The texts of the files in a tree. -/
def textsOf (tree : Files.Tree) : List String :=
  tree.entries.filterMap fun (_, entry) =>
    match entry with
    | .folder => none
    | .file content => (Text.decodeUtf8 content).toOption

/-- The machine for the files in a tree, whose texts leave its halves alone. -/
def machineOf (tree : Files.Tree) : Machine where
  halves := .avoiding (textsOf tree)

/-- A change of the file tree. -/
inductive Change where
  | create (location : Files.Location)
  | write (location : Files.Location) (content : ByteArray)
  | remove (location : Files.Location)

/-- The changes that lead from one tree to another, outer folders first. -/
def changesBetween (before after : Files.Tree) : List Change :=
  let removed := before.entries.filterMap fun (location, _) =>
    if (after.get? location).isNone then some (.remove location) else none
  let written := after.entries.reverse.filterMap fun (location, entry) =>
    if before.get? location = some entry then none
    else
      match entry with
      | .folder => some (.create location)
      | .file content => some (.write location content)
  removed ++ written

end CommandLine

end SwiftInterface
