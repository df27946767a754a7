import SwiftInterface.Render.Descent
import SwiftInterface.Render.Session
import SwiftInterface.Store
import SwiftInterface.Tool.Formatter

/-!
# Generating an interface

A generation removes the old interface if asked to, produces declarations,
renders them, formats the interface text and writes it.  The log shows each
of these phases.
-/

namespace SwiftInterface

/-- The inputs of one generation. -/
structure Generation where
  outputFolder : Files.Folder := .named "Documentation"
  minimumLevel : AccessLevel := .publicAccess
  /-- Whether an interface written before is removed first. -/
  clean : Bool := false
  /-- The module of a package to document. -/
  packageModule : Option String := none
  /-- The module to document if no package module is given. -/
  moduleName : Option String := none
  /-- The folder in which the module is built; the working folder if absent. -/
  inputFolder : Option Files.Folder := none
  /-- A dump to read instead of running the indexer. -/
  inputDump : Option String := none
  /-- The arguments with which the module is built. -/
  buildArguments : List String := []
  skipUnbalanced : Bool := false
deriving DecidableEq, Repr, Inhabited

namespace Generation

/-- A text that is given and not empty. -/
def given? : Option String → Option String
  | none => none
  | some text => if text = "" then none else some text

/-- The module named in the header; empty when a whole project is
documented. -/
def targetModule (generation : Generation) : String :=
  ((given? generation.packageModule).or (given? generation.moduleName)).getD ""

/-- The outcome of a generation that succeeded. -/
structure Result where
  outputPath : String
  moduleName : String
  blockCount : Nat
  counts : Render.Counts
deriving DecidableEq, Repr, Inhabited

/-- What the indexer is to document, in a folder. -/
def subject (generation : Generation) (folder : Files.Folder) : Tool.Subject :=
  match given? generation.packageModule with
  | some moduleName => .package moduleName
  | none =>
      match given? generation.moduleName with
      | some moduleName => .module moduleName generation.buildArguments folder
      | none => .project generation.buildArguments folder

/-- The declarations of a dump or of the indexer. -/
def obtainForest (generation : Generation) (indexer : Tool.Indexer) :
    Run Forest := do
  match given? generation.inputDump with
  | some path => Dump.load path
  | none =>
      let world ← get
      indexer.document
        (generation.subject
          (generation.inputFolder.getD (.named world.herePath)))

/-- The declarations to render; there must be some. -/
def produceForest (generation : Generation) (indexer : Tool.Indexer) :
    Run Forest := do
  let forest ← generation.obtainForest indexer
  if forest.isEmpty then
    Run.fail (.producer (.emptyForest
      (Interface.nameOrUnknown generation.targetModule)))
  else return forest

/-- How the declarations are rendered. -/
def renderOptions (generation : Generation) : Render.Options where
  minimumLevel := generation.minimumLevel
  skipUnbalanced := generation.skipUnbalanced

/-- Give up on declarations that nest too deeply to be rendered, after the
messages about what was dropped before that is noticed. -/
def requireRoom (generation : Generation) (forest : Forest) : Run Unit := do
  let machine := (← get).machine
  match Render.forestDropsWithin generation.renderOptions
      machine.reach.rendering forest with
  | .ok _ => pure ()
  | .error drops =>
      Render.logDrops machine.halves drops
      Run.fail (.fault (.tooDeep .calls))

/-- The blocks of the declarations, with the counts. -/
def renderBlocks (generation : Generation) (forest : Forest) :
    Run (List String × Render.Counts) := do
  generation.requireRoom forest
  let session : Render.Session := { options := generation.renderOptions }
  let (blocks, used) ← session.renderForest forest
  Run.info .generator ("Rendered " ++ toString blocks.length ++
    " blocks at minimum access level " ++ generation.minimumLevel.label ++
    ": " ++ used.counts.summary)
  return (blocks, used.counts)

/-- Remove the old interface if asked to. -/
def removeOld (generation : Generation) : Run Unit :=
  if generation.clean then
    Run.inPhase "clean" do
      let folder ← Store.folderPath generation.outputFolder
      let _ ← Store.remove folder generation.targetModule
  else pure ()

/-- Generate and write an interface. -/
def run (generation : Generation) (indexer : Tool.Indexer)
    (formatter : Tool.Formatter) : Run Result := do
  let moduleName := generation.targetModule
  generation.removeOld
  let forest ← Run.inPhase "produce" (generation.produceForest indexer)
  let (blocks, counts) ← Run.inPhase "render" (generation.renderBlocks forest)
  let contents ← Run.inPhase "format"
    (Interface.compose blocks moduleName formatter)
  let outputPath ← Run.inPhase "write" do
    let folder ← Store.folderPath generation.outputFolder
    Store.write folder moduleName contents
  return { outputPath, moduleName, blockCount := blocks.length, counts }

end Generation

end SwiftInterface
