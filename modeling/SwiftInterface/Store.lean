import SwiftInterface.Interface
import SwiftInterface.World

/-!
# The interface store

Interface files live in an output folder, one for each module.  They are
written and removed by the name of the module.  A file that is written is
opened first, which takes its old content from it, so a writing that breaks
off leaves it with a part of the new content or with none.
-/

namespace SwiftInterface

namespace Store

/-- The path of a module's interface in an output folder. -/
def interfacePath (folder moduleName : String) : String :=
  Files.join folder (Interface.fileName moduleName)

/-- The path of an output folder, which must have a name. -/
def folderPath : Files.Folder → Run String
  | .named path => pure path
  | .nameless => Run.fail (.fault .namelessOutput)

/-- The failure that an error on a path stands for; only the refusals of the
system are foreseen. -/
def failureOf (cause : Files.Error → OutputFailure) (error : Files.Error) :
    Failure :=
  if error.refusal.isOfSystem then .output (cause error)
  else .fault (.refused error)

/-- Create the output folder and the folders above it.  An empty path names
no folder. -/
def createFolder (folder : String) : Run Unit :=
  if folder = "" then pure ()
  else do
    let world ← get
    let (result, files) :=
      world.files.createFolder world.machine.reach.folders world.here folder
    set { world with files }
    match result with
    | .ok () => pure ()
    | .error error =>
        Run.fail (failureOf (.folderRefused folder) error)

/-- Remove a module's interface; the answer tells whether there was one. -/
def remove (folder moduleName : String) : Run Bool := do
  let path := interfacePath folder moduleName
  let world ← get
  match world.files.locate world.here path with
  | .error _ => notFound
  | .ok location =>
      match world.files.get? location with
      | some (.file _) =>
          Run.info .generator ("Removing module interface at " ++ path)
          if world.refusesRemoval then
            Run.fail (failureOf (.removalRefused path) ⟨.denied, path⟩)
          else
            modify fun world =>
              { world with files := world.files.erase location }
            return true
      | _ => notFound
where
  /-- Report that there is no interface to remove. -/
  notFound : Run Bool := do
    Run.info .generator ("Did not find " ++
      Interface.nameOrUnknown moduleName ++ " at " ++
      (if folder = "" then "." else folder) ++ " to delete.")
    return false

/-- Open the file at a path for writing.  A new file is empty, and so is an
old one from now on. -/
def openFile (path : String) : Run Files.Location := do
  let world ← get
  match world.files.writeTarget world.here path with
  | .error refusal =>
      Run.fail (failureOf (.writeRefused path) ⟨refusal, path⟩)
  | .ok location =>
      set { world with
        files := world.files.put location (.file ByteArray.empty) }
      return location

/-- The bytes of a text; a text with halves has none. -/
def encode (contents : String) : Run ByteArray := do
  match (← get).machine.halves.encode contents with
  | .ok content => pure content
  | .error fault => Run.fail (.fault (.unencodable fault))

/-- Write a content to an opened file.  If that breaks off, the file keeps the
beginning of the content. -/
def fill (path : String) (location : Files.Location) (content : ByteArray) :
    Run Unit := do
  let world ← get
  match world.machine.shortfall with
  | none =>
      set { world with files := world.files.put location (.file content) }
  | some shortfall =>
      set { world with
        files := world.files.put location
          (.file (content.extract 0 shortfall.kept)) }
      Run.fail (failureOf (.writeRefused path)
        ⟨.brokenOff shortfall.number shortfall.wording, path⟩)

/-- Write an interface to the file at a path and answer the path. -/
def writeFile (path contents : String) : Run String := do
  let location ← openFile path
  let content ← encode contents
  fill path location content
  Run.info .generator ("Wrote module interface to " ++ path)
  return path

/-- Write a module's interface and answer its path. -/
def write (folder moduleName contents : String) : Run String := do
  createFolder folder
  writeFile (interfacePath folder moduleName) contents

end Store

end SwiftInterface
