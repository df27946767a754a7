import SwiftInterface.CommandLine.Execution
import SwiftInterface.Proofs.Generation.Phases

/-!
# The files that command lines touch

Whatever is asked for on the command line, in a settings file or in the
environment, only files with the ending of interface files are written or
removed, and no folder is lost.  This holds of the three changes that a run can
make, so it holds of a command line, and of any sequence of command lines.
-/

namespace SwiftInterface

namespace Store

open Files Run

/-- The name at a location has the ending of interface files. -/
def IsInterface (location : Location) : Prop :=
  ∃ name, location.getLast? = some name ∧ HasInterfaceEnding name

/-- From one tree to the other, all folders stay and no file changes, comes or
goes unless it has the ending of interface files. -/
structure TouchesInterfaces (before after : Tree) : Prop where
  keepsFolders : Tree.KeepsFolders before after
  sameFiles : ∀ location content, ¬ IsInterface location →
    (after.get? location = some (.file content) ↔
      before.get? location = some (.file content))

theorem TouchesInterfaces.refl (tree : Tree) : TouchesInterfaces tree tree :=
  ⟨.refl tree, fun _ _ _ => Iff.rfl⟩

theorem TouchesInterfaces.trans {first second third : Tree}
    (touches : TouchesInterfaces first second)
    (touchesOn : TouchesInterfaces second third) :
    TouchesInterfaces first third := by
  refine ⟨touches.keepsFolders.trans touchesOn.keepsFolders, ?_⟩
  intro location content other
  exact (touchesOn.sameFiles location content other).trans
    (touches.sameFiles location content other)

/-! ## The changes that are made -/

theorem isInterface_of_aims {tree : Tree} {here location : Location}
    {folder moduleName : String}
    (aims : tree.Aims here (interfacePath folder moduleName) location) :
    IsInterface location := by
  obtain ⟨front, last, parts, ends⟩ :=
    exists_last_interfacePath folder moduleName
  exact ⟨last, by simp [aims.getLast?, parts], ends⟩

theorem touchesInterfaces_of_removed {folder : Folder} {moduleName : String}
    {here : Location} {before after : Tree}
    (removed : Removed folder moduleName here before after) :
    TouchesInterfaces before after := by
  refine ⟨removed.keepsFolders, ?_⟩
  intro location content other
  -- A place that changed is where the path led, whose last part is a name with
  -- the ending, however the path is spelled.
  rcases removed.kept_or_located location with same | ⟨path, -, located⟩
  · rw [same]
  · have ends := endsOrdinary_interfacePath path moduleName
    have aims := (Tree.aims_of_locate ends located).1
    exact absurd (isInterface_of_aims aims) other

theorem touchesInterfaces_of_grown {here : Location} {chars : List Char}
    {before after : Tree} (grown : Tree.Grown here chars before after) :
    TouchesInterfaces before after :=
  ⟨grown.grows.keepsFolders,
    fun location content _ => grown.isFile_iff location content⟩

theorem touchesInterfaces_of_put {tree : Tree} {here location : Location}
    {folder moduleName : String}
    (target : tree.Target here (interfacePath folder moduleName) location)
    (content : ByteArray) :
    TouchesInterfaces tree (tree.put location (.file content)) := by
  refine ⟨Tree.keepsFolders_put _ target.notFolder, ?_⟩
  intro place old other
  have different : place ≠ location := by
    rintro rfl
    exact other (isInterface_of_aims target.aims)
  rw [target.get?_put, if_neg different]

/-! ## Runs -/

/-- The tree of a world differs from a given one in interface files only. -/
def TouchedSince (tree : Tree) (world : World) : Prop :=
  TouchesInterfaces tree world.files

theorem toolBlind_touchedSince (tree : Tree) : ToolBlind (TouchedSince tree) :=
  ⟨⟨fun _ _ touches => touches, fun _ _ _ touches => touches⟩,
    fun _ _ touches => touches⟩

theorem removeFrom_keeps (tree : Tree) (folder : Folder) (moduleName : String) :
    Keeps (TouchedSince tree) (removeFrom folder moduleName) := by
  intro world touches
  obtain ⟨removed, -⟩ := removeFrom_after folder moduleName world
  exact touches.trans (touchesInterfaces_of_removed removed)

end Store

namespace Generation

open Files Run Store

theorem removeOld_keeps (tree : Tree) (generation : Generation) :
    Keeps (TouchedSince tree) generation.removeOld := by
  intro world touches
  obtain ⟨cleared, -⟩ := removeOld_after generation world
  exact touches.trans (touchesInterfaces_of_removed cleared.removed)

theorem writeOut_keeps (tree : Tree) (generation : Generation)
    (contents : String) :
    Keeps (TouchedSince tree) (generation.writeOut contents) := by
  intro world touches
  cases outcome : generation.writeOut contents world with
  | error failure after =>
      rw [after_of_error outcome, TouchedSince]
      have unwritten := writeOut_eq_error outcome
      generalize after.files = left at unwritten
      cases unwritten with
      | unchanged => exact touches
      | refused named added =>
          exact touches.trans (touchesInterfaces_of_grown added)
      | brokenOff named added target broken =>
          exact (touches.trans (touchesInterfaces_of_grown added)).trans
            (touchesInterfaces_of_put target _)
  | ok path after =>
      rw [after_of_ok outcome, TouchedSince]
      obtain ⟨folder, -, rfl, -, -, grown, location, added, target, files⟩ :=
        writeOut_eq_ok outcome
      rw [files]
      exact (touches.trans (touchesInterfaces_of_grown added)).trans
        (touchesInterfaces_of_put target _)

theorem run_keeps (tree : Tree) (generation : Generation)
    (indexer : Tool.Indexer) (formatter : Tool.Formatter) :
    Keeps (TouchedSince tree) (generation.run indexer formatter) := by
  have blind := toolBlind_touchedSince tree
  rw [run_eq]
  refine Keeps.bind ?_ fun prepared => ?_
  · exact (removeOld_keeps tree generation).bind fun _ =>
      compose_keeps blind generation indexer formatter
  · exact (writeOut_keeps tree generation prepared.contents).bind fun _ =>
      .pure _

end Generation

namespace Settings

open Run

variable {property : World → Prop}

theorem readEntries_keeps (blind : RecordBlind property) (path : String) :
    Keeps property (readEntries path) := by
  refine Keeps.get.bind fun world => ?_
  split
  · exact .fail _
  · exact (Keeps.warn blind _ _).bind fun _ => .pure _
  · split
    · exact .pure _
    · exact .fail _

theorem load_keeps (blind : RecordBlind property) (path : Option String)
    (defaults : Settings) : Keeps property (load path defaults) := by
  rw [load.eq_def]
  split
  · exact .pure defaults
  · exact .pure defaults
  · refine (readEntries_keeps blind _).bind fun (collections, entries) => ?_
    dsimp only
    split
    · exact .fail _
    · exact (Keeps.info blind _ _).bind fun _ => .pure _

end Settings

namespace CommandLine

open Files Run Store

theorem generationOf_keeps {property : World → Prop}
    (blind : RecordBlind property) (arguments : GenerateArguments)
    (settings : Settings) : Keeps property (generationOf arguments settings) := by
  refine Keeps.bind ?_ fun _ => .pure _
  rw [AccessLevel.choose]
  split
  · exact .pure _
  · refine Keeps.get.bind fun _ => ?_
    exact (Keeps.warn blind _ _).bind fun _ => .pure _

theorem runGenerate_keeps (tree : Tree) (defaults : Settings)
    (arguments : GenerateArguments) :
    Keeps (TouchedSince tree) (runGenerate defaults arguments) := by
  have blind := (toolBlind_touchedSince tree).log
  refine (Settings.load_keeps blind _ _).bind fun settings => ?_
  refine (generationOf_keeps blind _ _).bind fun generation => ?_
  refine (Keeps.info blind _ _).bind fun _ => ?_
  refine Keeps.bind ?_ fun result => .info blind _ _
  exact .inModule blind _ (generation.run_keeps tree _ _)

theorem runClean_keeps (tree : Tree) (defaults : Settings)
    (arguments : CleanArguments) :
    Keeps (TouchedSince tree) (runClean defaults arguments) := by
  have blind := (toolBlind_touchedSince tree).log
  refine (Settings.load_keeps blind _ _).bind fun settings => ?_
  exact .inModule blind _ (removeFrom_keeps tree _ _)

theorem finish_touches {tree : Tree} {body : Run Unit} (name : String)
    (keeps : Keeps (TouchedSince tree) body) (world : World)
    (touches : TouchedSince tree world) :
    TouchedSince tree (finish name body world).2 := by
  have kept := keeps world touches
  rw [finish]
  split
  case h_1 after outcome => rwa [after_of_ok outcome] at kept
  case h_2 failure after outcome =>
      rw [after_of_error outcome] at kept
      rw [reportFailure, TouchedSince]
      split
      · rw [(sameButLog_log _ _ _ _ _).files]
        exact kept
      · rw [(sameButLog_log _ _ _ _ _).files]
        exact kept

/-- One command line touches interface files only, in any world and with any
outcome. -/
theorem execute_touches (defaults : Settings) (runId : String)
    (arguments : List String) (world : World) :
    TouchesInterfaces world.files
      (execute defaults runId arguments world).2.files := by
  have unchanged : TouchedSince world.files world := .refl world.files
  rw [execute]
  split
  case h_1 => exact unchanged
  case h_2 => exact unchanged
  case h_3 invocation read =>
      have started : TouchedSince world.files
          (startWorld invocation.verbose runId world) := unchanged
      rw [runCommand.eq_def]
      split
      · exact started
      · exact started
      · exact finish_touches _ (runGenerate_keeps _ _ _) _ started
      · exact finish_touches _ (runClean_keeps _ _ _) _ started

/-! ## Sequences of command lines -/

/-- One start of the program: the command line, the settings that the
environment gives and the world, whose files are those left by earlier
starts. -/
structure Start where
  arguments : List String
  defaults : Settings
  runId : String
  surroundings : World

/-- The files after a start of the program. -/
def Start.filesAfter (start : Start) (files : Tree) : Tree :=
  (execute start.defaults start.runId start.arguments
    { start.surroundings with files }).2.files

/-- The files after starts of the program, one after the other. -/
def filesAfter (starts : List Start) (files : Tree) : Tree :=
  starts.foldl (fun files start => start.filesAfter files) files

theorem Start.touches (start : Start) (files : Tree) :
    TouchesInterfaces files (start.filesAfter files) :=
  execute_touches start.defaults start.runId start.arguments
    { start.surroundings with files }

/-- No sequence of command lines touches anything but interface files. -/
theorem touchesInterfaces_filesAfter (starts : List Start) (files : Tree) :
    TouchesInterfaces files (filesAfter starts files) := by
  induction starts generalizing files with
  | nil => exact .refl files
  | cons start starts ih =>
      exact (start.touches files).trans (ih (start.filesAfter files))

end CommandLine

end SwiftInterface
