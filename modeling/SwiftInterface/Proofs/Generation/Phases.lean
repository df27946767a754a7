import SwiftInterface.Generation
import SwiftInterface.Proofs.Render.Session
import SwiftInterface.Proofs.Store.Changes
import SwiftInterface.Proofs.Tool.Production

/-!
# The phases of a generation

A generation first prepares the text of an interface, in four phases, and then
writes it.  Of the preparation only the removal of the old interface touches
the files; the declarations are obtained, rendered and formatted without
changing them.  This file says what each part does to the files when it fails
and what it yields when it succeeds.  A failed writing leaves folders, or, if
it breaks off, a file with the part that was written.
-/

namespace SwiftInterface

namespace Render

open Run

theorem logDrops_keeps {property : World → Prop} (blind : RecordBlind property)
    (halves : Text.Halves) (drops : List Drop) :
    Keeps property (logDrops halves drops) := by
  induction drops with
  | nil => exact .pure ()
  | cons drop drops ih => exact (Keeps.debug blind _ _).bind fun _ => ih

end Render

namespace Generation

open Run

variable {property : World → Prop}

/-! ## Phases that leave the files alone -/

theorem obtainForest_keeps (blind : StepBlind property)
    (generation : Generation) (indexer : Tool.Indexer) :
    Keeps property (generation.obtainForest indexer) := by
  rw [obtainForest]
  split
  · exact Dump.load_keeps blind.log _
  · exact Keeps.get.bind fun world => indexer.document_keeps blind _

theorem produceForest_keeps (blind : StepBlind property)
    (generation : Generation) (indexer : Tool.Indexer) :
    Keeps property (generation.produceForest indexer) := by
  refine (obtainForest_keeps blind generation indexer).bind fun forest => ?_
  split
  · exact .fail _
  · exact .pure forest

theorem requireRoom_keeps (blind : RecordBlind property)
    (generation : Generation) (forest : Forest) :
    Keeps property (generation.requireRoom forest) := by
  refine Keeps.get.bind fun world => ?_
  dsimp only
  split
  · exact .pure ()
  · exact (Render.logDrops_keeps blind _ _).bind fun _ => .fail _

theorem renderBlocks_keeps (blind : RecordBlind property)
    (generation : Generation) (forest : Forest) :
    Keeps property (generation.renderBlocks forest) := by
  refine (requireRoom_keeps blind generation forest).bind fun _ => ?_
  refine Keeps.bind ?_ fun _ => (Keeps.info blind _ _).bind fun _ => .pure _
  refine Keeps.get.bind fun world => ?_
  refine (Render.logDrops_keeps blind _ _).bind fun _ => ?_
  exact (Keeps.debug blind _ _).bind fun _ => .pure _

/-! ## Preparation and writing -/

/-- What a generation has prepared before it writes. -/
structure Prepared where
  blocks : List String
  counts : Render.Counts
  /-- The interface text as it is to be written. -/
  contents : String

/-- Obtain, render and format the declarations. -/
def compose (generation : Generation) (indexer : Tool.Indexer)
    (formatter : Tool.Formatter) : Run Prepared := do
  let forest ← Run.inPhase "produce" (generation.produceForest indexer)
  let (blocks, counts) ← Run.inPhase "render" (generation.renderBlocks forest)
  let contents ← Run.inPhase "format"
    (Interface.compose blocks generation.targetModule formatter)
  return { blocks, counts, contents }

/-- All phases before the last one. -/
def prepare (generation : Generation) (indexer : Tool.Indexer)
    (formatter : Tool.Formatter) : Run Prepared := do
  generation.removeOld
  generation.compose indexer formatter

/-- The last phase. -/
def writeOut (generation : Generation) (contents : String) : Run String :=
  Run.inPhase "write" do
    let folder ← Store.folderPath generation.outputFolder
    Store.write folder generation.targetModule contents

/-- A generation prepares an interface and writes it. -/
theorem run_eq (generation : Generation) (indexer : Tool.Indexer)
    (formatter : Tool.Formatter) :
    generation.run indexer formatter = do
      let prepared ← generation.prepare indexer formatter
      let outputPath ← generation.writeOut prepared.contents
      return {
        outputPath
        moduleName := generation.targetModule
        blockCount := prepared.blocks.length
        counts := prepared.counts } := by
  simp only [run, prepare, compose, bind_assoc]
  rfl

theorem compose_keeps (blind : ToolBlind property) (generation : Generation)
    (indexer : Tool.Indexer) (formatter : Tool.Formatter) :
    Keeps property (generation.compose indexer formatter) := by
  refine Keeps.bind ?_ fun forest => ?_
  · exact .inPhase blind.log _ (produceForest_keeps blind generation indexer)
  refine Keeps.bind ?_ fun rendered => ?_
  · exact .inPhase blind.log _ (renderBlocks_keeps blind.log generation forest)
  refine Keeps.bind ?_ fun contents => .pure _
  exact .inPhase blind.log _ (Interface.compose_keeps blind _ _ _)

/-! ## Removing the old interface -/

/-- The files after the removal of the old interface, if it was asked for. -/
structure Cleared (generation : Generation) (before : World)
    (tree : Files.Tree) : Prop where
  removed : Store.Removed generation.outputFolder generation.targetModule
    before.here before.files tree
  unasked : generation.clean = false → tree = before.files

theorem removeOld_after (generation : Generation) (world : World) :
    generation.Cleared world (generation.removeOld.after world).files ∧
      SameButFiles world (generation.removeOld.after world) := by
  rw [removeOld]
  split
  case isFalse => exact ⟨⟨.kept, fun _ => rfl⟩, .refl world⟩
  case isTrue asked =>
      obtain ⟨entered, entering, leaving⟩ := after_inPhase "clean"
        (Store.removeFrom generation.outputFolder generation.targetModule) world
      obtain ⟨removed, same⟩ := Store.removeFrom_after generation.outputFolder
        generation.targetModule entered
      rw [← leaving.files, entering.files, entering.here] at removed
      refine ⟨⟨removed, fun unasked => ?_⟩,
        (entering.toSameButFiles.trans same).trans leaving.toSameButFiles⟩
      simp [unasked] at asked

/-- The preparation touches the files by the removal only. -/
theorem prepare_after (generation : Generation) (indexer : Tool.Indexer)
    (formatter : Tool.Formatter) (world : World) :
    generation.Cleared world
        ((generation.prepare indexer formatter).after world).files ∧
      ((generation.prepare indexer formatter).after world).here =
        world.here ∧
      ((generation.prepare indexer formatter).after world).machine =
        world.machine := by
  have blind : ToolBlind fun after : World =>
      generation.Cleared world after.files ∧ after.here = world.here ∧
        after.machine = world.machine :=
    ⟨⟨fun _ _ holds => holds, fun _ _ _ holds => holds⟩,
      fun _ _ holds => holds⟩
  obtain ⟨cleared, same⟩ := removeOld_after generation world
  exact Keeps.after_bind ⟨cleared, same.here, same.machine⟩
    fun _ => compose_keeps blind generation indexer formatter

/-! ## Writing -/

/-- The files after a writing that failed. -/
inductive Unwritten (generation : Generation) (contents : String)
    (world : World) (failure : Failure) : Files.Tree → Prop
  | unchanged : Unwritten generation contents world failure world.files
  | refused {folder : String} {grown : Files.Tree}
      (named : generation.outputFolder = .named folder)
      (added : Files.Tree.Grown world.here folder.toList world.files grown) :
      Unwritten generation contents world failure grown
  | brokenOff {folder : String} {grown : Files.Tree}
      {location : Files.Location} {kept : ByteArray}
      (named : generation.outputFolder = .named folder)
      (added : Files.Tree.Grown world.here folder.toList world.files grown)
      (target : grown.Target world.here
        (Store.interfacePath folder generation.targetModule) location)
      (broken : Store.breakOff? world.machine
        (Store.interfacePath folder generation.targetModule) contents =
          some (kept, failure)) :
      Unwritten generation contents world failure
        (grown.put location (.file kept))

theorem writeOut_eq_error {generation : Generation} {contents : String}
    {failure : Failure} {world after : World}
    (failed : generation.writeOut contents world = .error failure after) :
    generation.Unwritten contents world failure after.files := by
  obtain ⟨entered, inner, entering, failed, leaving⟩ := inPhase_eq_error failed
  rw [leaving.files]
  cases named : generation.outputFolder with
  | nameless =>
      rw [named] at failed
      obtain ⟨-, rfl⟩ := EStateM.Result.error.inj failed
      rw [entering.files]
      exact .unchanged
  | named folder =>
      rw [named] at failed
      rcases bind_eq_error.mp failed with failed | ⟨_, _, found, failed⟩
      · cases failed
      obtain ⟨rfl, rfl⟩ := pure_eq_ok.mp found
      have outcome := Store.write_outcome folder generation.targetModule
        contents entered
      rw [failed] at outcome
      cases outcome with
      | refused added closed same =>
          rw [entering.files, entering.here] at added
          exact .refused named added
      | brokenOff added target broken files same =>
          rw [entering.files, entering.here] at added
          rw [entering.here] at target
          rw [entering.machine] at broken
          rw [files]
          exact .brokenOff named added target broken

/-- A write that succeeds puts one file where the path of the interface aims,
after folders were added. -/
theorem writeOut_eq_ok {generation : Generation} {contents path : String}
    {world after : World}
    (succeeded : generation.writeOut contents world = .ok path after) :
    ∃ folder, generation.outputFolder = .named folder ∧
      path = Store.interfacePath folder generation.targetModule ∧
        SameButFiles world after ∧
          Store.breakOff? world.machine path contents = none ∧
            ∃ grown location,
              Files.Tree.Grown world.here folder.toList world.files grown ∧
                grown.Target world.here path location ∧
                  after.files =
                    grown.put location (.file (Text.encodeUtf8 contents)) := by
  obtain ⟨entered, inner, entering, succeeded, leaving⟩ :=
    inPhase_eq_ok succeeded
  cases named : generation.outputFolder with
  | nameless =>
      rw [named] at succeeded
      exact absurd succeeded fail_ne_ok
  | named folder =>
      rw [named] at succeeded
      obtain ⟨_, _, found, succeeded⟩ := bind_eq_ok.mp succeeded
      obtain ⟨rfl, rfl⟩ := pure_eq_ok.mp found
      obtain ⟨rfl, same, whole, grown, location, added, target, files⟩ :=
        Store.write_eq_ok succeeded
      rw [entering.files, entering.here] at added
      rw [entering.here] at target
      exact ⟨folder, rfl, rfl,
        (entering.toSameButFiles.trans same).trans leaving.toSameButFiles,
        entering.machine ▸ whole, grown, location, added, target,
        leaving.files.trans files⟩

end Generation

end SwiftInterface
