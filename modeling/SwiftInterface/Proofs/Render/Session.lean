import SwiftInterface.Proofs.Render.Fate
import SwiftInterface.Proofs.World.Preservation
import SwiftInterface.Render.Session

/-!
# Runs of a render session

A session renders by the pure renderer and only adds records for details to
the log.  This file says what a run returns and which records it leaves.
-/

namespace SwiftInterface

namespace Render

attribute [ext] Counts

/-- The records that messages of the renderer leave in the log, if records
for details are kept. -/
def debugRecords (world : World) (messages : List String) : List Log.Record :=
  if world.threshold ≤ .debug then
    messages.map fun message =>
      { level := .debug, source := .renderer, phase := world.context.phase,
        moduleName := world.context.moduleName, message }
  else []

theorem debugRecords_append (world : World) (first second : List String) :
    debugRecords world (first ++ second) =
      debugRecords world first ++ debugRecords world second := by
  by_cases kept : world.threshold ≤ Log.Level.debug
  · simp [debugRecords, kept]
  · simp [debugRecords, kept]

theorem debug_run (world : World) (message : String) :
    Run.debug .renderer message world =
      .ok () { world with
        records := world.records ++ debugRecords world [message] } := by
  change EStateM.Result.ok () (world.log .debug .renderer message none) = _
  by_cases kept : world.threshold ≤ Log.Level.debug
  · simp [World.log, debugRecords, kept]
  · simp [World.log, debugRecords, kept]

/-- The messages about dropped declarations are written in order. -/
theorem logDrops_run (halves : Text.Halves) (world : World)
    (drops : List Drop) :
    logDrops halves drops world =
      .ok () { world with
        records := world.records ++
          debugRecords world (drops.map (Drop.message halves)) } := by
  induction drops generalizing world with
  | nil =>
      have noRecords : debugRecords world [] = [] := by simp [debugRecords]
      simp only [List.map_nil, noRecords, List.append_nil]
      rfl
  | cons drop drops ih =>
      have records :
          debugRecords world ((drop :: drops).map (Drop.message halves)) =
            debugRecords world [drop.message halves] ++
              debugRecords world (drops.map (Drop.message halves)) :=
        debugRecords_append world [drop.message halves]
          (drops.map (Drop.message halves))
      rw [logDrops, Run.bind_ok (debug_run world (drop.message halves)), ih,
        records, List.append_assoc]
      rfl

/-- The message that closes the rendering of a forest. -/
def summaryMessage (blocks : List String) (counts : Counts) : String :=
  "Rendered " ++ toString blocks.length ++ " top-level blocks: " ++
    counts.summary

/-- Rendering a forest returns its blocks and counts and leaves a record for
each drop and one for the whole. -/
theorem Session.renderForest_run (session : Session) (forest : Forest)
    (world : World) :
    session.renderForest forest world =
      .ok ((Render.renderForest session.options forest).output,
          { session with
            counts := (Render.renderForest session.options forest).counts })
        { world with
          records := world.records ++ debugRecords world
            ((Render.renderForest session.options forest).drops.map
                (Drop.message world.machine.halves) ++
              [summaryMessage (Render.renderForest session.options forest).output
                (Render.renderForest session.options forest).counts]) } := by
  rw [renderForest, Run.bind_ok (Run.get_eq world)]
  rw [Run.bind_ok (logDrops_run _ world _), Run.bind_ok (debug_run _ _),
    debugRecords_append]
  simp only [List.append_assoc]
  rfl

/-- Rendering one declaration returns its text, adds to the counts and leaves a
record for each drop. -/
theorem Session.renderDeclaration_run (session : Session)
    (declaration : Declaration) (world : World) :
    session.renderDeclaration declaration world =
      .ok ((Render.renderDeclaration session.options declaration).output,
          { session with
            counts := session.counts +
              (Render.renderDeclaration session.options declaration).counts })
        { world with
          records := world.records ++ debugRecords world
            ((Render.renderDeclaration session.options declaration).drops.map
              (Drop.message world.machine.halves)) } := by
  rw [renderDeclaration, Run.bind_ok (Run.get_eq world),
    Run.bind_ok (logDrops_run _ world _)]
  rfl

end Render

end SwiftInterface
