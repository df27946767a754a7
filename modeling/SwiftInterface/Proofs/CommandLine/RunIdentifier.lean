import SwiftInterface.CommandLine.Execution
import SwiftInterface.Proofs.World.Preservation

/-!
# The identifier of a run

Every run of a command gets a fresh identifier for its log lines.  Nothing that a
run does depends on it: with another identifier the run has the same result and
leaves the same world, but for the identifier.
-/

namespace SwiftInterface

/-- The world of a run with another identifier. -/
def World.identified (runId : String) (world : World) : World :=
  { world with context := world.context.startRun none runId }

section Identified

variable (runId : String) (world : World)

@[simp]
theorem World.files_identified : (world.identified runId).files = world.files :=
  rfl

@[simp]
theorem World.here_identified : (world.identified runId).here = world.here :=
  rfl

@[simp]
theorem World.machine_identified :
    (world.identified runId).machine = world.machine :=
  rfl

@[simp]
theorem World.refusesRemoval_identified :
    (world.identified runId).refusesRemoval = world.refusesRemoval :=
  rfl

@[simp]
theorem World.threshold_identified :
    (world.identified runId).threshold = world.threshold :=
  rfl

end Identified

namespace Run

variable {α β : Type}

/-- The outcome of a run with another identifier. -/
def identified (runId : String) :
    EStateM.Result Failure World α → EStateM.Result Failure World α
  | .ok value world => .ok value (world.identified runId)
  | .error failure world => .error failure (world.identified runId)

/-- The identifier shows in the outcome as the identifier only. -/
def Anonymous (run : Run α) : Prop :=
  ∀ runId world, run (world.identified runId) = identified runId (run world)

theorem Anonymous.pure (value : α) : Anonymous (Pure.pure value) :=
  fun _ _ => rfl

theorem Anonymous.fail (failure : Failure) :
    Anonymous (Run.fail failure : Run α) :=
  fun _ _ => rfl

theorem Anonymous.bind {run : Run α} {next : α → Run β}
    (anonymous : Anonymous run) (anonymousOn : ∀ value, Anonymous (next value)) :
    Anonymous (run >>= next) := by
  intro runId world
  have ran := anonymous runId world
  cases outcome : run world with
  | ok value middle =>
      rw [outcome] at ran
      rw [bind_ok ran, bind_ok outcome]
      exact anonymousOn value runId middle
  | error failure middle =>
      rw [outcome] at ran
      rw [bind_eq_error.mpr (.inl ran), bind_eq_error.mpr (.inl outcome)]
      rfl

/-- A run may look at the world, as long as it does not look at the identifier. -/
theorem Anonymous.get_bind {next : World → Run α}
    (blind : ∀ runId world, next (world.identified runId) = next world)
    (anonymous : ∀ world, Anonymous (next world)) :
    Anonymous (get >>= next) := by
  intro runId world
  rw [bind_ok (get_eq world), bind_ok (get_eq (world.identified runId)), blind]
  exact anonymous world runId world

theorem log_identified (runId : String) (world : World) (level : Log.Level)
    (source : Log.Source) (message : String) (failure : Option Failure) :
    (world.identified runId).log level source message failure =
      (world.log level source message failure).identified runId := by
  rw [World.log, World.log, World.threshold_identified]
  split
  · rfl
  · rfl

theorem Anonymous.log (level : Log.Level) (source : Log.Source)
    (message : String) : Anonymous (Run.log level source message) := by
  intro runId world
  exact congrArg (EStateM.Result.ok ())
    (log_identified runId world level source message none)

theorem Anonymous.within {enter : Log.Context → Log.Context × Log.Scope}
    (entering : ∀ runId context, enter (context.startRun none runId) =
      ((enter context).1.startRun none runId, (enter context).2))
    {body : Run α} (anonymous : Anonymous body) :
    Anonymous (Run.within enter body) := by
  intro runId world
  have leaving (after : World) (scope : Log.Scope) :
      (after.identified runId).context.leave scope =
        (after.context.leave scope).startRun none runId := by
    cases scope with
    | phase outer => rfl
    | module outer => rfl
  have ran := anonymous runId { world with context := (enter world.context).1 }
  have entered : ({ world with context := (enter world.context).1 } :
      World).identified runId =
        { world.identified runId with
          context := (enter (world.identified runId).context).1 } := by
    simp only [World.identified, entering]
  have sameScope : (enter (world.identified runId).context).2 =
      (enter world.context).2 := by
    simp only [World.identified, entering]
  rw [entered] at ran
  cases outcome : body { world with context := (enter world.context).1 } with
  | ok value after =>
      rw [outcome] at ran
      rw [within_of_ok ran, within_of_ok outcome, leaving, sameScope]
      rfl
  | error failure after =>
      rw [outcome] at ran
      rw [within_of_error ran, within_of_error outcome, leaving, sameScope]
      rfl

theorem Anonymous.inPhase (phase : String) {body : Run α}
    (anonymous : Anonymous body) : Anonymous (Run.inPhase phase body) :=
  anonymous.within fun _ _ => rfl

theorem Anonymous.inModule (name : String) {body : Run α}
    (anonymous : Anonymous body) : Anonymous (Run.inModule name body) :=
  anonymous.within fun _ _ => rfl

theorem Anonymous.start (call : Tool.Call) : Anonymous (Run.start call) := by
  intro runId world
  rw [start_eq, start_eq]
  rfl

end Run

open Run

/-! ## Producing declarations -/

namespace Dump

theorem logNotes_anonymous (notes : List Note) : Anonymous (logNotes notes) := by
  induction notes with
  | nil => exact .pure ()
  | cons note notes ih =>
      refine Anonymous.bind ?_ fun _ => ih
      cases note with
      | skippedFile path => exact .log _ _ _
      | loadedFile path => exact .log _ _ _
      | skippedEntry typeName => exact .log _ _ _

theorem forestOf_anonymous (payload : Json) : Anonymous (forestOf payload) := by
  rw [forestOf]
  split
  · exact .fail _
  · exact (logNotes_anonymous _).bind fun _ => .pure _

theorem forestWithin_anonymous (payload : Json) :
    Anonymous (forestWithin payload) := by
  refine Anonymous.get_bind (fun _ _ => rfl) fun world => ?_
  split
  · exact forestOf_anonymous payload
  · exact (logNotes_anonymous _).bind fun _ => .fail _

theorem decode_anonymous (text : String) (describe : String → ProducerFailure) :
    Anonymous (decode text describe) := by
  refine Anonymous.get_bind (fun _ _ => rfl) fun world => ?_
  split
  · exact .pure _
  · exact .fail _
  · exact .fail _
  · exact .fail _

theorem readText_anonymous (path : String) : Anonymous (readText path) := by
  refine Anonymous.get_bind (fun _ _ => rfl) fun world => ?_
  split
  · exact .fail _
  · exact .fail _
  · exact .fail _
  · split
    · exact .fail _
    · exact .pure _

theorem load_anonymous (path : String) : Anonymous (load path) := by
  refine (readText_anonymous _).bind fun text => ?_
  refine (decode_anonymous text _).bind fun payload => ?_
  refine (forestWithin_anonymous payload).bind fun forest => ?_
  exact (Anonymous.log _ _ _).bind fun _ => .pure forest

end Dump

namespace Tool

theorem Indexer.folderPath_anonymous (folder : Option Files.Folder) :
    Anonymous (folderPath folder) := by
  cases folder with
  | none => exact .pure none
  | some folder =>
      cases folder with
      | nameless => exact .fail _
      | named path =>
          apply Anonymous.get_bind
          · intro runId world
            simp only [World.files_identified, World.here_identified]
            rfl
          · intro world
            split
            · exact .pure _
            · exact .fail _

theorem Indexer.document_anonymous (indexer : Indexer) (subject : Subject) :
    Anonymous (indexer.document subject) := by
  refine (folderPath_anonymous _).bind fun folder => ?_
  refine (Anonymous.log _ _ _).bind fun _ => ?_
  refine (Anonymous.start _).bind fun outcome => ?_
  have ended : Anonymous (indexer.outputOf subject outcome) := by
    cases outcome with
    | finished output => exact .pure output
    | exited status errorOutput => exact .fail _
    | missing => exact .fail _
    | timedOut => exact .fail _
    | denied => exact .fail _
    | troubled trouble => exact .fail _
  refine ended.bind fun output => ?_
  refine (Dump.decode_anonymous output _).bind fun payload => ?_
  refine (Dump.forestWithin_anonymous payload).bind fun forest => ?_
  split
  · exact .fail _
  · exact (Anonymous.log _ _ _).bind fun _ => .pure forest

theorem SourceFormatter.handOver_anonymous (text : String) (outcome : Outcome) :
    Anonymous (handOver text outcome) := by
  refine Anonymous.get_bind (fun _ _ => rfl) fun world => ?_
  split
  · exact .pure ()
  · split
    · exact .fail _
    · exact .pure ()

theorem Formatter.format_anonymous (formatter : Formatter) (text : String) :
    Anonymous (formatter.format text) := by
  cases formatter with
  | identity => exact .pure text
  | program formatter =>
      refine (Anonymous.log _ _ _).bind fun _ => ?_
      refine (Anonymous.start _).bind fun outcome => ?_
      refine (SourceFormatter.handOver_anonymous text _).bind fun _ => ?_
      cases outcome with
      | finished output => exact .pure output
      | exited status errorOutput => exact .fail _
      | missing => exact .fail _
      | timedOut => exact .fail _
      | denied => exact .fail _
      | troubled trouble => exact .fail _

end Tool

/-! ## The store -/

namespace Store

theorem folderPath_anonymous (folder : Files.Folder) :
    Anonymous (folderPath folder) := by
  cases folder with
  | named path => exact .pure path
  | nameless => exact .fail _

theorem createFolder_anonymous (folder : String) :
    Anonymous (createFolder folder) := by
  intro runId world
  rw [createFolder]
  split
  · rfl
  · rw [bind_ok (get_eq world), bind_ok (get_eq (world.identified runId))]
    rw [World.files_identified, World.here_identified,
      World.machine_identified]
    cases world.files.createFolder world.machine.reach.folders world.here
        folder with
    | mk result files =>
        cases result with
        | ok => rfl
        | error error => rfl

theorem openFile_anonymous (path : String) : Anonymous (openFile path) := by
  intro runId world
  rw [openFile, bind_ok (get_eq world), bind_ok (get_eq (world.identified runId)),
    World.files_identified, World.here_identified]
  cases world.files.writeTarget world.here path with
  | error refusal => rfl
  | ok location => rfl

theorem encode_anonymous (contents : String) : Anonymous (encode contents) := by
  refine Anonymous.get_bind (fun _ _ => rfl) fun world => ?_
  split
  · exact .pure _
  · exact .fail _

theorem fill_anonymous (path : String) (location : Files.Location)
    (content : ByteArray) : Anonymous (fill path location content) := by
  intro runId world
  rw [fill, bind_ok (get_eq world), bind_ok (get_eq (world.identified runId)),
    World.files_identified, World.machine_identified]
  cases world.machine.shortfall with
  | none => rfl
  | some shortfall => rfl

theorem write_anonymous (folder moduleName contents : String) :
    Anonymous (write folder moduleName contents) := by
  refine (createFolder_anonymous folder).bind fun _ => ?_
  refine (openFile_anonymous _).bind fun location => ?_
  refine (encode_anonymous contents).bind fun content => ?_
  refine (fill_anonymous _ location content).bind fun _ => ?_
  exact (Anonymous.log _ _ _).bind fun _ => .pure _

theorem remove_anonymous (folder moduleName : String) :
    Anonymous (remove folder moduleName) := by
  have notFound : Anonymous (remove.notFound folder moduleName) :=
    (Anonymous.log _ _ _).bind fun _ => .pure false
  intro runId world
  rw [remove, bind_ok (get_eq world), bind_ok (get_eq (world.identified runId)),
    World.files_identified, World.here_identified,
    World.refusesRemoval_identified]
  cases world.files.locate world.here (interfacePath folder moduleName) with
  | error refusal => exact notFound runId world
  | ok location =>
      dsimp only
      cases world.files.get? location with
      | none => exact notFound runId world
      | some entry =>
          cases entry with
          | folder => exact notFound runId world
          | file content =>
              refine ((Anonymous.log _ _ _).bind fun _ => ?_) runId world
              split
              · exact .fail _
              · exact Anonymous.bind (fun _ _ => rfl) fun _ => .pure true

end Store

/-! ## Generating -/

theorem Interface.compose_anonymous (blocks : List String) (moduleName : String)
    (formatter : Tool.Formatter) :
    Anonymous (Interface.compose blocks moduleName formatter) := by
  have assembled : Anonymous (Interface.assembleLogged blocks moduleName) := by
    rw [Interface.assembleLogged]
    split
    · exact (Anonymous.log _ _ _).bind fun _ => .pure _
    · exact .pure _
  refine assembled.bind fun text => ?_
  refine (Anonymous.log _ _ _).bind fun _ => ?_
  exact formatter.format_anonymous text

theorem Render.logDrops_anonymous (halves : Text.Halves)
    (drops : List Render.Drop) : Anonymous (Render.logDrops halves drops) := by
  induction drops with
  | nil => exact .pure ()
  | cons drop drops ih => exact (Anonymous.log _ _ _).bind fun _ => ih

namespace Generation

theorem requireRoom_anonymous (generation : Generation) (forest : Forest) :
    Anonymous (generation.requireRoom forest) := by
  refine Anonymous.get_bind (fun _ _ => rfl) fun world => ?_
  dsimp only
  split
  · exact .pure ()
  · exact (Render.logDrops_anonymous _ _).bind fun _ => .fail _

theorem renderBlocks_anonymous (generation : Generation) (forest : Forest) :
    Anonymous (generation.renderBlocks forest) := by
  refine (requireRoom_anonymous generation forest).bind fun _ => ?_
  refine Anonymous.bind ?_ fun _ => (Anonymous.log _ _ _).bind fun _ => .pure _
  refine Anonymous.get_bind (fun _ _ => rfl) fun world => ?_
  refine (Render.logDrops_anonymous _ _).bind fun _ => ?_
  exact (Anonymous.log _ _ _).bind fun _ => .pure _

theorem produceForest_anonymous (generation : Generation)
    (indexer : Tool.Indexer) : Anonymous (generation.produceForest indexer) := by
  have obtained : Anonymous (generation.obtainForest indexer) := by
    rw [obtainForest]
    split
    · exact Dump.load_anonymous _
    · apply Anonymous.get_bind
      · intro runId world
        rfl
      · intro world
        exact indexer.document_anonymous _
  refine obtained.bind fun forest => ?_
  split
  · exact .fail _
  · exact .pure forest

theorem removeOld_anonymous (generation : Generation) :
    Anonymous generation.removeOld := by
  rw [removeOld]
  split
  · apply Anonymous.inPhase
    refine (Store.folderPath_anonymous _).bind fun folder => ?_
    exact (Store.remove_anonymous folder _).bind fun _ => .pure ()
  · exact .pure ()

theorem run_anonymous (generation : Generation) (indexer : Tool.Indexer)
    (formatter : Tool.Formatter) :
    Anonymous (generation.run indexer formatter) := by
  refine generation.removeOld_anonymous.bind fun _ => ?_
  refine ((generation.produceForest_anonymous indexer).inPhase _).bind
    fun forest => ?_
  refine ((generation.renderBlocks_anonymous forest).inPhase _).bind
    fun rendered => ?_
  refine ((Interface.compose_anonymous _ _ formatter).inPhase _).bind
    fun contents => ?_
  refine Anonymous.bind ?_ fun path => .pure _
  apply Anonymous.inPhase
  refine (Store.folderPath_anonymous _).bind fun folder => ?_
  exact Store.write_anonymous folder _ contents

end Generation

/-! ## Commands -/

theorem AccessLevel.choose_anonymous (name : Json) :
    Anonymous (AccessLevel.choose name) := by
  rw [AccessLevel.choose]
  split
  · exact .pure _
  · refine Anonymous.get_bind (fun _ _ => rfl) fun world => ?_
    exact (Anonymous.log _ _ _).bind fun _ => .pure _

namespace Settings

theorem readContent_identified (runId : String) (world : World)
    (path : String) :
    readContent (world.identified runId) path = readContent world path := by
  rw [readContent, readContent, readBytes, readBytes, World.files_identified,
    World.here_identified, World.machine_identified]

theorem readEntries_anonymous (path : String) : Anonymous (readEntries path) := by
  apply Anonymous.get_bind
  · intro runId world
    simp only [readContent_identified]
  · intro world
    split
    · exact .fail _
    · exact (Anonymous.log _ _ _).bind fun _ => .pure _
    · split
      · exact .pure _
      · exact .fail _

theorem load_anonymous (path : Option String) (defaults : Settings) :
    Anonymous (load path defaults) := by
  rw [load.eq_def]
  split
  · exact .pure defaults
  · exact .pure defaults
  · refine (readEntries_anonymous _).bind fun entries => ?_
    dsimp only
    split
    · exact .fail _
    · exact (Anonymous.log _ _ _).bind fun _ => .pure _

end Settings

namespace CommandLine

theorem runGenerate_anonymous (defaults : Settings)
    (arguments : GenerateArguments) :
    Anonymous (runGenerate defaults arguments) := by
  refine (Settings.load_anonymous _ _).bind fun settings => ?_
  have built : Anonymous (generationOf arguments settings) :=
    (AccessLevel.choose_anonymous _).bind fun _ => .pure _
  refine built.bind fun generation => ?_
  refine (Anonymous.log _ _ _).bind fun _ => ?_
  refine ((generation.run_anonymous _ _).inModule _).bind fun result => ?_
  exact .log _ _ _

theorem runClean_anonymous (defaults : Settings) (arguments : CleanArguments) :
    Anonymous (runClean defaults arguments) := by
  refine (Settings.load_anonymous _ _).bind fun settings => ?_
  apply Anonymous.inModule
  refine (Store.folderPath_anonymous _).bind fun path => ?_
  exact (Store.remove_anonymous path _).bind fun _ => .pure ()

theorem finish_identified {body : Run Unit} (anonymous : Anonymous body)
    (name runId : String) (world : World) :
    finish name body (world.identified runId) =
      ((finish name body world).1,
        (finish name body world).2.identified runId) := by
  have ran := anonymous runId world
  rw [finish, finish, ran]
  cases body world with
  | ok value after => rfl
  | error failure after =>
      simp only [Run.identified, reportFailure, log_identified]
      split
      · rfl
      · rfl

theorem runCommand_identified (defaults : Settings) (command : Command)
    (runId : String) (world : World) :
    runCommand defaults command (world.identified runId) =
      ((runCommand defaults command world).1,
        (runCommand defaults command world).2.identified runId) := by
  cases command with
  | nothing => rfl
  | version => rfl
  | generate arguments =>
      exact finish_identified (runGenerate_anonymous defaults arguments) _ _ _
  | clean arguments =>
      exact finish_identified (runClean_anonymous defaults arguments) _ _ _

/-- What can be seen of an execution: its output, the records of the log, the
calls of programs and the files. -/
structure Seen where
  output : Output
  records : List Log.Record
  calls : List Tool.Call
  files : Files.Tree

/-- What can be seen of an execution that ended. -/
def seen (ended : Output × World) : Seen where
  output := ended.1
  records := ended.2.records
  calls := ended.2.calls
  files := ended.2.files

/-- The identifier of an execution cannot be seen. -/
theorem seen_execute_congr (defaults : Settings) (runId other : String)
    (arguments : List String) (world : World) :
    seen (execute defaults other arguments world) =
      seen (execute defaults runId arguments world) := by
  rw [execute, execute]
  cases readInvocation arguments with
  | error answer =>
      cases answer with
      | help text => rfl
      | usage text => rfl
  | ok invocation =>
      have commanded := runCommand_identified defaults invocation.command other
        (startWorld invocation.verbose runId world)
      have started : (startWorld invocation.verbose runId world).identified other =
          startWorld invocation.verbose other world := rfl
      rw [started] at commanded
      exact (congrArg seen commanded).trans rfl

end CommandLine

end SwiftInterface
