import SwiftInterface.Proofs.CommandLine.ErrorReport
import SwiftInterface.Proofs.World.LogContext

/-!
# Phases in the log of a generation

The records of a generating command line fall into three parts.  Those before
and after the generation itself, the report of its end among them, carry the
context in which the program was started.  Those of the generation stand
together between them; they carry the module that is worked on, and their
phases come in the order in which the phases are run.  Every scope is left in
the end, on each of the ways on which a generation can fail, so the context is
then what it was before.

The order is an invariant of a generation as far as it has come: the records so
far belong to phases up to the last one that was entered.
-/

namespace SwiftInterface

open Run

namespace Generation

/-- The phases of a generation in their order. -/
def phases : List String :=
  ["clean", "produce", "render", "format", "write"]

/-- The phases of the records follow the order of phases. -/
def InPhaseOrder (records : List Log.Record) : Prop :=
  records.Pairwise fun earlier later =>
    phases.idxOf earlier.phase ≤ phases.idxOf later.phase

/-- The records belong to a module and to phases up to a place in the order,
which they follow. -/
structure ThroughPhases (moduleName : String) (last : Nat)
    (records : List Log.Record) : Prop where
  sameModule : ∀ record ∈ records, record.moduleName = moduleName
  reached : ∀ record ∈ records, phases.idxOf record.phase ≤ last
  ordered : InPhaseOrder records

variable {moduleName : String} {last : Nat}

theorem ThroughPhases.nil : ThroughPhases moduleName last [] :=
  ⟨by simp, by simp, .nil⟩

theorem ThroughPhases.mono {later : Nat} {records : List Log.Record}
    (through : ThroughPhases moduleName last records) (onward : last ≤ later) :
    ThroughPhases moduleName later records where
  sameModule := through.sameModule
  reached record member := Nat.le_trans (through.reached record member) onward
  ordered := through.ordered

/-- The records of one more phase can follow if it does not come before those
that were reached. -/
theorem ThroughPhases.append {context : Log.Context}
    {first second : List Log.Record}
    (through : ThroughPhases context.moduleName last first)
    (carried : Log.CarriedBy context second)
    (onward : last ≤ phases.idxOf context.phase) :
    ThroughPhases context.moduleName (phases.idxOf context.phase)
      (first ++ second) := by
  have later := through.mono onward
  refine ⟨?_, ?_, List.pairwise_append.mpr ⟨through.ordered, ?_, ?_⟩⟩
  · intro record member
    rcases List.mem_append.mp member with early | late
    · exact through.sameModule record early
    · exact (carried record late).2
  · intro record member
    rcases List.mem_append.mp member with early | late
    · exact later.reached record early
    · rw [(carried record late).1]
  · refine List.pairwise_of_forall_mem_list fun one oneMem other otherMem => ?_
    rw [(carried one oneMem).1, (carried other otherMem).1]
  · intro one oneMem other otherMem
    rw [(carried other otherMem).1]
    exact later.reached one oneMem

/-- Since the generation was started in a world, its records go through the
phases up to a place in the order. -/
abbrev ReachedPhase (before : World) (last : Nat) (world : World) : Prop :=
  LogsSince (ThroughPhases before.context.moduleName last) before world

theorem ReachedPhase.mono {before world : World} {later : Nat}
    (reached : ReachedPhase before last world) (onward : last ≤ later) :
    ReachedPhase before later world :=
  LogsSince.mono reached fun _ through => through.mono onward

/-- One more phase keeps the order, whether it succeeds or fails. -/
theorem ReachedPhase.inPhase {α : Type} {before world : World} {body : Run α}
    (reached : ReachedPhase before last world)
    (steady : ∀ start, Keeps (Steady start) body) (phase : String)
    (onward : last ≤ phases.idxOf phase) :
    ReachedPhase before (phases.idxOf phase)
      ((Run.inPhase phase body).after world) := by
  have logs := inPhase_logsSince steady phase world
  rw [reached.context] at logs
  apply LogsSince.trans reached logs
  intro first second through carried
  have sameModule : ThroughPhases
      ({ before.context with phase } : Log.Context).moduleName last first :=
    through
  exact sameModule.append carried onward

theorem removeOld_reachedPhase (generation : Generation) (world : World) :
    ReachedPhase world 0 (generation.removeOld.after world) := by
  have start : ReachedPhase world 0 world := LogsSince.refl world .nil
  rw [removeOld]
  split
  · refine start.inPhase (fun before => ?_) "clean" (Nat.zero_le _)
    exact Store.removeFrom_fileBlind (fileBlind_steady before) _ _
  · exact start

theorem writeOut_steady (generation : Generation) (contents : String)
    (before : World) :
    Keeps (Steady before) (do
      let folder ← Store.folderPath generation.outputFolder
      Store.write folder generation.targetModule contents) := by
  refine (Store.folderPath_keeps _).bind fun folder => ?_
  exact Store.write_fileBlind (fileBlind_steady before) folder _ contents

/-- A generation goes through its phases in order as far as it comes. -/
theorem run_reachedPhase (generation : Generation) (indexer : Tool.Indexer)
    (formatter : Tool.Formatter) (world : World) :
    ReachedPhase world 4 ((generation.run indexer formatter).after world) := by
  have blind := fileBlind_steady
  rw [run]
  refine after_bind (generation.removeOld_reachedPhase world)
    (fun _ reached => reached.mono (by decide)) fun _ cleaned _ reached => ?_
  have produced := reached.inPhase
    (fun start => produceForest_keeps (blind start).toStepBlind generation
      indexer) "produce" (by decide)
  refine after_bind produced (fun _ reached => reached.mono (by decide))
    fun forest _ _ reached => ?_
  have rendered := reached.inPhase
    (fun start => renderBlocks_keeps (blind start).log generation forest)
    "render" (by decide)
  refine after_bind rendered (fun _ reached => reached.mono (by decide))
    fun rendering _ _ reached => ?_
  obtain ⟨blocks, counts⟩ := rendering
  have formatted := reached.inPhase
    (fun start => Interface.compose_keeps (blind start).toStepBlind blocks
      generation.targetModule formatter) "format" (by decide)
  refine after_bind formatted (fun _ reached => reached.mono (by decide))
    fun contents _ _ reached => ?_
  have written := reached.inPhase
    (fun start => generation.writeOut_steady contents start) "write" (by decide)
  exact after_bind written (fun _ reached => reached) fun _ _ _ reached => reached

end Generation

namespace CommandLine

open Generation

/-! ## The command -/

/-- The generating command up to the report of its end. -/
def generate (defaults : Settings) (arguments : GenerateArguments) :
    Run Generation.Result := do
  let settings ← Settings.load arguments.config defaults
  let generation ← generationOf arguments settings
  Run.info .commandLine "Generating Module Interface..."
  Run.inModule generation.targetModule
    (generation.run (indexerOf settings) (formatterOf arguments settings))

/-- The message about a generation that succeeded. -/
def doneMessage (result : Generation.Result) : String :=
  "Done: " ++ result.outputPath ++ " (" ++ toString result.blockCount ++
    " top-level declarations)"

theorem exists_doneMessage (result : Generation.Result) :
    ∃ text, doneMessage result = "Done: " ++ text := by
  refine ⟨result.outputPath ++ (" (" ++ (toString result.blockCount ++
    " top-level declarations)")), ?_⟩
  simp only [doneMessage, String.append_assoc]

theorem runGenerate_eq (defaults : Settings) (arguments : GenerateArguments) :
    runGenerate defaults arguments =
      generate defaults arguments >>= fun result =>
        Run.info .commandLine (doneMessage result) := by
  simp only [runGenerate, generate, bind_assoc]
  rfl

/-- A module as the log shows it. -/
def shownModule (moduleName : String) : String :=
  if moduleName = "" then Log.unset else moduleName

/-- Records that carry a context, followed by those of a generation. -/
def Framed (outer : Log.Context) (target : String)
    (records : List Log.Record) : Prop :=
  ∃ front segment, records = front ++ segment ∧ Log.CarriedBy outer front ∧
    ThroughPhases (shownModule target) 4 segment

theorem framed_of_carriedBy {outer : Log.Context} {target : String}
    {records : List Log.Record} (carried : Log.CarriedBy outer records) :
    Framed outer target records :=
  ⟨records, [], (List.append_nil _).symm, carried, .nil⟩

theorem generate_framed (defaults : Settings) (arguments : GenerateArguments)
    (world : World) :
    LogsSince (Framed world.context (targetOf arguments)) world
      ((generate defaults arguments).after world) := by
  have blind := (fileBlind_steady world).log
  have weaken (after : World) (steady : Steady world after) :
      LogsSince (Framed world.context (targetOf arguments)) world after :=
    LogsSince.mono steady fun _ => framed_of_carriedBy
  rw [generate]
  refine after_bind (Settings.load_keeps blind _ _ world (.refl world)) weaken
    fun settings loaded _ steady => ?_
  refine after_bind (generationOf_keeps blind _ _ loaded steady) weaken
    fun generation built build steady => ?_
  refine after_bind (Keeps.info blind _ _ built steady) weaken
    fun _ announced _ steady => ?_
  have entered := generation.run_reachedPhase (indexerOf settings)
    (formatterOf arguments settings)
    { announced with
      context := (announced.context.enterModule generation.targetModule).1 }
  have generated :=
    LogsSince.within (restores_enterModule generation.targetModule) entered
  rw [targetModule_of_generationOf build] at generated ⊢
  apply LogsSince.trans steady generated
  intro front segment carried through
  exact ⟨front, segment, rfl, carried, through⟩

/-! ## The report of the end -/

/-- The last record tells that the command succeeded or that it failed. -/
inductive Ends : Output → Log.Record → Prop
  | done {output : Output} {record : Log.Record} (succeeded : output.status = 0)
      (level : record.level = .info) (text : String)
      (message : record.message = "Done: " ++ text) : Ends output record
  | failed {output : Output} {record : Log.Record} (failed : output.status = 1)
      (level : record.level = .error) : Ends output record

theorem reportFailure_eq_log (name : String) (failure : Failure)
    (world : World) :
    ∃ message origin, reportFailure name failure world =
      world.log .error .commandLine message origin := by
  rw [reportFailure]
  split
  · exact ⟨_, _, rfl⟩
  · exact ⟨_, _, rfl⟩

/-- The report adds one record, which carries the context. -/
theorem finish_runGenerate (name : String) (defaults : Settings)
    (arguments : GenerateArguments) (world : World)
    (listens : world.threshold ≤ .info) :
    let ended := finish name (runGenerate defaults arguments) world
    ended.2.context = world.context ∧
      ∃ framed final, ended.2.records = world.records ++ framed ++ [final] ∧
        Framed world.context (targetOf arguments) framed ∧
          Log.CarriedBy world.context [final] ∧ Ends ended.1 final := by
  have logs := generate_framed defaults arguments world
  have carried (after : World) (same : after.context = world.context)
      (level : Log.Level) (message : String) (failure : Option Failure) :
      Log.CarriedBy world.context
        [after.recordOf level .commandLine message failure] :=
    same ▸ after.carriedBy_recordOf level .commandLine message failure
  rw [finish, runGenerate_eq]
  cases outcome : generate defaults arguments world with
  | ok result after =>
      rw [after_of_ok outcome] at logs
      obtain ⟨framed, recordsEq, frame⟩ := logs.records
      rw [bind_ok outcome, info_eq]
      refine ⟨(World.context_log _ _ _ _ _).trans logs.context, framed,
        after.recordOf .info .commandLine (doneMessage result) none, ?_, frame,
        carried after logs.context _ _ _, ?_⟩
      · rw [World.records_log (logs.threshold ▸ listens), recordsEq]
      · obtain ⟨text, message⟩ := exists_doneMessage result
        exact .done rfl rfl text message
  | error failure after =>
      rw [after_of_error outcome] at logs
      obtain ⟨framed, recordsEq, frame⟩ := logs.records
      rw [bind_eq_error.mpr (.inl outcome)]
      obtain ⟨message, origin, report⟩ := reportFailure_eq_log name failure after
      have listensToErrors : after.threshold ≤ .error := by
        rw [logs.threshold]
        exact Nat.le_trans listens (by decide)
      dsimp only
      rw [report]
      refine ⟨(World.context_log _ _ _ _ _).trans logs.context, framed,
        after.recordOf .error .commandLine message origin, ?_, frame,
        carried after logs.context _ _ _, .failed rfl rfl⟩
      rw [World.records_log listensToErrors, recordsEq]

/-! ## Command lines -/

/-- The records of a generation in the log of a command line. -/
structure ShowsPhases (outer : Log.Context) (target : String)
    (front segment : List Log.Record) (final : Log.Record) : Prop where
  /-- What is written before and after the generation carries the outer
  context. -/
  outside : Log.CarriedBy outer (front ++ [final])
  /-- What the generation writes carries one of its phases and the module. -/
  inside : ∀ record ∈ segment,
    record.phase ∈ phases ∧ record.moduleName = shownModule target
  ordered : InPhaseOrder segment
  /-- If no phase was set before, the records with a phase are just those of
  the generation. -/
  contiguous : outer.phase = Log.unset →
    (front ++ segment ++ [final]).filter
      (fun record => record.phase ≠ Log.unset) = segment

theorem unset_not_mem_phases : Log.unset ∉ phases := by
  decide

theorem showsPhases_of_framed {outer : Log.Context} {target : String}
    {front segment : List Log.Record} {final : Log.Record}
    (before : Log.CarriedBy outer front)
    (through : ThroughPhases (shownModule target) 4 segment)
    (after : Log.CarriedBy outer [final]) :
    ShowsPhases outer target front segment final := by
  have inPhases : ∀ record ∈ segment, record.phase ∈ phases := by
    intro record member
    have reached := through.reached record member
    apply List.idxOf_lt_length_iff.mp
    have length : phases.length = 5 := rfl
    omega
  refine ⟨before.append after, fun record member => ⟨inPhases record member,
    through.sameModule record member⟩, through.ordered, fun unset => ?_⟩
  have allInside : segment.filter (fun record => record.phase ≠ Log.unset) =
      segment := by
    rw [List.filter_eq_self]
    intro record member
    have different : record.phase ≠ Log.unset := fun same =>
      unset_not_mem_phases (same ▸ inPhases record member)
    simpa using different
  rw [List.filter_append, List.filter_append, before.filter_phase unset,
    allInside, after.filter_phase unset]
  simp

/-- A command line that generates an interface leaves the phase and the module of
the log as they were, and its records are those before the generation, those of
the generation through its phases, and one that tells how it ended. -/
theorem execute_showsPhases {arguments : List String} {verbose : Bool}
    {asked : GenerateArguments}
    (read : readInvocation arguments = .ok ⟨verbose, .generate asked⟩)
    (defaults : Settings) (runId : String) (world : World) :
    let ended := execute defaults runId arguments world
    ended.2.context.phase = world.context.phase ∧
      ended.2.context.moduleName = world.context.moduleName ∧
        ∃ front segment final,
          ended.2.records = world.records ++ (front ++ segment ++ [final]) ∧
            ShowsPhases world.context (targetOf asked) front segment final ∧
              Ends ended.1 final := by
  obtain ⟨context, framed, final, recordsEq, frame, after, ends⟩ :=
    finish_runGenerate (Command.generate asked).name defaults asked
      (startWorld verbose runId world) (threshold_startWorld verbose runId world)
  obtain ⟨front, segment, rfl, before, through⟩ := frame
  have executed : execute defaults runId arguments world =
      finish (Command.generate asked).name (runGenerate defaults asked)
        (startWorld verbose runId world) := by
    rw [execute, read]
    rfl
  rw [executed]
  have samePhase := congrArg Log.Context.phase context
  have sameModule := congrArg Log.Context.moduleName context
  refine ⟨samePhase, sameModule, front, segment, final, ?_, ?_, ends⟩
  · rw [← List.append_assoc]
    exact recordsEq
  · exact showsPhases_of_framed before through after

/-- Before its first command line nothing is set in the log of a program. -/
theorem execute_showsPhases_first :
    readInvocation ["generate", "-c", "--module-name", "Main"] =
        .ok ⟨false, .generate { clean := true, moduleName := some "Main" }⟩ ∧
      let ended := execute {} "run"
        ["generate", "-c", "--module-name", "Main"] {}
      ended.2.context.phase = "-" ∧ ended.2.context.moduleName = "-" ∧
        ∃ front segment final,
          ended.2.records = front ++ segment ++ [final] ∧
            ShowsPhases {} "Main" front segment final ∧ Ends ended.1 final := by
  have read : readInvocation ["generate", "-c", "--module-name", "Main"] =
      .ok ⟨false, .generate { clean := true, moduleName := some "Main" }⟩ := by
    rfl
  exact ⟨read, execute_showsPhases read {} "run" {}⟩

end CommandLine

end SwiftInterface
