import SwiftInterface.Proofs.CommandLine.FilesTouched
import SwiftInterface.Proofs.Store.History
import SwiftInterface.Proofs.World.Failing

/-!
# The status and the error report of a command line

The status of a command line tells what became of it.  It is two just if the
arguments are rejected, and then nothing has happened.  It is one just if a step
of the command raised a failure; then the log has exactly one error, which comes
last, repeats the failure and shows its origin if the failure was not foreseen.
Otherwise it is zero, the log has no error, and a generation has left its
interface.

No step of a command writes an error to the log, wherever it fails, so the one
error is that of the report.
-/

namespace SwiftInterface

namespace Run

/-- From one world to the other, on the same machine, the log keeps its
threshold and gets no error. -/
structure QuietSince (before after : World) : Prop where
  machine : after.machine = before.machine
  threshold : after.threshold = before.threshold
  records : ∃ added, after.records = before.records ++ added ∧
    ∀ record ∈ added, record.level ≠ .error

theorem QuietSince.refl (world : World) : QuietSince world world :=
  ⟨rfl, rfl, [], (List.append_nil _).symm, by simp⟩

theorem toolBlind_quietSince (before : World) :
    ToolBlind (QuietSince before) where
  log.context _ _ quiet := ⟨quiet.machine, quiet.threshold, quiet.records⟩
  log.record world record noError quiet := by
    obtain ⟨added, recordsEq, noErrors⟩ := quiet.records
    refine ⟨quiet.machine, quiet.threshold, added ++ [record], ?_, ?_⟩
    · rw [recordsEq, List.append_assoc]
    · intro other otherMem
      rcases List.mem_append.mp otherMem with old | new
      · exact noErrors other old
      · rwa [List.mem_singleton.mp new]
  tool _ _ quiet := ⟨quiet.machine, quiet.threshold, quiet.records⟩

theorem fileBlind_quietSince (before : World) :
    FileBlind (QuietSince before) where
  toStepBlind := (toolBlind_quietSince before).stepBlind
  files _ _ quiet := ⟨quiet.machine, quiet.threshold, quiet.records⟩

end Run

open Run

namespace Generation

variable {before : World}

theorem removeOld_quiet (generation : Generation) :
    Keeps (QuietSince before) generation.removeOld := by
  have blind := (toolBlind_quietSince before).log
  rw [removeOld]
  split
  · exact .inPhase blind _
      (Store.removeFrom_fileBlind (fileBlind_quietSince before) _ _)
  · exact .pure ()

theorem writeOut_quiet (generation : Generation) (contents : String) :
    Keeps (QuietSince before) (generation.writeOut contents) := by
  have blind := (toolBlind_quietSince before).log
  refine .inPhase blind _ ?_
  refine (Store.folderPath_keeps _).bind fun folder => ?_
  exact Store.write_fileBlind (fileBlind_quietSince before) folder _ contents

theorem run_quiet (generation : Generation) (indexer : Tool.Indexer)
    (formatter : Tool.Formatter) :
    Keeps (QuietSince before) (generation.run indexer formatter) := by
  have blind := toolBlind_quietSince before
  rw [run_eq]
  refine Keeps.bind ?_ fun prepared => ?_
  · exact generation.removeOld_quiet.bind fun _ =>
      compose_keeps blind generation indexer formatter
  · exact (generation.writeOut_quiet _).bind fun _ => .pure _

/-- A generation that succeeds leaves a file where its interface belongs. -/
theorem isFile_of_run {generation : Generation} {indexer : Tool.Indexer}
    {formatter : Tool.Formatter} {result : Result} {world after : World}
    (succeeded : generation.run indexer formatter world = .ok result after) :
    ∃ folder, generation.outputFolder = .named folder ∧
      after.files.isFile world.here
        (Store.interfacePath folder generation.targetModule) = true := by
  rw [run_eq] at succeeded
  obtain ⟨prepared, middle, done, succeeded⟩ := bind_eq_ok.mp succeeded
  obtain ⟨path, last, wrote, returned⟩ := bind_eq_ok.mp succeeded
  obtain ⟨-, rfl⟩ := pure_eq_ok.mp returned
  have sameHere := (prepare_after generation indexer formatter world).2.1
  rw [after_of_ok done] at sameHere
  obtain ⟨folder, named, rfl, -, -, grown, location, -, target, files⟩ :=
    writeOut_eq_ok wrote
  rw [sameHere] at target
  refine ⟨folder, named, ?_⟩
  rw [files]
  exact Files.Tree.isFile_of_read (target.read_put _)

end Generation

namespace CommandLine

variable {defaults : Settings} {world : World} {failure : Failure}

/-! ## The steps of a command -/

theorem runGenerate_quiet {before : World} (defaults : Settings)
    (arguments : GenerateArguments) :
    Keeps (QuietSince before) (runGenerate defaults arguments) := by
  have blind := (toolBlind_quietSince before).log
  refine (Settings.load_keeps blind _ _).bind fun settings => ?_
  refine (generationOf_keeps blind _ _).bind fun generation => ?_
  refine (Keeps.info blind _ _).bind fun _ => ?_
  refine Keeps.bind ?_ fun result => .info blind _ _
  exact .inModule blind _ (generation.run_quiet _ _)

theorem runClean_quiet {before : World} (defaults : Settings)
    (arguments : CleanArguments) :
    Keeps (QuietSince before) (runClean defaults arguments) := by
  have blind := (toolBlind_quietSince before).log
  refine (Settings.load_keeps blind _ _).bind fun settings => ?_
  exact .inModule blind _
    (Store.removeFrom_fileBlind (fileBlind_quietSince before) _ _)

/-- The world in which a module is worked on. -/
def workingOn (moduleName : String) (world : World) : World :=
  { world with context := (world.context.enterModule moduleName).1 }

/-- The world in which a generation is run. -/
def generating (generation : Generation) (world : World) : World :=
  workingOn generation.targetModule
    (world.log .info .commandLine "Generating Module Interface..." none)

/-- A step of a command raises a failure: the loading of the settings, the
building of the options, the generation or the removal.  A step is taken in the
world that the steps before it have left. -/
inductive Raises (defaults : Settings) (world : World) :
    Command → Failure → Prop
  | loadingToGenerate {arguments : GenerateArguments} {failure : Failure}
      (failed : (Settings.load arguments.config defaults).Fails world failure) :
      Raises defaults world (.generate arguments) failure
  | options {arguments : GenerateArguments} {settings : Settings}
      {loaded : World} {failure : Failure}
      (load : Settings.load arguments.config defaults world =
        .ok settings loaded)
      (failed : (generationOf arguments settings).Fails loaded failure) :
      Raises defaults world (.generate arguments) failure
  | generation {arguments : GenerateArguments} {settings : Settings}
      {loaded built : World} {generation : Generation} {failure : Failure}
      (load : Settings.load arguments.config defaults world =
        .ok settings loaded)
      (build : generationOf arguments settings loaded = .ok generation built)
      (failed : (generation.run (indexerOf settings)
        (formatterOf arguments settings)).Fails (generating generation built)
          failure) :
      Raises defaults world (.generate arguments) failure
  | loadingToClean {arguments : CleanArguments} {failure : Failure}
      (failed : (Settings.load arguments.config defaults).Fails world failure) :
      Raises defaults world (.clean arguments) failure
  | removal {arguments : CleanArguments} {settings : Settings}
      {loaded : World} {failure : Failure}
      (load : Settings.load arguments.config defaults world =
        .ok settings loaded)
      (failed : (Store.removeFrom
        (arguments.outputFolder.getD (.named settings.outputFolder))
          arguments.moduleName).Fails (workingOn arguments.moduleName loaded)
            failure) :
      Raises defaults world (.clean arguments) failure

theorem runGenerate_fails_iff {arguments : GenerateArguments} :
    (runGenerate defaults arguments).Fails world failure ↔
      Raises defaults world (.generate arguments) failure := by
  constructor
  · intro failed
    rcases fails_bind.mp failed with failed | ⟨settings, loaded, load, failed⟩
    · exact .loadingToGenerate failed
    rcases fails_bind.mp failed with failed | ⟨generation, built, build, failed⟩
    · exact .options load failed
    rw [Run.info, fails_log_bind, fails_bind_of_not_fails
      fun _ _ => not_fails_of_ok (info_eq _ _ _)] at failed
    exact .generation load build (fails_within.mp failed)
  · intro raised
    cases raised with
    | loadingToGenerate failed => exact fails_bind.mpr (.inl failed)
    | options load failed =>
        rw [runGenerate, fails_bind_of_ok load]
        exact fails_bind.mpr (.inl failed)
    | generation load build failed =>
        rw [runGenerate, fails_bind_of_ok load, fails_bind_of_ok build,
          Run.info, fails_log_bind]
        exact fails_bind.mpr (.inl (fails_within.mpr failed))

theorem runClean_fails_iff {arguments : CleanArguments} :
    (runClean defaults arguments).Fails world failure ↔
      Raises defaults world (.clean arguments) failure := by
  constructor
  · intro failed
    rcases fails_bind.mp failed with failed | ⟨settings, loaded, load, failed⟩
    · exact .loadingToClean failed
    · exact .removal load (fails_within.mp failed)
  · intro raised
    cases raised with
    | loadingToClean failed => exact fails_bind.mpr (.inl failed)
    | removal load failed =>
        rw [runClean, fails_bind_of_ok load]
        exact fails_within.mpr failed

theorem generationOf_eq_ok {arguments : GenerateArguments}
    {settings : Settings} {generation : Generation} {after : World}
    (built : generationOf arguments settings world = .ok generation after) :
    generation.outputFolder =
        arguments.outputFolder.getD (.named settings.outputFolder) ∧
      generation.packageModule = arguments.packageModule ∧
        generation.moduleName = arguments.moduleName := by
  obtain ⟨level, middle, -, returned⟩ := bind_eq_ok.mp built
  obtain ⟨rfl, -⟩ := pure_eq_ok.mp returned
  exact ⟨rfl, rfl, rfl⟩

/-- The module whose interface the arguments ask for. -/
def targetOf (arguments : GenerateArguments) : String :=
  Generation.targetModule
    { packageModule := arguments.packageModule
      moduleName := arguments.moduleName }

theorem targetModule_of_generationOf {arguments : GenerateArguments}
    {settings : Settings} {generation : Generation} {after : World}
    (built : generationOf arguments settings world = .ok generation after) :
    generation.targetModule = targetOf arguments := by
  obtain ⟨-, samePackage, sameModule⟩ := generationOf_eq_ok built
  rw [targetOf, Generation.targetModule, samePackage, sameModule]
  rfl

/-- The interface that the arguments ask for exists after a run.  Its folder is
given by the arguments or by the settings that the run has loaded. -/
def LeavesInterface (defaults : Settings) (arguments : GenerateArguments)
    (before after : World) : Prop :=
  ∃ settings loaded folder,
    Settings.load arguments.config defaults before = .ok settings loaded ∧
      arguments.outputFolder.getD (.named settings.outputFolder) =
          .named folder ∧
        after.files.isFile before.here
          (Store.interfacePath folder (targetOf arguments)) = true

theorem leavesInterface_of_runGenerate {arguments : GenerateArguments}
    {after : World}
    (succeeded : runGenerate defaults arguments world = .ok () after) :
    LeavesInterface defaults arguments world after := by
  obtain ⟨settings, loaded, load, succeeded⟩ := bind_eq_ok.mp succeeded
  obtain ⟨generation, built, build, succeeded⟩ := bind_eq_ok.mp succeeded
  rw [bind_ok (info_eq _ _ built)] at succeeded
  obtain ⟨result, finished, generated, reported⟩ := bind_eq_ok.mp succeeded
  have sameStart : SameButLog world built :=
    ((Settings.load_keeps (logBlind_sameButLog world) _ _).sameButLog load).trans
      ((generationOf_keeps (logBlind_sameButLog loaded) _ _).sameButLog build)
  have sameEnd := (Keeps.info (logBlind_sameButLog finished) _ _).sameButLog
    reported
  have sameFolder := (generationOf_eq_ok build).1
  have target := targetModule_of_generationOf build
  have logged := sameButLog_log built .info .commandLine
    "Generating Module Interface..." none
  obtain ⟨entered, inner, entering, generated, leaving⟩ :=
    within_eq_ok generated
  obtain ⟨folder, named, isFile⟩ := Generation.isFile_of_run generated
  have sameHere := ((sameStart.trans logged).trans entering).here
  have sameFiles := (leaving.trans sameEnd).files
  refine ⟨settings, loaded, folder, load, sameFolder.symm.trans named, ?_⟩
  rw [sameFiles, ← target, ← sameHere]
  exact isFile

/-! ## The report -/

/-- A record reports that the command with a name has failed: it is an error
with the text of the failure, and the failure is attached to show its origin
unless it was foreseen. -/
structure ReportsFailure (halves : Text.Halves) (name : String)
    (failure : Failure) (record : Log.Record) : Prop where
  level : record.level = .error
  message : record.message =
    if failure.isForeseen then failure.message halves
    else name ++ " failed: " ++ failure.message halves
  origin : record.failure = if failure.isForeseen then none else some failure

/-- The log has grown by one error, which comes last and reports a failure. -/
def EndsWithReport (name : String) (failure : Failure)
    (before after : World) : Prop :=
  ∃ added record, after.records = before.records ++ added ++ [record] ∧
    (∀ other ∈ added, other.level ≠ .error) ∧
      ReportsFailure before.machine.halves name failure record

theorem reportFailure_records (name : String) (failure : Failure)
    (listens : world.threshold ≤ .error) :
    ∃ record, (reportFailure name failure world).records =
        world.records ++ [record] ∧
      ReportsFailure world.machine.halves name failure record := by
  rw [reportFailure]
  split
  case isTrue foreseen =>
      rw [World.log, if_pos listens]
      exact ⟨_, rfl, rfl, by simp [foreseen], by simp [foreseen]⟩
  case isFalse unforeseen =>
      rw [World.log, if_pos listens]
      exact ⟨_, rfl, rfl, by simp [unforeseen], by simp [unforeseen]⟩

/-- What the status of a command says about the steps of the command and about
the log. -/
structure CommandAccounted (defaults : Settings) (command : Command)
    (before : World) (output : Output) (after : World) : Prop where
  status : output.status = 0 ∨ output.status = 1
  failed : output.status = 1 ↔ ∃ failure, Raises defaults before command failure
  reported : ∀ failure, Raises defaults before command failure →
    EndsWithReport command.name failure before after
  quiet : output.status = 0 → QuietSince before after

theorem accounted_of_no_failure {command : Command} {output : Output}
    {after : World}
    (noFailure : ∀ failure, ¬ Raises defaults world command failure)
    (zero : output.status = 0) (kept : QuietSince world after) :
    CommandAccounted defaults command world output after where
  status := .inl zero
  failed := by
    refine iff_of_false (by simp [zero]) ?_
    rintro ⟨failure, raised⟩
    exact noFailure failure raised
  reported failure raised := absurd raised (noFailure failure)
  quiet _ := kept

theorem finish_accounted {command : Command} {body : Run Unit}
    (raises : ∀ failure, body.Fails world failure ↔
      Raises defaults world command failure)
    (keepsQuiet : Keeps (QuietSince world) body)
    (listens : world.threshold ≤ .error) :
    CommandAccounted defaults command world
      (finish command.name body world).1 (finish command.name body world).2 := by
  have kept := keepsQuiet world (.refl world)
  rw [finish]
  cases outcome : body world with
  | ok value after =>
      rw [after_of_ok outcome] at kept
      have noFailure : ∀ failure, ¬ Raises defaults world command failure :=
        fun failure raised =>
          not_fails_of_ok outcome ((raises failure).mpr raised)
      exact accounted_of_no_failure noFailure rfl kept
  | error failure after =>
      rw [after_of_error outcome] at kept
      have failed : body.Fails world failure := ⟨after, outcome⟩
      have raised := (raises failure).mp failed
      obtain ⟨added, recordsEq, noErrors⟩ := kept.records
      obtain ⟨record, reportedEq, reports⟩ :=
        reportFailure_records command.name failure (kept.threshold ▸ listens)
      refine ⟨.inr rfl, ⟨fun _ => ⟨failure, raised⟩, fun _ => rfl⟩, ?_, by simp⟩
      intro other raisedOther
      obtain rfl := failed.unique ((raises other).mpr raisedOther)
      rw [kept.machine] at reports
      exact ⟨added, record, by rw [reportedEq, recordsEq], noErrors, reports⟩

theorem runCommand_accounted (defaults : Settings) (command : Command)
    (listens : world.threshold ≤ .error) :
    CommandAccounted defaults command world
      (runCommand defaults command world).1
      (runCommand defaults command world).2 := by
  cases command with
  | nothing =>
      refine accounted_of_no_failure (fun failure raised => ?_) rfl (.refl world)
      cases raised
  | version =>
      refine accounted_of_no_failure (fun failure raised => ?_) rfl (.refl world)
      cases raised
  | generate arguments =>
      exact finish_accounted (fun _ => runGenerate_fails_iff)
        (runGenerate_quiet defaults arguments) listens
  | clean arguments =>
      exact finish_accounted (fun _ => runClean_fails_iff)
        (runClean_quiet defaults arguments) listens

theorem leavesInterface_of_status {arguments : GenerateArguments}
    (succeeded :
      (runCommand defaults (.generate arguments) world).1.status = 0) :
    LeavesInterface defaults arguments world
      (runCommand defaults (.generate arguments) world).2 := by
  rw [runCommand, finish] at succeeded ⊢
  cases outcome : runGenerate defaults arguments world with
  | ok value after => exact leavesInterface_of_runGenerate outcome
  | error failure after => simp [outcome] at succeeded

theorem threshold_startWorld (verbose : Bool) (runId : String)
    (world : World) :
    (startWorld verbose runId world).threshold ≤ .info := by
  cases verbose with
  | false => exact (by decide : Log.Level.info ≤ .info)
  | true => exact (by decide : Log.Level.debug ≤ .info)

/-- What the status of a command line says about the arguments, the steps of
the command, the log and the files. -/
structure Accounted (defaults : Settings) (runId : String)
    (arguments : List String) (before : World) (output : Output)
    (after : World) : Prop where
  status : output.status = 0 ∨ output.status = 1 ∨ output.status = 2
  rejected : output.status = 2 ↔
    ∃ text, readInvocation arguments = .error (.usage text)
  /-- Rejected arguments leave log, programs and files alone. -/
  untouched : output.status = 2 → after = before
  failed : output.status = 1 ↔
    ∃ invocation failure, readInvocation arguments = .ok invocation ∧
      Raises defaults (startWorld invocation.verbose runId before)
        invocation.command failure
  reported : ∀ invocation failure,
    readInvocation arguments = .ok invocation →
      Raises defaults (startWorld invocation.verbose runId before)
        invocation.command failure →
        EndsWithReport invocation.command.name failure before after
  quiet : output.status = 0 →
    ∃ added, after.records = before.records ++ added ∧
      ∀ record ∈ added, record.level ≠ .error
  delivered : output.status = 0 → ∀ verbose generateArguments,
    readInvocation arguments = .ok ⟨verbose, .generate generateArguments⟩ →
      LeavesInterface defaults generateArguments
        (startWorld verbose runId before) after

theorem accounted_of_answer {arguments : List String} {answer : Answer}
    (read : readInvocation arguments = .error answer) (defaults : Settings)
    (runId : String) (world : World) :
    Accounted defaults runId arguments world
      (execute defaults runId arguments world).1
      (execute defaults runId arguments world).2 := by
  have noCommand : ∀ invocation, readInvocation arguments ≠ .ok invocation := by
    simp [read]
  have unfailing : ¬ ∃ invocation failure,
      readInvocation arguments = .ok invocation ∧
        Raises defaults (startWorld invocation.verbose runId world)
          invocation.command failure :=
    fun ⟨invocation, _, accepted, _⟩ => noCommand invocation accepted
  rw [execute, read]
  cases answer with
  | help text =>
      exact {
        status := .inl rfl
        rejected := by simp [read]
        untouched := by simp
        failed := iff_of_false (by simp) unfailing
        reported := fun invocation _ accepted =>
          absurd accepted (noCommand invocation)
        quiet := fun _ => (QuietSince.refl world).records
        delivered := fun _ _ _ accepted => absurd accepted (noCommand _) }
  | usage text =>
      exact {
        status := .inr (.inr rfl)
        rejected := by simp [read]
        untouched := fun _ => rfl
        failed := iff_of_false (by simp) unfailing
        reported := fun invocation _ accepted =>
          absurd accepted (noCommand invocation)
        quiet := by simp
        delivered := by simp }

theorem accounted_of_accepted {arguments : List String}
    {invocation : Invocation}
    (read : readInvocation arguments = .ok invocation) (defaults : Settings)
    (runId : String) (world : World) :
    Accounted defaults runId arguments world
      (execute defaults runId arguments world).1
      (execute defaults runId arguments world).2 := by
  have listens : (startWorld invocation.verbose runId world).threshold ≤
      .error :=
    Nat.le_trans (threshold_startWorld invocation.verbose runId world)
      (by decide)
  have accounted :=
    runCommand_accounted defaults invocation.command listens
  have notRejected : (runCommand defaults invocation.command
      (startWorld invocation.verbose runId world)).1.status ≠ 2 := by
    rcases accounted.status with zero | one
    · simp [zero]
    · simp [one]
  rw [execute, read]
  exact {
    status := by
      rcases accounted.status with zero | one
      · exact .inl zero
      · exact .inr (.inl one)
    rejected := iff_of_false notRejected (by simp [read])
    untouched := fun two => absurd two notRejected
    failed := by
      rw [accounted.failed, read]
      simp
    reported := by
      intro other failure accepted raised
      obtain rfl := Except.ok.inj (read.symm.trans accepted)
      exact accounted.reported failure raised
    quiet := fun zero => (accounted.quiet zero).records
    delivered := by
      intro zero verbose generateArguments accepted
      obtain rfl := Except.ok.inj (read.symm.trans accepted)
      exact leavesInterface_of_status zero }

/-- The status of every command line accounts for what has happened. -/
theorem execute_accounted (defaults : Settings) (runId : String)
    (arguments : List String) (world : World) :
    Accounted defaults runId arguments world
      (execute defaults runId arguments world).1
      (execute defaults runId arguments world).2 := by
  cases read : readInvocation arguments with
  | error answer => exact accounted_of_answer read defaults runId world
  | ok invocation => exact accounted_of_accepted read defaults runId world

end CommandLine

end SwiftInterface
