import SwiftInterface.World

/-!
# What runs preserve

Most runs read the files and write to the log; some start programs; few change
the files.  A run *keeps* a property of the world if the property holds after
it whenever it held before, also when the run fails.  Runs that write to the
log keep every property that their records do not show in, and runs that start
programs every property that one started program does not show in either, so
one statement for each of them serves all later arguments.  Only runs that open a
scope change the context of the log, so the others keep a property that looks
at the context, too.  No run writes a record at the level of errors itself: a
failure is reported by whoever runs it.
-/

namespace SwiftInterface

namespace Run

variable {α β : Type}

/-- The world after a run, whatever its outcome is. -/
def after (run : Run α) (world : World) : World :=
  match run world with
  | .ok _ after => after
  | .error _ after => after

theorem after_of_ok {run : Run α} {world after : World} {value : α}
    (succeeded : run world = .ok value after) : run.after world = after := by
  rw [Run.after, succeeded]

theorem after_of_error {run : Run α} {world after : World} {failure : Failure}
    (failed : run world = .error failure after) : run.after world = after := by
  rw [Run.after, failed]

/-- Whether a run succeeds. -/
def succeeds (run : Run α) (world : World) : Bool :=
  match run world with
  | .ok _ _ => true
  | .error _ _ => false

theorem exists_of_succeeds {run : Run α} {world : World}
    (succeeded : run.succeeds world = true) :
    ∃ value after, run world = .ok value after := by
  rw [succeeds] at succeeded
  split at succeeded
  case h_1 value after outcome => exact ⟨value, after, outcome⟩
  case h_2 => cases succeeded

theorem exists_of_not_succeeds {run : Run α} {world : World}
    (failed : run.succeeds world = false) :
    ∃ failure after, run world = .error failure after := by
  rw [succeeds] at failed
  split at failed
  case h_1 => cases failed
  case h_2 failure after outcome => exact ⟨failure, after, outcome⟩

/-- A run that succeeds hands its result and its world to the next. -/
theorem bind_ok {run : Run α} {next : α → Run β} {result : α}
    {world after : World} (first : run world = .ok result after) :
    (run >>= next) world = next result after := by
  change EStateM.bind run next world = _
  rw [EStateM.bind, first]

theorem bind_eq_ok {run : Run α} {next : α → Run β} {world after : World}
    {result : β} :
    (run >>= next) world = .ok result after ↔
      ∃ value middle, run world = .ok value middle ∧
        next value middle = .ok result after := by
  change EStateM.bind run next world = _ ↔ _
  rw [EStateM.bind]
  cases run world with
  | ok value middle => simp [and_assoc]
  | error failure middle => simp

theorem bind_eq_error {run : Run α} {next : α → Run β} {world after : World}
    {failure : Failure} :
    (run >>= next) world = .error failure after ↔
      run world = .error failure after ∨
        ∃ value middle, run world = .ok value middle ∧
          next value middle = .error failure after := by
  change EStateM.bind run next world = _ ↔ _
  rw [EStateM.bind]
  cases run world with
  | ok value middle => simp [and_assoc]
  | error failure middle => simp

theorem after_bind_of_ok {run : Run α} {next : α → Run β}
    {world middle : World} {value : α}
    (succeeded : run world = .ok value middle) :
    (run >>= next).after world = (next value).after middle := by
  rw [Run.after, bind_ok succeeded, Run.after]

theorem get_eq (world : World) : (get : Run World) world = .ok world world :=
  rfl

theorem pure_eq_ok {value result : α} {world after : World} :
    (pure value : Run α) world = .ok result after ↔
      value = result ∧ world = after := by
  change EStateM.Result.ok value world = _ ↔ _
  simp

theorem fail_ne_ok {failure : Failure} {result : α} {world after : World} :
    (fail failure : Run α) world ≠ .ok result after :=
  nofun

/-- The property holds after the run if it held before, also when the run
fails. -/
def Keeps (property : World → Prop) (run : Run α) : Prop :=
  ∀ world, property world → property (run.after world)

/-- What runs write to the log does not show in the property: neither the
context nor a record below the level of errors. -/
structure LogBlind (property : World → Prop) : Prop where
  context : ∀ world context, property world → property { world with context }
  record : ∀ world (record : Log.Record), record.level ≠ .error →
    property world →
      property { world with records := world.records ++ [record] }

/-- The world after a program was started, up to the log. -/
def started (call : Tool.Call) (world : World) : World :=
  { world with
    script := world.script.tail, calls := world.calls ++ [call] }

/-- A program that is started does not show in the property either. -/
structure ToolBlind (property : World → Prop) : Prop where
  log : LogBlind property
  tool : ∀ world call, property world → property (started call world)

/-- A record below the level of errors does not show in the property, if it is
written in the context in which the run stands. -/
structure RecordBlind (property : World → Prop) : Prop where
  record : ∀ world level source message, level ≠ .error →
    property world → property (world.log level source message none)

/-- A program that is started does not show in the property either. -/
structure StepBlind (property : World → Prop) : Prop where
  log : RecordBlind property
  tool : ∀ world call, property world → property (started call world)

/-- The property does not look at the files either. -/
structure FileBlind (property : World → Prop) : Prop extends
    StepBlind property where
  files : ∀ world files, property world → property { world with files }

variable {property : World → Prop}

theorem LogBlind.recordBlind (blind : LogBlind property) :
    RecordBlind property := by
  refine ⟨fun world level source message noError holds => ?_⟩
  rw [World.log]
  split
  · exact blind.record world _ noError holds
  · exact holds

theorem ToolBlind.stepBlind (blind : ToolBlind property) :
    StepBlind property :=
  ⟨blind.log.recordBlind, blind.tool⟩

instance : Coe (LogBlind property) (RecordBlind property) where
  coe := LogBlind.recordBlind

instance : Coe (ToolBlind property) (StepBlind property) where
  coe := ToolBlind.stepBlind

theorem Keeps.pure (value : α) : Keeps property (Pure.pure value) :=
  fun _ holds => holds

theorem Keeps.fail (failure : Failure) :
    Keeps property (Run.fail failure : Run α) :=
  fun _ holds => holds

theorem Keeps.get : Keeps property (get : Run World) :=
  fun _ holds => holds

/-- A property that holds after the first run holds after both, if the second
keeps it. -/
theorem Keeps.after_bind {run : Run α} {next : α → Run β} {world : World}
    (middle : property (run.after world))
    (keepsOn : ∀ value, Keeps property (next value)) :
    property ((run >>= next).after world) := by
  cases outcome : run world with
  | ok value after =>
      rw [after_of_ok outcome] at middle
      rw [after_bind_of_ok outcome]
      exact keepsOn value after middle
  | error failure after =>
      rw [after_of_error outcome] at middle
      rwa [after_of_error (bind_eq_error.mpr (.inl outcome))]

theorem Keeps.bind {run : Run α} {next : α → Run β}
    (keeps : Keeps property run) (keepsOn : ∀ value, Keeps property (next value)) :
    Keeps property (run >>= next) :=
  fun world holds => Keeps.after_bind (keeps world holds) keepsOn

theorem info_eq (source : Log.Source) (message : String) (world : World) :
    Run.info source message world =
      .ok () (world.log .info source message none) :=
  rfl

theorem Keeps.log (blind : RecordBlind property) {level : Log.Level}
    (noError : level ≠ .error) (source : Log.Source) (message : String) :
    Keeps property (Run.log level source message) :=
  fun world holds => blind.record world level source message noError holds

theorem Keeps.debug (blind : RecordBlind property) (source : Log.Source)
    (message : String) : Keeps property (Run.debug source message) :=
  Keeps.log blind (by decide) source message

theorem Keeps.info (blind : RecordBlind property) (source : Log.Source)
    (message : String) : Keeps property (Run.info source message) :=
  Keeps.log blind (by decide) source message

theorem Keeps.warn (blind : RecordBlind property) (source : Log.Source)
    (message : String) : Keeps property (Run.warn source message) :=
  Keeps.log blind (by decide) source message

theorem within_of_ok {enter : Log.Context → Log.Context × Log.Scope}
    {body : Run α} {world after : World} {value : α}
    (succeeded :
      body { world with context := (enter world.context).1 } = .ok value after) :
    Run.within enter body world =
      .ok value { after with
        context := after.context.leave (enter world.context).2 } := by
  rw [Run.within]
  dsimp only
  rw [succeeded]

theorem within_of_error {enter : Log.Context → Log.Context × Log.Scope}
    {body : Run α} {world after : World} {failure : Failure}
    (failed :
      body { world with context := (enter world.context).1 } =
        .error failure after) :
    Run.within enter body world =
      .error failure { after with
        context := after.context.leave (enter world.context).2 } := by
  rw [Run.within]
  dsimp only
  rw [failed]

/-- Entering and leaving a scope of the log shows in the log only. -/
theorem Keeps.within (blind : LogBlind property)
    (enter : Log.Context → Log.Context × Log.Scope) {body : Run α}
    (keeps : Keeps property body) : Keeps property (Run.within enter body) := by
  intro world holds
  have inner := keeps { world with context := (enter world.context).1 }
    (blind.context world _ holds)
  cases outcome : body { world with context := (enter world.context).1 } with
  | ok value after =>
      rw [after_of_ok outcome] at inner
      rw [after_of_ok (within_of_ok outcome)]
      exact blind.context after _ inner
  | error failure after =>
      rw [after_of_error outcome] at inner
      rw [after_of_error (within_of_error outcome)]
      exact blind.context after _ inner

theorem Keeps.inPhase (blind : LogBlind property) (phase : String)
    {body : Run α} (keeps : Keeps property body) :
    Keeps property (Run.inPhase phase body) :=
  Keeps.within blind _ keeps

theorem Keeps.inModule (blind : LogBlind property) (name : String)
    {body : Run α} (keeps : Keeps property body) :
    Keeps property (Run.inModule name body) :=
  Keeps.within blind _ keeps

theorem start_eq (call : Tool.Call) (world : World) :
    Run.start call world =
      .ok (world.script.headD .missing) (started call world) := by
  rw [Run.start, started]
  cases scripted : world.script with
  | nil => simp
  | cons outcome rest => simp

/-- A program that succeeds has its outcome from the script. -/
theorem start_finished {call : Tool.Call} {world after : World}
    {output : String}
    (started : Run.start call world = .ok (.finished output) after) :
    world.script = .finished output :: after.script ∧
      after.calls = world.calls ++ [call] ∧ after.machine = world.machine := by
  rw [start_eq] at started
  obtain ⟨outcomeEq, rfl⟩ := EStateM.Result.ok.inj started
  refine ⟨?_, rfl, rfl⟩
  cases scripted : world.script with
  | nil => simp [scripted] at outcomeEq
  | cons outcome rest =>
      rw [scripted, List.headD_cons] at outcomeEq
      rw [outcomeEq, Run.started, scripted, List.tail_cons]

theorem Keeps.start (blind : StepBlind property) (call : Tool.Call) :
    Keeps property (Run.start call) := by
  intro world holds
  rw [after_of_ok (start_eq call world)]
  exact blind.tool world call holds

/-- Two worlds on the same machine, in the same folder and with the same
programs; the files and the log may differ. -/
structure SameButFiles (before after : World) : Prop where
  machine : after.machine = before.machine
  here : after.here = before.here
  script : after.script = before.script
  calls : after.calls = before.calls

/-- Two worlds that differ in the log only. -/
structure SameButLog (before after : World) : Prop
    extends SameButFiles before after where
  files : after.files = before.files

theorem SameButFiles.refl (world : World) : SameButFiles world world :=
  ⟨rfl, rfl, rfl, rfl⟩

theorem SameButFiles.trans {first second third : World}
    (same : SameButFiles first second) (other : SameButFiles second third) :
    SameButFiles first third :=
  ⟨other.machine.trans same.machine, other.here.trans same.here,
    other.script.trans same.script, other.calls.trans same.calls⟩

theorem SameButLog.refl (world : World) : SameButLog world world :=
  ⟨.refl world, rfl⟩

theorem SameButLog.trans {first second third : World}
    (same : SameButLog first second) (other : SameButLog second third) :
    SameButLog first third :=
  ⟨same.toSameButFiles.trans other.toSameButFiles,
    other.files.trans same.files⟩

theorem logBlind_sameButLog (world : World) : LogBlind (SameButLog world) where
  context _ _ same :=
    ⟨⟨same.machine, same.here, same.script, same.calls⟩, same.files⟩
  record _ _ _ same :=
    ⟨⟨same.machine, same.here, same.script, same.calls⟩, same.files⟩

theorem sameButLog_log (world : World) (level : Log.Level)
    (source : Log.Source) (message : String) (failure : Option Failure) :
    SameButLog world (world.log level source message failure) := by
  rw [World.log]
  split
  · exact ⟨⟨rfl, rfl, rfl, rfl⟩, rfl⟩
  · exact .refl world

/-- A successful run that keeps what does not concern the log changes nothing
else. -/
theorem Keeps.sameButLog {run : Run α} {world after : World} {value : α}
    (keeps : Keeps (SameButLog world) run)
    (succeeded : run world = .ok value after) : SameButLog world after :=
  after_of_ok succeeded ▸ keeps world (.refl world)

/-! ## Scopes

A run in a scope of the log does what its body does, up to the log. -/

theorem sameButLog_context (world : World) (context : Log.Context) :
    SameButLog world { world with context } :=
  ⟨⟨rfl, rfl, rfl, rfl⟩, rfl⟩

theorem after_within (enter : Log.Context → Log.Context × Log.Scope)
    (body : Run α) (world : World) :
    ∃ entered, SameButLog world entered ∧
      SameButLog (body.after entered) ((Run.within enter body).after world) := by
  refine ⟨{ world with context := (enter world.context).1 },
    sameButLog_context world _, ?_⟩
  cases outcome : body { world with context := (enter world.context).1 } with
  | ok value inner =>
      rw [after_of_ok outcome, after_of_ok (within_of_ok outcome)]
      exact sameButLog_context inner _
  | error failure inner =>
      rw [after_of_error outcome, after_of_error (within_of_error outcome)]
      exact sameButLog_context inner _

theorem after_inPhase (phase : String) (body : Run α) (world : World) :
    ∃ entered, SameButLog world entered ∧
      SameButLog (body.after entered) ((Run.inPhase phase body).after world) :=
  after_within _ body world

theorem after_inModule (name : String) (body : Run α) (world : World) :
    ∃ entered, SameButLog world entered ∧
      SameButLog (body.after entered) ((Run.inModule name body).after world) :=
  after_within _ body world

theorem within_eq_ok {enter : Log.Context → Log.Context × Log.Scope}
    {body : Run α} {world after : World} {value : α}
    (succeeded : Run.within enter body world = .ok value after) :
    ∃ entered inner, SameButLog world entered ∧
      body entered = .ok value inner ∧ SameButLog inner after := by
  refine ⟨{ world with context := (enter world.context).1 }, ?_⟩
  cases outcome : body { world with context := (enter world.context).1 } with
  | ok result inner =>
      rw [within_of_ok outcome] at succeeded
      obtain ⟨rfl, rfl⟩ := EStateM.Result.ok.inj succeeded
      exact ⟨inner, sameButLog_context world _, rfl, sameButLog_context inner _⟩
  | error failure inner =>
      rw [within_of_error outcome] at succeeded
      cases succeeded

theorem inPhase_eq_ok {phase : String} {body : Run α} {world after : World}
    {value : α} (succeeded : Run.inPhase phase body world = .ok value after) :
    ∃ entered inner, SameButLog world entered ∧
      body entered = .ok value inner ∧ SameButLog inner after :=
  within_eq_ok succeeded

theorem exists_inPhase_of_ok {phase : String} {body : Run α} {world inner : World}
    {value : α}
    (succeeded :
      body { world with context := (world.context.enterPhase phase).1 } =
        .ok value inner) :
    ∃ after, Run.inPhase phase body world = .ok value after ∧
      SameButLog inner after :=
  ⟨_, within_of_ok succeeded, sameButLog_context inner _⟩

theorem inPhase_eq_error {phase : String} {body : Run α} {world after : World}
    {failure : Failure}
    (failed : Run.inPhase phase body world = .error failure after) :
    ∃ entered inner, SameButLog world entered ∧
      body entered = .error failure inner ∧ SameButLog inner after := by
  refine ⟨{ world with context := (world.context.enterPhase phase).1 }, ?_⟩
  cases outcome :
      body { world with context := (world.context.enterPhase phase).1 } with
  | ok result inner =>
      rw [Run.inPhase, within_of_ok outcome] at failed
      cases failed
  | error cause inner =>
      rw [Run.inPhase, within_of_error outcome] at failed
      obtain ⟨rfl, rfl⟩ := EStateM.Result.error.inj failed
      exact ⟨inner, sameButLog_context world _, rfl, sameButLog_context inner _⟩

end Run

end SwiftInterface
