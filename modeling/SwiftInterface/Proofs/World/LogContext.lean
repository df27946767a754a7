import SwiftInterface.Proofs.World.Preservation

/-!
# The context of log records

A record carries the phase and the module that are current when it is written.
A run that opens no scope leaves the context as it is, so all its records carry
the context in which it was started.  A scope changes the context for its body
and restores it afterwards, whether the body succeeds or fails; to whoever
started the scope nothing but the records of the body shows.
-/

namespace SwiftInterface

namespace Log

/-- All records carry the phase and the module of a context. -/
def CarriedBy (context : Context) (records : List Record) : Prop :=
  ∀ record ∈ records,
    record.phase = context.phase ∧ record.moduleName = context.moduleName

theorem CarriedBy.append {context : Context} {first second : List Record}
    (before : CarriedBy context first) (after : CarriedBy context second) :
    CarriedBy context (first ++ second) := by
  intro record member
  rcases List.mem_append.mp member with early | late
  · exact before record early
  · exact after record late

/-- Where no phase is set, no record shows one. -/
theorem CarriedBy.filter_phase {context : Context} {records : List Record}
    (carried : CarriedBy context records) (unset : context.phase = Log.unset) :
    records.filter (fun record => record.phase ≠ Log.unset) = [] := by
  rw [List.filter_eq_nil_iff]
  intro record member
  simp [(carried record member).1, unset]

end Log

namespace World

theorem context_log (world : World) (level : Log.Level) (source : Log.Source)
    (message : String) (failure : Option Failure) :
    (world.log level source message failure).context = world.context := by
  rw [World.log]
  split
  · rfl
  · rfl

theorem threshold_log (world : World) (level : Log.Level) (source : Log.Source)
    (message : String) (failure : Option Failure) :
    (world.log level source message failure).threshold = world.threshold := by
  rw [World.log]
  split
  · rfl
  · rfl

/-- The record of a message in the context of a world. -/
def recordOf (world : World) (level : Log.Level) (source : Log.Source)
    (message : String) (failure : Option Failure) : Log.Record where
  level := level
  source := source
  phase := world.context.phase
  moduleName := world.context.moduleName
  message := message
  failure := failure

theorem carriedBy_recordOf (world : World) (level : Log.Level)
    (source : Log.Source) (message : String) (failure : Option Failure) :
    Log.CarriedBy world.context
      [world.recordOf level source message failure] := by
  intro record member
  rw [List.mem_singleton.mp member]
  exact ⟨rfl, rfl⟩

theorem records_log {world : World} {level : Log.Level}
    (listens : world.threshold ≤ level) (source : Log.Source)
    (message : String) (failure : Option Failure) :
    (world.log level source message failure).records =
      world.records ++ [world.recordOf level source message failure] := by
  rw [World.log, if_pos listens]
  rfl

end World

namespace Run

variable {α β : Type} {fits : List Log.Record → Prop} {world : World}

/-- From one world to the other the log keeps its threshold and its context, and
the records that were added fit. -/
structure LogsSince (fits : List Log.Record → Prop) (before after : World) :
    Prop where
  threshold : after.threshold = before.threshold
  context : after.context = before.context
  records : ∃ added, after.records = before.records ++ added ∧ fits added

theorem LogsSince.refl (world : World) (nothing : fits []) :
    LogsSince fits world world :=
  ⟨rfl, rfl, [], (List.append_nil _).symm, nothing⟩

theorem LogsSince.mono {others : List Log.Record → Prop} {before after : World}
    (logs : LogsSince fits before after)
    (weaken : ∀ added, fits added → others added) :
    LogsSince others before after := by
  obtain ⟨added, recordsEq, fit⟩ := logs.records
  exact ⟨logs.threshold, logs.context, added, recordsEq, weaken added fit⟩

theorem LogsSince.trans {early late : List Log.Record → Prop}
    {first second third : World} (logs : LogsSince early first second)
    (logsOn : LogsSince late second third)
    (join : ∀ before after, early before → late after →
      fits (before ++ after)) :
    LogsSince fits first third := by
  obtain ⟨before, beforeEq, beforeFits⟩ := logs.records
  obtain ⟨after, afterEq, afterFits⟩ := logsOn.records
  refine ⟨logsOn.threshold.trans logs.threshold,
    logsOn.context.trans logs.context, before ++ after, ?_, ?_⟩
  · rw [afterEq, beforeEq, List.append_assoc]
  · exact join before after beforeFits afterFits

/-- The records that were added carry the context, which has not changed. -/
abbrev Steady (before after : World) : Prop :=
  LogsSince (Log.CarriedBy before.context) before after

theorem Steady.refl (world : World) : Steady world world :=
  LogsSince.refl world (by simp [Log.CarriedBy])

theorem steady_log (world : World) (level : Log.Level) (source : Log.Source)
    (message : String) (failure : Option Failure) :
    Steady world (world.log level source message failure) := by
  refine ⟨world.threshold_log level source message failure,
    world.context_log level source message failure, ?_⟩
  by_cases listens : world.threshold ≤ level
  · exact ⟨[world.recordOf level source message failure],
      World.records_log listens source message failure,
      world.carriedBy_recordOf level source message failure⟩
  · have ignored : world.log level source message failure = world :=
      if_neg listens
    rw [ignored]
    exact ⟨[], (List.append_nil _).symm, by simp [Log.CarriedBy]⟩

theorem Steady.log {before after : World} (steady : Steady before after)
    (level : Log.Level) (source : Log.Source) (message : String)
    (failure : Option Failure) :
    Steady before (after.log level source message failure) := by
  have logged := steady_log after level source message failure
  rw [Steady, steady.context] at logged
  exact steady.trans logged fun _ _ early late => early.append late

/-- No step outside of scopes touches the context. -/
theorem fileBlind_steady (before : World) : FileBlind (Steady before) where
  log.record _ level source message _ steady :=
    steady.log level source message none
  tool _ _ steady := ⟨steady.threshold, steady.context, steady.records⟩
  files _ _ steady := ⟨steady.threshold, steady.context, steady.records⟩

/-! ## Sequences -/

/-- What holds after a run as far as it came holds after a sequence, if a
failure of the first part suffices for it and the second part adds what is
missing. -/
theorem after_bind {run : Run α} {next : α → Run β}
    {early late : World → Prop} (first : early (run.after world))
    (weaken : ∀ after, early after → late after)
    (onward : ∀ value middle, run world = .ok value middle → early middle →
      late ((next value).after middle)) :
    late ((run >>= next).after world) := by
  cases outcome : run world with
  | ok value middle =>
      rw [after_of_ok outcome] at first
      rw [after_bind_of_ok outcome]
      exact onward value middle outcome first
  | error failure after =>
      rw [after_of_error outcome] at first
      rw [after_of_error (bind_eq_error.mpr (.inl outcome))]
      exact weaken after first

/-! ## Scopes -/

/-- Leaving the scope at once brings the context back. -/
def Restores (enter : Log.Context → Log.Context × Log.Scope) : Prop :=
  ∀ context, (enter context).1.leave (enter context).2 = context

theorem restores_enterPhase (phase : String) :
    Restores fun context => context.enterPhase phase :=
  fun _ => rfl

theorem restores_enterModule (name : String) :
    Restores fun context => context.enterModule name :=
  fun _ => rfl

/-- Around a scope, only the records of its body show. -/
theorem LogsSince.within {enter : Log.Context → Log.Context × Log.Scope}
    {body : Run α} (restores : Restores enter)
    (inner : LogsSince fits { world with context := (enter world.context).1 }
      (body.after { world with context := (enter world.context).1 })) :
    LogsSince fits world ((Run.within enter body).after world) := by
  have left (last : World)
      (logs : LogsSince fits { world with context := (enter world.context).1 }
        last) :
      LogsSince fits world { last with
        context := last.context.leave (enter world.context).2 } := by
    refine ⟨logs.threshold, ?_, logs.records⟩
    rw [logs.context]
    exact restores world.context
  cases outcome : body { world with context := (enter world.context).1 } with
  | ok value last =>
      rw [after_of_ok outcome] at inner
      rw [after_of_ok (within_of_ok outcome)]
      exact left last inner
  | error failure last =>
      rw [after_of_error outcome] at inner
      rw [after_of_error (within_of_error outcome)]
      exact left last inner

/-- In a phase, all records of a body without scopes carry the phase. -/
theorem inPhase_logsSince {body : Run α}
    (steady : ∀ before, Keeps (Steady before) body) (phase : String)
    (world : World) :
    LogsSince (Log.CarriedBy { world.context with phase }) world
      ((Run.inPhase phase body).after world) := by
  have inner := steady
    { world with context := (world.context.enterPhase phase).1 } _ (.refl _)
  exact LogsSince.within (restores_enterPhase phase) inner

end Run

end SwiftInterface
