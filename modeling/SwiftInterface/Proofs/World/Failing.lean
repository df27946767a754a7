import SwiftInterface.Proofs.World.Preservation

/-!
# When runs fail

A run fails in a world with a failure, whatever it leaves behind.  A sequence of
runs fails where its first failing part does, in the world that the parts before
it have left, and a scope of the log changes nothing about that.  Which failures
are possible at all does not depend on the world: a run *raises only* failures
of a certain sort if all its parts do.
-/

namespace SwiftInterface

namespace Run

variable {α β : Type} {run : Run α} {next : α → Run β} {world middle : World}
  {failure : Failure}

/-- The run fails in a world with a failure. -/
def Fails (run : Run α) (world : World) (failure : Failure) : Prop :=
  ∃ after, run world = .error failure after

theorem not_fails_of_ok {value : α} (succeeded : run world = .ok value middle) :
    ¬ run.Fails world failure := by
  rintro ⟨after, failed⟩
  rw [succeeded] at failed
  cases failed

/-- A run fails in one way only. -/
theorem Fails.unique {other : Failure} (fails : run.Fails world failure)
    (failsToo : run.Fails world other) : failure = other := by
  obtain ⟨after, failed⟩ := fails
  obtain ⟨afterToo, failedToo⟩ := failsToo
  rw [failed] at failedToo
  exact (EStateM.Result.error.inj failedToo).1

instance decidableFails (run : Run α) (world : World) (failure : Failure) :
    Decidable (run.Fails world failure) :=
  match outcome : run world with
  | .ok _ _ => .isFalse (not_fails_of_ok outcome)
  | .error raised after =>
      if same : raised = failure then .isTrue ⟨after, same ▸ outcome⟩
      else .isFalse fun failed => same (Fails.unique ⟨after, outcome⟩ failed)

theorem ok_or_fails (run : Run α) (world : World) :
    (∃ value after, run world = .ok value after) ∨
      ∃ failure, run.Fails world failure := by
  cases outcome : run world with
  | ok value after => exact .inl ⟨value, after, rfl⟩
  | error failure after => exact .inr ⟨failure, after, outcome⟩

theorem fails_fail {raised : Failure} :
    (Run.fail raised : Run α).Fails world failure ↔ failure = raised := by
  constructor
  · rintro ⟨after, failed⟩
    exact (EStateM.Result.error.inj failed).1.symm
  · rintro rfl
    exact ⟨world, rfl⟩

theorem not_fails_pure {value : α} :
    ¬ (pure value : Run α).Fails world failure :=
  not_fails_of_ok rfl

theorem fails_bind :
    (run >>= next).Fails world failure ↔
      run.Fails world failure ∨
        ∃ value middle, run world = .ok value middle ∧
          (next value).Fails middle failure := by
  constructor
  · rintro ⟨after, failed⟩
    rcases bind_eq_error.mp failed with failed | ⟨value, middle, first, failed⟩
    · exact .inl ⟨after, failed⟩
    · exact .inr ⟨value, middle, first, after, failed⟩
  · rintro (⟨after, failed⟩ | ⟨value, middle, first, after, failed⟩)
    · exact ⟨after, bind_eq_error.mpr (.inl failed)⟩
    · exact ⟨after, bind_eq_error.mpr (.inr ⟨value, middle, first, failed⟩)⟩

theorem fails_bind_of_ok {value : α} (first : run world = .ok value middle) :
    (run >>= next).Fails world failure ↔ (next value).Fails middle failure := by
  rw [Fails, Fails, bind_ok first]

theorem fails_bind_of_fails {raised : Failure}
    (failed : run.Fails world raised) :
    (run >>= next).Fails world failure ↔ failure = raised := by
  constructor
  · intro failedToo
    rcases fails_bind.mp failedToo with failedToo | ⟨_, _, succeeded, -⟩
    · exact failedToo.unique failed
    · exact absurd failed (not_fails_of_ok succeeded)
  · rintro rfl
    exact fails_bind.mpr (.inl failed)

theorem fails_fail_bind {raised : Failure} :
    ((Run.fail raised : Run α) >>= next).Fails world failure ↔
      failure = raised :=
  fails_bind_of_fails (fails_fail.mpr rfl)

/-- If no later part fails, a sequence fails just where its first part does. -/
theorem fails_bind_of_not_fails
    (onward : ∀ value middle, ¬ (next value).Fails middle failure) :
    (run >>= next).Fails world failure ↔ run.Fails world failure := by
  rw [fails_bind, or_iff_left]
  rintro ⟨value, middle, -, failed⟩
  exact onward value middle failed

theorem fails_get_bind {next : World → Run β} :
    ((get : Run World) >>= next).Fails world failure ↔
      (next world).Fails world failure :=
  fails_bind_of_ok (get_eq world)

theorem fails_log_bind {level : Log.Level} {source : Log.Source}
    {message : String} {next : Unit → Run β} :
    (Run.log level source message >>= next).Fails world failure ↔
      (next ()).Fails (world.log level source message none) failure :=
  fails_bind_of_ok rfl

/-- A scope of the log lets every failure pass. -/
theorem fails_within {enter : Log.Context → Log.Context × Log.Scope} :
    (Run.within enter run).Fails world failure ↔
      run.Fails { world with context := (enter world.context).1 } failure := by
  cases outcome : run { world with context := (enter world.context).1 } with
  | ok value after =>
      exact iff_of_false (not_fails_of_ok (within_of_ok outcome))
        (not_fails_of_ok outcome)
  | error raised after =>
      rw [Fails, Fails, within_of_error outcome, outcome]
      simp

/-! ## Results -/

/-- What a run comes to in a world, without the world that it leaves. -/
def result (run : Run α) (world : World) : Except Failure α :=
  match run world with
  | .ok value _ => .ok value
  | .error failure _ => .error failure

theorem result_eq_error_iff :
    run.result world = .error failure ↔ run.Fails world failure := by
  rw [result, Fails]
  cases run world with
  | ok value after => simp
  | error raised after => simp

theorem result_eq_ok_iff {value : α} :
    run.result world = .ok value ↔ ∃ after, run world = .ok value after := by
  rw [result]
  cases run world with
  | ok found after => simp
  | error raised after => simp

/-- If what follows a run comes to the same in every world, the world that the
run leaves does not matter. -/
theorem result_bind {onward : α → Except Failure β}
    (second : ∀ value middle, (next value).result middle = onward value) :
    (run >>= next).result world = run.result world >>= onward := by
  cases ran : run world with
  | ok value middle =>
      rw [result, bind_ok ran, ← result, second value middle, result, ran]
      rfl
  | error raised middle =>
      rw [result, bind_eq_error.mpr (.inl ran), result, ran]
      rfl

/-! ## Failures of a certain sort -/

/-- Whatever the world is, every failure of the run is one of those allowed. -/
def RaisesOnly (allowed : Failure → Prop) (run : Run α) : Prop :=
  ∀ world failure, run.Fails world failure → allowed failure

variable {allowed : Failure → Prop}

theorem RaisesOnly.pure (value : α) : RaisesOnly allowed (Pure.pure value) :=
  fun _ _ failed => absurd failed not_fails_pure

theorem RaisesOnly.fail (isAllowed : allowed failure) :
    RaisesOnly allowed (Run.fail failure : Run α) := by
  intro world raised failed
  rwa [fails_fail.mp failed]

theorem RaisesOnly.get : RaisesOnly allowed (get : Run World) :=
  fun world _ failed => absurd failed (not_fails_of_ok (get_eq world))

theorem RaisesOnly.set (after : World) :
    RaisesOnly allowed (set after : Run PUnit) :=
  fun _ _ failed => absurd failed (not_fails_of_ok rfl)

theorem RaisesOnly.modify (change : World → World) :
    RaisesOnly allowed (modify change : Run PUnit) :=
  fun _ _ failed => absurd failed (not_fails_of_ok rfl)

theorem RaisesOnly.log (level : Log.Level) (source : Log.Source)
    (message : String) : RaisesOnly allowed (Run.log level source message) :=
  fun _ _ failed => absurd failed (not_fails_of_ok rfl)

theorem RaisesOnly.start (call : Tool.Call) :
    RaisesOnly allowed (Run.start call) :=
  fun world _ failed => absurd failed (not_fails_of_ok (start_eq call world))

theorem RaisesOnly.bind (first : RaisesOnly allowed run)
    (onward : ∀ value, RaisesOnly allowed (next value)) :
    RaisesOnly allowed (run >>= next) := by
  intro world failure failed
  rcases fails_bind.mp failed with failed | ⟨value, middle, -, failed⟩
  · exact first world failure failed
  · exact onward value middle failure failed

theorem RaisesOnly.within (enter : Log.Context → Log.Context × Log.Scope)
    (body : RaisesOnly allowed run) :
    RaisesOnly allowed (Run.within enter run) :=
  fun _ failure failed => body _ failure (fails_within.mp failed)

theorem RaisesOnly.inPhase (phase : String) (body : RaisesOnly allowed run) :
    RaisesOnly allowed (Run.inPhase phase run) :=
  body.within _

/-- The run never fails. -/
abbrev Infallible (run : Run α) : Prop :=
  RaisesOnly (fun _ => False) run

theorem Infallible.raisesOnly (infallible : Infallible run) :
    RaisesOnly allowed run :=
  fun world failure failed => (infallible world failure failed).elim

theorem Infallible.exists_ok (infallible : Infallible run) (world : World) :
    ∃ value after, run world = .ok value after := by
  rcases ok_or_fails run world with succeeded | ⟨failure, failed⟩
  · exact succeeded
  · exact (infallible world failure failed).elim

/-- A run that never fails and only writes to the log does not decide whether
what follows it fails. -/
theorem Infallible.fails_bind_iff {condition : Prop}
    (infallible : Infallible run) (keeps : Keeps (SameButLog world) run)
    (onward : ∀ value middle, SameButLog world middle →
      ((next value).Fails middle failure ↔ condition)) :
    (run >>= next).Fails world failure ↔ condition := by
  obtain ⟨value, middle, succeeded⟩ := infallible.exists_ok world
  rw [fails_bind_of_ok succeeded]
  exact onward value middle (keeps.sameButLog succeeded)

/-- No fault escapes from the run. -/
abbrev Faultless (run : Run α) : Prop :=
  RaisesOnly (fun failure => failure.isForeseen = true) run

theorem Faultless.not_fails {fault : Fault} (faultless : Faultless run) :
    ¬ run.Fails world (.fault fault) := by
  intro failed
  have foreseen := faultless world _ failed
  cases foreseen

theorem fails_bind_of_faultless {fault : Fault}
    (onward : ∀ value, Faultless (next value)) :
    (run >>= next).Fails world (.fault fault) ↔
      run.Fails world (.fault fault) :=
  fails_bind_of_not_fails fun value _ => (onward value).not_fails

end Run

end SwiftInterface
