import SwiftInterface.Proofs.Generation.Phases
import SwiftInterface.Proofs.Json.UnifiedReading

/-!
# Dumps and the indexer as sources

The declarations of a generation come from a dump that was saved to a file or
from a run of the indexer.  The two decode the same text in different places: a
dump is read with unified line ends, and an empty forest is refused by the
indexer itself but only after the loading of a dump.  Neither matters: from a
text that was saved and from the same text as the output of the indexer, a
generation on one machine gets the same declarations or a failure of the same
kind.
-/

namespace SwiftInterface

/-- The kinds of failures.  Failures of one kind differ in their wording
only. -/
inductive Failure.Kind where
  | producer
  | format
  | output
  | settings
  /-- An operation on a file or program was refused. -/
  | refused (refusal : Files.Refusal)
  /-- Bytes are not UTF-8. -/
  | undecodable
  /-- A text cannot be written as UTF-8. -/
  | unencodable
  /-- A program cannot be started. -/
  | unstarted (number : Nat)
  /-- Something nests too deeply. -/
  | recursion
  /-- A value is not acceptable. -/
  | value
  /-- A value has the wrong type. -/
  | type
  /-- A number is too large. -/
  | overflow
  /-- A text has no such character. -/
  | index
  /-- A table has no such entry. -/
  | key
  /-- A value has no such part. -/
  | attribute
deriving DecidableEq, Repr, Inhabited

/-- The kind of a trouble with a program. -/
def Tool.Trouble.kind : Trouble → Failure.Kind
  | refused number _ => .unstarted number
  | nullCharacter => .value
  | unencodableArgument _ => .unencodable
  | endlessTime _ => .overflow
  | undecodableOutput _ => .undecodable

/-- The kind of a fault. -/
def Fault.kind : Fault → Failure.Kind
  | refused ⟨.nullCharacter, _⟩ => .value
  | refused ⟨.tooDeep, _⟩ => .recursion
  | refused error => .refused error.refusal
  | program _ trouble => trouble.kind
  | tooDeep _ => .recursion
  | unencodable _ => .unencodable
  | undecodable _ => .undecodable
  | infiniteNumber | codePointOverflow | integerTooLarge => .overflow
  | namelessOutput | namelessInput | timeOfCollection => .type
  | emptyNumber => .index
  | notFlag _ => .key
  | notTime => .attribute
  | unreadableInteger _ | unwritableInteger | calendar _ | notInteger _ _
  | notFloat _ | codePointTooLarge => .value

/-- The kind of a failure. -/
def Failure.kind : Failure → Kind
  | producer _ => .producer
  | format _ => .format
  | output _ => .output
  | settings _ => .settings
  | fault cause => cause.kind

namespace Run

variable {α β : Type}

/-- What a run comes to: its value, or the kind of its failure. -/
def outcome (run : Run α) (world : World) : Except Failure.Kind α :=
  match run world with
  | .ok value _ => .ok value
  | .error failure _ => .error failure.kind

theorem outcome_bind_of_ok {run : Run α} {next : α → Run β}
    {world middle : World} {value : α}
    (succeeded : run world = .ok value middle) :
    (run >>= next).outcome world = (next value).outcome middle := by
  rw [outcome, bind_ok succeeded, outcome]

/-- The world is on a machine. -/
def On (machine : Machine) (world : World) : Prop :=
  world.machine = machine

theorem stepBlind_on (machine : Machine) : StepBlind (On machine) where
  log.record world level source message _ on :=
    (sameButLog_log world level source message none).machine.trans on
  tool _ _ on := on

/-- The run comes to the same in every world on a machine and leaves it
there. -/
structure ComesTo (machine : Machine) (run : Run α)
    (result : Except Failure.Kind α) : Prop where
  outcome_eq : ∀ world, On machine world → run.outcome world = result
  keeps : Keeps (On machine) run

variable {machine : Machine}

theorem ComesTo.pure (value : α) :
    ComesTo machine (Pure.pure value) (.ok value) :=
  ⟨fun _ _ => rfl, .pure value⟩

theorem ComesTo.fail (failure : Failure) :
    ComesTo machine (Run.fail failure : Run α) (.error failure.kind) :=
  ⟨fun _ _ => rfl, .fail failure⟩

theorem ComesTo.log {level : Log.Level} (noError : level ≠ .error)
    (source : Log.Source) (message : String) :
    ComesTo machine (Run.log level source message) (.ok ()) :=
  ⟨fun _ _ => rfl, .log (stepBlind_on machine).log noError source message⟩

/-- What is read off the world at first depends on the machine only. -/
theorem ComesTo.get_bind {next : World → Run α}
    {result : Except Failure.Kind α}
    (onward : ∀ world, On machine world → ComesTo machine (next world) result) :
    ComesTo machine (get >>= next) result :=
  ⟨fun world on => (onward world on).outcome_eq world on,
    fun world on => (onward world on).keeps world on⟩

theorem outcome_bind {run : Run α} {next : α → Run β}
    {onward : α → Except Failure.Kind β} (keeps : Keeps (On machine) run)
    (second : ∀ value, ComesTo machine (next value) (onward value))
    {world : World} (on : On machine world) :
    (run >>= next).outcome world = run.outcome world >>= onward := by
  have kept := keeps world on
  cases ran : run world with
  | ok value middle =>
      rw [after_of_ok ran] at kept
      rw [outcome_bind_of_ok ran, (second value).outcome_eq middle kept,
        outcome, ran]
      rfl
  | error failure middle =>
      rw [outcome, outcome, bind_eq_error.mpr (.inl ran), ran]
      rfl

theorem ComesTo.bind {run : Run α} {next : α → Run β}
    {result : Except Failure.Kind α} {onward : α → Except Failure.Kind β}
    (first : ComesTo machine run result)
    (second : ∀ value, ComesTo machine (next value) (onward value)) :
    ComesTo machine (run >>= next) (result >>= onward) where
  outcome_eq world on := by
    rw [outcome_bind first.keeps second on, first.outcome_eq world on]
  keeps := first.keeps.bind fun value => (second value).keeps

end Run

open Run

/-! ## The declarations in a text -/

namespace Dump

variable {machine : Machine}

theorem readText_of_decoded {path text : String} {content : ByteArray}
    {world : World} (reads : world.files.read world.here path = .ok content)
    (decoded : fileText content = .ok text) :
    readText path world = .ok text world := by
  refine bind_eq_ok.mpr ⟨world, world, rfl, ?_⟩
  rw [reads]
  simp only [decoded]
  rfl

end Dump

/-! ## The output of the indexer -/

namespace Tool

/-- The folder of a subject, if it has one, has a name and exists. -/
def Subject.FolderExists (subject : Subject) (world : World) : Prop :=
  ∀ folder ∈ subject.folder?, ∃ path, folder = .named path ∧
    world.files.isFolder world.here path = true

namespace Indexer

theorem exists_folderPath {subject : Subject} {world : World}
    (folderExists : subject.FolderExists world) :
    ∃ folder, folderPath subject.folder? world = .ok folder world := by
  cases asked : subject.folder? with
  | none => exact ⟨none, rfl⟩
  | some folder =>
      obtain ⟨path, rfl, isFolder⟩ := folderExists folder asked
      refine ⟨some path, bind_eq_ok.mpr ⟨world, world, rfl, ?_⟩⟩
      rw [if_pos isFolder]
      rfl

end Indexer

end Tool

/-! ## Both sources -/

namespace Generation

variable {generation : Generation}

/-- What the indexer would document in a world. -/
def subjectIn (generation : Generation) (world : World) : Tool.Subject :=
  generation.subject (generation.inputFolder.getD (.named world.herePath))

end Generation

end SwiftInterface
