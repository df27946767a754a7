import SwiftInterface.Proofs.Generation.Phases

/-!
# Runs in two worlds

Two worlds are twins if a run finds in the second what it found in the first:
they are on the same machine and have the same working folder and the same
outcomes of programs to come, and the files of the second offer what those of the
first did.  A run *follows* if
its success in one world means the same success in a twin.  Everything that
composes an interface follows, as long as the folder to build in is still there
and the dump still has its content.
-/

namespace SwiftInterface

open Files Run

namespace Run

variable {α β : Type}

/-- The second world can stand in for the first, as far as the files offer what
is asked for. -/
structure Twin (offers : Location → Tree → Tree → Prop)
    (first second : World) : Prop where
  machine : second.machine = first.machine
  here : second.here = first.here
  script : second.script = first.script
  files : offers first.here first.files second.files

/-- The run succeeds in a twin as it does in a world, and leaves twins. -/
def Follows (offers : Location → Tree → Tree → Prop) (run : Run α) : Prop :=
  ∀ first second, Twin offers first second → ∀ value after,
    run first = .ok value after →
      ∃ other, run second = .ok value other ∧ Twin offers after other

variable {offers : Location → Tree → Tree → Prop}

theorem Twin.of_sameButLog {first second after other : World}
    (twin : Twin offers first second) (same : SameButLog first after)
    (sameOther : SameButLog second other) : Twin offers after other := by
  constructor
  · rw [sameOther.machine, same.machine, twin.machine]
  · rw [sameOther.here, same.here, twin.here]
  · rw [sameOther.script, same.script, twin.script]
  · rw [same.here, same.files, sameOther.files]
    exact twin.files

theorem Follows.pure (value : α) : Follows offers (Pure.pure value) := by
  intro first second twin result after succeeded
  obtain ⟨rfl, rfl⟩ := pure_eq_ok.mp succeeded
  exact ⟨second, rfl, twin⟩

theorem Follows.fail (failure : Failure) :
    Follows offers (Run.fail failure : Run α) :=
  fun _ _ _ _ _ succeeded => absurd succeeded fail_ne_ok

theorem Follows.bind {run : Run α} {next : α → Run β}
    (follows : Follows offers run)
    (followsOn : ∀ value, Follows offers (next value)) :
    Follows offers (run >>= next) := by
  intro first second twin result after succeeded
  obtain ⟨value, middle, ran, succeeded⟩ := bind_eq_ok.mp succeeded
  obtain ⟨otherMiddle, otherRan, middleTwin⟩ :=
    follows first second twin value middle ran
  obtain ⟨other, otherSucceeded, afterTwin⟩ :=
    followsOn value middle otherMiddle middleTwin result after succeeded
  exact ⟨other, (bind_ok otherRan).trans otherSucceeded, afterTwin⟩

/-- What is read off the world at first may depend on the machine. -/
theorem Follows.get_bind {next : World → Run α}
    (alike : ∀ first second : World, second.machine = first.machine →
      next second = next first)
    (follows : ∀ world, Follows offers (next world)) :
    Follows offers (get >>= next) := by
  intro first second twin result after succeeded
  rw [bind_ok (get_eq first)] at succeeded
  rw [bind_ok (get_eq second), alike first second twin.machine]
  exact follows first first second twin result after succeeded

theorem Follows.log (level : Log.Level) (source : Log.Source)
    (message : String) : Follows offers (Run.log level source message) := by
  intro first second twin result after succeeded
  obtain ⟨-, rfl⟩ := EStateM.Result.ok.inj succeeded
  exact ⟨_, rfl, twin.of_sameButLog (sameButLog_log first level source message _)
    (sameButLog_log second level source message _)⟩

theorem Follows.inPhase (phase : String) {body : Run α}
    (follows : Follows offers body) :
    Follows offers (Run.inPhase phase body) := by
  intro first second twin result after succeeded
  cases ran : body { first with context := (first.context.enterPhase phase).1 }
    with
  | error failure inner =>
      rw [Run.inPhase, within_of_error ran] at succeeded
      cases succeeded
  | ok value inner =>
      rw [Run.inPhase, within_of_ok ran] at succeeded
      obtain ⟨rfl, rfl⟩ := EStateM.Result.ok.inj succeeded
      have entered := twin.of_sameButLog
        (sameButLog_context first (first.context.enterPhase phase).1)
        (sameButLog_context second (second.context.enterPhase phase).1)
      obtain ⟨other, otherRan, innerTwin⟩ := follows _ _ entered value inner ran
      exact ⟨_, within_of_ok otherRan, innerTwin.of_sameButLog
        (sameButLog_context inner _) (sameButLog_context other _)⟩

theorem Follows.start (call : Tool.Call) :
    Follows offers (Run.start call) := by
  intro first second twin result after succeeded
  rw [start_eq] at succeeded
  obtain ⟨rfl, rfl⟩ := EStateM.Result.ok.inj succeeded
  have started := start_eq call second
  rw [twin.script] at started
  have sameRest : second.script.tail = first.script.tail := by
    rw [twin.script]
  exact ⟨_, started, twin.machine, twin.here, sameRest, twin.files⟩

end Run

variable {offers : Location → Tree → Tree → Prop}

namespace Dump

theorem logNotes_follows (notes : List Note) :
    Follows offers (logNotes notes) := by
  induction notes with
  | nil => exact .pure ()
  | cons note notes ih =>
      have logged : Follows offers (logNote note) := by
        cases note with
        | skippedFile path => exact .log _ _ _
        | loadedFile path => exact .log _ _ _
        | skippedEntry typeName => exact .log _ _ _
      exact logged.bind fun _ => ih

theorem forestOf_follows (payload : Json) :
    Follows offers (forestOf payload) := by
  unfold forestOf
  split
  · exact .fail _
  · exact (logNotes_follows _).bind fun _ => .pure _

theorem forestWithin_follows (payload : Json) :
    Follows offers (forestWithin payload) := by
  refine .get_bind (fun first second same => by rw [same]) fun world => ?_
  split
  · exact forestOf_follows payload
  · exact (logNotes_follows _).bind fun _ => .fail _

theorem decode_follows (text : String) (describe : String → ProducerFailure) :
    Follows offers (decode text describe) := by
  refine .get_bind (fun first second same => by rw [same]) fun world => ?_
  split
  · exact .pure _
  · exact .fail _
  · exact .fail _
  · exact .fail _

theorem readText_follows {path : String}
    (offersText : ∀ here before after, offers here before after →
      ∀ content, before.read here path = .ok content →
        after.read here path = .ok content) :
    Follows offers (readText path) := by
  intro first second twin text after succeeded
  obtain ⟨content, reads, decoded⟩ := readText_eq_ok succeeded
  have same := (readText_keeps path).sameButLog succeeded
  have otherReads := offersText _ _ _ twin.files content reads
  rw [← twin.here] at otherReads
  refine ⟨second, ?_, twin.of_sameButLog same (.refl second)⟩
  rw [readText, bind_ok (get_eq second), otherReads]
  simp only [decoded]
  rfl

theorem load_follows {path : String}
    (offersText : ∀ here before after, offers here before after →
      ∀ content, before.read here (tidy path) = .ok content →
        after.read here (tidy path) = .ok content) :
    Follows offers (load path) := by
  refine (readText_follows offersText).bind fun text => ?_
  refine (decode_follows text _).bind fun payload => ?_
  refine (forestWithin_follows payload).bind fun forest => ?_
  exact (Follows.log _ _ _).bind fun _ => .pure forest

end Dump

namespace Tool

namespace Indexer

theorem folderPath_follows
    (offersFolder : ∀ here before after, offers here before after →
      ∀ path, before.isFolder here path = true →
        after.isFolder here path = true)
    (folder : Option Folder) : Follows offers (folderPath folder) := by
  cases folder with
  | none => exact .pure none
  | some folder =>
      cases folder with
      | nameless => exact .fail _
      | named path =>
          intro first second twin found after succeeded
          obtain ⟨_, _, got, succeeded⟩ := bind_eq_ok.mp succeeded
          obtain ⟨rfl, rfl⟩ := EStateM.Result.ok.inj got
          split at succeeded
          case isFalse => exact absurd succeeded fail_ne_ok
          case isTrue isFolder =>
              obtain ⟨rfl, rfl⟩ := pure_eq_ok.mp succeeded
              have otherFolder := offersFolder _ _ _ twin.files path isFolder
              rw [← twin.here] at otherFolder
              refine ⟨second, bind_eq_ok.mpr ⟨second, second, rfl, ?_⟩, twin⟩
              rw [if_pos otherFolder]
              rfl

theorem document_follows
    (offersFolder : ∀ here before after, offers here before after →
      ∀ path, before.isFolder here path = true →
        after.isFolder here path = true)
    (indexer : Indexer) (subject : Subject) :
    Follows offers (indexer.document subject) := by
  refine (folderPath_follows offersFolder _).bind fun folder => ?_
  refine (Follows.log _ _ _).bind fun _ => ?_
  refine (Follows.start _).bind fun outcome => ?_
  have finished : Follows offers (indexer.outputOf subject outcome) := by
    cases outcome with
    | finished output => exact .pure output
    | exited status errorOutput => exact .fail _
    | missing => exact .fail _
    | timedOut => exact .fail _
    | denied => exact .fail _
    | troubled trouble => exact .fail _
  refine finished.bind fun output => ?_
  refine (Dump.decode_follows output _).bind fun payload => ?_
  refine (Dump.forestWithin_follows payload).bind fun forest => ?_
  split
  · exact .fail _
  · exact (Follows.log _ _ _).bind fun _ => .pure forest

end Indexer

theorem SourceFormatter.handOver_follows (text : String) (outcome : Outcome) :
    Follows offers (handOver text outcome) := by
  refine .get_bind (fun first second same => by rw [same]) fun world => ?_
  split
  · exact .pure ()
  · split
    · exact .fail _
    · exact .pure ()

theorem Formatter.format_follows (formatter : Formatter) (text : String) :
    Follows offers (formatter.format text) := by
  cases formatter with
  | identity => exact .pure text
  | program formatter =>
      refine (Follows.log _ _ _).bind fun _ => ?_
      refine (Follows.start _).bind fun outcome => ?_
      refine (SourceFormatter.handOver_follows text outcome).bind fun _ => ?_
      cases outcome with
      | finished output => exact .pure output
      | exited status errorOutput => exact .fail _
      | missing => exact .fail _
      | timedOut => exact .fail _
      | denied => exact .fail _
      | troubled trouble => exact .fail _

end Tool

theorem Interface.compose_follows (blocks : List String) (moduleName : String)
    (formatter : Tool.Formatter) :
    Follows offers (Interface.compose blocks moduleName formatter) := by
  have assembled : Follows offers
      (Interface.assembleLogged blocks moduleName) := by
    unfold Interface.assembleLogged
    split
    · exact (Follows.log _ _ _).bind fun _ => .pure _
    · exact .pure _
  refine assembled.bind fun text => ?_
  refine (Follows.log _ _ _).bind fun _ => ?_
  exact formatter.format_follows text

theorem Render.logDrops_follows (halves : Text.Halves)
    (drops : List Render.Drop) :
    Follows offers (Render.logDrops halves drops) := by
  induction drops with
  | nil => exact .pure ()
  | cons drop drops ih => exact (Follows.log _ _ _).bind fun _ => ih

namespace Generation

theorem requireRoom_follows (generation : Generation) (forest : Forest) :
    Follows offers (generation.requireRoom forest) := by
  refine .get_bind (fun first second same => by rw [same]) fun world => ?_
  dsimp only
  split
  · exact .pure ()
  · exact (Render.logDrops_follows _ _).bind fun _ => .fail _

theorem renderBlocks_follows (generation : Generation) (forest : Forest) :
    Follows offers (generation.renderBlocks forest) := by
  refine (requireRoom_follows generation forest).bind fun _ => ?_
  refine Follows.bind ?_ fun _ => (Follows.log _ _ _).bind fun _ => .pure _
  refine .get_bind (fun first second same => by rw [same]) fun world => ?_
  refine (Render.logDrops_follows _ _).bind fun _ => ?_
  exact (Follows.log _ _ _).bind fun _ => .pure _

/-- What composing an interface needs of the files: the folders that were there,
and the content of the dump, if one is given. -/
structure Offers (dump : Option String) (here : Location)
    (before after : Tree) : Prop where
  folders : ∀ path, before.isFolder here path = true →
    after.isFolder here path = true
  dump : ∀ path content, given? dump = some path →
    before.read here (tidy path) = .ok content →
      after.read here (tidy path) = .ok content

theorem obtainForest_follows (generation : Generation)
    (indexer : Tool.Indexer) :
    Follows (Offers generation.inputDump)
      (generation.obtainForest indexer) := by
  unfold obtainForest
  cases given : given? generation.inputDump with
  | some path =>
      exact Dump.load_follows fun here before after offers content reads =>
        offers.dump path content given reads
  | none =>
      intro first second twin forest after succeeded
      have samePath : second.herePath = first.herePath := by
        rw [World.herePath, World.herePath, twin.here]
      have documented := Tool.Indexer.document_follows
        (fun _ _ _ (offers : Offers generation.inputDump _ _ _) =>
          offers.folders) indexer
        (generation.subject
          (generation.inputFolder.getD (.named first.herePath)))
      dsimp only at succeeded ⊢
      rw [bind_ok (get_eq first)] at succeeded
      rw [bind_ok (get_eq second), samePath]
      exact documented first second twin forest after succeeded

/-- An interface that is composed in one world is composed in a twin. -/
theorem compose_follows (generation : Generation) (indexer : Tool.Indexer)
    (formatter : Tool.Formatter) :
    Follows (Offers generation.inputDump)
      (generation.compose indexer formatter) := by
  have produced : Follows (Offers generation.inputDump)
      (generation.produceForest indexer) := by
    refine (obtainForest_follows generation indexer).bind fun forest => ?_
    split
    · exact .fail _
    · exact .pure forest
  refine (produced.inPhase _).bind fun forest => ?_
  refine ((renderBlocks_follows generation forest).inPhase _).bind
    fun rendered => ?_
  refine Follows.bind ?_ fun contents => .pure _
  exact (Interface.compose_follows _ _ formatter).inPhase _

end Generation

end SwiftInterface
