import SwiftInterface.Proofs.Generation.Delivery
import SwiftInterface.Proofs.Generation.SourceFaults
import SwiftInterface.Proofs.Render.Descent
import SwiftInterface.Proofs.Store.Repetition

/-!
# The failures of a generation

A generation documents three sorts of failures: no declarations could be
produced, the text could not be formatted, the files could not be changed.  A
fault escapes from it where one of its phases does not expect a problem.  This
file adds the faults of the renderer, the formatter and the store to those of
the sources: declarations that nest too deeply, programs that cannot be run,
texts with halves, and paths that the system is not even asked about.  It says
for the whole run when a fault escapes; in all other cases a generation succeeds
or fails as documented.
-/

namespace SwiftInterface

open Run

variable {world : World} {fault : Fault}

/-! ## Formatting -/

namespace Tool

/-- A fault that escapes from a formatter that works on a text, going by what
has become of its program.  The text is handed over first, if the program was
started. -/
inductive Formatter.Escapes (machine : Machine) (text : String)
    (outcome : Outcome) : Formatter → Fault → Prop
  | unencodable {program : SourceFormatter} {fault : Text.EncodeFault}
      (started : outcome.wasStarted = true)
      (halved : machine.halves.encodeFault? text = some fault) :
      Formatter.Escapes machine text outcome (.program program)
        (.unencodable fault)
  | denied {program : SourceFormatter} (denied : outcome = .denied) :
      Formatter.Escapes machine text outcome (.program program)
        (.refused ⟨.denied, program.executable⟩)
  | troubled {program : SourceFormatter} {trouble : Trouble}
      (troubled : outcome = .troubled trouble)
      (handed : trouble.afterStart = true →
        machine.halves.encodeFault? text = none) :
      Formatter.Escapes machine text outcome (.program program)
        (.program program.executable trouble)

variable {formatter : Formatter} {text : String} {outcome : Outcome}

namespace SourceFormatter

variable {program : SourceFormatter}

theorem outputOf_raisesOnly (program : SourceFormatter) (outcome : Outcome) :
    RaisesOnly Failure.Raisable (program.outputOf outcome) := by
  cases outcome with
  | finished output => exact .pure output
  | exited status errorOutput => exact .documented (.format _)
  | missing => exact .documented (.format _)
  | timedOut => exact .documented (.format _)
  | denied => exact .fault _
  | troubled trouble => exact .fault _

theorem handOver_raisesOnly (text : String) (outcome : Outcome) :
    RaisesOnly Failure.Raisable (handOver text outcome) := by
  refine RaisesOnly.get.bind fun world => ?_
  split
  · exact .pure ()
  · split
    · exact .fault _
    · exact .pure ()

theorem outputOf_fails_fault_iff :
    (program.outputOf outcome).Fails world (.fault fault) ↔
      outcome = .denied ∧ fault = .refused ⟨.denied, program.executable⟩ ∨
        ∃ trouble, outcome = .troubled trouble ∧
          fault = .program program.executable trouble := by
  cases outcome with
  | finished output => simp [outputOf, not_fails_pure]
  | exited status errorOutput => simp [outputOf, fails_fail]
  | missing => simp [outputOf, fails_fail]
  | timedOut => simp [outputOf, fails_fail]
  | denied => simp [outputOf, fails_fail]
  | troubled trouble => simp [outputOf, fails_fail]

theorem handOver_eq (text : String) (outcome : Outcome) (world : World) :
    handOver text outcome world =
      match world.machine.halves.encodeFault? text with
      | none => .ok () world
      | some fault =>
          if outcome.wasStarted then .error (.fault (.unencodable fault)) world
          else .ok () world := by
  rw [handOver, bind_ok (get_eq world)]
  cases world.machine.halves.encodeFault? text with
  | none => rfl
  | some fault =>
      dsimp only
      split
      · rfl
      · rfl

/-- What becomes of a program shows once the text is handed over. -/
theorem handled_fails_fault_iff :
    (handOver text outcome >>= fun _ => program.outputOf outcome).Fails world
        (.fault fault) ↔
      (Formatter.program program).Escapes world.machine text outcome fault := by
  have handing := handOver_eq text outcome world
  -- Nothing is handed over to a program that was not started.
  have handled (handed : handOver text outcome world = .ok () world)
      (clear : outcome.wasStarted = true →
        world.machine.halves.encodeFault? text = none) :
      (handOver text outcome >>= fun _ => program.outputOf outcome).Fails world
          (.fault fault) ↔
        (Formatter.program program).Escapes world.machine text outcome
          fault := by
    rw [fails_bind_of_ok handed, outputOf_fails_fault_iff]
    constructor
    · rintro (⟨denied, rfl⟩ | ⟨trouble, troubled, rfl⟩)
      · exact .denied denied
      · exact .troubled troubled fun started => clear (troubled ▸ started)
    · intro escapes
      cases escapes with
      | unencodable started halved => simp [clear started] at halved
      | denied denied => exact .inl ⟨denied, rfl⟩
      | troubled troubled handed => exact .inr ⟨_, troubled, rfl⟩
  cases halved : world.machine.halves.encodeFault? text with
  | none =>
      rw [halved] at handing
      exact handled handing fun _ => halved
  | some encodeFault =>
      rw [halved] at handing
      cases started : outcome.wasStarted with
      | false =>
          rw [started] at handing
          exact handled handing fun isStarted => by
            simp [started] at isStarted
      | true =>
          rw [started] at handing
          rw [fails_bind_of_fails ⟨world, handing⟩, Failure.fault.injEq]
          constructor
          · rintro rfl
            exact .unencodable started halved
          · intro escapes
            cases escapes with
            | unencodable _ halvedToo =>
                rw [halved] at halvedToo
                rw [Option.some.inj halvedToo]
            | denied denied => simp [denied, Outcome.wasStarted] at started
            | troubled troubled handed =>
                rw [troubled] at started
                simp [handed started] at halved

end SourceFormatter

theorem Formatter.format_raisesOnly (formatter : Formatter) (text : String) :
    RaisesOnly Failure.Raisable (formatter.format text) := by
  cases formatter with
  | identity => exact .pure text
  | program program =>
      refine (RaisesOnly.log _ _ _).bind fun _ => ?_
      refine (RaisesOnly.start _).bind fun outcome => ?_
      exact (SourceFormatter.handOver_raisesOnly text outcome).bind fun _ =>
        program.outputOf_raisesOnly outcome

theorem Formatter.format_fails_fault_iff :
    (formatter.format text).Fails world (.fault fault) ↔
      formatter.Escapes world.machine text (world.script.headD .missing)
        fault := by
  cases formatter with
  | identity => exact iff_of_false not_fails_pure nofun
  | program program =>
      have logged (message : String) :=
        sameButLog_log world .debug .formatter message none
      rw [Formatter.format, SourceFormatter.format, Run.debug, fails_log_bind,
        fails_bind_of_ok (start_eq _ _), SourceFormatter.handled_fails_fault_iff,
        started, (logged _).script, (logged _).machine]

end Tool

namespace Interface

variable {blocks : List String} {moduleName : String}
  {formatter : Tool.Formatter}

theorem assembleLogged_infallible (blocks : List String)
    (moduleName : String) : Infallible (assembleLogged blocks moduleName) := by
  rw [assembleLogged]
  split
  · exact (RaisesOnly.log _ _ _).bind fun _ => .pure _
  · exact .pure _

theorem compose_raisesOnly (blocks : List String) (moduleName : String)
    (formatter : Tool.Formatter) :
    RaisesOnly Failure.Raisable (compose blocks moduleName formatter) := by
  have assembling := assembleLogged_infallible blocks moduleName
  refine assembling.raisesOnly.bind fun text => ?_
  refine (RaisesOnly.log _ _ _).bind fun _ => ?_
  exact formatter.format_raisesOnly text

theorem compose_fails_fault_iff :
    (compose blocks moduleName formatter).Fails world (.fault fault) ↔
      formatter.Escapes world.machine (assemble blocks moduleName)
        (world.script.headD .missing) fault := by
  have infallible := assembleLogged_infallible blocks moduleName
  obtain ⟨text, middle, assembled⟩ := infallible.exists_ok world
  have same := (assembleLogged_keeps
    (logBlind_sameButLog world).recordBlind blocks moduleName).sameButLog
      assembled
  have logged (message : String) :=
    sameButLog_log middle .info .assembler message none
  obtain rfl := assembleLogged_eq_ok assembled
  rw [compose, fails_bind_of_ok assembled, Run.info, fails_log_bind,
    Tool.Formatter.format_fails_fault_iff, (logged _).script,
    (logged _).machine, same.script, same.machine]

end Interface

/-! ## The store -/

namespace Store

variable {folder moduleName contents : String} {error : Files.Error}

theorem folderPath_raisesOnly (folder : Files.Folder) :
    RaisesOnly Failure.Raisable (folderPath folder) := by
  cases folder with
  | named path => exact .pure path
  | nameless => exact .fault _

theorem failureOf_raisable (cause : Files.Error → OutputFailure)
    (error : Files.Error) : (failureOf cause error).Raisable := by
  rw [failureOf]
  split
  · exact .inl (.output _)
  · exact .inr ⟨_, rfl⟩

theorem failureOf_eq_fault_iff {cause : Files.Error → OutputFailure} :
    failureOf cause error = .fault fault ↔
      error.refusal.isOfSystem = false ∧ fault = .refused error := by
  rw [failureOf]
  split
  case isTrue ofSystem => simp [ofSystem]
  case isFalse other => simp [other, eq_comm]

theorem remove_raisesOnly {allowed : Failure → Prop}
    (output : ∀ cause, allowed (.output cause)) (folder moduleName : String) :
    RaisesOnly allowed (remove folder moduleName) := by
  have notFound : RaisesOnly allowed (remove.notFound folder moduleName) :=
    (RaisesOnly.log _ _ _).bind fun _ => .pure false
  refine RaisesOnly.get.bind fun world => ?_
  split
  · exact notFound
  · split
    · refine (RaisesOnly.log _ _ _).bind fun _ => ?_
      split
      · exact .fail (output _)
      · exact (RaisesOnly.modify _).bind fun _ => .pure true
    · exact notFound

theorem createFolder_raisesOnly (folder : String) :
    RaisesOnly Failure.Raisable (createFolder folder) := by
  rw [createFolder]
  split
  · exact .pure ()
  · refine RaisesOnly.get.bind fun world => ?_
    refine (RaisesOnly.set _).bind fun _ => ?_
    split
    · exact .pure ()
    · exact .fail (failureOf_raisable _ _)

theorem openFile_raisesOnly (path : String) :
    RaisesOnly Failure.Raisable (openFile path) := by
  refine RaisesOnly.get.bind fun world => ?_
  split
  · exact .fail (failureOf_raisable _ _)
  · exact (RaisesOnly.set _).bind fun _ => .pure _

theorem encode_raisesOnly (contents : String) :
    RaisesOnly Failure.Raisable (encode contents) := by
  refine RaisesOnly.get.bind fun world => ?_
  split
  · exact .pure _
  · exact .fault _

theorem fill_raisesOnly (path : String) (location : Files.Location)
    (content : ByteArray) :
    RaisesOnly Failure.Raisable (fill path location content) := by
  refine RaisesOnly.get.bind fun world => ?_
  split
  · exact .set _
  · exact (RaisesOnly.set _).bind fun _ => .fail (failureOf_raisable _ _)

theorem write_raisesOnly (folder moduleName contents : String) :
    RaisesOnly Failure.Raisable (write folder moduleName contents) := by
  refine (createFolder_raisesOnly folder).bind fun _ => ?_
  refine (openFile_raisesOnly _).bind fun location => ?_
  refine (encode_raisesOnly contents).bind fun content => ?_
  refine (fill_raisesOnly _ location content).bind fun _ => ?_
  exact (RaisesOnly.log _ _ _).bind fun _ => .pure _

/-- A fault that escapes from writing the interface of a module.  Contents with
halves are refused once the file is open. -/
inductive WriteEscapes (machine : Machine) (tree : Files.Tree)
    (here : Files.Location) (moduleName contents : String) :
    Files.Folder → Fault → Prop
  | nameless :
      WriteEscapes machine tree here moduleName contents .nameless
        .namelessOutput
  | folder {path : String} {error : Files.Error} (given : path ≠ "")
      (refused : (tree.createFolder machine.reach.folders here path).1 =
        .error error)
      (unforeseen : error.refusal.isOfSystem = false) :
      WriteEscapes machine tree here moduleName contents (.named path)
        (.refused error)
  | file {path : String} {opened : Files.Tree}
      (opens : Opens machine.reach.folders here path tree opened)
      (null : '\x00' ∈ (interfacePath path moduleName).toList) :
      WriteEscapes machine tree here moduleName contents (.named path)
        (.refused ⟨.nullCharacter, interfacePath path moduleName⟩)
  | contents {path : String} {opened : Files.Tree} {location : Files.Location}
      {fault : Text.EncodeFault}
      (opens : Opens machine.reach.folders here path tree opened)
      (target : opened.writeTarget here (interfacePath path moduleName) =
        .ok location)
      (halved : machine.halves.encodeFault? contents = some fault) :
      WriteEscapes machine tree here moduleName contents (.named path)
        (.unencodable fault)

/-- A folder is created, or its creation is refused. -/
theorem createFolder_outcome (folder : String) (world : World) :
    (∃ after, createFolder folder world = .ok () after) ∨
      (folder ≠ "" ∧ ∃ error,
        (world.files.createFolder world.machine.reach.folders world.here
            folder).1 = .error error ∧
          (createFolder folder).Fails world
            (failureOf (.folderRefused folder) error)) := by
  by_cases empty : folder = ""
  · refine .inl ⟨world, ?_⟩
    rw [createFolder, if_pos empty]
    rfl
  rcases created : world.files.createFolder world.machine.reach.folders
      world.here folder with ⟨result, files⟩
  cases result with
  | ok made =>
      refine .inl ⟨{ world with files }, ?_⟩
      rw [createFolder, if_neg empty, bind_ok (get_eq world), created]
      rfl
  | error error =>
      refine .inr ⟨empty, error, rfl, { world with files }, ?_⟩
      rw [createFolder, if_neg empty, bind_ok (get_eq world), created]
      rfl

theorem Opens.ne_error {room : Nat} {tree opened : Files.Tree}
    {here : Files.Location} (opens : Opens room here folder tree opened)
    (given : folder ≠ "") :
    (tree.createFolder room here folder).1 ≠ .error error := by
  rw [Opens, if_neg given] at opens
  simp [opens]

theorem Opens.unique {room : Nat} {tree opened other : Files.Tree}
    {here : Files.Location} (opens : Opens room here folder tree opened)
    (opensToo : Opens room here folder tree other) : opened = other :=
  opens.snd_createFolder.symm.trans opensToo.snd_createFolder

theorem encode_eq_error_iff {halves : Text.Halves}
    {encodeFault : Text.EncodeFault} :
    halves.encode contents = .error encodeFault ↔
      halves.encodeFault? contents = some encodeFault := by
  rw [Text.Halves.encode]
  cases halves.encodeFault? contents with
  | none => simp
  | some fault => simp

theorem breakOff?_eq_fault_iff {machine : Machine} {path : String} :
    (∃ kept, breakOff? machine path contents = some (kept, .fault fault)) ↔
      ∃ encodeFault, machine.halves.encodeFault? contents = some encodeFault ∧
        fault = .unencodable encodeFault := by
  simp only [← encode_eq_error_iff]
  rw [breakOff?]
  cases machine.halves.encode contents with
  | error encodeFault => simp [eq_comm]
  | ok content => simp

theorem writeFile_fails_fault_iff {path : String} :
    (writeFile path contents).Fails world (.fault fault) ↔
      '\x00' ∈ path.toList ∧ fault = .refused ⟨.nullCharacter, path⟩ ∨
        ∃ location encodeFault,
          world.files.writeTarget world.here path = .ok location ∧
            world.machine.halves.encodeFault? contents = some encodeFault ∧
              fault = .unencodable encodeFault := by
  have noNull : world.files.writeTarget world.here path =
      .error .nullCharacter ↔ '\x00' ∈ path.toList :=
    Files.Tree.writeTarget_eq_null_iff
  rw [Fails, writeFile_eq]
  cases targeted : world.files.writeTarget world.here path with
  | error refusal =>
      have refused : (∃ after, EStateM.Result.error (α := String)
            (failureOf (.writeRefused path) ⟨refusal, path⟩) world =
              .error (.fault fault) after) ↔
          refusal.isOfSystem = false ∧ fault = .refused ⟨refusal, path⟩ := by
        simp [failureOf_eq_fault_iff]
      rw [refused]
      rcases Files.Tree.writeTarget_isOfSystem targeted with
        ofSystem | ⟨rfl, null⟩
      · have present : '\x00' ∉ path.toList := by
          intro null
          rw [targeted] at noNull
          cases Except.error.inj (noNull.mpr null)
          cases ofSystem
        simp [ofSystem, present]
      · simp [null, Files.Refusal.isOfSystem]
  | ok location =>
      have present : '\x00' ∉ path.toList := by
        rw [targeted] at noNull
        intro null
        cases noNull.mpr null
      have breaks : (∃ kept, breakOff? world.machine path contents =
          some (kept, .fault fault)) ↔ _ :=
        breakOff?_eq_fault_iff
      cases broken : breakOff? world.machine path contents with
      | none =>
          rw [broken] at breaks
          simpa [present] using breaks
      | some result =>
          obtain ⟨kept, failure⟩ := result
          rw [broken] at breaks
          simpa [present] using breaks

theorem write_fails_fault_iff :
    (write folder moduleName contents).Fails world (.fault fault) ↔
      WriteEscapes world.machine world.files world.here moduleName contents
        (.named folder) fault := by
  rcases createFolder_outcome folder world with
    ⟨after, made⟩ | ⟨given, error, refused, failed⟩
  · rw [write, fails_bind_of_ok made, writeFile_fails_fault_iff]
    obtain ⟨opened, opens, rfl⟩ := createFolder_eq_ok_iff.mp made
    constructor
    · rintro (⟨null, rfl⟩ | ⟨location, encodeFault, target, halved, rfl⟩)
      · exact .file opens null
      · exact .contents opens target halved
    · intro escapes
      cases escapes with
      | folder given refused _ => exact absurd refused (opens.ne_error given)
      | file _ null => exact .inl ⟨null, rfl⟩
      | contents opensToo target halved =>
          rw [opensToo.unique opens] at target
          exact .inr ⟨_, _, target, halved, rfl⟩
  · rw [write, fails_bind_of_fails failed, eq_comm, failureOf_eq_fault_iff]
    constructor
    · rintro ⟨unforeseen, rfl⟩
      exact .folder given refused unforeseen
    · intro escapes
      cases escapes with
      | folder _ refusedToo unforeseen =>
          obtain rfl := Except.error.inj (refused.symm.trans refusedToo)
          exact ⟨unforeseen, rfl⟩
      | file opens null => exact absurd refused (opens.ne_error given)
      | contents opens _ _ => exact absurd refused (opens.ne_error given)

end Store

/-! ## Whole generations -/

namespace Render

theorem logDrops_infallible (halves : Text.Halves) (drops : List Drop) :
    Infallible (logDrops halves drops) := by
  induction drops with
  | nil => exact .pure ()
  | cons drop drops ih => exact (RaisesOnly.log _ _ _).bind fun _ => ih

end Render

namespace Generation

variable {generation : Generation} {indexer : Tool.Indexer}
  {formatter : Tool.Formatter}

/-- A fault that escapes where a generation obtains its declarations. -/
def SourceEscapes (generation : Generation) (indexer : Tool.Indexer)
    (world : World) (fault : Fault) : Prop :=
  match given? generation.inputDump with
  | some path =>
      Dump.FileEscapes world.machine world.files world.here (Files.tidy path)
        fault
  | none => indexer.Escapes (generation.subjectIn world) world fault

/-- A fault that escapes where the declarations of a generation are rendered or
the text of its interface is formatted. -/
inductive ForestEscapes (generation : Generation)
    (formatter : Tool.Formatter) (world : World) (forest : Forest) :
    Fault → Prop
  | render {drops : List Render.Drop}
      (deep : Render.forestDropsWithin generation.renderOptions
        world.machine.reach.rendering forest = .error drops) :
      ForestEscapes generation formatter world forest (.tooDeep .calls)
  | format {fault : Fault}
      (roomy : Render.forestDropsWithin generation.renderOptions
        world.machine.reach.rendering forest =
          .ok (Render.renderForest generation.renderOptions forest).drops)
      (escapes : formatter.Escapes world.machine
        (generation.interfaceText forest) (world.script.headD .missing)
        fault) :
      ForestEscapes generation formatter world forest fault

/-- A fault that escapes from a generation.  What escapes from a phase does so
in the world that the phases before it have left, and only if all of them have
succeeded. -/
inductive Escapes (generation : Generation) (indexer : Tool.Indexer)
    (formatter : Tool.Formatter) (world : World) : Fault → Prop
  | removal (asked : generation.clean = true)
      (nameless : generation.outputFolder = .nameless) :
      Escapes generation indexer formatter world .namelessOutput
  | source {fault : Fault} {emptied : World}
      (removed : generation.removeOld world = .ok () emptied)
      (escapes : generation.SourceEscapes indexer emptied fault) :
      Escapes generation indexer formatter world fault
  | forest {fault : Fault} {emptied produced : World} {forest : Forest}
      (removed : generation.removeOld world = .ok () emptied)
      (obtained : Run.inPhase "produce" (generation.produceForest indexer)
        emptied = .ok forest produced)
      (escapes : generation.ForestEscapes formatter produced forest fault) :
      Escapes generation indexer formatter world fault
  | write {fault : Fault} {prepared : Prepared} {ready : World}
      (done : generation.prepare indexer formatter world = .ok prepared ready)
      (escapes : Store.WriteEscapes ready.machine ready.files ready.here
        generation.targetModule prepared.contents generation.outputFolder
        fault) :
      Escapes generation indexer formatter world fault

theorem removeOld_fails_fault_iff :
    generation.removeOld.Fails world (.fault fault) ↔
      generation.clean = true ∧ generation.outputFolder = .nameless ∧
        fault = .namelessOutput := by
  rw [removeOld]
  split
  case isFalse unasked => simp [unasked, not_fails_pure]
  case isTrue asked =>
      have harmless (folder : String) : Faultless (do
          let _ ← Store.remove folder generation.targetModule) :=
        (Store.remove_raisesOnly (fun _ => rfl) _ _).bind fun _ => .pure ()
      rw [Run.inPhase, fails_within, fails_bind_of_faultless harmless]
      cases generation.outputFolder with
      | named path => simp [Store.folderPath, not_fails_pure]
      | nameless => simp [Store.folderPath, fails_fail, asked]

theorem sourceEscapes_context {context : Log.Context} :
    generation.SourceEscapes indexer { world with context } fault ↔
      generation.SourceEscapes indexer world fault := by
  unfold SourceEscapes
  cases given? generation.inputDump with
  | some path => rfl
  | none => exact Tool.Indexer.escapes_context

theorem produceForest_fails_fault_iff :
    (generation.produceForest indexer).Fails world (.fault fault) ↔
      generation.SourceEscapes indexer world fault := by
  rw [produceForest, fails_bind_of_faultless, obtainForest]
  · unfold SourceEscapes
    cases given? generation.inputDump with
    | some path => exact Dump.load_fails_fault_iff
    | none =>
        rw [fails_get_bind]
        exact Tool.Indexer.document_fails_fault_iff
  · intro forest
    split
    · exact .fail rfl
    · exact .pure forest

theorem requireRoom_raisesOnly (generation : Generation) (forest : Forest) :
    RaisesOnly Failure.Raisable (generation.requireRoom forest) := by
  refine RaisesOnly.get.bind fun world => ?_
  dsimp only
  split
  · exact .pure ()
  · exact (Render.logDrops_infallible _ _).raisesOnly.bind fun _ => .fault _

/-- The rendering itself never fails. -/
theorem rendering_infallible (generation : Generation) (forest : Forest) :
    Infallible (do
      let session : Render.Session := { options := generation.renderOptions }
      let (blocks, used) ← session.renderForest forest
      Run.info .generator ("Rendered " ++ toString blocks.length ++
        " blocks at minimum access level " ++ generation.minimumLevel.label ++
        ": " ++ used.counts.summary)
      return (blocks, used.counts)) := by
  refine RaisesOnly.bind ?_ fun _ => (RaisesOnly.log _ _ _).bind fun _ => .pure _
  refine RaisesOnly.get.bind fun world => ?_
  refine (Render.logDrops_infallible _ _).bind fun _ => ?_
  exact (RaisesOnly.log _ _ _).bind fun _ => .pure _

theorem renderBlocks_raisesOnly (generation : Generation) (forest : Forest) :
    RaisesOnly Failure.Raisable (generation.renderBlocks forest) :=
  (requireRoom_raisesOnly generation forest).bind fun _ =>
    (rendering_infallible generation forest).raisesOnly

theorem exists_renderBlocks {forest : Forest} {drops : List Render.Drop}
    (roomy : Render.forestDropsWithin generation.renderOptions
      world.machine.reach.rendering forest = .ok drops) :
    ∃ rendered after,
      generation.renderBlocks forest world = .ok rendered after := by
  have ready : generation.requireRoom forest world = .ok () world := by
    rw [requireRoom, bind_ok (get_eq world)]
    simp only [roomy]
    rfl
  rw [renderBlocks, bind_ok ready]
  exact (rendering_infallible generation forest).exists_ok world

theorem renderBlocks_fails {forest : Forest} {drops : List Render.Drop}
    (deep : Render.forestDropsWithin generation.renderOptions
      world.machine.reach.rendering forest = .error drops) :
    (generation.renderBlocks forest).Fails world
      (.fault (.tooDeep .calls)) := by
  refine fails_bind.mpr (.inl ?_)
  rw [requireRoom, fails_get_bind]
  simp only [deep]
  exact ((Render.logDrops_infallible _ drops).fails_bind_iff
    (Render.logDrops_keeps (logBlind_sameButLog world).recordBlind _ drops)
    fun _ _ _ => fails_fail).mpr rfl

/-- Rendering and formatting declarations that were obtained. -/
def finishForest (generation : Generation) (formatter : Tool.Formatter)
    (forest : Forest) : Run Prepared := do
  let (blocks, counts) ← Run.inPhase "render" (generation.renderBlocks forest)
  let contents ← Run.inPhase "format"
    (Interface.compose blocks generation.targetModule formatter)
  return { blocks, counts, contents }

theorem finishForest_fails_fault_iff {forest : Forest} :
    (generation.finishForest formatter forest).Fails world (.fault fault) ↔
      generation.ForestEscapes formatter world forest fault := by
  cases found : Render.forestDropsWithin generation.renderOptions
      world.machine.reach.rendering forest with
  | error drops =>
      have failed : (Run.inPhase "render" (generation.renderBlocks forest)).Fails
          world (.fault (.tooDeep .calls)) :=
        fails_within.mpr (renderBlocks_fails found)
      rw [finishForest, fails_bind_of_fails failed, Failure.fault.injEq]
      constructor
      · rintro rfl
        exact .render found
      · intro escapes
        cases escapes with
        | render _ => rfl
        | format roomy _ => simp [found] at roomy
  | ok drops =>
      obtain rfl := Render.forestDropsWithin_eq_ok found
      have renders : ∃ rendered inner, generation.renderBlocks forest
          { world with context := (world.context.enterPhase "render").1 } =
            .ok rendered inner :=
        exists_renderBlocks found
      obtain ⟨⟨blocks, counts⟩, inner, rendered⟩ := renders
      obtain ⟨rfl, rfl⟩ := renderBlocks_eq_ok rendered
      obtain ⟨after, renders, leaving⟩ := exists_inPhase_of_ok rendered
      have blind := logBlind_sameButLog world
      have same := (Keeps.inPhase blind "render"
        (renderBlocks_keeps blind generation forest)).sameButLog renders
      rw [finishForest, fails_bind_of_ok renders]
      dsimp only
      rw [fails_bind_of_faultless fun _ => .pure _, Run.inPhase, fails_within,
        Interface.compose_fails_fault_iff]
      dsimp only
      rw [same.script, same.machine]
      refine ⟨.format found, fun escapes => ?_⟩
      cases escapes with
      | render deep => simp [found] at deep
      | format _ escapes => exact escapes

theorem compose_eq (generation : Generation) (indexer : Tool.Indexer)
    (formatter : Tool.Formatter) :
    generation.compose indexer formatter =
      Run.inPhase "produce" (generation.produceForest indexer) >>=
        generation.finishForest formatter :=
  rfl

theorem compose_fails_fault_iff :
    (generation.compose indexer formatter).Fails world (.fault fault) ↔
      generation.SourceEscapes indexer world fault ∨
        ∃ forest produced,
          Run.inPhase "produce" (generation.produceForest indexer) world =
              .ok forest produced ∧
            generation.ForestEscapes formatter produced forest fault := by
  rw [compose_eq, fails_bind]
  refine or_congr ?_ (exists_congr fun forest => exists_congr fun produced =>
    and_congr_right fun _ => finishForest_fails_fault_iff)
  rw [Run.inPhase, fails_within, produceForest_fails_fault_iff,
    sourceEscapes_context]

theorem writeOut_fails_fault_iff {contents : String} :
    (generation.writeOut contents).Fails world (.fault fault) ↔
      Store.WriteEscapes world.machine world.files world.here
        generation.targetModule contents generation.outputFolder fault := by
  rw [writeOut, Run.inPhase, fails_within]
  cases generation.outputFolder with
  | nameless =>
      rw [Store.folderPath, fails_fail_bind, Failure.fault.injEq]
      constructor
      · rintro rfl
        exact .nameless
      · rintro ⟨⟩
        rfl
  | named path =>
      rw [Store.folderPath, fails_bind_of_ok (pure_eq_ok.mpr ⟨rfl, rfl⟩)]
      exact Store.write_fails_fault_iff

theorem run_fails_fault_iff :
    (generation.run indexer formatter).Fails world (.fault fault) ↔
      generation.Escapes indexer formatter world fault := by
  have writing (prepared : Prepared) (ready : World) :
      (do
        let outputPath ← generation.writeOut prepared.contents
        return {
          outputPath
          moduleName := generation.targetModule
          blockCount := prepared.blocks.length
          counts := prepared.counts : Result }).Fails ready (.fault fault) ↔
        Store.WriteEscapes ready.machine ready.files ready.here
          generation.targetModule prepared.contents generation.outputFolder
          fault := by
    rw [fails_bind_of_faultless fun _ => .pure _, writeOut_fails_fault_iff]
  rw [run_eq, fails_bind]
  constructor
  · rintro (failed | ⟨prepared, ready, done, failed⟩)
    · rcases fails_bind.mp failed with failed | ⟨_, emptied, removed, failed⟩
      · obtain ⟨asked, nameless, rfl⟩ := removeOld_fails_fault_iff.mp failed
        exact .removal asked nameless
      · rcases compose_fails_fault_iff.mp failed with
          escapes | ⟨forest, produced, obtained, escapes⟩
        · exact .source removed escapes
        · exact .forest removed obtained escapes
    · exact .write done ((writing prepared ready).mp failed)
  · intro escapes
    cases escapes with
    | removal asked nameless =>
        have failed : generation.removeOld.Fails world (.fault .namelessOutput) :=
          removeOld_fails_fault_iff.mpr ⟨asked, nameless, rfl⟩
        exact .inl (fails_bind.mpr (.inl failed))
    | source removed escapes =>
        refine .inl (fails_bind.mpr (.inr ⟨(), _, removed, ?_⟩))
        exact compose_fails_fault_iff.mpr (.inl escapes)
    | forest removed obtained escapes =>
        refine .inl (fails_bind.mpr (.inr ⟨(), _, removed, ?_⟩))
        exact compose_fails_fault_iff.mpr (.inr ⟨_, _, obtained, escapes⟩)
    | write done escapes =>
        exact .inr ⟨_, _, done, (writing _ _).mpr escapes⟩

/-! ## Documented failures -/

theorem removeOld_raisesOnly (generation : Generation) :
    RaisesOnly Failure.Raisable generation.removeOld := by
  have output (cause : OutputFailure) : (Failure.output cause).Raisable :=
    .inl (.output cause)
  rw [removeOld]
  split
  · refine RaisesOnly.inPhase _ ?_
    refine (Store.folderPath_raisesOnly _).bind fun folder => ?_
    exact (Store.remove_raisesOnly output _ _).bind fun _ => .pure ()
  · exact .pure ()

theorem produceForest_raisesOnly (generation : Generation)
    (indexer : Tool.Indexer) :
    RaisesOnly Failure.Raisable (generation.produceForest indexer) := by
  refine RaisesOnly.bind ?_ fun forest => ?_
  · rw [obtainForest]
    split
    · exact Dump.load_raisesOnly _
    · exact RaisesOnly.get.bind fun world => indexer.document_raisesOnly _
  · split
    · exact .documented (.producer _)
    · exact .pure forest

theorem compose_raisesOnly (generation : Generation) (indexer : Tool.Indexer)
    (formatter : Tool.Formatter) :
    RaisesOnly Failure.Raisable (generation.compose indexer formatter) := by
  refine RaisesOnly.bind ?_ fun forest => ?_
  · exact (produceForest_raisesOnly generation indexer).inPhase _
  refine RaisesOnly.bind ?_ fun rendered => ?_
  · exact (renderBlocks_raisesOnly generation forest).inPhase _
  refine RaisesOnly.bind ?_ fun contents => .pure _
  exact (Interface.compose_raisesOnly _ _ formatter).inPhase _

theorem writeOut_raisesOnly (generation : Generation) (contents : String) :
    RaisesOnly Failure.Raisable (generation.writeOut contents) := by
  refine RaisesOnly.inPhase _ ?_
  refine (Store.folderPath_raisesOnly _).bind fun folder => ?_
  exact Store.write_raisesOnly _ _ _

theorem run_raisesOnly (generation : Generation) (indexer : Tool.Indexer)
    (formatter : Tool.Formatter) :
    RaisesOnly Failure.Raisable (generation.run indexer formatter) := by
  rw [run_eq]
  refine RaisesOnly.bind ?_ fun prepared => ?_
  · refine (removeOld_raisesOnly generation).bind fun _ => ?_
    exact compose_raisesOnly generation indexer formatter
  · exact (writeOut_raisesOnly generation _).bind fun _ => .pure _

/-- The run of a generation ends as documented: it returns a result or fails
with a documented failure. -/
def EndsAsDocumented (generation : Generation) (indexer : Tool.Indexer)
    (formatter : Tool.Formatter) (world : World) : Prop :=
  (∃ result after, generation.run indexer formatter world = .ok result after) ∨
    ∃ failure, failure.Documented ∧
      (generation.run indexer formatter).Fails world failure

theorem EndsAsDocumented.not_fails
    (documented : generation.EndsAsDocumented indexer formatter world) :
    ¬ (generation.run indexer formatter).Fails world (.fault fault) := by
  intro failed
  rcases documented with ⟨result, after, succeeded⟩ | ⟨_, documented, failedToo⟩
  · exact not_fails_of_ok succeeded failed
  · rw [failedToo.unique failed] at documented
    cases documented

/-- A generation ends as documented unless a fault escapes from it, and what
escapes is what it fails with. -/
theorem endsAsDocumented_or_escapes (generation : Generation)
    (indexer : Tool.Indexer) (formatter : Tool.Formatter) (world : World) :
    (generation.EndsAsDocumented indexer formatter world ↔
      ¬ ∃ fault, generation.Escapes indexer formatter world fault) ∧
      ∀ fault, (generation.run indexer formatter).Fails world (.fault fault) ↔
        generation.Escapes indexer formatter world fault := by
  refine ⟨⟨?_, ?_⟩, fun fault => run_fails_fault_iff⟩
  · rintro documented ⟨fault, escapes⟩
    exact documented.not_fails (run_fails_fault_iff.mpr escapes)
  · intro contained
    rcases ok_or_fails (generation.run indexer formatter) world with
      succeeded | ⟨failure, failed⟩
    · exact .inl succeeded
    rcases run_raisesOnly generation indexer formatter world failure failed with
      documented | ⟨fault, rfl⟩
    · exact .inr ⟨failure, documented, failed⟩
    · exact absurd ⟨fault, run_fails_fault_iff.mp failed⟩ contained

/-- A generation from a dump. -/
def fromDump : Generation where
  outputFolder := .named "out"
  moduleName := some "Main"
  inputDump := some "docs.json"

/-- A world in which the dump is a byte that is not UTF-8. -/
def garbledWorld : World where
  files.entries := [(["docs.json"], .file ⟨#[0xff]⟩)]

/-- A dump that is not UTF-8 leads to no documented failure. -/
theorem not_endsAsDocumented_garbled :
    ¬ fromDump.EndsAsDocumented {} (.program {}) garbledWorld := by
  have failed : (fromDump.run {} (.program {})).Fails garbledWorld
      (.fault (.undecodable ⟨0, 0xff, 1, .invalidStart⟩)) := by
    decide +kernel
  intro documented
  exact documented.not_fails failed

end Generation

end SwiftInterface
