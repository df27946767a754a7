import SwiftInterface.Proofs.Files.Resolution
import SwiftInterface.Proofs.Generation.Sources
import SwiftInterface.Proofs.Tool.Production
import SwiftInterface.Proofs.World.Failing

/-!
# Faults from dumps and the indexer

Obtaining declarations turns the problems it expects into failures to produce
them: a dump that is missing or cannot be read, a program that is missing, ends
badly or takes too long, and texts that are no JSON or hold no declarations.
Some problems are not expected, and then a fault escapes.  This file says which
faults these are and when they arise: a null character in the path of a dump, a
dump that is not UTF-8, an integer with too many digits, brackets or declarations
that nest too deeply, an indexer that may not be started or cannot be run for
another reason, and an input folder without a name.
-/

namespace SwiftInterface

open Run

/-- The failures that a generation documents. -/
inductive Failure.Documented : Failure → Prop
  | producer (cause : ProducerFailure) : Documented (.producer cause)
  | format (cause : FormatFailure) : Documented (.format cause)
  | output (cause : OutputFailure) : Documented (.output cause)

/-- A failure that a generation documents, or a fault. -/
def Failure.Raisable (failure : Failure) : Prop :=
  failure.Documented ∨ ∃ fault, failure = .fault fault

theorem Run.RaisesOnly.documented {α : Type} {failure : Failure}
    (documented : failure.Documented) :
    RaisesOnly Failure.Raisable (Run.fail failure : Run α) :=
  .fail (.inl documented)

theorem Run.RaisesOnly.fault {α : Type} (fault : Fault) :
    RaisesOnly Failure.Raisable (Run.fail (.fault fault) : Run α) :=
  .fail (.inr ⟨fault, rfl⟩)

variable {world : World} {fault : Fault}

/-! ## Dumps -/

namespace Dump

theorem logNotes_infallible (notes : List Note) :
    Infallible (logNotes notes) := by
  induction notes with
  | nil => exact .pure ()
  | cons note notes ih =>
      have logged : Infallible (logNote note) := by
        cases note with
        | skippedFile path => exact .log _ _ _
        | loadedFile path => exact .log _ _ _
        | skippedEntry typeName => exact .log _ _ _
      exact logged.bind fun _ => ih

theorem forestOf_raisesOnly {allowed : Failure → Prop}
    (producer : ∀ cause, allowed (.producer cause)) (payload : Json) :
    RaisesOnly allowed (forestOf payload) := by
  rw [forestOf]
  split
  · exact .fail (producer _)
  · exact (logNotes_infallible _).raisesOnly.bind fun _ => .pure _

theorem forestWithin_raisesOnly (payload : Json) :
    RaisesOnly Failure.Raisable (forestWithin payload) := by
  refine RaisesOnly.get.bind fun world => ?_
  split
  · exact forestOf_raisesOnly (fun cause => .inl (.producer cause)) payload
  · exact (logNotes_infallible _).raisesOnly.bind fun _ => .fault _

theorem decode_raisesOnly (text : String)
    (describe : String → ProducerFailure) :
    RaisesOnly Failure.Raisable (decode text describe) := by
  refine RaisesOnly.get.bind fun world => ?_
  split
  · exact .pure _
  · exact .fault _
  · exact .fault _
  · exact .documented (.producer _)

/-- The declarations in a text. -/
def readForest (text : String) (describe : String → ProducerFailure) :
    Run Forest := do
  let payload ← decode text describe
  forestWithin payload

theorem readForest_raisesOnly (text : String)
    (describe : String → ProducerFailure) :
    RaisesOnly Failure.Raisable (readForest text describe) :=
  (decode_raisesOnly text describe).bind forestWithin_raisesOnly

theorem readText_raisesOnly (path : String) :
    RaisesOnly Failure.Raisable (readText path) := by
  refine RaisesOnly.get.bind fun world => ?_
  split
  · exact .documented (.producer _)
  · exact .fault _
  · exact .documented (.producer _)
  · split
    · exact .fault _
    · exact .pure _

/-- Report the declarations of a dump. -/
def reportLoaded (path : String) (forest : Forest) : Run Forest := do
  Run.info .producer ("Loaded " ++ toString forest.length ++
    " file structures from " ++ path)
  return forest

theorem load_eq (path : String) :
    load path = (do
      let text ← readText (Files.tidy path)
      let forest ← readForest text (.invalidDump (Files.tidy path))
      reportLoaded (Files.tidy path) forest) := by
  simp only [load, readForest, reportLoaded, bind_assoc]

theorem reportLoaded_infallible (path : String) (forest : Forest) :
    Infallible (reportLoaded path forest) :=
  (RaisesOnly.log _ _ _).bind fun _ => .pure _

theorem load_raisesOnly (path : String) :
    RaisesOnly Failure.Raisable (load path) := by
  rw [load_eq]
  refine (readText_raisesOnly _).bind fun text => ?_
  refine (readForest_raisesOnly text _).bind fun forest => ?_
  exact (reportLoaded_infallible _ forest).raisesOnly

/-! ### Nesting

A structure that nests too deeply is noticed exactly if there is one among the
declarations that are harvested. -/

theorem isTooDeep_eq (room : Nat) (value : Json) :
    isTooDeep room value =
      !Declaration.allFit room (Declaration.ofJson? value).toList := by
  rw [isTooDeep]
  cases Declaration.ofJson? value with
  | none => simp [Declaration.allFit]
  | some declaration => simp [Declaration.allFit]

theorem allFit_append (room : Nat) (first second : Forest) :
    Declaration.allFit room (first ++ second) =
      (Declaration.allFit room first && Declaration.allFit room second) := by
  induction first with
  | nil => simp [Declaration.allFit]
  | cons declaration first ih =>
      simp [Declaration.allFit, ih, Bool.and_assoc]

@[simp]
theorem Harvest.append_forest (first second : Harvest) :
    (first ++ second).forest = first.forest ++ second.forest :=
  rfl

theorem ofFile_forest (path : String) (structureValue : Json) :
    (ofFile path structureValue).forest =
      (Declaration.ofJson? structureValue).toList := by
  rw [ofFile]
  cases Declaration.ofJson? structureValue <;> rfl

theorem isNone_notesOfFiles? (room : Nat) (members : List (String × Json)) :
    (notesOfFiles? room members).isNone =
      Declaration.allFit room (ofFiles members).forest := by
  induction members with
  | nil => simp [notesOfFiles?, ofFiles, Declaration.allFit]
  | cons member members ih =>
      obtain ⟨path, structureValue⟩ := member
      rw [notesOfFiles?, ofFiles, Harvest.append_forest, allFit_append, ofFile_forest,
        isTooDeep_eq, ← ih]
      cases Declaration.allFit room (Declaration.ofJson? structureValue).toList
      · simp
      · simp

theorem isNone_notesOfItem? (room : Nat) (entry : Json) :
    (notesOfItem? room entry).isNone =
      Declaration.allFit room (ofEntry entry).forest := by
  cases entry with
  | object members =>
      rw [notesOfItem?, ofEntry, ofMembers]
      split
      case isTrue =>
          rw [isTooDeep_eq]
          cases Declaration.allFit room
            (Declaration.ofJson? (.object members)).toList
          · simp
          · simp
      case isFalse => exact isNone_notesOfFiles? room members
  | _ => simp [notesOfItem?, ofEntry, Declaration.allFit]

theorem isNone_notesOfItems? (room : Nat) (entries : List Json) :
    (notesOfItems? room entries).isNone =
      Declaration.allFit room (ofEntries entries).forest := by
  induction entries with
  | nil => simp [notesOfItems?, ofEntries, Declaration.allFit]
  | cons entry entries ih =>
      rw [notesOfItems?, ofEntries, Harvest.append_forest, allFit_append,
        ← isNone_notesOfItem?, ← ih]
      cases notesOfItem? room entry with
      | none => simp
      | some notes => rfl

theorem isNone_notesUpTo? {room : Nat} {payload : Json} {harvest : Harvest}
    (harvested : ofJson? payload = some harvest) :
    (notesUpTo? room payload).isNone =
      Declaration.allFit room harvest.forest := by
  cases payload with
  | object members =>
      obtain rfl := Option.some.inj harvested
      exact isNone_notesOfItem? room (.object members)
  | array entries =>
      obtain rfl := Option.some.inj harvested
      exact isNone_notesOfItems? room entries
  | _ => cases harvested

/-! ### Faults -/

/-- A fault that escapes from the text of a dump. -/
inductive TextEscapes (machine : Machine) (text : String) : Fault → Prop
  | longInteger {digits : Nat}
      (read : Json.read machine text.toList = .error (.tooManyDigits digits)) :
      TextEscapes machine text (.unreadableInteger digits)
  | brackets {descent : Descent}
      (read : Json.read machine text.toList = .error (.tooDeep descent)) :
      TextEscapes machine text (.tooDeep descent)
  | declarations {payload : Json} {harvest : Harvest}
      (read : Json.read machine text.toList = .ok payload)
      (harvested : ofJson? payload = some harvest)
      (deep : Declaration.allFit machine.reach.declarations harvest.forest =
        false) :
      TextEscapes machine text (.tooDeep .calls)

theorem forestWithin_fails_fault_iff {payload : Json} :
    (forestWithin payload).Fails world (.fault fault) ↔
      ∃ harvest, ofJson? payload = some harvest ∧
        Declaration.allFit world.machine.reach.declarations harvest.forest =
            false ∧
          fault = .tooDeep .calls := by
  rw [forestWithin, fails_get_bind]
  cases harvested : ofJson? payload with
  | none =>
      have unnoticed : notesUpTo? world.machine.reach.declarations payload =
          none := by
        cases payload with
        | object members => cases harvested
        | array entries => cases harvested
        | _ => rfl
      simp [unnoticed, forestOf, harvested, fails_fail]
  | some harvest =>
      have noticed :
          (notesUpTo? world.machine.reach.declarations payload).isNone =
            Declaration.allFit world.machine.reach.declarations
              harvest.forest :=
        isNone_notesUpTo? harvested
      cases found : notesUpTo? world.machine.reach.declarations payload with
      | none =>
          have harmless : Faultless (forestOf payload) :=
            forestOf_raisesOnly (fun _ => rfl) payload
          rw [found] at noticed
          simp [← noticed, harmless.not_fails]
      | some notes =>
          rw [found] at noticed
          have failing : (logNotes notes >>= fun _ =>
              (Run.fail (.fault (.tooDeep .calls)) : Run Forest)).Fails world
              (.fault fault) ↔ fault = .tooDeep .calls := by
            refine (logNotes_infallible notes).fails_bind_iff
              (logNotes_keeps (logBlind_sameButLog world).recordBlind notes)
              fun _ _ _ => ?_
            rw [fails_fail, Failure.fault.injEq]
          simpa [← noticed] using failing

theorem readForest_fails_fault_iff {text : String}
    {describe : String → ProducerFailure} :
    (readForest text describe).Fails world (.fault fault) ↔
      TextEscapes world.machine text fault := by
  rw [readForest, decode, bind_assoc, fails_get_bind]
  cases read : Json.read world.machine text.toList with
  | error cause =>
      constructor
      · intro failed
        cases cause with
        | malformed problem remaining => simp [fails_fail_bind] at failed
        | tooManyDigits digits =>
            simp only [fails_fail_bind, Failure.fault.injEq] at failed
            exact failed ▸ .longInteger read
        | tooDeep descent =>
            simp only [fails_fail_bind, Failure.fault.injEq] at failed
            exact failed ▸ .brackets read
      · intro escapes
        cases escapes with
        | longInteger readToo =>
            obtain rfl := Except.error.inj (read.symm.trans readToo)
            exact fails_fail_bind.mpr rfl
        | brackets readToo =>
            obtain rfl := Except.error.inj (read.symm.trans readToo)
            exact fails_fail_bind.mpr rfl
        | declarations readToo _ _ => simp [read] at readToo
  | ok payload =>
      rw [fails_bind_of_ok (pure_eq_ok.mpr ⟨rfl, rfl⟩),
        forestWithin_fails_fault_iff]
      constructor
      · rintro ⟨harvest, harvested, deep, rfl⟩
        exact .declarations read harvested deep
      · intro escapes
        cases escapes with
        | longInteger readToo => simp [read] at readToo
        | brackets readToo => simp [read] at readToo
        | declarations readToo harvested deep =>
            obtain rfl := Except.ok.inj (read.symm.trans readToo)
            exact ⟨_, harvested, deep, rfl⟩

/-- A fault that escapes from the dump at a path. -/
inductive FileEscapes (machine : Machine) (tree : Files.Tree)
    (here : Files.Location) (path : String) : Fault → Prop
  | nullCharacter (null : '\x00' ∈ path.toList) :
      FileEscapes machine tree here path (.refused ⟨.nullCharacter, path⟩)
  | undecodable {content : ByteArray} {fault : Text.Utf8Fault}
      (reads : tree.read here path = .ok content)
      (garbled : fileText content = .error fault) :
      FileEscapes machine tree here path (.undecodable fault)
  | text {content : ByteArray} {text : String} {fault : Fault}
      (reads : tree.read here path = .ok content)
      (decoded : fileText content = .ok text)
      (escapes : TextEscapes machine text fault) :
      FileEscapes machine tree here path fault

theorem readText_fails_fault_iff {path : String} :
    (readText path).Fails world (.fault fault) ↔
      '\x00' ∈ path.toList ∧ fault = .refused ⟨.nullCharacter, path⟩ ∨
        ∃ content garbled, world.files.read world.here path = .ok content ∧
          fileText content = .error garbled ∧ fault = .undecodable garbled := by
  rw [readText, fails_get_bind, ← Files.Tree.read_eq_null_iff]
  cases reads : world.files.read world.here path with
  | error refusal => cases refusal <;> simp [fails_fail]
  | ok content =>
      cases decoded : fileText content with
      | error garbled => simp [decoded, fails_fail]
      | ok text => simp [decoded, not_fails_pure]

theorem load_fails_fault_iff {path : String} :
    (load path).Fails world (.fault fault) ↔
      FileEscapes world.machine world.files world.here (Files.tidy path)
        fault := by
  have reading (text : String) :
      (readForest text (.invalidDump (Files.tidy path)) >>=
          reportLoaded (Files.tidy path)).Fails world (.fault fault) ↔
        TextEscapes world.machine text fault := by
    rw [fails_bind_of_faultless fun forest =>
      (reportLoaded_infallible _ forest).raisesOnly, readForest_fails_fault_iff]
  rw [load_eq]
  constructor
  · intro failed
    rcases fails_bind.mp failed with failed | ⟨text, middle, read, failed⟩
    · rcases readText_fails_fault_iff.mp failed with
        ⟨null, rfl⟩ | ⟨content, garbled, reads, undecoded, rfl⟩
      · exact .nullCharacter null
      · exact .undecodable reads undecoded
    · obtain ⟨content, reads, decoded⟩ := readText_eq_ok read
      rw [readText_of_decoded reads decoded] at read
      obtain ⟨-, rfl⟩ := EStateM.Result.ok.inj read
      exact .text reads decoded ((reading text).mp failed)
  · intro escapes
    cases escapes with
    | nullCharacter null =>
        refine fails_bind.mpr (.inl ?_)
        exact readText_fails_fault_iff.mpr (.inl ⟨null, rfl⟩)
    | undecodable reads garbled =>
        refine fails_bind.mpr (.inl ?_)
        exact readText_fails_fault_iff.mpr
          (.inr ⟨_, _, reads, garbled, rfl⟩)
    | text reads decoded escapes =>
        rw [fails_bind_of_ok (readText_of_decoded reads decoded)]
        exact (reading _).mpr escapes

end Dump

/-! ## Programs -/

namespace Tool

namespace Indexer

variable {indexer : Indexer} {subject : Subject}

theorem folderPath_raisesOnly (folder : Option Files.Folder) :
    RaisesOnly Failure.Raisable (folderPath folder) := by
  rw [folderPath.eq_def]
  split
  · exact .pure none
  · exact .fault _
  · refine RaisesOnly.get.bind fun world => ?_
    split
    · exact .pure _
    · exact .documented (.producer _)

theorem outputOf_raisesOnly (indexer : Indexer) (subject : Subject)
    (outcome : Outcome) :
    RaisesOnly Failure.Raisable (indexer.outputOf subject outcome) := by
  cases outcome with
  | finished output => exact .pure output
  | exited status errorOutput => exact .documented (.producer _)
  | missing => exact .documented (.producer _)
  | timedOut => exact .documented (.producer _)
  | denied => exact .fault _
  | troubled trouble => exact .fault _

/-- Report the declarations of the indexer; there must be some. -/
def reportDocumented (subject : Subject) (forest : Forest) : Run Forest := do
  if forest.isEmpty then
    Run.fail (.producer (.noDeclarations subject.description))
  else
    Run.info .producer ("SourceKitten documented " ++
      toString forest.length ++ " files for " ++ subject.description)
    return forest

theorem reportDocumented_raisesOnly {allowed : Failure → Prop}
    (producer : ∀ cause, allowed (.producer cause)) (subject : Subject)
    (forest : Forest) :
    RaisesOnly allowed (reportDocumented subject forest) := by
  rw [reportDocumented]
  split
  · exact .fail (producer _)
  · exact (RaisesOnly.log _ _ _).bind fun _ => .pure _

/-- What is done with what has become of a run of the indexer. -/
def digest (indexer : Indexer) (subject : Subject) (outcome : Outcome) :
    Run Forest := do
  let output ← indexer.outputOf subject outcome
  let forest ← Dump.readForest output (.invalidOutput subject.description)
  reportDocumented subject forest

theorem document_eq (indexer : Indexer) (subject : Subject) :
    indexer.document subject = (do
      let command := indexer.executable :: subject.arguments
      let folder ← folderPath subject.folder?
      Run.info .producer ("Running SourceKitten for " ++ subject.description ++
        ": " ++ " ".intercalate command)
      let outcome ← Run.start
        { command, folder, timeout := indexer.timeout, input := none }
      indexer.digest subject outcome) := by
  simp only [document, digest, Dump.readForest, reportDocumented, bind_assoc]

theorem digest_raisesOnly (indexer : Indexer) (subject : Subject)
    (outcome : Outcome) :
    RaisesOnly Failure.Raisable (indexer.digest subject outcome) := by
  refine (indexer.outputOf_raisesOnly subject outcome).bind fun output => ?_
  refine (Dump.readForest_raisesOnly _ _).bind fun forest => ?_
  exact reportDocumented_raisesOnly (fun cause => .inl (.producer cause)) _ _

theorem document_raisesOnly (indexer : Indexer) (subject : Subject) :
    RaisesOnly Failure.Raisable (indexer.document subject) := by
  rw [document_eq]
  refine (folderPath_raisesOnly _).bind fun folder => ?_
  refine (RaisesOnly.log _ _ _).bind fun _ => ?_
  exact (RaisesOnly.start _).bind fun outcome =>
    indexer.digest_raisesOnly subject outcome

/-- A fault that escapes from what has become of a run of the indexer. -/
inductive OutcomeEscapes (indexer : Indexer) (machine : Machine) :
    Outcome → Fault → Prop
  | denied :
      OutcomeEscapes indexer machine .denied
        (.refused ⟨.denied, indexer.executable⟩)
  | troubled (trouble : Trouble) :
      OutcomeEscapes indexer machine (.troubled trouble)
        (.program indexer.executable trouble)
  | text {output : String} {fault : Fault}
      (escapes : Dump.TextEscapes machine output fault) :
      OutcomeEscapes indexer machine (.finished output) fault

/-- A fault that escapes from the work of the indexer on a subject. -/
inductive Escapes (indexer : Indexer) (subject : Subject) (world : World) :
    Fault → Prop
  | nameless (nameless : subject.folder? = some .nameless) :
      Escapes indexer subject world .namelessInput
  | outcome {fault : Fault} (folderExists : subject.FolderExists world)
      (escapes : indexer.OutcomeEscapes world.machine
        (world.script.headD .missing) fault) :
      Escapes indexer subject world fault

theorem escapes_context {context : Log.Context} :
    indexer.Escapes subject { world with context } fault ↔
      indexer.Escapes subject world fault := by
  constructor
  · rintro (nameless | ⟨folderExists, escapes⟩)
    · exact .nameless nameless
    · exact .outcome folderExists escapes
  · rintro (nameless | ⟨folderExists, escapes⟩)
    · exact .nameless nameless
    · exact .outcome folderExists escapes

theorem digest_fails_fault_iff {outcome : Outcome} :
    (indexer.digest subject outcome).Fails world (.fault fault) ↔
      indexer.OutcomeEscapes world.machine outcome fault := by
  have harmless : ∀ forest, Faultless (reportDocumented subject forest) :=
    reportDocumented_raisesOnly (fun _ => rfl) subject
  cases outcome with
  | finished output =>
      have found : indexer.outputOf subject (.finished output) world =
          .ok output world := rfl
      rw [digest, fails_bind_of_ok found, fails_bind_of_faultless harmless,
        Dump.readForest_fails_fault_iff]
      refine ⟨.text, fun escapes => ?_⟩
      cases escapes with
      | text escapes => exact escapes
  | exited status errorOutput =>
      exact iff_of_false (by simp [digest, outputOf, fails_fail_bind]) nofun
  | missing =>
      exact iff_of_false (by simp [digest, outputOf, fails_fail_bind]) nofun
  | timedOut =>
      exact iff_of_false (by simp [digest, outputOf, fails_fail_bind]) nofun
  | denied =>
      rw [digest, outputOf, fails_fail_bind, Failure.fault.injEq]
      constructor
      · rintro rfl
        exact .denied
      · rintro ⟨⟩
        rfl
  | troubled trouble =>
      rw [digest, outputOf, fails_fail_bind, Failure.fault.injEq]
      constructor
      · rintro rfl
        exact .troubled trouble
      · rintro ⟨⟩
        rfl

theorem folderPath_fails_fault_iff {asked : Option Files.Folder} :
    (folderPath asked).Fails world (.fault fault) ↔
      asked = some .nameless ∧ fault = .namelessInput := by
  rw [folderPath.eq_def]
  split
  case h_1 => simp [not_fails_pure]
  case h_2 => simp [fails_fail]
  case h_3 folder =>
      rw [fails_get_bind]
      split
      · simp [not_fails_pure]
      · simp [fails_fail]

theorem folderExists_of_folderPath {folder : Option String} {after : World}
    (found : folderPath subject.folder? world = .ok folder after) :
    subject.FolderExists world ∧ after = world := by
  rw [Subject.FolderExists]
  cases asked : subject.folder? with
  | none =>
      rw [asked] at found
      exact ⟨nofun, (pure_eq_ok.mp found).2.symm⟩
  | some folder =>
      rw [asked] at found
      cases folder with
      | nameless => exact absurd found fail_ne_ok
      | named path =>
          rw [folderPath, bind_ok (get_eq world)] at found
          split at found
          case isTrue isFolder =>
              refine ⟨?_, (pure_eq_ok.mp found).2.symm⟩
              rintro folder ⟨⟩
              exact ⟨path, rfl, isFolder⟩
          case isFalse => exact absurd found fail_ne_ok

theorem document_fails_fault_iff :
    (indexer.document subject).Fails world (.fault fault) ↔
      indexer.Escapes subject world fault := by
  have started {folder : Option String}
      (found : folderPath subject.folder? world = .ok folder world) :
      (indexer.document subject).Fails world (.fault fault) ↔
        indexer.OutcomeEscapes world.machine (world.script.headD .missing)
          fault := by
    rw [document_eq, fails_bind_of_ok found, Run.info, fails_log_bind,
      fails_bind_of_ok (start_eq _ _), (sameButLog_log _ _ _ _ _).script,
      digest_fails_fault_iff, Run.started, (sameButLog_log _ _ _ _ _).machine]
  constructor
  · intro failed
    rcases fails_bind.mp failed with refused | ⟨folder, middle, found, -⟩
    · obtain ⟨nameless, rfl⟩ := folderPath_fails_fault_iff.mp refused
      exact .nameless nameless
    · obtain ⟨folderExists, rfl⟩ := folderExists_of_folderPath found
      exact .outcome folderExists ((started found).mp failed)
  · intro escapes
    cases escapes with
    | nameless nameless =>
        refine fails_bind.mpr (.inl ?_)
        exact folderPath_fails_fault_iff.mpr ⟨nameless, rfl⟩
    | outcome folderExists escapes =>
        obtain ⟨folder, found⟩ := exists_folderPath folderExists
        exact (started found).mpr escapes

end Indexer

end Tool

end SwiftInterface
