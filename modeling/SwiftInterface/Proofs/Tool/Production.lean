import SwiftInterface.Proofs.World.Preservation
import SwiftInterface.Tool.Formatter

/-!
# Runs of the indexer and the formatter

Reading a dump, running the indexer and formatting a text leave the files
alone, whether they succeed or not.  When they succeed, the declarations are
those of the dump or of the first outcome of the script, the formatted text is
that of the next outcome, and each program was called once with the arguments
that the subject and the formatter ask for.
-/

namespace SwiftInterface

open Run

variable {property : World → Prop}

namespace Dump

theorem logNote_keeps (blind : RecordBlind property) (note : Note) :
    Keeps property (logNote note) := by
  cases note with
  | skippedFile path => exact .warn blind _ _
  | loadedFile path => exact .debug blind _ _
  | skippedEntry typeName => exact .warn blind _ _

theorem logNotes_keeps (blind : RecordBlind property) (notes : List Note) :
    Keeps property (logNotes notes) := by
  induction notes with
  | nil => exact .pure ()
  | cons note notes ih => exact (logNote_keeps blind note).bind fun _ => ih

theorem forestOf_keeps (blind : RecordBlind property) (payload : Json) :
    Keeps property (forestOf payload) := by
  rw [forestOf]
  split
  · exact .fail _
  · exact (logNotes_keeps blind _).bind fun _ => .pure _

theorem forestWithin_keeps (blind : RecordBlind property) (payload : Json) :
    Keeps property (forestWithin payload) := by
  refine Keeps.get.bind fun world => ?_
  split
  · exact forestOf_keeps blind payload
  · exact (logNotes_keeps blind _).bind fun _ => .fail _

theorem decode_keeps (text : String) (describe : String → ProducerFailure) :
    Keeps property (decode text describe) := by
  refine Keeps.get.bind fun world => ?_
  split
  · exact .pure _
  · exact .fail _
  · exact .fail _
  · exact .fail _

theorem readText_keeps (path : String) : Keeps property (readText path) := by
  refine Keeps.get.bind fun world => ?_
  split
  · exact .fail _
  · exact .fail _
  · exact .fail _
  · split
    · exact .fail _
    · exact .pure _

theorem load_keeps (blind : RecordBlind property) (path : String) :
    Keeps property (load path) := by
  refine (readText_keeps _).bind fun text => ?_
  refine (decode_keeps text _).bind fun payload => ?_
  refine (forestWithin_keeps blind payload).bind fun forest => ?_
  exact (Keeps.info blind _ _).bind fun _ => .pure forest

/-- The text of a dump holds the declarations of a forest, as far as a machine
can read them. -/
def Holds (machine : Machine) (text : String) (forest : Forest) : Prop :=
  ∃ payload harvest, Json.read machine text.toList = .ok payload ∧
    ofJson? payload = some harvest ∧ harvest.forest = forest

theorem forestOf_eq_ok {payload : Json} {forest : Forest}
    {world after : World}
    (succeeded : forestOf payload world = .ok forest after) :
    ∃ harvest, ofJson? payload = some harvest ∧ harvest.forest = forest := by
  cases harvested : ofJson? payload with
  | none =>
      rw [forestOf, harvested] at succeeded
      exact absurd succeeded fail_ne_ok
  | some harvest =>
      rw [forestOf, harvested] at succeeded
      obtain ⟨_, _, _, returned⟩ := bind_eq_ok.mp succeeded
      exact ⟨harvest, rfl, (pure_eq_ok.mp returned).1⟩

theorem forestWithin_eq_ok {payload : Json} {forest : Forest}
    {world after : World}
    (succeeded : forestWithin payload world = .ok forest after) :
    forestOf payload world = .ok forest after := by
  rw [forestWithin, bind_ok (get_eq world)] at succeeded
  cases found : notesUpTo? world.machine.reach.declarations payload with
  | none => simpa only [found] using succeeded
  | some notes =>
      simp only [found] at succeeded
      obtain ⟨_, _, _, failed⟩ := bind_eq_ok.mp succeeded
      exact absurd failed fail_ne_ok

theorem decode_eq_ok {text : String} {describe : String → ProducerFailure}
    {payload : Json} {world after : World}
    (succeeded : decode text describe world = .ok payload after) :
    Json.read world.machine text.toList = .ok payload := by
  rw [decode, bind_ok (get_eq world)] at succeeded
  cases parsed : Json.read world.machine text.toList with
  | ok found =>
      simp only [parsed] at succeeded
      rw [(pure_eq_ok.mp succeeded).1]
  | error fault =>
      simp only [parsed] at succeeded
      cases fault <;> exact absurd succeeded fail_ne_ok

theorem readText_eq_ok {path text : String} {world after : World}
    (succeeded : readText path world = .ok text after) :
    ∃ content, world.files.read world.here path = .ok content ∧
      fileText content = .ok text := by
  obtain ⟨_, _, got, read⟩ := bind_eq_ok.mp succeeded
  obtain ⟨rfl, rfl⟩ := EStateM.Result.ok.inj got
  cases contentRead : world.files.read world.here path with
  | error refusal =>
      rw [contentRead] at read
      cases refusal <;> exact absurd read fail_ne_ok
  | ok content =>
      rw [contentRead] at read
      cases decoded : fileText content with
      | error fault =>
          simp only [decoded] at read
          exact absurd read fail_ne_ok
      | ok found =>
          simp only [decoded] at read
          exact ⟨content, rfl, by rw [decoded, (pure_eq_ok.mp read).1]⟩

/-- A dump that is loaded holds the declarations that are returned. -/
theorem load_eq_ok {path : String} {forest : Forest} {world after : World}
    (succeeded : load path world = .ok forest after) :
    ∃ content text, world.files.read world.here (Files.tidy path) = .ok content ∧
      fileText content = .ok text ∧ Holds world.machine text forest := by
  obtain ⟨text, _, textRead, succeeded⟩ := bind_eq_ok.mp succeeded
  obtain ⟨payload, _, decoded, succeeded⟩ := bind_eq_ok.mp succeeded
  obtain ⟨found, _, harvested, succeeded⟩ := bind_eq_ok.mp succeeded
  obtain ⟨_, _, _, returned⟩ := bind_eq_ok.mp succeeded
  obtain ⟨content, contentRead, contentText⟩ := readText_eq_ok textRead
  obtain ⟨harvest, harvestEq, forestEq⟩ :=
    forestOf_eq_ok (forestWithin_eq_ok harvested)
  have sameMachine := ((readText_keeps _).sameButLog textRead).machine
  exact ⟨content, text, contentRead, contentText, payload, harvest,
    sameMachine ▸ decode_eq_ok decoded, harvestEq,
    forestEq.trans (pure_eq_ok.mp returned).1⟩

end Dump

/-- The path of a folder that has a name. -/
def Files.Folder.path? : Files.Folder → Option String
  | named path => some path
  | nameless => none

namespace Tool

namespace Indexer

theorem folderPath_keeps (folder : Option Files.Folder) :
    Keeps property (folderPath folder) := by
  rw [folderPath.eq_def]
  split
  · exact .pure none
  · exact .fail _
  · refine Keeps.get.bind fun world => ?_
    split
    · exact .pure _
    · exact .fail _

theorem outputOf_keeps (indexer : Indexer) (subject : Subject)
    (outcome : Outcome) : Keeps property (indexer.outputOf subject outcome) := by
  cases outcome with
  | finished output => exact .pure output
  | exited status errorOutput => exact .fail _
  | missing => exact .fail _
  | timedOut => exact .fail _
  | denied => exact .fail _
  | troubled trouble => exact .fail _

theorem document_keeps (blind : StepBlind property) (indexer : Indexer)
    (subject : Subject) : Keeps property (indexer.document subject) := by
  refine (folderPath_keeps _).bind fun folder => ?_
  refine (Keeps.info blind.log _ _).bind fun _ => ?_
  refine (Keeps.start blind _).bind fun outcome => ?_
  refine (outputOf_keeps indexer subject outcome).bind fun output => ?_
  refine (Dump.decode_keeps output _).bind fun payload => ?_
  refine (Dump.forestWithin_keeps blind.log payload).bind fun forest => ?_
  split
  · exact .fail _
  · exact (Keeps.info blind.log _ _).bind fun _ => .pure forest

/-- The call of the indexer for a subject. -/
def callFor (indexer : Indexer) (subject : Subject) : Call where
  command := indexer.executable :: subject.arguments
  folder := subject.folder?.bind Files.Folder.path?
  timeout := indexer.timeout
  input := none

theorem folderPath_eq_ok {asked : Option Files.Folder}
    {folder : Option String} {world after : World}
    (succeeded : folderPath asked world = .ok folder after) :
    folder = asked.bind Files.Folder.path? := by
  rw [folderPath.eq_def] at succeeded
  split at succeeded
  case h_1 => exact (pure_eq_ok.mp succeeded).1.symm
  case h_2 => exact absurd succeeded fail_ne_ok
  case h_3 path =>
      obtain ⟨_, _, _, checked⟩ := bind_eq_ok.mp succeeded
      split at checked
      · exact (pure_eq_ok.mp checked).1.symm
      · exact absurd checked fail_ne_ok

theorem outputOf_eq_ok {indexer : Indexer} {subject : Subject}
    {outcome : Outcome} {output : String} {world after : World}
    (succeeded : indexer.outputOf subject outcome world = .ok output after) :
    outcome = .finished output := by
  cases outcome with
  | finished found => rw [(pure_eq_ok.mp succeeded).1]
  | exited status errorOutput => exact absurd succeeded fail_ne_ok
  | missing => exact absurd succeeded fail_ne_ok
  | timedOut => exact absurd succeeded fail_ne_ok
  | denied => exact absurd succeeded fail_ne_ok
  | troubled trouble => exact absurd succeeded fail_ne_ok

/-- A successful run of the indexer is one call, whose outcome is the next one
of the script and holds the declarations that are returned. -/
theorem document_eq_ok {indexer : Indexer} {subject : Subject}
    {forest : Forest} {world after : World}
    (succeeded : indexer.document subject world = .ok forest after) :
    ∃ output, world.script = .finished output :: after.script ∧
      Dump.Holds world.machine output forest ∧
        after.calls = world.calls ++ [indexer.callFor subject] := by
  obtain ⟨folder, first, folderFound, succeeded⟩ := bind_eq_ok.mp succeeded
  obtain ⟨_, second, logged, succeeded⟩ := bind_eq_ok.mp succeeded
  obtain ⟨outcome, third, started, succeeded⟩ := bind_eq_ok.mp succeeded
  obtain ⟨output, fourth, finished, succeeded⟩ := bind_eq_ok.mp succeeded
  obtain ⟨payload, fifth, decoded, succeeded⟩ := bind_eq_ok.mp succeeded
  obtain ⟨found, sixth, harvested, succeeded⟩ := bind_eq_ok.mp succeeded
  have before : SameButLog world second :=
    ((folderPath_keeps _).sameButLog folderFound).trans
      ((Keeps.info (logBlind_sameButLog first) _ _).sameButLog logged)
  have ended := (outputOf_keeps indexer subject outcome).sameButLog finished
  have behind : SameButLog third sixth :=
    (ended.trans ((Dump.decode_keeps output _).sameButLog decoded)).trans
      ((Dump.forestWithin_keeps (logBlind_sameButLog fifth) payload).sameButLog
        harvested)
  rw [outputOf_eq_ok finished] at started
  obtain ⟨scripted, called, sameMachine⟩ := start_finished started
  have read := Dump.decode_eq_ok decoded
  rw [ended.machine, sameMachine, before.machine] at read
  obtain ⟨harvest, harvestEq, forestEq⟩ :=
    Dump.forestOf_eq_ok (Dump.forestWithin_eq_ok harvested)
  split at succeeded
  case isTrue => exact absurd succeeded fail_ne_ok
  case isFalse =>
      obtain ⟨_, last, reported, returned⟩ := bind_eq_ok.mp succeeded
      obtain ⟨rfl, rfl⟩ := pure_eq_ok.mp returned
      have ending := behind.trans
        ((Keeps.info (logBlind_sameButLog sixth) _ _).sameButLog reported)
      refine ⟨output, ?_, ⟨payload, harvest, read, harvestEq, forestEq⟩, ?_⟩
      · rw [← before.script, scripted, ending.script]
      · rw [ending.calls, called, before.calls, folderPath_eq_ok folderFound]
        rfl

end Indexer

namespace SourceFormatter

theorem outputOf_keeps (formatter : SourceFormatter) (outcome : Outcome) :
    Keeps property (formatter.outputOf outcome) := by
  cases outcome with
  | finished output => exact .pure output
  | exited status errorOutput => exact .fail _
  | missing => exact .fail _
  | timedOut => exact .fail _
  | denied => exact .fail _
  | troubled trouble => exact .fail _

/-- The call of the formatter on a text. -/
def callOn (formatter : SourceFormatter) (text : String) : Call where
  command := formatter.command
  folder := none
  timeout := formatter.timeout
  input := some text

theorem outputOf_eq_ok {formatter : SourceFormatter} {outcome : Outcome}
    {output : String} {world after : World}
    (succeeded : formatter.outputOf outcome world = .ok output after) :
    outcome = .finished output := by
  cases outcome with
  | finished found => rw [(pure_eq_ok.mp succeeded).1]
  | exited status errorOutput => exact absurd succeeded fail_ne_ok
  | missing => exact absurd succeeded fail_ne_ok
  | timedOut => exact absurd succeeded fail_ne_ok
  | denied => exact absurd succeeded fail_ne_ok
  | troubled trouble => exact absurd succeeded fail_ne_ok

theorem handOver_keeps (text : String) (outcome : Outcome) :
    Keeps property (handOver text outcome) := by
  refine Keeps.get.bind fun world => ?_
  split
  · exact .pure ()
  · split
    · exact .fail _
    · exact .pure ()

theorem format_keeps (blind : StepBlind property) (formatter : SourceFormatter)
    (text : String) : Keeps property (formatter.format text) := by
  refine (Keeps.debug blind.log _ _).bind fun _ => ?_
  refine (Keeps.start blind _).bind fun outcome => ?_
  refine (handOver_keeps text outcome).bind fun _ => ?_
  exact outputOf_keeps formatter outcome

theorem format_eq_ok {formatter : SourceFormatter} {text output : String}
    {world after : World}
    (succeeded : formatter.format text world = .ok output after) :
    world.script = .finished output :: after.script ∧
      after.calls = world.calls ++ [formatter.callOn text] := by
  obtain ⟨_, first, logged, succeeded⟩ := bind_eq_ok.mp succeeded
  obtain ⟨outcome, second, started, succeeded⟩ := bind_eq_ok.mp succeeded
  obtain ⟨_, third, handed, finished⟩ := bind_eq_ok.mp succeeded
  have before := (Keeps.debug (logBlind_sameButLog world) _ _).sameButLog logged
  have behind := ((handOver_keeps text outcome).sameButLog handed).trans
    ((outputOf_keeps formatter outcome).sameButLog finished)
  rw [outputOf_eq_ok finished] at started
  obtain ⟨scripted, called, -⟩ := start_finished started
  constructor
  · rw [← before.script, scripted, behind.script]
  · rw [behind.calls, called, before.calls]
    rfl

end SourceFormatter

namespace Formatter

theorem format_keeps (blind : StepBlind property) (formatter : Formatter)
    (text : String) : Keeps property (formatter.format text) := by
  cases formatter with
  | identity => exact .pure text
  | program formatter => exact formatter.format_keeps blind text

/-- The calls that formatting a text takes. -/
def callsOn : Formatter → String → List Call
  | identity, _ => []
  | program formatter, text => [formatter.callOn text]

/-- What formatting a text yields: the text itself, or the output of the
program, the next one of the script. -/
inductive Yields : Formatter → String → List Outcome → String → Prop
  | identity (text : String) (script : List Outcome) :
      Yields .identity text script text
  | program (formatter : SourceFormatter) (text output : String)
      (rest : List Outcome) :
      Yields (.program formatter) text (.finished output :: rest) output

theorem format_eq_ok {formatter : Formatter} {text output : String}
    {world after : World}
    (succeeded : formatter.format text world = .ok output after) :
    formatter.Yields text world.script output ∧
      after.calls = world.calls ++ formatter.callsOn text := by
  cases formatter with
  | identity =>
      obtain ⟨rfl, rfl⟩ := pure_eq_ok.mp succeeded
      exact ⟨.identity text world.script, (List.append_nil _).symm⟩
  | program formatter =>
      obtain ⟨scripted, called⟩ := SourceFormatter.format_eq_ok succeeded
      rw [scripted]
      exact ⟨.program formatter text output after.script, called⟩

end Formatter

end Tool

namespace Interface

theorem assembleLogged_keeps (blind : RecordBlind property)
    (blocks : List String) (moduleName : String) :
    Keeps property (assembleLogged blocks moduleName) := by
  rw [assembleLogged]
  split
  · exact (Keeps.warn blind _ _).bind fun _ => .pure _
  · exact .pure _

theorem compose_keeps (blind : StepBlind property) (blocks : List String)
    (moduleName : String) (formatter : Tool.Formatter) :
    Keeps property (compose blocks moduleName formatter) := by
  refine (assembleLogged_keeps blind.log blocks moduleName).bind fun text => ?_
  refine (Keeps.info blind.log _ _).bind fun _ => ?_
  exact formatter.format_keeps blind text

theorem assembleLogged_eq_ok {blocks : List String} {moduleName text : String}
    {world after : World}
    (succeeded : assembleLogged blocks moduleName world = .ok text after) :
    text = assemble blocks moduleName := by
  rw [assembleLogged] at succeeded
  split at succeeded
  · obtain ⟨_, _, _, returned⟩ := bind_eq_ok.mp succeeded
    exact (pure_eq_ok.mp returned).1.symm
  · exact (pure_eq_ok.mp succeeded).1.symm

/-- A successful composition formats the assembled text. -/
theorem compose_eq_ok {blocks : List String} {moduleName contents : String}
    {formatter : Tool.Formatter} {world after : World}
    (succeeded :
      compose blocks moduleName formatter world = .ok contents after) :
    formatter.Yields (assemble blocks moduleName) world.script contents ∧
      after.calls =
        world.calls ++ formatter.callsOn (assemble blocks moduleName) := by
  obtain ⟨text, first, assembled, succeeded⟩ := bind_eq_ok.mp succeeded
  obtain ⟨_, second, logged, formatted⟩ := bind_eq_ok.mp succeeded
  have before : SameButLog world second :=
    ((assembleLogged_keeps (logBlind_sameButLog world) _ _).sameButLog
      assembled).trans
      ((Keeps.info (logBlind_sameButLog first) _ _).sameButLog logged)
  obtain ⟨yields, called⟩ := Tool.Formatter.format_eq_ok formatted
  rw [before.script, assembleLogged_eq_ok assembled] at yields
  rw [before.calls, assembleLogged_eq_ok assembled] at called
  exact ⟨yields, called⟩

end Interface

end SwiftInterface
