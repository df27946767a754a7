import SwiftInterface.Proofs.Files.Resolution
import SwiftInterface.Proofs.Settings.Acceptance
import SwiftInterface.Proofs.Settings.Loading

/-!
# The failures of loading settings

A settings file that exists is accepted, or it is rejected with a reason, or a
fault escapes.  The last of these is not documented.  This file says for every
content of a file which fault escapes from it, if any: the file may not be
UTF-8, it may nest too deeply, its JSON may hold an integer with too many digits,
its YAML may hold a scalar that its type does not admit, and its entries may have
an infinite time or a value that a rejection cannot show.
-/

namespace SwiftInterface

namespace Settings

open Run

variable {path : String} {content : ByteArray} {world : World}
  {defaults : Settings} {fault : Fault}

/-- A fault that escapes where the text of a settings file is parsed. -/
inductive ParseEscapes (machine : Machine) (path text : String) :
    Fault → Prop
  | longInteger {digits : Nat} (isJson : isJsonPath path = true)
      (read : Json.read machine text.toList = .error (.tooManyDigits digits)) :
      ParseEscapes machine path text (.unreadableInteger digits)
  | tooDeep {descent : Descent} (isJson : isJsonPath path = true)
      (read : Json.read machine text.toList = .error (.tooDeep descent)) :
      ParseEscapes machine path text (.tooDeep descent)
  | yaml {fault : Fault} (isYaml : isJsonPath path = false)
      (read : Yaml.read machine text.toList = .error (.fault fault)) :
      ParseEscapes machine path text fault

/-- A fault that escapes from a settings file with the given content. -/
inductive Escapes (machine : Machine) (path : String) (content : ByteArray) :
    Fault → Prop
  | undecodable {fault : Text.Utf8Fault}
      (garbled : Dump.fileText content = .error fault) :
      Escapes machine path content (.undecodable fault)
  | parse {text : String} {fault : Fault}
      (decoded : Dump.fileText content = .ok text)
      (escapes : ParseEscapes machine path text fault) :
      Escapes machine path content fault
  | entries {text : String} {document : Content}
      {entries : List (Value × Value)} {fault : Fault}
      (decoded : Dump.fileText content = .ok text)
      (parsed : parse machine path text = .ok document)
      (found : entriesOf document = .ok entries)
      (escapes : EntriesEscape document.collections entries fault) :
      Escapes machine path content fault

theorem parse_judged (machine : Machine) (path text : String) :
    Judged (ParseEscapes machine path text) (parse machine path text) := by
  rw [parse]
  split
  case isTrue isJson =>
      have byJson (fault : Fault) :
          ((∃ digits, Json.read machine text.toList =
                .error (.tooManyDigits digits) ∧
              fault = .unreadableInteger digits) ∨
            ∃ descent, Json.read machine text.toList =
                .error (.tooDeep descent) ∧ fault = .tooDeep descent) ↔
            ParseEscapes machine path text fault := by
        constructor
        · rintro (⟨digits, read, rfl⟩ | ⟨descent, read, rfl⟩)
          · exact .longInteger isJson read
          · exact .tooDeep isJson read
        · intro escapes
          cases escapes with
          | longInteger _ read => exact .inl ⟨_, read, rfl⟩
          | tooDeep _ read => exact .inr ⟨_, read, rfl⟩
          | yaml isYaml _ => simp [isJson] at isYaml
      refine Judged.congr ?_ byJson
      cases Json.read machine text.toList with
      | ok json => exact .accepted _ (by simp)
      | error cause =>
          cases cause with
          | malformed problem remaining => exact .rejected _ (by simp)
          | tooManyDigits digits => exact .escaped (by simp)
          | tooDeep descent => exact .escaped (by simp)
  case isFalse isYaml =>
      have byYaml (fault : Fault) :
          Yaml.read machine text.toList = .error (.fault fault) ↔
            ParseEscapes machine path text fault := by
        constructor
        · exact .yaml (by simpa using isYaml)
        · intro escapes
          cases escapes with
          | longInteger isJson _ => exact absurd isJson isYaml
          | tooDeep isJson _ => exact absurd isJson isYaml
          | yaml _ read => exact read
      refine Judged.congr ?_ byYaml
      cases Yaml.read machine text.toList with
      | ok document => exact .accepted _ nofun
      | error problem =>
          cases problem with
          | malformed => exact .rejected _ (by simp)
          | fault cause => exact .escaped (by simp [eq_comm])

theorem entriesOf_judged (document : Content) :
    Judged (fun _ => False) (entriesOf document) := by
  rw [entriesOf.eq_def]
  split
  · exact .accepted [] fun _ escapes => escapes
  · split
    · exact .accepted _ fun _ escapes => escapes
    · exact .rejected _ fun _ escapes => escapes

theorem settingsOf_judged (document : Content) :
    Judged (fun fault => ∃ entries, entriesOf document = .ok entries ∧
      EntriesEscape document.collections entries fault)
      (settingsOf document) := by
  refine ((entriesOf_judged document).bind fun entries _ =>
    overrides_judged document.collections entries).congr fun fault => ?_
  simp

theorem readContent_of_read
    (reads : world.files.read world.here path = .ok content) :
    readContent world path =
      match Dump.fileText content with
      | .error fault => .error (.fault (.undecodable fault))
      | .ok text => parse world.machine path text := by
  rw [readContent, readBytes, reads]
  rfl

/-- The judgement about a file follows its content. -/
theorem settingsIn_judged
    (reads : world.files.read world.here path = .ok content) :
    Judged (Escapes world.machine path content) (settingsIn world path) := by
  rw [settingsIn, readContent_of_read reads]
  cases decoded : Dump.fileText content with
  | error garbled =>
      refine .escaped fun other => ⟨fun escapes => ?_, ?_⟩
      · cases escapes with
        | undecodable garbledToo =>
            rw [decoded] at garbledToo
            cases garbledToo
            rfl
        | parse decodedToo _ => simp [decoded] at decodedToo
        | entries decodedToo _ _ _ => simp [decoded] at decodedToo
      · rintro rfl
        exact .undecodable decoded
  | ok text =>
      refine ((parse_judged world.machine path text).bind fun document _ =>
        settingsOf_judged document).congr fun fault => ⟨?_, fun escapes => ?_⟩
      · rintro (escapes | ⟨document, parsed, entries, found, escapes⟩)
        · exact .parse decoded escapes
        · exact .entries decoded parsed found escapes
      · cases escapes with
        | undecodable garbled => simp [decoded] at garbled
        | parse decodedToo escapes =>
            rw [decoded] at decodedToo
            cases decodedToo
            exact .inl escapes
        | entries decodedToo parsed found escapes =>
            rw [decoded] at decodedToo
            cases decodedToo
            exact .inr ⟨_, parsed, _, found, escapes⟩

theorem ne_empty_of_read
    (reads : world.files.read world.here (Files.tidy path) = .ok content) :
    path ≠ "" := by
  rintro rfl
  exact world.files.read_dot_ne_ok world.here content reads

/-- Loading the file at a path ends as documented: it returns settings or
rejects the file. -/
def LoadsAsDocumented (path : String) (defaults : Settings) (world : World) :
    Prop :=
  (∃ settings after, load (some path) defaults world = .ok settings after) ∨
    ∃ cause, (load (some path) defaults).Fails world (.settings cause)

/-- Loading a file that exists ends as documented unless a fault escapes from
the content of the file, and what escapes is what loading fails with. -/
theorem loadsAsDocumented_or_escapes
    (reads : world.files.read world.here (Files.tidy path) = .ok content)
    (defaults : Settings) :
    (LoadsAsDocumented path defaults world ↔
      ¬ ∃ fault, Escapes world.machine (Files.tidy path) content fault) ∧
      ∀ fault, (load (some path) defaults).Fails world (.fault fault) ↔
        Escapes world.machine (Files.tidy path) content fault := by
  have judged : Judged (Escapes world.machine (Files.tidy path) content)
      ((load (some path) defaults).result world) := by
    rw [load_result (ne_empty_of_read reads)]
    exact (settingsIn_judged reads).map _
  constructor
  · rw [← judged.documented_iff]
    simp only [LoadsAsDocumented, result_eq_ok_iff, result_eq_error_iff]
  · intro fault
    rw [← result_eq_error_iff, judged.eq_fault_iff]

/-- A settings file with a time that is a list. -/
def listedText : String :=
  "timeout_s: [1]\n"

def listedWorld : World where
  files.entries := [(["s.yaml"], .file (Text.encodeUtf8 listedText))]

theorem loadsAsDocumented_or_escapes_listed :
    LoadsAsDocumented "s.yaml" {} listedWorld ∧
      ¬ ∃ fault, Escapes listedWorld.machine "s.yaml"
        (Text.encodeUtf8 listedText) fault := by
  have rejected : (load (some "s.yaml") {}).Fails listedWorld
      (.settings (.notTimeout "timeout_s")) := by
    decide +kernel
  have reads : listedWorld.files.read listedWorld.here
      (Files.tidy "s.yaml") = .ok (Text.encodeUtf8 listedText) := by rfl
  have documented : LoadsAsDocumented "s.yaml" {} listedWorld :=
    .inr ⟨_, rejected⟩
  exact ⟨documented, (loadsAsDocumented_or_escapes reads {}).1.mp documented⟩

/-- A settings file with an infinite time. -/
def endlessText : String :=
  "\x7b\"timeout_s\": Infinity\x7d"

def endlessWorld : World where
  files.entries := [(["s.json"], .file (Text.encodeUtf8 endlessText))]

/-- An infinite time is not rejected. -/
theorem not_loadsAsDocumented_endless :
    ¬ LoadsAsDocumented "s.json" {} endlessWorld := by
  have failed : (load (some "s.json") {}).Fails endlessWorld
      (.fault .infiniteNumber) := by
    decide +kernel
  rintro (⟨settings, after, succeeded⟩ | ⟨cause, failedToo⟩)
  · exact not_fails_of_ok succeeded failed
  · cases failedToo.unique failed

end Settings

end SwiftInterface
