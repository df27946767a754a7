import SwiftInterface.Proofs.Settings.Loading
import SwiftInterface.Settings.Environment

/-!
# Effective settings

The settings of a run are the defaults of the environment with the settings of a
file in place.  A time from either source is positive, and a file cannot give the
empty path for a program.  The environment can: a variable that is set to nothing
is taken as it is, so the path of a program is empty exactly if its variable is
and the file does not name another path.
-/

namespace SwiftInterface

/-! ## Settings by name -/

/-- The name of a setting. -/
def Setting.name : Setting → Name
  | outputFolder _ => .outputFolder
  | minimumLevel _ => .minimumLevel
  | skipUnbalanced _ => .skipUnbalanced
  | indexerPath _ => .indexerPath
  | formatterPath _ => .formatterPath
  | formatterArguments _ => .formatterArguments
  | timeout _ => .timeout

/-- The setting with the given name as it stands. -/
def Settings.current (settings : Settings) : Setting.Name → Setting
  | .outputFolder => .outputFolder settings.outputFolder
  | .minimumLevel => .minimumLevel settings.minimumLevel
  | .skipUnbalanced => .skipUnbalanced settings.skipUnbalanced
  | .indexerPath => .indexerPath settings.indexerPath
  | .formatterPath => .formatterPath settings.formatterPath
  | .formatterArguments => .formatterArguments settings.formatterArguments
  | .timeout => .timeout settings.timeout

namespace Settings

open Run Setting

variable {collections : Collections} {entries : List (Value × Value)}
  {accepted : List Setting} {defaults settings : Settings}
  {world middle after : World} {path : Option String} {name : Name}

theorem current_apply (settings : Settings) (setting : Setting) (name : Name) :
    (setting.apply settings).current name =
      if setting.name = name then setting else settings.current name := by
  cases setting <;> cases name <;> rfl

/-- Of the settings that are put in place under a name the last one stays. -/
theorem current_override (defaults : Settings) (accepted : List Setting)
    (name : Name) :
    (override defaults accepted).current name =
      (accepted.reverse.find? fun setting => setting.name = name).getD
        (defaults.current name) := by
  induction accepted generalizing defaults with
  | nil => rfl
  | cons setting rest ih =>
      have step : override defaults (setting :: rest) =
          override (setting.apply defaults) rest := rfl
      rw [step, ih, current_apply, List.reverse_cons, List.find?_append]
      cases rest.reverse.find? fun setting => setting.name = name with
      | some found => rfl
      | none =>
          by_cases same : setting.name = name
          · simp [same]
          · simp [same]

theorem current_override_cases (defaults : Settings)
    (accepted : List Setting) (name : Name) :
    (name ∈ accepted.map Setting.name ∧
        (override defaults accepted).current name ∈ accepted) ∨
      name ∉ accepted.map Setting.name ∧
        (override defaults accepted).current name = defaults.current name := by
  rw [current_override]
  cases found : accepted.reverse.find? fun setting => setting.name = name with
  | some setting =>
      have member : setting ∈ accepted := by
        simpa using List.mem_of_find?_eq_some found
      have named : setting.name = name := by
        simpa using List.find?_some found
      exact .inl ⟨List.mem_map.mpr ⟨setting, member, named⟩, member⟩
  | none =>
      have unnamed : ∀ setting ∈ accepted, setting.name ≠ name := by
        simpa using found
      refine .inr ⟨?_, rfl⟩
      rintro named
      obtain ⟨setting, member, same⟩ := List.mem_map.mp named
      exact unnamed setting member same

/-! ## Accepted settings -/

theorem exists_of_map_eq_ok {α β : Type} {judgement : Except Failure α}
    {convert : α → β} {result : β}
    (converted : judgement.map convert = .ok result) :
    ∃ value, judgement = .ok value ∧ result = convert value := by
  cases judgement with
  | ok value => exact ⟨value, rfl, (Except.ok.inj converted).symm⟩
  | error failure => cases converted

theorem pos_of_acceptTimeout {value : Value} {seconds : Int}
    (accepts : acceptTimeout name value = .ok seconds) : 0 < seconds := by
  rw [acceptTimeout] at accepts
  split at accepts
  case h_1 => cases accepts
  case h_2 => cases accepts
  case h_3 found _ =>
      split at accepts
      case isTrue positive =>
          rw [← Except.ok.inj accepts]
          exact positive
      case isFalse => cases accepts

/-- A value that is accepted for a setting gives this setting, and a time that is
accepted is positive. -/
theorem accept_eq_ok {value : Value} {setting : Setting}
    (accepts : accept collections name value = .ok setting) :
    setting.name = name ∧ ∀ seconds, setting = .timeout seconds → 0 < seconds := by
  cases name with
  | timeout =>
      obtain ⟨seconds, accepted, rfl⟩ := exists_of_map_eq_ok accepts
      refine ⟨rfl, ?_⟩
      rintro seconds ⟨⟩
      exact pos_of_acceptTimeout accepted
  | _ =>
      obtain ⟨_, _, rfl⟩ := exists_of_map_eq_ok accepts
      exact ⟨rfl, by simp⟩

theorem acceptEntries_eq_ok
    (accepts : acceptEntries collections entries = .ok accepted) :
    accepted.map Setting.name =
        entries.filterMap (fun entry => nameOf? entry.1) ∧
      ∀ seconds, Setting.timeout seconds ∈ accepted → 0 < seconds := by
  induction entries generalizing accepted with
  | nil =>
      obtain rfl := Except.ok.inj accepts
      exact ⟨rfl, by simp⟩
  | cons entry rest ih =>
      rcases entry with ⟨key, value⟩
      rw [acceptEntries] at accepts
      split at accepts
      case h_1 unnamed =>
          obtain ⟨names, positive⟩ := ih accepts
          exact ⟨by simp [names, unnamed], positive⟩
      case h_2 name named =>
          obtain ⟨setting, first, accepts⟩ := exists_of_bind_eq_ok accepts
          obtain ⟨others, later, returned⟩ := exists_of_bind_eq_ok accepts
          obtain rfl := Except.ok.inj returned
          obtain ⟨settingName, settingPositive⟩ := accept_eq_ok first
          obtain ⟨names, positive⟩ := ih later
          refine ⟨by simp [names, named, settingName], fun seconds member => ?_⟩
          rcases List.mem_cons.mp member with same | member
          · exact settingPositive seconds same.symm
          · exact positive seconds member

/-- The settings that entries name: one for each entry that names one, with
positive times and no empty path. -/
structure Overrides (entries : List (Value × Value))
    (accepted : List Setting) : Prop where
  names : accepted.map Setting.name =
    entries.filterMap fun entry => nameOf? entry.1
  positive : ∀ seconds, Setting.timeout seconds ∈ accepted → 0 < seconds
  indexerPath : Setting.indexerPath "" ∉ accepted
  formatterPath : Setting.formatterPath "" ∉ accepted

theorem overrides_eq_ok
    (judged : overrides collections entries = .ok accepted) :
    Overrides entries accepted := by
  obtain ⟨_, _, judged⟩ := exists_of_bind_eq_ok judged
  obtain ⟨found, accepts, judged⟩ := exists_of_bind_eq_ok judged
  obtain ⟨_, paths, returned⟩ := exists_of_bind_eq_ok judged
  obtain rfl := Except.ok.inj returned
  obtain ⟨names, positive⟩ := acceptEntries_eq_ok accepts
  rw [requirePaths] at paths
  split at paths
  case isTrue => cases paths
  case isFalse noIndexer =>
      split at paths
      case isTrue => cases paths
      case isFalse noFormatter =>
          exact ⟨names, positive, by simpa using noIndexer,
            by simpa using noFormatter⟩

/-! ## Defaults and files -/

/-- The file at a path, if one is given, names a setting. -/
def FileNames (world : World) (path : Option String) (name : Name) : Prop :=
  ∃ given content entries, path = some given ∧ given ≠ "" ∧
    readContent world (Files.tidy given) = .ok content ∧
      entriesOf content = .ok entries ∧
        ∃ entry ∈ entries, nameOf? entry.1 = some name

/-- The settings are the defaults with those in place that the file at a path
names, if one is given. -/
def LoadedFrom (world : World) (path : Option String)
    (defaults settings : Settings) : Prop :=
  ∃ entries accepted, Overrides entries accepted ∧
    settings = override defaults accepted ∧
      ∀ name, FileNames world path name ↔ name ∈ accepted.map Setting.name

theorem loadedFrom_of_absent (absent : ∀ given, path = some given → given = "") :
    LoadedFrom world path defaults defaults := by
  refine ⟨[], [], ⟨rfl, by simp, by simp, by simp⟩, rfl, fun name => ?_⟩
  refine iff_of_false ?_ (by simp)
  rintro ⟨given, _, _, same, nonempty, _⟩
  exact nonempty (absent given same)

theorem loadedFrom_of_settingsIn {given : String} (named : given ≠ "")
    (judged : settingsIn world (Files.tidy given) = .ok accepted) :
    LoadedFrom world (some given) defaults (override defaults accepted) := by
  obtain ⟨content, read, judged⟩ := exists_of_bind_eq_ok judged
  obtain ⟨entries, found, judged⟩ := exists_of_bind_eq_ok judged
  have overriding := overrides_eq_ok judged
  refine ⟨entries, accepted, overriding, rfl, fun name => ?_⟩
  rw [overriding.names, List.mem_filterMap]
  constructor
  · rintro ⟨_, _, _, same, _, readToo, foundToo, member⟩
    cases same
    rw [read] at readToo
    cases readToo
    rw [found] at foundToo
    cases foundToo
    exact member
  · intro member
    exact ⟨given, content, entries, rfl, named, read, found, member⟩

theorem load_eq_ok (loaded : load path defaults world = .ok settings after) :
    LoadedFrom world path defaults settings := by
  cases path with
  | none =>
      obtain ⟨rfl, -⟩ := pure_eq_ok.mp loaded
      exact loadedFrom_of_absent nofun
  | some given =>
      by_cases named : given = ""
      · subst named
        obtain ⟨rfl, -⟩ := pure_eq_ok.mp loaded
        exact loadedFrom_of_absent (by simp)
      · have result := result_eq_ok_iff.mpr ⟨after, loaded⟩
        rw [load_result named] at result
        obtain ⟨accepted, judged, rfl⟩ := exists_of_map_eq_ok result
        exact loadedFrom_of_settingsIn named judged

theorem pos_of_readPositive {value : Option String} {number : Int}
    (read : Environment.readPositive value = .number number) : 0 < number := by
  rw [Environment.readPositive.eq_def] at read
  split at read
  case h_1 => cases read
  case h_2 =>
      dsimp only at read
      split at read
      case isTrue => cases read
      case isFalse =>
          split at read
          case h_1 => cases read
          case h_2 =>
              split at read
              case isTrue positive =>
                  rw [← Environment.Reading.number.inj read]
                  exact positive
              case isFalse => cases read

theorem positive_eq_ok {variableName : String} {value : Option String}
    {default seconds : Int} (isPositive : 0 < default)
    (read : Environment.positive variableName value default world =
      .ok seconds after) : 0 < seconds ∧ SameButLog world after := by
  have warned (message : String) (logged : (do
        Run.warn .settings message
        return default : Run Int) world = .ok seconds after) :
      0 < seconds ∧ SameButLog world after := by
    obtain ⟨rfl, rfl⟩ := EStateM.Result.ok.inj logged
    exact ⟨isPositive, sameButLog_log _ _ _ _ _⟩
  rw [Environment.positive] at read
  cases reading : Environment.readPositive value with
  | unset =>
      rw [reading] at read
      obtain ⟨rfl, rfl⟩ := pure_eq_ok.mp read
      exact ⟨isPositive, .refl world⟩
  | number number =>
      rw [reading] at read
      obtain ⟨rfl, rfl⟩ := pure_eq_ok.mp read
      exact ⟨pos_of_readPositive reading, .refl world⟩
  | notInteger =>
      rw [reading] at read
      exact warned _ read
  | notPositive =>
      rw [reading] at read
      exact warned _ read

/-- The defaults that an environment gives: a positive time, and the paths as
they are set. -/
structure FromEnvironment (environment : Environment.Variables)
    (defaults : Settings) : Prop where
  timeout : 0 < defaults.timeout
  indexerPath : defaults.indexerPath =
    (environment.lookup "SOURCEKITTEN_PATH").getD "sourcekitten"
  formatterPath : defaults.formatterPath =
    (environment.lookup "SWIFTFORMAT_PATH").getD "swiftformat"

theorem environment_eq_ok {environment : Environment.Variables}
    (read : Environment.settings environment world = .ok defaults after) :
    FromEnvironment environment defaults ∧ SameButLog world after := by
  obtain ⟨seconds, middle, timed, returned⟩ := bind_eq_ok.mp read
  obtain ⟨rfl, rfl⟩ := pure_eq_ok.mp returned
  obtain ⟨positive, same⟩ := positive_eq_ok (by decide) timed
  exact ⟨⟨positive, rfl, rfl⟩, same⟩

theorem fileNames_congr (same : SameButLog world after) :
    FileNames after path name ↔ FileNames world path name := by
  have readSame (given : String) :
      readContent after given = readContent world given := by
    rw [readContent, readContent, readBytes, readBytes, same.files, same.here,
      same.machine]
  simp only [FileNames, readSame]

/-- The settings of a run: the defaults of the environment with the settings of a
file in place. -/
def effective (environment : Environment.Variables) (path : Option String) :
    Run Settings := do
  let defaults ← Environment.settings environment
  load path defaults

/-- A text setting that cannot be overridden by the empty text is empty only if it
is so by default and not overridden at all. -/
theorem empty_iff_of_override {convert : String → Setting}
    (injective : ∀ first second, convert first = convert second →
      first = second)
    {usual effective : String} (refused : convert "" ∉ accepted)
    (before : defaults.current name = convert usual)
    (now : (override defaults accepted).current name = convert effective) :
    effective = "" ↔ usual = "" ∧ name ∉ accepted.map Setting.name := by
  rcases current_override_cases defaults accepted name with
    ⟨named, member⟩ | ⟨unnamed, same⟩
  · rw [now] at member
    refine iff_of_false ?_ fun unnamed => unnamed.2 named
    rintro rfl
    exact refused member
  · rw [now, before] at same
    simp [injective _ _ same, unnamed]

theorem getD_eq_empty_iff {given : Option String} {usual : String}
    (nonempty : usual ≠ "") : given.getD usual = "" ↔ given = some "" := by
  cases given with
  | none => simp [nonempty]
  | some text => simp

theorem pos_of_override (overriding : Overrides entries accepted)
    (positive : 0 < defaults.timeout) :
    0 < (override defaults accepted).timeout := by
  rcases current_override_cases defaults accepted .timeout with
    ⟨_, member⟩ | ⟨_, same⟩
  · exact overriding.positive _ member
  · rw [Setting.timeout.inj same]
    exact positive

/-- Whatever the environment and the file are, the time of effective settings is
positive, and the path of a program is empty exactly if the environment sets it to
nothing and the file does not name another one. -/
theorem effective_usable_iff {environment : Environment.Variables}
    (loaded : effective environment path world = .ok settings after) :
    1 ≤ settings.timeout ∧
      (settings.indexerPath = "" ↔
        environment.lookup "SOURCEKITTEN_PATH" = some "" ∧
          ¬ FileNames world path .indexerPath) ∧
      (settings.formatterPath = "" ↔
        environment.lookup "SWIFTFORMAT_PATH" = some "" ∧
          ¬ FileNames world path .formatterPath) := by
  obtain ⟨defaults, middle, read, loaded⟩ := bind_eq_ok.mp loaded
  obtain ⟨given, same⟩ := environment_eq_ok read
  obtain ⟨entries, accepted, overriding, rfl, names⟩ := load_eq_ok loaded
  refine ⟨pos_of_override overriding given.timeout, ?_, ?_⟩
  · rw [← fileNames_congr same, names,
      ← getD_eq_empty_iff (by decide : "sourcekitten" ≠ ""), ← given.indexerPath]
    exact empty_iff_of_override (fun _ _ => Setting.indexerPath.inj)
      overriding.indexerPath rfl rfl
  · rw [← fileNames_congr same, names,
      ← getD_eq_empty_iff (by decide : "swiftformat" ≠ ""), ← given.formatterPath]
    exact empty_iff_of_override (fun _ _ => Setting.formatterPath.inj)
      overriding.formatterPath rfl rfl

/-- An environment that sets the paths of both programs to nothing. -/
def blankPaths : Environment.Variables :=
  [("SOURCEKITTEN_PATH", ""), ("SWIFTFORMAT_PATH", "")]

/-- A world with a settings file that names one of the paths. -/
def namingWorld : World where
  files.entries :=
    [(["s.yaml"], .file (Text.encodeUtf8 "swiftformat_path: fmt\n"))]

theorem effective_usable_iff_naming :
    ∃ settings after,
      effective blankPaths (some "s.yaml") namingWorld = .ok settings after ∧
        1 ≤ settings.timeout ∧
        (settings.indexerPath = "" ↔
          ¬ FileNames namingWorld (some "s.yaml") .indexerPath) ∧
        (settings.formatterPath = "" ↔
          ¬ FileNames namingWorld (some "s.yaml") .formatterPath) := by
  have succeeded :
      (effective blankPaths (some "s.yaml")).succeeds namingWorld = true := by
    decide +kernel
  obtain ⟨settings, after, loaded⟩ := exists_of_succeeds succeeded
  obtain ⟨timeout, indexer, formatter⟩ := effective_usable_iff loaded
  refine ⟨settings, after, loaded, timeout, ?_, ?_⟩
  · simpa [blankPaths] using indexer
  · simpa [blankPaths, List.lookup_cons] using formatter

/-- The environment can leave a program without a path. -/
theorem effective_without_path :
    ¬ ∀ environment path world settings after,
      effective environment path world = .ok settings after →
        1 ≤ settings.timeout ∧ settings.indexerPath ≠ "" ∧
          settings.formatterPath ≠ "" := by
  intro usable
  have unset : effective [("SOURCEKITTEN_PATH", "")] none {} =
      .ok { indexerPath := "" } {} := rfl
  exact (usable _ _ _ _ _ unset).2.1 rfl

end Settings

end SwiftInterface
