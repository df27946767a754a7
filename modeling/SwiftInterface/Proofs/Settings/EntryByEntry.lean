import SwiftInterface.Proofs.Settings.EffectiveSettings
import SwiftInterface.Proofs.Value.Likeness

/-!
# Settings entry by entry

The entries of a settings file pass three tests one after the other: all keys
must name settings, all values must be acceptable, and no program may be left
without a path.  Together they come to a single test of each entry, which yields
one setting and does not look at the other entries.
-/

namespace SwiftInterface

namespace Setting

theorem Name.ofLabel?_label (name : Name) : ofLabel? name.label = some name := by
  cases name <;> rfl

/-- The setting that a value gives under a name, if it is acceptable; the path of
a program must not be empty. -/
def given? (collections : Collections) (name : Name) (value : Value) :
    Option Setting :=
  (accept collections name value).toOption.filter fun setting =>
    setting ≠ .indexerPath "" && setting ≠ .formatterPath ""

variable {collections first second : Collections} {name : Name}
  {value other : Value} {setting : Setting}

theorem given?_eq_some_iff :
    given? collections name value = some setting ↔
      accept collections name value = .ok setting ∧
        setting ≠ .indexerPath "" ∧ setting ≠ .formatterPath "" := by
  rw [given?, Option.filter_eq_some_iff]
  cases accept collections name value with
  | ok found => simp [Except.toOption]
  | error failure => simp [Except.toOption]

theorem name_of_given? (given : given? collections name value = some setting) :
    setting.name = name :=
  (Settings.accept_eq_ok (given?_eq_some_iff.mp given).1).1

theorem given?_of_alike (alike : Value.Alike first second value other)
    (given : given? first name value = some setting) :
    given? second name other = some setting := by
  obtain ⟨accepted, named⟩ := given?_eq_some_iff.mp given
  exact given?_eq_some_iff.mpr ⟨accept_of_alike alike accepted, named⟩

end Setting

namespace Settings

open Setting

variable {collections : Collections} {entries : List (Value × Value)}
  {accepted : List Setting} {defaults settings : Settings} {name : Name}

theorem nameOf?_eq_some_iff {key : Value} :
    nameOf? key = some name ↔ key = .text name.label := by
  constructor
  · intro named
    cases key with
    | text label =>
        have found := List.find?_some (named : Name.ofLabel? label = some name)
        rw [eq_of_beq found]
    | _ => cases named
  · rintro rfl
    exact Name.ofLabel?_label name

/-- The setting that an entry gives, if it is acceptable. -/
def grant? (collections : Collections) (entry : Value × Value) :
    Option Setting :=
  (nameOf? entry.1).bind fun name => Setting.given? collections name entry.2

theorem grant?_text (collections : Collections) (name : Name) (value : Value) :
    grant? collections (.text name.label, value) =
      Setting.given? collections name value := by
  rw [grant?, nameOf?_eq_some_iff.mpr rfl]
  rfl

theorem grant?_eq_some_iff {entry : Value × Value} {setting : Setting} :
    grant? collections entry = some setting ↔
      entry.1 = .text setting.name.label ∧
        Setting.given? collections setting.name entry.2 = some setting := by
  rw [grant?, Option.bind_eq_some_iff]
  constructor
  · rintro ⟨name, named, given⟩
    rw [name_of_given? given]
    exact ⟨nameOf?_eq_some_iff.mp named, given⟩
  · rintro ⟨key, given⟩
    exact ⟨setting.name, nameOf?_eq_some_iff.mpr key, given⟩

/-- What is accepted of an entry before paths are looked at. -/
def acceptSingle? (collections : Collections) (entry : Value × Value) :
    Option Setting :=
  (nameOf? entry.1).bind fun name => (accept collections name entry.2).toOption

theorem grant?_eq_filter (collections : Collections) (entry : Value × Value) :
    grant? collections entry =
      (acceptSingle? collections entry).filter fun setting =>
        setting ≠ .indexerPath "" && setting ≠ .formatterPath "" := by
  rw [grant?, acceptSingle?]
  cases nameOf? entry.1 with
  | none => rfl
  | some name => rfl

theorem acceptEntries_eq_ok_iff (named : AllNamed entries) :
    acceptEntries collections entries = .ok accepted ↔
      entries.map (acceptSingle? collections) = accepted.map some := by
  induction entries generalizing accepted with
  | nil =>
      cases accepted with
      | nil => exact iff_of_true rfl rfl
      | cons setting rest =>
          apply iff_of_false
          · rintro ⟨⟩
          · rintro ⟨⟩
  | cons entry rest ih =>
      obtain ⟨key, value⟩ := entry
      have others : AllNamed rest := fun entry member =>
        named entry (List.mem_cons_of_mem _ member)
      obtain ⟨name, keyed⟩ :=
        Option.isSome_iff_exists.mp (named (key, value) (by simp))
      dsimp only at keyed
      simp only [acceptEntries, keyed, List.map_cons, acceptSingle?,
        Option.bind_some]
      cases judged : accept collections name value with
      | error failure =>
          apply iff_of_false
          · rintro ⟨⟩
          · cases accepted <;> simp [Except.toOption]
      | ok setting =>
          constructor
          · intro both
            obtain ⟨_, isFirst, both⟩ := exists_of_bind_eq_ok both
            obtain rfl := Except.ok.inj isFirst
            obtain ⟨found, later, returned⟩ := exists_of_bind_eq_ok both
            obtain rfl := Except.ok.inj returned
            rw [List.map_cons, ← (ih others).mp later]
            rfl
          · intro both
            cases accepted with
            | nil => cases both
            | cons first found =>
                rw [List.map_cons, List.cons.injEq] at both
                obtain ⟨same, later⟩ := both
                obtain rfl := Option.some.inj same
                have laterOk := (ih others).mpr later
                simp only [bind, Except.bind, laterOk]
                rfl

theorem requirePaths_eq_ok_iff :
    requirePaths accepted = .ok () ↔
      ∀ setting ∈ accepted,
        setting ≠ .indexerPath "" ∧ setting ≠ .formatterPath "" := by
  rw [requirePaths]
  constructor
  · intro passed setting member
    split at passed
    case isTrue => cases passed
    case isFalse noIndexer =>
        split at passed
        case isTrue => cases passed
        case isFalse noFormatter =>
            constructor
            · rintro rfl
              exact noIndexer (by simpa using member)
            · rintro rfl
              exact noFormatter (by simpa using member)
  · intro usable
    have noIndexer : ¬ accepted.contains (.indexerPath "") = true := by
      intro contained
      exact (usable _ (by simpa using contained)).1 rfl
    have noFormatter : ¬ accepted.contains (.formatterPath "") = true := by
      intro contained
      exact (usable _ (by simpa using contained)).2 rfl
    rw [if_neg noIndexer, if_neg noFormatter]

theorem map_grant?_eq_iff :
    entries.map (grant? collections) = accepted.map some ↔
      entries.map (acceptSingle? collections) = accepted.map some ∧
        ∀ setting ∈ accepted,
          setting ≠ .indexerPath "" ∧ setting ≠ .formatterPath "" := by
  induction entries generalizing accepted with
  | nil =>
      cases accepted with
      | nil => simp
      | cons setting rest => simp
  | cons entry rest ih =>
      cases accepted with
      | nil => simp
      | cons setting found =>
          simp only [List.map_cons, List.cons.injEq, ih, grant?_eq_filter,
            Option.filter_eq_some_iff, List.forall_mem_cons, Bool.and_eq_true,
            decide_eq_true_eq]
          tauto

theorem allNamed_of_accepted
    (each : entries.map (acceptSingle? collections) = accepted.map some) :
    AllNamed entries := by
  intro entry member
  have found : acceptSingle? collections entry ∈ accepted.map some :=
    each ▸ List.mem_map_of_mem member
  obtain ⟨setting, -, same⟩ := List.mem_map.mp found
  obtain ⟨name, named, -⟩ := Option.bind_eq_some_iff.mp same.symm
  rw [named]
  rfl

/-- Entries are accepted one by one. -/
theorem overrides_eq_ok_iff :
    overrides collections entries = .ok accepted ↔
      entries.map (grant? collections) = accepted.map some := by
  rw [map_grant?_eq_iff]
  constructor
  · intro judged
    obtain ⟨_, required, judged⟩ := exists_of_bind_eq_ok judged
    obtain ⟨found, accepts, judged⟩ := exists_of_bind_eq_ok judged
    obtain ⟨_, paths, returned⟩ := exists_of_bind_eq_ok judged
    obtain rfl := Except.ok.inj returned
    have named := requireNames_eq_ok_iff.mp required
    exact ⟨(acceptEntries_eq_ok_iff named).mp accepts,
      requirePaths_eq_ok_iff.mp paths⟩
  · rintro ⟨each, usable⟩
    have named := allNamed_of_accepted each
    have required : requireNames collections entries = .ok () :=
      requireNames_eq_ok_iff.mpr named
    have accepts := (acceptEntries_eq_ok_iff named).mpr each
    have paths := requirePaths_eq_ok_iff.mpr usable
    simp only [overrides, bind, Except.bind, required, accepts, paths]
    rfl

theorem eq_of_current (same : ∀ name, settings.current name =
    defaults.current name) : settings = defaults := by
  have folder := Setting.outputFolder.inj (same .outputFolder)
  have level := Setting.minimumLevel.inj (same .minimumLevel)
  have skips := Setting.skipUnbalanced.inj (same .skipUnbalanced)
  have indexer := Setting.indexerPath.inj (same .indexerPath)
  have formatter := Setting.formatterPath.inj (same .formatterPath)
  have arguments := Setting.formatterArguments.inj (same .formatterArguments)
  have seconds := Setting.timeout.inj (same .timeout)
  cases settings
  cases defaults
  simp_all

theorem name_current (settings : Settings) (name : Name) :
    (settings.current name).name = name := by
  cases name <;> rfl

end Settings

end SwiftInterface
