import SwiftInterface.Proofs.CommandLine.FilesTouched

/-!
# Flags over settings

The output folder and the minimum level can be given on the command line and in
the settings.  An output folder on the command line always wins, even an empty
one or one that has lost its name, and then nothing about the run depends on the
folder of the settings.  A level on the command line wins only if its name is
not empty: the empty name counts as none, and the level of the settings is
chosen in its place.
-/

namespace SwiftInterface

open Run

namespace AccessLevel

/-- Choosing a level never fails; a name that is not known is reported. -/
theorem exists_choose (name : Json) (world : World) :
    ∃ level after, choose name world = .ok level after := by
  rw [choose]
  cases named? name with
  | none => exact ⟨_, _, rfl⟩
  | some level => exact ⟨level, world, rfl⟩

end AccessLevel

namespace CommandLine

namespace Found

variable {found : Found} {name : String}

theorem has_of_value? {value : String} (given : found.value? name = some value) :
    found.has name = true := by
  rw [value?, Option.bind_eq_some_iff] at given
  obtain ⟨entry, searched, -⟩ := given
  have member := List.mem_reverse.mp (List.mem_of_find?_eq_some searched)
  have matched := List.find?_some searched
  exact List.any_eq_true.mpr ⟨entry, member, matched⟩

/-- A folder is asked for exactly if its option occurs, with whatever value. -/
theorem folder?_isSome : (found.folder? name).isSome = found.has name := by
  rw [folder?]
  cases given : found.value? name with
  | some value => rw [has_of_value? given, Option.isSome_some]
  | none => cases found.has name <;> rfl

theorem folder?_eq_none (absent : found.has name = false) :
    found.folder? name = none := by
  rw [← Option.isSome_eq_false_iff.trans Option.isNone_iff_eq_none,
    folder?_isSome, absent]

theorem exists_folder? (occurs : found.has name = true) :
    ∃ folder, found.folder? name = some folder := by
  rw [← Option.isSome_iff_exists, folder?_isSome, occurs]

end Found

/-! ## Generating -/

/-- The level is chosen by its name, and the other options are put together from
the arguments and the settings. -/
theorem generationOf_run (arguments : GenerateArguments) (settings : Settings)
    (world : World) :
    ∃ generation after,
      generationOf arguments settings world = .ok generation after ∧
        AccessLevel.choose (.string (levelName arguments settings)) world =
          .ok generation.minimumLevel after ∧
        generation.outputFolder =
          arguments.outputFolder.getD (.named settings.outputFolder) := by
  obtain ⟨level, after, chosen⟩ := AccessLevel.exists_choose
    (.string (levelName arguments settings)) world
  rw [generationOf, bind_ok chosen]
  exact ⟨_, after, rfl, chosen, rfl⟩

theorem levelName_of_given {arguments : GenerateArguments} {name : String}
    (given : arguments.minimumLevel = some name) (named : name ≠ "")
    (settings : Settings) : levelName arguments settings = name := by
  simp [levelName, given, Generation.given?, named]

theorem levelName_of_empty {arguments : GenerateArguments}
    (empty : arguments.minimumLevel = none ∨ arguments.minimumLevel = some "")
    (settings : Settings) :
    levelName arguments settings = settings.minimumLevel := by
  rcases empty with none | empty
  · simp [levelName, none, Generation.given?]
  · simp [levelName, empty, Generation.given?]

theorem generationOf_congr_folder {arguments : GenerateArguments}
    {folder : Files.Folder} (given : arguments.outputFolder = some folder)
    (settings : Settings) (other : String) :
    generationOf arguments { settings with outputFolder := other } =
      generationOf arguments settings := by
  rw [generationOf, generationOf, given]
  rfl

theorem generationOf_congr_level {arguments : GenerateArguments} {name : String}
    (given : arguments.minimumLevel = some name) (named : name ≠ "")
    (settings : Settings) (other : String) :
    generationOf arguments { settings with minimumLevel := other } =
      generationOf arguments settings := by
  rw [generationOf, generationOf, levelName_of_given given named,
    levelName_of_given given named]

/-- Where the folder and the level of a generation come from: the flags that
were found on the command line or the settings. -/
structure GenerationFollows (found : Found) (settings : Settings)
    (world : World) (generation : Generation) (after : World) : Prop where
  built : generationOf (generateArguments found) settings world =
    .ok generation after
  folderOfFlag : found.has "--output-folder" = true →
    found.folder? "--output-folder" = some generation.outputFolder
  folderOfSettings : found.has "--output-folder" = false →
    generation.outputFolder = .named settings.outputFolder
  levelOfFlag : ∀ name, found.value? "--min-acl" = some name → name ≠ "" →
    AccessLevel.choose (.string name) world = .ok generation.minimumLevel after
  levelOfSettings : found.value? "--min-acl" = none ∨
      found.value? "--min-acl" = some "" →
    AccessLevel.choose (.string settings.minimumLevel) world =
      .ok generation.minimumLevel after
  /-- Settings that differ in a folder that is not used build the same. -/
  sameFolder : found.has "--output-folder" = true → ∀ other,
    generationOf (generateArguments found)
        { settings with outputFolder := other } world =
      .ok generation after
  /-- Settings that differ in a level that is not used build the same. -/
  sameLevel : ∀ name, found.value? "--min-acl" = some name → name ≠ "" →
    ∀ other,
      generationOf (generateArguments found)
          { settings with minimumLevel := other } world =
        .ok generation after

theorem exists_generationFollows (found : Found) (settings : Settings)
    (world : World) :
    ∃ generation after,
      GenerationFollows found settings world generation after := by
  obtain ⟨generation, after, built, chosen, folderEq⟩ :=
    generationOf_run (generateArguments found) settings world
  have sameArguments : (generateArguments found).outputFolder =
      found.folder? "--output-folder" := rfl
  refine ⟨generation, after, built, ?_, ?_, ?_, ?_, ?_, ?_⟩
  · intro occurs
    obtain ⟨folder, given⟩ := Found.exists_folder? occurs
    rw [folderEq, sameArguments, given]
    rfl
  · intro absent
    rw [folderEq, sameArguments, Found.folder?_eq_none absent]
    rfl
  · intro name given named
    have nameEq : levelName (generateArguments found) settings = name :=
      levelName_of_given given named settings
    rw [nameEq] at chosen
    exact chosen
  · intro empty
    have nameEq : levelName (generateArguments found) settings =
        settings.minimumLevel := levelName_of_empty empty settings
    rw [nameEq] at chosen
    exact chosen
  · intro occurs other
    obtain ⟨folder, given⟩ := Found.exists_folder? occurs
    rw [generationOf_congr_folder (sameArguments.trans given)]
    exact built
  · intro name given named other
    have sameName : (generateArguments found).minimumLevel = some name := given
    rw [generationOf_congr_level sameName named]
    exact built

/-! ## Removing -/

/-- Once the settings are loaded, an interface is removed from the folder of the
command line, or from that of the settings if there is none. -/
theorem runClean_of_load {arguments : CleanArguments} {defaults : Settings}
    {settings : Settings} {world loaded : World}
    (load : Settings.load arguments.config defaults world =
      .ok settings loaded) :
    runClean defaults arguments world =
      Run.inModule arguments.moduleName
        (Store.removeFrom
          (arguments.outputFolder.getD (.named settings.outputFolder))
          arguments.moduleName) loaded := by
  rw [runClean, bind_ok load]
  rfl

/-- Where the folder of a removal comes from. -/
structure RemovalFollows (found : Found) (defaults settings : Settings)
    (world loaded : World) : Prop where
  folderOfFlag : found.has "--output-folder" = true →
    ∃ folder, found.folder? "--output-folder" = some folder ∧
      runClean defaults (cleanArguments found) world =
        Run.inModule (cleanArguments found).moduleName
          (Store.removeFrom folder (cleanArguments found).moduleName) loaded
  folderOfSettings : found.has "--output-folder" = false →
    runClean defaults (cleanArguments found) world =
      Run.inModule (cleanArguments found).moduleName
        (Store.removeFrom (.named settings.outputFolder)
          (cleanArguments found).moduleName) loaded

theorem removalFollows_of_load {found : Found} {defaults settings : Settings}
    {world loaded : World}
    (load : Settings.load (cleanArguments found).config defaults world =
      .ok settings loaded) :
    RemovalFollows found defaults settings world loaded := by
  have removed := runClean_of_load load
  have sameArguments : (cleanArguments found).outputFolder =
      found.folder? "--output-folder" := rfl
  constructor
  · intro occurs
    obtain ⟨folder, given⟩ := Found.exists_folder? occurs
    rw [sameArguments, given] at removed
    exact ⟨folder, given, removed⟩
  · intro absent
    rw [sameArguments, Found.folder?_eq_none absent] at removed
    exact removed

/-- The flags of a command line come before the settings: an output folder in
any case, a minimum level if its name is not empty. -/
theorem flags_before_settings (found : Found) (settings : Settings)
    (world : World) :
    (∃ generation after,
      GenerationFollows found settings world generation after) ∧
    ∀ defaults loaded,
      Settings.load (cleanArguments found).config defaults world =
          .ok settings loaded →
        RemovalFollows found defaults settings world loaded := by
  refine ⟨exists_generationFollows found settings world, ?_⟩
  intro defaults loaded load
  exact removalFollows_of_load load

/-- The empty name of a level on the command line does not come before the
settings, though the option is given. -/
theorem empty_level_before_settings :
    ¬ ∀ argumentTexts verbose arguments name settings world generation after,
      readInvocation argumentTexts = .ok ⟨verbose, .generate arguments⟩ →
        arguments.minimumLevel = some name →
          generationOf arguments settings world = .ok generation after →
            AccessLevel.choose (.string name) world =
              .ok generation.minimumLevel after := by
  intro overrides
  have read : readInvocation ["generate", "--min-acl", ""] =
      .ok ⟨false, .generate { minimumLevel := some "" }⟩ := by
    rfl
  have built : generationOf { minimumLevel := some "" }
        { minimumLevel := "private" } {} =
      .ok { minimumLevel := .privateAccess } {} := by
    rfl
  have chosen := overrides _ _ _ _ _ _ _ _ read rfl built
  have fallback : AccessLevel.choose (.string "") {} =
      .ok .publicAccess (({} : World).log .warning .access
        (AccessLevel.unknownNameWarning {} (.string "")) none) := by
    rfl
  rw [fallback] at chosen
  cases (EStateM.Result.ok.inj chosen).1

end CommandLine

end SwiftInterface
