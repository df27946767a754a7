import SwiftInterface.Proofs.Settings.DistinctKeys
import SwiftInterface.Proofs.Settings.EntryByEntry

/-!
# Combining settings files

A settings file replaces the settings that it names, one by one.  Each entry is
judged on its own, so a file is accepted if all of its entries would be accepted
alone, and the value of a setting depends on the entry with its name only.  The
order of the entries does not matter, and two files one over the other are the
same as one file with the entries of the second and those of the first whose
keys the second lacks.
-/

namespace SwiftInterface

namespace Settings

open Setting

variable {defaults settings : Settings} {name : Name}

/-! ## Mappings -/

/-- A mapping as a settings file holds it. -/
structure Mapping where
  collections : Collections
  entries : List (Value × Value)
  distinct : Value.DistinctKeys entries

/-- The mapping in the settings file at a path. -/
def mappingIn (world : World) (path : String) : Except Failure Mapping :=
  match isRead : (readEntries path).result world with
  | .ok (collections, entries) =>
      .ok ⟨collections, entries, distinctKeys_of_readEntries isRead⟩
  | .error failure => .error failure

namespace Mapping

/-- The defaults with the settings of a mapping in place. -/
def load (mapping : Mapping) (defaults : Settings) : Except Failure Settings :=
  (overrides mapping.collections mapping.entries).map (override defaults)

/-- The mapping with a single one of its entries. -/
def only (mapping : Mapping) (entry : Value × Value) : Mapping where
  collections := mapping.collections
  entries := [entry]
  distinct := List.pairwise_singleton _ _

/-- The mapping has a value for a name. -/
def Gives (mapping : Mapping) (name : Name) (value : Value) : Prop :=
  (.text name.label, value) ∈ mapping.entries

/-- Every entry names a setting and is acceptable. -/
def Acceptable (mapping : Mapping) : Prop :=
  ∀ entry ∈ mapping.entries,
    (grant? mapping.collections entry).isSome = true

variable {mapping other : Mapping}

theorem Gives.unique {value another : Value} (first : mapping.Gives name value)
    (second : mapping.Gives name another) : value = another :=
  mapping.distinct.unique (by simp [Value.sameKey]) first second

theorem exists_accepted (acceptable : mapping.Acceptable) :
    ∃ accepted : List Setting,
      mapping.entries.map (grant? mapping.collections) =
        accepted.map some := by
  rw [Acceptable] at acceptable
  generalize mapping.entries = entries at acceptable
  induction entries with
  | nil => exact ⟨[], rfl⟩
  | cons entry rest ih =>
      obtain ⟨setting, granted⟩ :=
        Option.isSome_iff_exists.mp (acceptable entry (by simp))
      obtain ⟨others, later⟩ := ih fun entry member =>
        acceptable entry (List.mem_cons_of_mem _ member)
      exact ⟨setting :: others, by simp [granted, later]⟩

/-- A mapping is accepted if each of its entries is. -/
theorem exists_load_iff (defaults : Settings) :
    (∃ settings, mapping.load defaults = .ok settings) ↔
      mapping.Acceptable := by
  constructor
  · rintro ⟨settings, loaded⟩ entry member
    obtain ⟨accepted, judged, -⟩ := exists_of_map_eq_ok loaded
    have each := overrides_eq_ok_iff.mp judged
    have found : grant? mapping.collections entry ∈ accepted.map some :=
      each ▸ List.mem_map_of_mem member
    obtain ⟨setting, -, granted⟩ := List.mem_map.mp found
    rw [← granted]
    rfl
  · intro acceptable
    obtain ⟨accepted, each⟩ := exists_accepted acceptable
    refine ⟨override defaults accepted, ?_⟩
    rw [load, overrides_eq_ok_iff.mpr each]
    rfl

/-- Settings are the defaults with those in place that a mapping gives. -/
structure Replaces (mapping : Mapping) (defaults settings : Settings) :
    Prop where
  given : ∀ name value, mapping.Gives name value →
    Setting.given? mapping.collections name value =
      some (settings.current name)
  kept : ∀ name, (∀ value, ¬ mapping.Gives name value) →
    settings.current name = defaults.current name

theorem replaces_of_load (loaded : mapping.load defaults = .ok settings) :
    mapping.Replaces defaults settings := by
  obtain ⟨accepted, judged, rfl⟩ := exists_of_map_eq_ok loaded
  have each := overrides_eq_ok_iff.mp judged
  have fromEntry (setting : Setting) (member : setting ∈ accepted) :
      ∃ value, mapping.Gives setting.name value ∧
        Setting.given? mapping.collections setting.name value =
          some setting := by
    have found : some setting ∈ mapping.entries.map
        (grant? mapping.collections) := each ▸ List.mem_map_of_mem member
    obtain ⟨⟨key, value⟩, isEntry, granted⟩ := List.mem_map.mp found
    obtain ⟨rfl, given⟩ := grant?_eq_some_iff.mp granted
    exact ⟨value, isEntry, given⟩
  have fromName (name : Name) (value : Value)
      (gives : mapping.Gives name value) :
      name ∈ accepted.map Setting.name := by
    have found : grant? mapping.collections (.text name.label, value) ∈
        accepted.map some := each ▸ List.mem_map_of_mem gives
    obtain ⟨setting, member, granted⟩ := List.mem_map.mp found
    rw [grant?_text] at granted
    exact List.mem_map.mpr ⟨setting, member, name_of_given? granted.symm⟩
  constructor
  · intro name value gives
    rcases current_override_cases defaults accepted name with
      ⟨-, member⟩ | ⟨absent, -⟩
    · obtain ⟨another, givesToo, given⟩ := fromEntry _ member
      rw [name_current] at givesToo given
      rw [gives.unique givesToo]
      exact given
    · exact absurd (fromName name value gives) absent
  · intro name unnamed
    rcases current_override_cases defaults accepted name with
      ⟨-, member⟩ | ⟨-, same⟩
    · obtain ⟨value, gives, -⟩ := fromEntry _ member
      rw [name_current] at gives
      exact absurd gives (unnamed value)
    · exact same

theorem Replaces.unique {another : Settings}
    (first : mapping.Replaces defaults settings)
    (second : mapping.Replaces defaults another) : settings = another := by
  apply eq_of_current
  intro name
  by_cases gives : ∃ value, mapping.Gives name value
  · obtain ⟨value, gives⟩ := gives
    exact Option.some.inj
      ((first.given name value gives).symm.trans (second.given name value gives))
  · have unnamed : ∀ value, ¬ mapping.Gives name value := by
      simpa using gives
    rw [first.kept name unnamed, second.kept name unnamed]

/-- What a mapping that is accepted comes to is told by its entries. -/
theorem load_of_replaces (acceptable : mapping.Acceptable)
    (replaces : mapping.Replaces defaults settings) :
    mapping.load defaults = .ok settings := by
  obtain ⟨another, loaded⟩ := (exists_load_iff defaults).mpr acceptable
  rw [loaded, (replaces_of_load loaded).unique replaces]

/-! ## Reordering -/

/-- Entries with alike keys and values. -/
def AlikeEntries (first second : Collections) (entry other : Value × Value) :
    Prop :=
  Value.Alike first second entry.1 other.1 ∧
    Value.Alike first second entry.2 other.2

theorem grant?_of_alike {first second : Collections}
    {entry another : Value × Value} {setting : Setting}
    (alike : AlikeEntries first second entry another)
    (granted : grant? first entry = some setting) :
    grant? second another = some setting := by
  obtain ⟨key, given⟩ := grant?_eq_some_iff.mp granted
  have keys := alike.1
  rw [key] at keys
  exact grant?_eq_some_iff.mpr ⟨keys.text, given?_of_alike alike.2 given⟩

/-- The other mapping has alike entries in some order. -/
def Reorders (mapping other : Mapping) : Prop :=
  ∃ entries, entries.Perm mapping.entries ∧
    List.Forall₂ (AlikeEntries mapping.collections other.collections) entries
      other.entries

theorem exists_alike_of_mem {first second : Collections}
    {entries others : List (Value × Value)}
    (each : List.Forall₂ (AlikeEntries first second) entries others) :
    (∀ entry ∈ entries, ∃ another ∈ others,
      AlikeEntries first second entry another) ∧
    ∀ another ∈ others, ∃ entry ∈ entries,
      AlikeEntries first second entry another := by
  induction each with
  | nil => simp
  | cons alike each ih =>
      constructor
      · intro entry member
        rcases List.mem_cons.mp member with rfl | member
        · exact ⟨_, by simp, alike⟩
        · obtain ⟨another, isOther, alike⟩ := ih.1 entry member
          exact ⟨another, by simp [isOther], alike⟩
      · intro another member
        rcases List.mem_cons.mp member with rfl | member
        · exact ⟨_, by simp, alike⟩
        · obtain ⟨entry, isEntry, alike⟩ := ih.2 another member
          exact ⟨entry, by simp [isEntry], alike⟩

/-- A mapping that has been reordered comes to the same. -/
theorem Reorders.load (reorders : mapping.Reorders other)
    (loaded : mapping.load defaults = .ok settings) :
    other.load defaults = .ok settings := by
  obtain ⟨entries, sameEntries, each⟩ := reorders
  obtain ⟨onward, back⟩ := exists_alike_of_mem each
  have acceptable := (exists_load_iff defaults).mp ⟨settings, loaded⟩
  have replaces := replaces_of_load loaded
  apply load_of_replaces
  · intro another member
    obtain ⟨entry, isEntry, alike⟩ := back another member
    obtain ⟨setting, granted⟩ := Option.isSome_iff_exists.mp
      (acceptable entry (sameEntries.subset isEntry))
    rw [grant?_of_alike alike granted]
    rfl
  constructor
  · intro name value gives
    obtain ⟨⟨key, old⟩, isEntry, alike⟩ := back _ gives
    have oldMember := sameEntries.subset isEntry
    obtain ⟨setting, granted⟩ :=
      Option.isSome_iff_exists.mp (acceptable (key, old) oldMember)
    have grantedHere := grant?_of_alike alike granted
    rw [grant?_text] at grantedHere
    obtain rfl := name_of_given? grantedHere
    obtain ⟨rfl, given⟩ := grant?_eq_some_iff.mp granted
    have current := replaces.given _ old oldMember
    rw [given] at current
    rw [grantedHere, ← current]
  · intro name unnamed
    apply replaces.kept
    intro value gives
    obtain ⟨⟨key, another⟩, isOther, alike⟩ :=
      onward _ (sameEntries.symm.subset gives)
    rw [AlikeEntries] at alike
    obtain rfl := alike.1.text
    exact unnamed another isOther

/-! ## Two mappings -/

/-- An entry whose collections have moved. -/
def moveEntry (move : Nat → Nat) (entry : Value × Value) : Value × Value :=
  (entry.1.relocate move, entry.2.relocate move)

theorem sameKey_relocate (move moveToo : Nat → Nat) (first second : Value) :
    (first.relocate move).sameKey (second.relocate moveToo) =
      first.sameKey second := by
  cases first <;> cases second <;> rfl

theorem sameKey_text_iff {key : Value} {label : String} :
    key.sameKey (.text label) = true ↔ key = .text label := by
  cases key <;> simp [Value.sameKey]

theorem relocate_eq_text_iff {move : Nat → Nat} {key : Value}
    {label : String} : key.relocate move = .text label ↔ key = .text label := by
  cases key <;> simp [Value.relocate]

theorem distinctKeys_moveEntry {entries : List (Value × Value)}
    (distinct : Value.DistinctKeys entries) (move : Nat → Nat) :
    Value.DistinctKeys (entries.map (moveEntry move)) := by
  refine List.pairwise_map.mpr (distinct.imp fun apart => ?_)
  rw [moveEntry, moveEntry, sameKey_relocate]
  exact apart

/-- The entries of a mapping whose keys another mapping lacks. -/
def lackedBy (mapping other : Mapping) : List (Value × Value) :=
  mapping.entries.filter fun entry =>
    !other.entries.any fun old => old.1.sameKey entry.1

theorem mem_lackedBy_iff {entry : Value × Value} :
    entry ∈ mapping.lackedBy other ↔
      entry ∈ mapping.entries ∧
        ∀ old ∈ other.entries, old.1.sameKey entry.1 = false := by
  simp [lackedBy]

/-- The mapping with the entries of the second mapping and those of the first
whose keys the second lacks. -/
def atop (second first : Mapping) : Mapping where
  collections := first.collections.both second.collections
  entries :=
    second.entries.map (moveEntry first.collections.moveSecond) ++
      (first.lackedBy second).map
        (moveEntry (first.collections.moveFirst second.collections))
  distinct := by
    refine List.pairwise_append.mpr
      ⟨distinctKeys_moveEntry second.distinct _, ?_, ?_⟩
    · exact distinctKeys_moveEntry (first.distinct.filter _) _
    · intro moved isSecond movedToo isFirst
      obtain ⟨old, oldMember, rfl⟩ := List.mem_map.mp isSecond
      obtain ⟨entry, lacked, rfl⟩ := List.mem_map.mp isFirst
      rw [moveEntry, moveEntry, sameKey_relocate]
      exact (mem_lackedBy_iff.mp lacked).2 old oldMember

variable {first second : Mapping}

theorem alike_second (first second : Mapping) (entry : Value × Value) :
    AlikeEntries second.collections (second.atop first).collections entry
      (moveEntry first.collections.moveSecond entry) := by
  have moved := first.collections.both_moveSecond second.collections
  exact ⟨Value.alike_relocate moved entry.1, Value.alike_relocate moved entry.2⟩

theorem alike_first (first second : Mapping) (entry : Value × Value) :
    AlikeEntries first.collections (second.atop first).collections entry
      (moveEntry (first.collections.moveFirst second.collections) entry) := by
  have moved := first.collections.both_moveFirst second.collections
  exact ⟨Value.alike_relocate moved entry.1, Value.alike_relocate moved entry.2⟩

/-- A value in the combined mapping is one of the second mapping, or one of the
first for a name that the second does not give. -/
theorem gives_atop_cases {value : Value}
    (gives : (second.atop first).Gives name value) :
    (∃ old, second.Gives name old ∧
      Value.Alike second.collections (second.atop first).collections old
        value) ∨
    (∀ old, ¬ second.Gives name old) ∧
      ∃ old, first.Gives name old ∧
        Value.Alike first.collections (second.atop first).collections old
          value := by
  rcases List.mem_append.mp gives with isSecond | isFirst
  · obtain ⟨⟨key, old⟩, member, moved⟩ := List.mem_map.mp isSecond
    have alike := (alike_second first second (key, old)).2
    rw [moved] at alike
    obtain ⟨movedKey, -⟩ := Prod.mk.inj moved
    obtain rfl := relocate_eq_text_iff.mp movedKey
    exact .inl ⟨old, member, alike⟩
  · obtain ⟨⟨key, old⟩, lacked, moved⟩ := List.mem_map.mp isFirst
    obtain ⟨member, apart⟩ := mem_lackedBy_iff.mp lacked
    have alike := (alike_first first second (key, old)).2
    rw [moved] at alike
    obtain ⟨movedKey, -⟩ := Prod.mk.inj moved
    obtain rfl := relocate_eq_text_iff.mp movedKey
    refine .inr ⟨fun another givesToo => ?_, old, member, alike⟩
    have different := apart _ givesToo
    rw [sameKey_text_iff.mpr rfl] at different
    cases different

theorem exists_gives_atop_of_second {old : Value}
    (gives : second.Gives name old) :
    ∃ value, (second.atop first).Gives name value :=
  ⟨_, List.mem_append_left _ (List.mem_map.mpr ⟨_, gives, rfl⟩)⟩

theorem exists_gives_atop_of_first {old : Value}
    (lacks : ∀ value, ¬ second.Gives name value)
    (gives : first.Gives name old) :
    ∃ value, (second.atop first).Gives name value := by
  have lacked : (.text name.label, old) ∈ first.lackedBy second := by
    refine mem_lackedBy_iff.mpr ⟨gives, ?_⟩
    rintro ⟨key, value⟩ member
    rw [← Bool.not_eq_true, sameKey_text_iff]
    rintro rfl
    exact lacks value member
  exact ⟨_, List.mem_append_right _ (List.mem_map.mpr ⟨_, lacked, rfl⟩)⟩

theorem acceptable_atop (firstAcceptable : first.Acceptable)
    (secondAcceptable : second.Acceptable) :
    (second.atop first).Acceptable := by
  intro moved member
  rcases List.mem_append.mp member with isSecond | isFirst
  · obtain ⟨entry, isEntry, rfl⟩ := List.mem_map.mp isSecond
    obtain ⟨setting, granted⟩ :=
      Option.isSome_iff_exists.mp (secondAcceptable entry isEntry)
    rw [grant?_of_alike (alike_second first second entry) granted]
    rfl
  · obtain ⟨entry, lacked, rfl⟩ := List.mem_map.mp isFirst
    obtain ⟨setting, granted⟩ := Option.isSome_iff_exists.mp
      (firstAcceptable entry (mem_lackedBy_iff.mp lacked).1)
    rw [grant?_of_alike (alike_first first second entry) granted]
    rfl

/-- Loading one mapping over the other comes to loading both at once. -/
theorem load_atop {both : Settings}
    (loadedFirst : first.load defaults = .ok settings)
    (loadedSecond : second.load settings = .ok both) :
    (second.atop first).load defaults = .ok both := by
  have replacesFirst := replaces_of_load loadedFirst
  have replacesSecond := replaces_of_load loadedSecond
  apply load_of_replaces
  · exact acceptable_atop ((exists_load_iff _).mp ⟨_, loadedFirst⟩)
      ((exists_load_iff _).mp ⟨_, loadedSecond⟩)
  constructor
  · intro name value gives
    rcases gives_atop_cases gives with
      ⟨old, givesOld, alike⟩ | ⟨lacks, old, givesOld, alike⟩
    · exact given?_of_alike alike (replacesSecond.given name old givesOld)
    · rw [replacesSecond.kept name lacks]
      exact given?_of_alike alike (replacesFirst.given name old givesOld)
  · intro name unnamed
    have lacks (old : Value) : ¬ second.Gives name old := by
      intro gives
      obtain ⟨value, givesToo⟩ := exists_gives_atop_of_second gives
      exact unnamed value givesToo
    have lacksToo (old : Value) : ¬ first.Gives name old := by
      intro gives
      obtain ⟨value, givesToo⟩ := exists_gives_atop_of_first lacks gives
      exact unnamed value givesToo
    rw [replacesSecond.kept name lacks, replacesFirst.kept name lacksToo]

end Mapping

/-! ## Files -/

/-- Loading a settings file is loading the mapping that it holds. -/
theorem load_result_mapping {path : String} (named : path ≠ "")
    (defaults : Settings) (world : World) :
    (load (some path) defaults).result world =
      mappingIn world (Files.tidy path) >>= fun mapping =>
        mapping.load defaults := by
  rw [load_of_named named, Run.result_bind (applyEntries_result path defaults),
    mappingIn]
  split
  case h_1 collections entries isRead =>
      simp only [isRead]
      rfl
  case h_2 failure failed =>
      simp only [failed]
      rfl

/-- An entry that is accepted alone names a setting. -/
theorem Mapping.exists_load_only_iff {mapping : Mapping}
    {entry : Value × Value} (defaults : Settings) :
    (∃ settings, (mapping.only entry).load defaults = .ok settings) ↔
      (grant? mapping.collections entry).isSome = true := by
  rw [exists_load_iff]
  simp [Acceptable, only]

/-- Settings files combine field by field.  Loading a file is loading its
mapping; a mapping is accepted just if its keys name settings and each entry is
accepted alone; and mappings that are accepted replace the settings that they
name and no others, by values that depend on the entry alone, in any order of
the entries and one over the other. -/
theorem mappings_combine_by_field (defaults : Settings) :
    (∀ world path, path ≠ "" →
      (load (some path) defaults).result world =
        mappingIn world (Files.tidy path) >>= fun mapping =>
          mapping.load defaults) ∧
    (∀ mapping : Mapping,
      (∃ settings, mapping.load defaults = .ok settings) ↔
        (∀ entry ∈ mapping.entries,
          ∃ name : Setting.Name, entry.1 = .text name.label) ∧
        ∀ entry ∈ mapping.entries,
          ∃ settings, (mapping.only entry).load defaults = .ok settings) ∧
    ∀ (first second : Mapping) (settings : Settings),
      first.load defaults = .ok settings →
      (∃ accepted, second.load defaults = .ok accepted) →
        (∀ name, (∀ value, ¬ first.Gives name value) →
          settings.current name = defaults.current name) ∧
        (∀ name value, first.Gives name value →
          ∀ collections other,
            Value.Alike first.collections collections value other →
              Setting.given? collections name other =
                some (settings.current name)) ∧
        (∀ reordered, first.Reorders reordered →
          reordered.load defaults = .ok settings) ∧
        ∃ both, second.load settings = .ok both ∧
          (second.atop first).load defaults = .ok both := by
  refine ⟨fun world path named => load_result_mapping named defaults world,
    fun mapping => ?_, ?_⟩
  · rw [Mapping.exists_load_iff, Mapping.Acceptable]
    simp only [Mapping.exists_load_only_iff]
    refine ⟨fun acceptable => ⟨fun entry member => ?_, acceptable⟩, And.right⟩
    obtain ⟨setting, granted⟩ :=
      Option.isSome_iff_exists.mp (acceptable entry member)
    exact ⟨setting.name, (grant?_eq_some_iff.mp granted).1⟩
  · intro first second settings loaded accepted
    have replaces := Mapping.replaces_of_load loaded
    obtain ⟨both, loadedToo⟩ := (Mapping.exists_load_iff settings).mpr
      ((Mapping.exists_load_iff defaults).mp accepted)
    refine ⟨replaces.kept, ?_, ?_, both, loadedToo, ?_⟩
    · intro name value gives collections other alike
      exact given?_of_alike alike (replaces.given name value gives)
    · intro reordered reorders
      exact reorders.load loaded
    · exact Mapping.load_atop loaded loadedToo

/-- A world with two settings files, which give the time both. -/
def layeredWorld : World where
  files.entries :=
    [ (["base.yaml"], .file (Text.encodeUtf8
        "timeout_s: 5\nswiftformat_args: [--quiet, -v]\n")),
      (["local.json"], .file (Text.encodeUtf8
        "\x7b\"min_acl\": \" open \", \"timeout_s\": \"7\"\x7d")) ]

theorem exists_mapping_of_load {path : String} {world : World}
    {defaults settings : Settings} (named : path ≠ "")
    (loaded : ((load (some path) defaults).result world).toOption =
      some settings) :
    ∃ mapping, mappingIn world (Files.tidy path) = .ok mapping ∧
      mapping.load defaults = .ok settings := by
  rw [load_result_mapping named] at loaded
  cases judged : mappingIn world (Files.tidy path) with
  | error failure =>
      rw [judged] at loaded
      cases loaded
  | ok mapping =>
      rw [judged] at loaded
      refine ⟨mapping, rfl, ?_⟩
      change (mapping.load defaults).toOption = some settings at loaded
      cases result : mapping.load defaults with
      | error failure =>
          rw [result] at loaded
          cases loaded
      | ok found =>
          rw [result] at loaded
          rw [Option.some.inj loaded]

/-- The time of the second file replaces that of the first, and the other fields
of both stay. -/
theorem mappings_combine_by_field_layered :
    ∃ first second,
      mappingIn layeredWorld "base.yaml" = .ok first ∧
        mappingIn layeredWorld "local.json" = .ok second ∧
          first.load {} =
            .ok { timeout := 5, formatterArguments := ["--quiet", "-v"] } ∧
          second.load {} = .ok { timeout := 7, minimumLevel := "open" } ∧
          (second.atop first).load {} =
            .ok
              { timeout := 7, minimumLevel := "open"
                formatterArguments := ["--quiet", "-v"] } := by
  have tidyFirst : Files.tidy "base.yaml" = "base.yaml" := by decide +kernel
  have tidySecond : Files.tidy "local.json" = "local.json" := by decide +kernel
  obtain ⟨first, holdsFirst, loadedFirst⟩ :=
    @exists_mapping_of_load "base.yaml" layeredWorld {}
      { timeout := 5, formatterArguments := ["--quiet", "-v"] }
      (by decide) (by decide +kernel)
  obtain ⟨second, holdsSecond, loadedSecond⟩ :=
    @exists_mapping_of_load "local.json" layeredWorld {}
      { timeout := 7, minimumLevel := "open" } (by decide) (by decide +kernel)
  obtain ⟨another, holdsAnother, loadedOver⟩ :=
    @exists_mapping_of_load "local.json" layeredWorld
      { timeout := 5, formatterArguments := ["--quiet", "-v"] }
      { timeout := 7, minimumLevel := "open"
        formatterArguments := ["--quiet", "-v"] } (by decide) (by decide +kernel)
  obtain rfl := Except.ok.inj (holdsSecond.symm.trans holdsAnother)
  rw [tidyFirst] at holdsFirst
  rw [tidySecond] at holdsSecond
  obtain ⟨-, -, combine⟩ := mappings_combine_by_field {}
  obtain ⟨-, -, -, both, layered, combined⟩ :=
    combine first second _ loadedFirst ⟨_, loadedSecond⟩
  obtain rfl := Except.ok.inj (loadedOver.symm.trans layered)
  exact ⟨first, second, holdsFirst, holdsSecond, loadedFirst, loadedSecond,
    combined⟩

end Settings

end SwiftInterface
