import SwiftInterface.Proofs.World.Failing
import SwiftInterface.Settings.File

/-!
# Loading settings

Loading settings writes to the log, but what it comes to depends on the file
alone: the file names some settings or is refused.  This file states what is in
a settings file as a function of the files and reads both outcomes of loading
off from it.
-/

namespace SwiftInterface

theorem exists_of_bind_eq_ok {Problem α β : Type}
    {judgement : Except Problem α} {next : α → Except Problem β} {result : β}
    (judged : judgement >>= next = .ok result) :
    ∃ value, judgement = .ok value ∧ next value = .ok result := by
  cases judgement with
  | ok value => exact ⟨value, rfl, judged⟩
  | error problem => cases judged

namespace Settings

open Run

/-- The entries that the content of a settings file holds; an empty file has
none. -/
def entriesOf : Content → Except Failure (List (Value × Value))
  | ⟨_, .null⟩ => .ok []
  | ⟨collections, root⟩ =>
      match collections.entries? root with
      | some entries => .ok entries
      | none => .error (.settings (.notMapping (collections.typeName root)))

/-- The settings that the content of a settings file names. -/
def settingsOf (content : Content) : Except Failure (List Setting) := do
  let entries ← entriesOf content
  overrides content.collections entries

/-- The settings that the file at a path names. -/
def settingsIn (world : World) (path : String) :
    Except Failure (List Setting) :=
  readContent world path >>= settingsOf

variable {path : String} {defaults : Settings} {world : World}

theorem readEntries_result :
    (readEntries path).result world = do
      let content ← readContent world path
      let entries ← entriesOf content
      return (content.collections, entries) := by
  rw [readEntries, result, bind_ok (get_eq world)]
  cases readContent world path with
  | error failure => rfl
  | ok content =>
      rcases content with ⟨collections, root⟩
      cases root with
      | null => rfl
      | collection place =>
          dsimp only
          cases found : collections.entries? (.collection place) with
          | some entries =>
              simp only [bind, Except.bind, entriesOf, found]
              rfl
          | none =>
              simp only [bind, Except.bind, entriesOf, found]
              rfl
      | _ => rfl

/-- Put the settings that entries name in place of the defaults. -/
def applyEntries (path : String) (defaults : Settings)
    (found : Collections × List (Value × Value)) : Run Settings :=
  match overrides found.1 found.2 with
  | .error failure => Run.fail failure
  | .ok accepted => do
      Run.info .settings ("Loaded settings from " ++ path ++ " (" ++
        toString accepted.length ++ " overrides)")
      return override defaults accepted

theorem load_of_named (named : path ≠ "") :
    load (some path) defaults =
      readEntries (Files.tidy path) >>= applyEntries path defaults := by
  rw [load.eq_def]
  split
  case h_1 absent => cases absent
  case h_2 empty => exact absurd (Option.some.inj empty) named
  case h_3 same =>
      cases same
      rfl

theorem applyEntries_result (path : String) (defaults : Settings)
    (found : Collections × List (Value × Value)) (world : World) :
    (applyEntries path defaults found).result world =
      (overrides found.1 found.2).map (override defaults) := by
  rw [applyEntries]
  cases overrides found.1 found.2 with
  | error failure => rfl
  | ok accepted => rfl

/-- Loading the file at a path comes to the defaults with the settings in the
file in place. -/
theorem load_result (named : path ≠ "") :
    (load (some path) defaults).result world =
      (settingsIn world (Files.tidy path)).map (override defaults) := by
  rw [load_of_named named, result_bind (applyEntries_result path defaults),
    readEntries_result, settingsIn]
  generalize readContent world (Files.tidy path) = read
  cases read with
  | error failure => rfl
  | ok content =>
      cases found : entriesOf content with
      | error failure =>
          simp only [bind, Except.bind, settingsOf, found]
          rfl
      | ok entries =>
          simp only [bind, Except.bind, settingsOf, found]
          rfl

end Settings

end SwiftInterface
