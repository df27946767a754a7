import SwiftInterface.Proofs.Generation.Phases

/-!
# Failed generations

A generation that fails leaves the files as they were, with three exceptions.
The interface from before may be gone, if its removal was asked for, and there
may be new folders on the way to the output folder, if all phases before the
writing succeeded.  The removal comes first and takes one file; the folders
come last and are followed by nothing but the writing of one file.

If that file is opened and the writing breaks off then, the file is torn: its
old content is gone, and it holds the beginning of the new one at most.  This
happens to every interface with a half in its text.
-/

namespace SwiftInterface

namespace Generation

open Files Run

variable {generation : Generation} {indexer : Tool.Indexer}
  {formatter : Tool.Formatter}

/-- The location is that of the interface from before, whose removal was asked
for. -/
def Removes (generation : Generation) (before : World) (location : Location) :
    Prop :=
  generation.clean = true ∧
    ∃ folder, generation.outputFolder = .named folder ∧
      before.files.locate before.here
        (Store.interfacePath folder generation.targetModule) = .ok location

theorem Cleared.kept_or_removes {before : World} {tree : Tree}
    (cleared : generation.Cleared before tree) (location : Location) :
    tree.get? location = before.files.get? location ∨
      generation.Removes before location := by
  cases asked : generation.clean with
  | false => exact .inl (by rw [cleared.unasked asked])
  | true =>
      rcases cleared.removed.kept_or_located location with same | located
      · exact .inl same
      · exact .inr ⟨asked, located⟩

/-- All phases before the last one succeed. -/
def Prepares (generation : Generation) (indexer : Tool.Indexer)
    (formatter : Tool.Formatter) (before : World) : Prop :=
  ∃ prepared middle,
    generation.prepare indexer formatter before = .ok prepared middle

/-- The tree is that of the world after a generation that did no damage. -/
structure Undamaged (generation : Generation) (indexer : Tool.Indexer)
    (formatter : Tool.Formatter) (before : World) (after : Tree) : Prop where
  /-- A file is kept with its bytes unless it is the removed interface. -/
  keepsFile : ∀ location content,
    before.files.get? location = some (.file content) →
      after.get? location = some (.file content) ∨
        generation.Removes before location
  noNewFile : ∀ location content,
    after.get? location = some (.file content) →
      before.files.get? location = some (.file content)
  keepsFolders : Tree.KeepsFolders before.files after
  /-- A folder is new only if everything was prepared, and then the output
  folder or a front of it names it. -/
  newFolder : ∀ location, after.get? location = some .folder →
    before.files.get? location ≠ some .folder →
      generation.Prepares indexer formatter before ∧
        ∃ folder, generation.outputFolder = .named folder ∧
          after.NamedWithin before.here folder.toList location
  /-- Without a removal, a failure before the writing changes nothing. -/
  untouched : generation.clean = false →
    ¬ generation.Prepares indexer formatter before → after = before.files

/-- The tree is that of the world after a generation that prepared an interface
which could not be written to the end: the file of the interface holds what was
kept of it, and there is no other damage. -/
inductive Torn (generation : Generation) (indexer : Tool.Indexer)
    (formatter : Tool.Formatter) (before : World) (failure : Failure) :
    Tree → Prop
  | intro {prepared : Prepared} {middle : World} {folder : String}
      {tree : Tree} {location : Location} {kept : ByteArray}
      (prepares :
        generation.prepare indexer formatter before = .ok prepared middle)
      (named : generation.outputFolder = .named folder)
      (broken : Store.breakOff? before.machine
        (Store.interfacePath folder generation.targetModule)
        prepared.contents = some (kept, failure))
      (undamaged : generation.Undamaged indexer formatter before tree)
      (target : tree.Target before.here
        (Store.interfacePath folder generation.targetModule) location) :
      Torn generation indexer formatter before failure
        (tree.put location (.file kept))

theorem undamaged_of_cleared {before : World} {after : Tree}
    (cleared : generation.Cleared before after) :
    generation.Undamaged indexer formatter before after where
  keepsFile location content stands := by
    rcases cleared.kept_or_removes location with same | removes
    · exact .inl (same.trans stands)
    · exact .inr removes
  noNewFile location content stands := cleared.removed.shrinks location _ stands
  keepsFolders := cleared.removed.keepsFolders
  newFolder location stands isNew :=
    absurd (cleared.removed.shrinks location .folder stands) isNew
  untouched unasked _ := cleared.unasked unasked

/-- Folders that are added after the preparation do no damage either. -/
theorem undamaged_of_grown {before : World} {tree after : Tree}
    {folder : String} (cleared : generation.Cleared before tree)
    (prepares : generation.Prepares indexer formatter before)
    (named : generation.outputFolder = .named folder)
    (grown : Tree.Grown before.here folder.toList tree after) :
    generation.Undamaged indexer formatter before after where
  keepsFile location content stands := by
    rcases cleared.kept_or_removes location with same | removes
    · exact .inl (grown.grows location _ (same.trans stands))
    · exact .inr removes
  noNewFile location content stands :=
    cleared.removed.shrinks location _
      ((grown.isFile_iff location content).mp stands)
  keepsFolders := cleared.removed.keepsFolders.trans grown.grows.keepsFolders
  newFolder location stands isNew := by
    have added : after.get? location ≠ tree.get? location := by
      intro same
      exact isNew (cleared.removed.shrinks location .folder (same ▸ stands))
    exact ⟨prepares, folder, named, (grown.added location added).2⟩
  untouched _ unprepared := absurd prepares unprepared

/-- A generation that fails damages nothing, or it tears the interface that it
could not write to the end. -/
theorem undamaged_or_torn_of_failed {failure : Failure} {before after : World}
    (failed : generation.run indexer formatter before = .error failure after) :
    generation.Undamaged indexer formatter before after.files ∨
      generation.Torn indexer formatter before failure after.files := by
  obtain ⟨cleared, sameHere, sameMachine⟩ :=
    prepare_after generation indexer formatter before
  rw [run_eq] at failed
  rcases bind_eq_error.mp failed with failed | ⟨prepared, middle, done, failed⟩
  · rw [after_of_error failed] at cleared
    exact .inl (undamaged_of_cleared cleared)
  rw [after_of_ok done] at cleared sameHere sameMachine
  have prepares : generation.Prepares indexer formatter before :=
    ⟨prepared, middle, done⟩
  rcases bind_eq_error.mp failed with failed | ⟨path, written, -, returned⟩
  · have unwritten := writeOut_eq_error failed
    generalize after.files = tree at unwritten ⊢
    cases unwritten with
    | unchanged => exact .inl (undamaged_of_cleared cleared)
    | refused named added =>
        rw [sameHere] at added
        exact .inl (undamaged_of_grown cleared prepares named added)
    | brokenOff named added target broken =>
        rw [sameHere] at added target
        rw [sameMachine] at broken
        exact .inr (.intro done named broken
          (undamaged_of_grown cleared prepares named added) target)
  · cases returned

/-- A generation whose output folder lies behind its own interface: once the
interface is removed, a folder takes its place. -/
def behindItself : Generation where
  outputFolder := .named "/out/Main.swift/new"
  clean := true
  packageModule := some "/out/Main.swift"

/-- A world with that interface, in which the indexer answers. -/
def withInterface : World where
  files.entries :=
    [ (["out"], .folder),
      (["out", "Main.swift"], .file (Text.encodeUtf8 "import Main\n\n")) ]
  script := [.finished "[\x7b\"Main.swift\": \x7b\x7d\x7d]"]

theorem undamaged_or_torn_of_failed_behindItself :
    ∃ failure after,
      behindItself.run {} .identity withInterface = .error failure after ∧
        (behindItself.Undamaged {} .identity withInterface after.files ∨
          behindItself.Torn {} .identity withInterface failure after.files) := by
  obtain ⟨failure, after, failed⟩ := exists_of_not_succeeds
    (show (behindItself.run {} .identity).succeeds withInterface = false by
      decide +kernel)
  exact ⟨failure, after, failed, undamaged_or_torn_of_failed failed⟩

/-- A generation from a dump that keeps every declaration. -/
def fromHalvedDump : Generation where
  outputFolder := .named "out"
  minimumLevel := .privateAccess
  moduleName := some "Main"
  inputDump := some "docs.json"

/-- A dump with a signature that holds a half. -/
def halvedText : String :=
  "[\x7b\"\": \x7b\"key.kind\": \"var\", " ++
    "\"key.parsed_declaration\": \"\\ud800\"\x7d\x7d]"

/-- A world with that dump and an interface from before. -/
def withHalvedDump : World where
  files.entries :=
    [ (["out"], .folder),
      (["out", "Main.swift"], .file (Text.encodeUtf8 "import Main\n\n")),
      (["docs.json"], .file (Text.encodeUtf8 halvedText)) ]

/-- An interface with a half in its text empties the one from before. -/
theorem not_undamaged_of_failed_halved :
    ¬ ∀ generation indexer formatter before failure after,
      Generation.run generation indexer formatter before =
          .error failure after →
        generation.Undamaged indexer formatter before after.files := by
  intro undamaged
  have emptied :
      (match fromHalvedDump.run {} .identity withHalvedDump with
        | .ok _ _ => none
        | .error _ after => after.files.get? ["out", "Main.swift"]) =
      some (.file ByteArray.empty) := by
    decide +kernel
  split at emptied
  case h_1 => cases emptied
  case h_2 failure after failed =>
      have stood :=
        (undamaged _ _ _ _ _ _ failed).noNewFile _ _ emptied
      revert stood
      decide +kernel

end Generation

end SwiftInterface
