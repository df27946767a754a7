import SwiftInterface.Proofs.Generation.Delivery
import SwiftInterface.Proofs.Generation.Parallel
import SwiftInterface.Proofs.Store.Repetition

/-!
# Repeated generations

Whether the old interface is removed first makes no difference to what a
generation delivers, and a generation that is repeated delivers the same and
leaves the files as they are.  The dump must not be the interface itself, and the
creation of the output folder must not succeed in name only, which happens if a
file stands where the folder should be and the path goes on with a dot.
-/

namespace SwiftInterface

namespace Generation

open Files Run

variable {generation : Generation} {indexer : Tool.Indexer}
  {formatter : Tool.Formatter} {world : World} {result : Result} {files : Tree}

/-- The generation succeeds with the result and leaves the files. -/
def Delivers (generation : Generation) (indexer : Tool.Indexer)
    (formatter : Tool.Formatter) (world : World) (result : Result)
    (files : Tree) : Prop :=
  ∃ after, generation.run indexer formatter world = .ok result after ∧
    after.files = files

/-- The generation that removes the old interface first, or does not. -/
def cleaning (generation : Generation) (clean : Bool) : Generation :=
  { generation with clean }

/-- The dump is not the file that the path of the interface leads to once the
output folder was created. -/
def DumpApart (generation : Generation) (world : World) : Prop :=
  ∀ folder path location, generation.outputFolder = .named folder →
    given? generation.inputDump = some path →
      world.files.locate world.here (tidy path) = .ok location →
        (world.files.createFolder world.machine.reach.folders world.here
          folder).2.locate world.here
            (Store.interfacePath folder generation.targetModule) ≠ .ok location

/-- The creation of the output folder can be relied on, before and after a
removal of the old interface. -/
def FolderReliable (generation : Generation) (world : World) : Prop :=
  ∀ folder tree, generation.outputFolder = .named folder →
    Store.Removed (.named folder) generation.targetModule world.here
        world.files tree →
      Store.Reliable world.machine.reach.folders world.here folder
        generation.targetModule tree

/-! ## A generation without a removal -/

/-- An interface is composed from the files at hand and written to them. -/
def Produces (generation : Generation) (indexer : Tool.Indexer)
    (formatter : Tool.Formatter) (world : World) (result : Result)
    (files : Tree) : Prop :=
  ∃ folder prepared after, generation.outputFolder = .named folder ∧
    generation.compose indexer formatter world = .ok prepared after ∧
      Store.Deposits world.machine world.here folder generation.targetModule
          prepared.contents world.files files ∧
        result = {
          outputPath := Store.interfacePath folder generation.targetModule
          moduleName := generation.targetModule
          blockCount := prepared.blocks.length
          counts := prepared.counts }

theorem Produces.exists_folder
    (produces : generation.Produces indexer formatter world result files) :
    ∃ folder, generation.outputFolder = .named folder := by
  obtain ⟨folder, -, -, named, -⟩ := produces
  exact ⟨folder, named⟩

theorem compose_sameFiles {prepared : Prepared} {after : World}
    (composed :
      generation.compose indexer formatter world = .ok prepared after) :
    after.files = world.files ∧ after.here = world.here ∧
      after.machine = world.machine := by
  have blind : ToolBlind fun later : World =>
      later.files = world.files ∧ later.here = world.here ∧
        later.machine = world.machine :=
    ⟨⟨fun _ _ holds => holds, fun _ _ _ holds => holds⟩,
      fun _ _ holds => holds⟩
  have kept := compose_keeps blind generation indexer formatter world
    ⟨rfl, rfl, rfl⟩
  rwa [after_of_ok composed] at kept

theorem writeOut_deposits {contents path : String} {after : World}
    (succeeded : generation.writeOut contents world = .ok path after) :
    ∃ folder, generation.outputFolder = .named folder ∧
      path = Store.interfacePath folder generation.targetModule ∧
        Store.Deposits world.machine world.here folder generation.targetModule
          contents world.files after.files := by
  obtain ⟨entered, inner, entering, succeeded, leaving⟩ :=
    inPhase_eq_ok succeeded
  cases named : generation.outputFolder with
  | nameless =>
      rw [named] at succeeded
      exact absurd succeeded fail_ne_ok
  | named folder =>
      rw [named] at succeeded
      obtain ⟨_, _, found, succeeded⟩ := bind_eq_ok.mp succeeded
      obtain ⟨rfl, rfl⟩ := pure_eq_ok.mp found
      obtain ⟨pathEq, deposits⟩ := Store.write_deposits succeeded
      rw [entering.here, entering.files, entering.machine, ← leaving.files]
        at deposits
      exact ⟨folder, rfl, pathEq, deposits⟩

theorem exists_writeOut_of_deposits {folder contents : String}
    (named : generation.outputFolder = .named folder)
    (deposits : Store.Deposits world.machine world.here folder
      generation.targetModule contents world.files files) :
    ∃ after, generation.writeOut contents world =
        .ok (Store.interfacePath folder generation.targetModule) after ∧
      after.files = files := by
  have writes : ∃ inner,
      Store.write folder generation.targetModule contents
          { world with context := (world.context.enterPhase "write").1 } =
        .ok (Store.interfacePath folder generation.targetModule) inner ∧
          inner.files = files :=
    Store.exists_write_of_deposits deposits
  obtain ⟨inner, written, filesEq⟩ := writes
  have body : (do
      let path ← Store.folderPath (.named folder)
      Store.write path generation.targetModule contents : Run String)
        { world with context := (world.context.enterPhase "write").1 } =
      .ok (Store.interfacePath folder generation.targetModule) inner :=
    (bind_ok rfl).trans written
  rw [← named] at body
  obtain ⟨after, wrote, same⟩ := exists_inPhase_of_ok body
  exact ⟨after, wrote, same.files.trans filesEq⟩

/-- A generation removes the old interface, if asked to, and then produces the
new one. -/
theorem delivers_iff_exists :
    generation.Delivers indexer formatter world result files ↔
      ∃ emptied, generation.removeOld world = .ok () emptied ∧
        generation.Produces indexer formatter emptied result files := by
  unfold Delivers
  rw [run_eq]
  constructor
  · rintro ⟨after, succeeded, rfl⟩
    obtain ⟨prepared, middle, done, succeeded⟩ := bind_eq_ok.mp succeeded
    obtain ⟨path, last, wrote, returned⟩ := bind_eq_ok.mp succeeded
    obtain ⟨rfl, rfl⟩ := pure_eq_ok.mp returned
    obtain ⟨_, emptied, removed, composed⟩ := bind_eq_ok.mp done
    obtain ⟨sameFiles, sameHere, sameMachine⟩ := compose_sameFiles composed
    obtain ⟨folder, named, rfl, deposits⟩ := writeOut_deposits wrote
    rw [sameFiles, sameHere, sameMachine] at deposits
    exact ⟨emptied, removed, folder, prepared, middle, named, composed,
      deposits, rfl⟩
  · rintro ⟨emptied, removed, folder, prepared, middle, named, composed,
      deposits, rfl⟩
    obtain ⟨sameFiles, sameHere, sameMachine⟩ := compose_sameFiles composed
    rw [← sameFiles, ← sameHere, ← sameMachine] at deposits
    obtain ⟨after, wrote, filesEq⟩ := exists_writeOut_of_deposits named deposits
    have done : generation.prepare indexer formatter world =
        .ok prepared middle :=
      (bind_ok removed).trans composed
    refine ⟨after, ?_, filesEq⟩
    rw [bind_ok done, bind_ok wrote]
    rfl

/-! ## The removal does not matter -/

theorem exists_removeOld {folder : String}
    (allowed : world.refusesRemoval = false)
    (named : generation.outputFolder = .named folder) :
    ∃ emptied, generation.removeOld world = .ok () emptied ∧
      SameButFiles world emptied ∧
        Store.Removed (.named folder) generation.targetModule world.here
          world.files emptied.files := by
  have succeeds : ∃ emptied, generation.removeOld world = .ok () emptied := by
    unfold removeOld
    split
    case isFalse => exact ⟨world, rfl⟩
    case isTrue =>
        have outcome := Store.remove_outcome folder generation.targetModule
          { world with context := (world.context.enterPhase "clean").1 }
        cases ran : Store.remove folder generation.targetModule
            { world with context := (world.context.enterPhase "clean").1 } with
        | error failure after =>
            rw [ran] at outcome
            cases outcome with
            | refused same isFile refuses =>
                have refused : world.refusesRemoval = true := refuses
                rw [allowed] at refused
                cases refused
        | ok found after =>
            have cleared : Store.removeFrom (.named folder)
                generation.targetModule
                { world with context := (world.context.enterPhase "clean").1 } =
                .ok () after :=
              (bind_ok rfl).trans (bind_ok ran)
            rw [← named] at cleared
            obtain ⟨emptied, removed, -⟩ := exists_inPhase_of_ok cleared
            exact ⟨emptied, removed⟩
  obtain ⟨emptied, removed⟩ := succeeds
  obtain ⟨cleared, same⟩ := removeOld_after generation world
  rw [after_of_ok removed] at cleared same
  exact ⟨emptied, removed, same, named ▸ cleared.removed⟩

theorem locate_createFolder {folder path : String} {location : Location}
    (located : world.files.locate world.here path = .ok location) :
    (world.files.createFolder world.machine.reach.folders world.here
      folder).2.locate world.here path = .ok location :=
  Tree.locate_of_extends
    (world.files.createFolder_grown _ world.here folder).grows located

theorem twin_of_removed {folder : String} {emptied : World}
    (apart : generation.DumpApart world)
    (named : generation.outputFolder = .named folder)
    (same : SameButFiles world emptied)
    (removed : Store.Removed (.named folder) generation.targetModule world.here
      world.files emptied.files) :
    Twin (Offers generation.inputDump) world emptied := by
  refine ⟨same.machine, same.here, same.script, ?_, ?_⟩
  · intro path isFolder
    exact Tree.isFolder_of_keepsFolders removed.keepsFolders isFolder
  · intro path content given reads
    refine Tree.read_of_keepsFolders removed.keepsFolders ?_ reads
    intro location located stands
    rcases removed.kept_or_located location with kept | ⟨other, otherEq, isOld⟩
    · rw [kept, stands]
    · obtain rfl := Folder.named.inj otherEq
      exact absurd (locate_createFolder isOld)
        (apart folder path location named given located)

theorem twin_back_of_removed {folder moduleName : String} {emptied : World}
    (dump : Option String) (same : SameButFiles world emptied)
    (removed : Store.Removed (.named folder) moduleName world.here world.files
      emptied.files) : Twin (Offers dump) emptied world := by
  have grows := removed.shrinks
  refine ⟨same.machine.symm, same.here.symm, same.script.symm, ?_, ?_⟩
  · intro path isFolder
    exact Tree.isFolder_of_keepsFolders grows.keepsFolders isFolder
  · intro path content given reads
    exact Tree.read_of_extends grows reads

/-- The interface is produced after the removal of the old one just if it is
produced without. -/
theorem produces_iff_of_removed {folder : String} {emptied : World}
    (apart : generation.DumpApart world)
    (reliable : generation.FolderReliable world)
    (named : generation.outputFolder = .named folder)
    (same : SameButFiles world emptied)
    (removed : Store.Removed (.named folder) generation.targetModule world.here
      world.files emptied.files) :
    generation.Produces indexer formatter emptied result files ↔
      generation.Produces indexer formatter world result files := by
  have deposits {contents : String} :
      Store.Deposits world.machine world.here folder generation.targetModule
          contents emptied.files files ↔
        Store.Deposits world.machine world.here folder generation.targetModule
          contents world.files files :=
    removed.deposits_iff fun tree => reliable folder tree named
  have twin := twin_of_removed apart named same removed
  have twinBack := twin_back_of_removed (generation.inputDump) same removed
  constructor
  · rintro ⟨other, prepared, after, otherNamed, composed, wrote, rfl⟩
    obtain rfl : folder = other :=
      Folder.named.inj (named.symm.trans otherNamed)
    obtain ⟨later, composedBack, -⟩ := compose_follows generation indexer
      formatter emptied world twinBack prepared after composed
    rw [same.here, same.machine] at wrote
    exact ⟨folder, prepared, later, named, composedBack, deposits.mp wrote, rfl⟩
  · rintro ⟨other, prepared, after, otherNamed, composed, wrote, rfl⟩
    obtain rfl : folder = other :=
      Folder.named.inj (named.symm.trans otherNamed)
    obtain ⟨later, composedThen, -⟩ := compose_follows generation indexer
      formatter world emptied twin prepared after composed
    rw [← deposits, ← same.here, ← same.machine] at wrote
    exact ⟨folder, prepared, later, named, composedThen, wrote, rfl⟩

/-- Whether it removes the old interface or not, a generation delivers what it
produces from the files at hand. -/
theorem delivers_iff (allowed : world.refusesRemoval = false)
    (apart : generation.DumpApart world)
    (reliable : generation.FolderReliable world) :
    generation.Delivers indexer formatter world result files ↔
      generation.Produces indexer formatter world result files := by
  rw [delivers_iff_exists]
  constructor
  · rintro ⟨emptied, removed, produces⟩
    obtain ⟨folder, named⟩ := produces.exists_folder
    obtain ⟨cleared, same⟩ := removeOld_after generation world
    rw [after_of_ok removed] at cleared same
    have removal := cleared.removed
    rw [named] at removal
    exact (produces_iff_of_removed apart reliable named same removal).mp
      produces
  · intro produces
    obtain ⟨folder, named⟩ := produces.exists_folder
    obtain ⟨emptied, removed, same, removal⟩ :=
      exists_removeOld allowed named
    exact ⟨emptied, removed,
      (produces_iff_of_removed apart reliable named same removal).mpr produces⟩

/-! ## The same again -/

theorem exists_read_of_compose {prepared : Prepared} {after : World}
    {path : String}
    (composed :
      generation.compose indexer formatter world = .ok prepared after)
    (given : given? generation.inputDump = some path) :
    ∃ content, world.files.read world.here (tidy path) = .ok content := by
  obtain ⟨dumpEq, nonempty⟩ := given?_eq_some.mp given
  obtain ⟨forest, rest, supplied, -⟩ := compose_eq_ok composed
  cases supplied with
  | @dump other text content forest otherGiven otherNonempty reads decoded
      holds =>
      obtain rfl : path = other :=
        Option.some.inj (dumpEq.symm.trans otherGiven)
      exact ⟨content, reads⟩
  | indexer absent scripted holds =>
      rw [← given?_eq_none, given] at absent
      cases absent

/-- A dump that is not the interface keeps its content when the interface is
written. -/
theorem dump_of_deposits {folder path contents : String} {location : Location}
    {content : ByteArray} (apart : generation.DumpApart world)
    (named : generation.outputFolder = .named folder)
    (given : given? generation.inputDump = some path)
    (deposits : Store.Deposits world.machine world.here folder
      generation.targetModule contents world.files files)
    (located : world.files.locate world.here (tidy path) = .ok location)
    (stands : world.files.get? location = some (.file content)) :
    files.get? location = some (.file content) ∧
      files.locate world.here
        (Store.interfacePath folder generation.targetModule) ≠ .ok location := by
  obtain ⟨opened, place, opens, target, -, rfl⟩ := deposits
  have stillThere := opens.grown.grows _ _ stands
  have different : location ≠ place := by
    rintro rfl
    have leads := Tree.locate_of_aims target.aims target.accepted target.short
      (by simp [stillThere])
    rw [← opens.snd_createFolder] at leads
    exact apart folder path location named given located leads
  constructor
  · rw [target.get?_put, if_neg different, stillThere]
  · rw [target.locate_put]
    exact fun same => different (Except.ok.inj same).symm

/-- What a generation has produced it produces again, and the files can be
relied on as before. -/
theorem Produces.again {later : World}
    (produces : generation.Produces indexer formatter world result files)
    (apart : generation.DumpApart world)
    (reliable : generation.FolderReliable world)
    (sameMachine : later.machine = world.machine)
    (sameHere : later.here = world.here)
    (sameScript : later.script = world.script) (isAfter : later.files = files) :
    generation.Produces indexer formatter later result files ∧
      generation.DumpApart later ∧ generation.FolderReliable later := by
  obtain ⟨folder, prepared, after, named, composed, deposits, rfl⟩ := produces
  have reliableNow := reliable folder world.files named .kept
  have isFolder := deposits.isFolder reliableNow
  have keeps := deposits.keepsFolders
  subst isAfter
  refine ⟨?_, ?_, ?_⟩
  · have twin : Twin (Offers generation.inputDump) world later := by
      refine ⟨sameMachine, sameHere, sameScript, ?_, ?_⟩
      · intro path isFolder
        exact Tree.isFolder_of_keepsFolders keeps isFolder
      · intro path content given reads
        apply Tree.read_of_keepsFolders keeps _ reads
        intro location located stands
        exact (dump_of_deposits apart named given deposits located stands).1
    obtain ⟨other, composedAgain, -⟩ := compose_follows generation indexer
      formatter world later twin prepared after composed
    have again := deposits.again reliableNow
    rw [← sameHere, ← sameMachine] at again
    exact ⟨folder, prepared, other, named, composedAgain, again, rfl⟩
  · intro otherFolder path location otherNamed given located
    obtain rfl : folder = otherFolder :=
      Folder.named.inj (named.symm.trans otherNamed)
    obtain ⟨content, reads⟩ := exists_read_of_compose composed given
    obtain ⟨old, oldLocated, stands⟩ := Tree.read_eq_ok_iff.mp reads
    obtain ⟨stays, notOld⟩ :=
      dump_of_deposits apart named given deposits oldLocated stands
    have relocated := Tree.locate_of_keepsFolders keeps
      (stays.trans stands.symm) oldLocated
    rw [sameHere] at located
    rw [sameHere, sameMachine]
    obtain rfl : location = old := Except.ok.inj (located.symm.trans relocated)
    have opens : Store.Opens world.machine.reach.folders world.here folder
        later.files later.files :=
      Store.opens_of_isFolder isFolder
    rw [opens.snd_createFolder]
    exact notOld
  · intro otherFolder tree otherNamed removed
    obtain rfl : folder = otherFolder :=
      Folder.named.inj (named.symm.trans otherNamed)
    rw [sameHere] at removed
    rw [sameHere, sameMachine]
    apply Store.reliable_of_isFolder
    intro nonempty
    exact Tree.isFolder_of_keepsFolders removed.keepsFolders (isFolder nonempty)

/-- The removal of the old interface does not show in what a generation
delivers, and a generation that is repeated from the files that it left delivers
the same and leaves them as they are. -/
theorem outcome_of_cleaning_and_repetition
    (allowed : world.refusesRemoval = false)
    (apart : generation.DumpApart world)
    (reliable : generation.FolderReliable world) :
    (∀ result files,
      (generation.cleaning true).Delivers indexer formatter world result files ↔
        (generation.cleaning false).Delivers indexer formatter world result
          files) ∧
      ∀ result after, generation.run indexer formatter world =
          .ok result after →
        ∀ again : World, again.machine = world.machine →
          again.here = world.here → again.script = world.script →
            again.refusesRemoval = false → again.files = after.files →
              generation.Delivers indexer formatter again result
                after.files := by
  constructor
  · intro result files
    have cleaned : (generation.cleaning true).Delivers indexer formatter world
          result files ↔
        (generation.cleaning true).Produces indexer formatter world result
          files :=
      delivers_iff allowed apart reliable
    have kept : (generation.cleaning false).Delivers indexer formatter world
          result files ↔
        (generation.cleaning false).Produces indexer formatter world result
          files :=
      delivers_iff allowed apart reliable
    -- Without the removal nothing looks at the flag any more.
    exact cleaned.trans kept.symm
  · intro result after succeeded again sameMachine sameHere sameScript
      stillAllowed isAfter
    have produces := (delivers_iff allowed apart reliable).mp
      ⟨after, succeeded, rfl⟩
    obtain ⟨producesAgain, apartAgain, reliableAgain⟩ :=
      produces.again apart reliable sameMachine sameHere sameScript isAfter
    exact (delivers_iff stillAllowed apartAgain reliableAgain).mpr producesAgain

/-- A generation from a dump, of a module whose interface does not go into the
output folder. -/
def astray (folder : String) : Generation where
  outputFolder := .named folder
  moduleName := some "/t/Lamp"
  inputDump := some "docs.json"

/-- A world with the dump, an old interface, and a file in a folder. -/
def withDump : World where
  files.entries :=
    [ (["docs.json"], .file (Text.encodeUtf8
        ("[\x7b\"\": \x7b\"key.kind\": \"var\", " ++
          "\"key.parsed_declaration\": \"var lit\"\x7d\x7d]"))),
      (["t"], .folder),
      (["t", "Lamp.swift"], .file (Text.encodeUtf8 "import Lamp\n\n")),
      (["a"], .folder),
      (["a", "c"], .file .empty) ]

theorem dumpApart_astray {folder : String}
    (leads : (withDump.files.createFolder withDump.machine.reach.folders
      withDump.here folder).2.locate withDump.here "/t/Lamp.swift" =
        .ok ["t", "Lamp.swift"]) :
    (astray folder).DumpApart withDump := by
  rintro other path location ⟨⟩ given located
  have isDump : withDump.files.locate withDump.here (tidy "docs.json") =
      .ok ["docs.json"] := by
    decide +kernel
  have isName : Interface.fileName (astray folder).targetModule =
      "/t/Lamp.swift" := by
    change Interface.fileName "/t/Lamp" = _
    decide +kernel
  have isPath : Store.interfacePath folder (astray folder).targetModule =
      "/t/Lamp.swift" := by
    rw [Store.interfacePath, isName, join, if_pos (by decide +kernel)]
  obtain rfl : "docs.json" = path := Option.some.inj given
  obtain rfl : ["docs.json"] = location :=
    Except.ok.inj (isDump.symm.trans located)
  rw [isPath, leads]
  decide

theorem outcome_of_cleaning_and_repetition_astray :
    ∃ result after,
      (astray "out/new").run {} .identity withDump = .ok result after ∧
        ((astray "out/new").cleaning true).Delivers {} .identity withDump result
            after.files ∧
          (astray "out/new").Delivers {} .identity
            { withDump with files := after.files } result after.files := by
  obtain ⟨result, after, succeeded⟩ := exists_of_succeeds
    (show ((astray "out/new").run {} .identity).succeeds withDump = true by
      decide +kernel)
  have reliable : (astray "out/new").FolderReliable withDump := by
    rintro folder tree ⟨⟩ removed - -
    cases removed with
    | kept => decide +kernel
    | @erased path location content named located isFile =>
        obtain rfl := Folder.named.inj named
        have isOld : withDump.files.locate withDump.here
            (Store.interfacePath "out/new" (astray "out/new").targetModule) =
            .ok ["t", "Lamp.swift"] := by
          decide +kernel
        obtain rfl : ["t", "Lamp.swift"] = location :=
          Except.ok.inj (isOld.symm.trans located)
        decide +kernel
  obtain ⟨sameCleaned, sameAgain⟩ := outcome_of_cleaning_and_repetition rfl
    (dumpApart_astray (by decide +kernel)) reliable
  exact ⟨result, after, succeeded,
    (sameCleaned result after.files).mpr ⟨after, succeeded, rfl⟩,
    sameAgain result after succeeded _ rfl rfl rfl rfl rfl⟩

/-- A creation that succeeds in name only is found out by the next generation,
which fails. -/
theorem repetition_fails_without_folder :
    ¬ ∀ (generation : Generation) (indexer : Tool.Indexer)
      (formatter : Tool.Formatter) (world : World) (result : Result)
      (after : World), world.refusesRemoval = false →
        generation.DumpApart world →
          generation.run indexer formatter world = .ok result after →
            generation.Delivers indexer formatter
              { world with files := after.files } result after.files := by
  intro repeats
  obtain ⟨result, after, succeeded⟩ := exists_of_succeeds
    (show ((astray "a/b/../c/.").run {} .identity).succeeds withDump = true by
      decide +kernel)
  obtain ⟨later, again, -⟩ := repeats (astray "a/b/../c/.") {} .identity
    withDump result after rfl (dumpApart_astray (by decide +kernel)) succeeded
  have fails : ((astray "a/b/../c/.").run {} .identity).succeeds
      { withDump with
        files := (((astray "a/b/../c/.").run {} .identity).after
          withDump).files } = false := by
    decide +kernel
  obtain ⟨failure, other, failed⟩ := exists_of_not_succeeds fails
  rw [after_of_ok succeeded, again] at failed
  cases failed

end Generation

end SwiftInterface
