import SwiftInterface.Proofs.Generation.Phases

/-!
# Successful generations

A generation that succeeds has called the indexer unless a dump was given, and
then the formatter, if it is a program, on the text of the rendered
declarations.  What the formatter answered stands at the path of the interface,
and all other files are as before.
-/

namespace SwiftInterface

namespace Generation

open Files Run

variable {generation : Generation} {indexer : Tool.Indexer}
  {formatter : Tool.Formatter}

/-! ## The call of the indexer -/

theorem given?_eq_none {text : Option String} :
    given? text = none ↔ text = none ∨ text = some "" := by
  cases text with
  | none => simp [given?]
  | some text =>
      by_cases empty : text = ""
      · simp [given?, empty]
      · simp [given?, empty]

theorem given?_eq_some {text : Option String} {found : String} :
    given? text = some found ↔ text = some found ∧ found ≠ "" := by
  cases text with
  | none => simp [given?]
  | some text =>
      by_cases empty : text = ""
      · simp [given?, empty]
      · simp only [given?, empty, if_false, Option.some.injEq]
        constructor
        · rintro rfl
          exact ⟨rfl, empty⟩
        · exact And.left

/-- The arguments that the indexer is to be called with.  A whole project has
no module name, and a package is built without the build arguments. -/
def indexerArguments (generation : Generation) : List String :=
  if generation.targetModule = "" then
    ["doc", "--"] ++ generation.buildArguments
  else if generation.packageModule = none ∨
      generation.packageModule = some "" then
    ["doc", "--module-name", generation.targetModule, "--"] ++
      generation.buildArguments
  else ["doc", "--spm", "--module-name", generation.targetModule]

/-- The subject and the module in the header are chosen apart from each other,
but they agree. -/
theorem subject_arguments (generation : Generation) (folder : Folder) :
    (generation.subject folder).arguments = generation.indexerArguments := by
  simp only [indexerArguments, ← given?_eq_none]
  cases package : given? generation.packageModule with
  | some moduleName =>
      have target : generation.targetModule = moduleName := by
        simp [targetModule, package]
      simp [subject, package, target, (given?_eq_some.mp package).2,
        Tool.Subject.arguments]
  | none =>
      cases named : given? generation.moduleName with
      | some moduleName =>
          have target : generation.targetModule = moduleName := by
            simp [targetModule, package, named]
          simp [subject, package, named, target, (given?_eq_some.mp named).2,
            Tool.Subject.arguments]
      | none =>
          have target : generation.targetModule = "" := by
            simp [targetModule, package, named]
          simp [subject, package, named, target, Tool.Subject.arguments]

/-- The folder in which the indexer runs, if one is chosen. -/
def indexerFolder? (generation : Generation) (world : World) : Option String :=
  (generation.subject
    (generation.inputFolder.getD (.named world.herePath))).folder?.bind
      Folder.path?

/-- The calls of the indexer: one unless a dump is given. -/
def indexerCalls (generation : Generation) (indexer : Tool.Indexer)
    (world : World) : List Tool.Call :=
  if generation.inputDump = none ∨ generation.inputDump = some "" then
    [ { command := indexer.executable :: generation.indexerArguments
        folder := generation.indexerFolder? world
        timeout := indexer.timeout
        input := none } ]
  else []

theorem indexerCalls_congr {before after : World}
    (sameHere : after.here = before.here) (generation : Generation)
    (indexer : Tool.Indexer) :
    generation.indexerCalls indexer after =
      generation.indexerCalls indexer before := by
  have samePath : after.herePath = before.herePath := by
    rw [World.herePath, World.herePath, sameHere]
  rw [indexerCalls, indexerCalls, indexerFolder?, indexerFolder?, samePath]

/-! ## The declarations -/

/-- The declarations are those of the given dump, or those that the indexer
answers; `rest` holds the outcomes of the programs to be started later. -/
inductive Supplied (generation : Generation) (world : World) :
    Forest → List Tool.Outcome → Prop
  | dump {path text : String} {content : ByteArray} {forest : Forest}
      (given : generation.inputDump = some path) (nonempty : path ≠ "")
      (reads : world.files.read world.here (tidy path) = .ok content)
      (decoded : Dump.fileText content = .ok text)
      (holds : Dump.Holds world.machine text forest) :
      Supplied generation world forest world.script
  | indexer {output : String} {forest : Forest} {rest : List Tool.Outcome}
      (absent : generation.inputDump = none ∨ generation.inputDump = some "")
      (scripted : world.script = .finished output :: rest)
      (holds : Dump.Holds world.machine output forest) :
      Supplied generation world forest rest

theorem Supplied.of_extends {before after : World} {forest : Forest}
    {rest : List Tool.Outcome}
    (supplied : generation.Supplied after forest rest)
    (shrinks : Tree.Extends after.files before.files)
    (same : SameButFiles before after) :
    generation.Supplied before forest rest := by
  cases supplied with
  | dump given nonempty reads decoded holds =>
      rw [same.here] at reads
      rw [same.script]
      exact .dump given nonempty (Tree.read_of_extends shrinks reads) decoded
        (same.machine ▸ holds)
  | indexer absent scripted holds =>
      exact .indexer absent (same.script ▸ scripted) (same.machine ▸ holds)

theorem obtainForest_eq_ok {forest : Forest} {world after : World}
    (succeeded : generation.obtainForest indexer world = .ok forest after) :
    generation.Supplied world forest after.script ∧
      after.calls = world.calls ++ generation.indexerCalls indexer world := by
  cases given : given? generation.inputDump with
  | some path =>
      rw [obtainForest, given] at succeeded
      have same := (Dump.load_keeps (logBlind_sameButLog world) path).sameButLog
        succeeded
      obtain ⟨content, text, reads, decoded, holds⟩ := Dump.load_eq_ok succeeded
      have present : ¬ (generation.inputDump = none ∨
          generation.inputDump = some "") := by
        rw [← given?_eq_none, given]
        exact Option.some_ne_none path
      rw [indexerCalls, if_neg present, List.append_nil, same.script]
      obtain ⟨dumpEq, nonempty⟩ := given?_eq_some.mp given
      exact ⟨.dump dumpEq nonempty reads decoded holds, same.calls⟩
  | none =>
      rw [obtainForest, given] at succeeded
      obtain ⟨_, _, got, succeeded⟩ := bind_eq_ok.mp succeeded
      obtain ⟨rfl, rfl⟩ := EStateM.Result.ok.inj got
      obtain ⟨output, scripted, holds, called⟩ :=
        Tool.Indexer.document_eq_ok succeeded
      have absent := given?_eq_none.mp given
      refine ⟨.indexer absent scripted holds, ?_⟩
      rw [called, indexerCalls, if_pos absent, Tool.Indexer.callFor,
        subject_arguments]
      rfl

theorem produceForest_eq_ok {forest : Forest} {world after : World}
    (succeeded : generation.produceForest indexer world = .ok forest after) :
    generation.Supplied world forest after.script ∧
      after.calls = world.calls ++ generation.indexerCalls indexer world := by
  obtain ⟨found, middle, obtained, succeeded⟩ := bind_eq_ok.mp succeeded
  split at succeeded
  case isTrue => exact absurd succeeded fail_ne_ok
  case isFalse =>
      obtain ⟨rfl, rfl⟩ := pure_eq_ok.mp succeeded
      exact obtainForest_eq_ok obtained

/-! ## Composing -/

theorem renderBlocks_eq_ok {forest : Forest} {blocks : List String}
    {counts : Render.Counts} {world after : World}
    (succeeded :
      generation.renderBlocks forest world = .ok (blocks, counts) after) :
    blocks = (Render.renderForest generation.renderOptions forest).output ∧
      counts = (Render.renderForest generation.renderOptions forest).counts := by
  obtain ⟨_, _, _, succeeded⟩ := bind_eq_ok.mp succeeded
  obtain ⟨⟨found, used⟩, _, rendered, succeeded⟩ := bind_eq_ok.mp succeeded
  obtain ⟨_, _, _, returned⟩ := bind_eq_ok.mp succeeded
  rw [Render.Session.renderForest_run] at rendered
  obtain ⟨pairEq, -⟩ := EStateM.Result.ok.inj rendered
  obtain ⟨rfl, rfl⟩ := Prod.mk.inj pairEq
  obtain ⟨rfl, rfl⟩ := Prod.mk.inj (pure_eq_ok.mp returned).1
  exact ⟨rfl, rfl⟩

/-- The text of a forest before it is formatted. -/
def interfaceText (generation : Generation) (forest : Forest) : String :=
  Interface.assemble
    (Render.renderForest generation.renderOptions forest).output
    generation.targetModule

theorem compose_eq_ok {prepared : Prepared} {world after : World}
    (succeeded :
      generation.compose indexer formatter world = .ok prepared after) :
    ∃ forest rest, generation.Supplied world forest rest ∧
      prepared.blocks =
          (Render.renderForest generation.renderOptions forest).output ∧
        prepared.counts =
          (Render.renderForest generation.renderOptions forest).counts ∧
        formatter.Yields (generation.interfaceText forest) rest
          prepared.contents ∧
        after.calls = world.calls ++ generation.indexerCalls indexer world ++
          formatter.callsOn (generation.interfaceText forest) := by
  obtain ⟨forest, first, produced, succeeded⟩ := bind_eq_ok.mp succeeded
  obtain ⟨⟨blocks, counts⟩, second, rendered, succeeded⟩ :=
    bind_eq_ok.mp succeeded
  obtain ⟨contents, third, formatted, returned⟩ := bind_eq_ok.mp succeeded
  obtain ⟨rfl, rfl⟩ := pure_eq_ok.mp returned
  obtain ⟨entered, inner, entering, produced, leaving⟩ := inPhase_eq_ok produced
  obtain ⟨supplied, called⟩ := produceForest_eq_ok produced
  have sameRender := (Keeps.inPhase (logBlind_sameButLog first) "render"
    (renderBlocks_keeps (logBlind_sameButLog first) generation forest)).sameButLog
      rendered
  obtain ⟨_, _, _, rendered, _⟩ := inPhase_eq_ok rendered
  obtain ⟨rfl, rfl⟩ := renderBlocks_eq_ok rendered
  obtain ⟨enteredFormat, innerFormat, enteringFormat, formatted, leavingFormat⟩ :=
    inPhase_eq_ok formatted
  obtain ⟨yields, calledFormat⟩ := Interface.compose_eq_ok formatted
  -- Between the two programs only the log is written, so the formatter finds
  -- the script as the indexer left it.
  have between := (leaving.trans sameRender).trans enteringFormat
  rw [between.script] at yields
  have grows : Tree.Extends entered.files world.files :=
    entering.files ▸ .refl _
  refine ⟨forest, inner.script, supplied.of_extends grows
    entering.toSameButFiles, rfl, rfl, yields, ?_⟩
  rw [leavingFormat.calls, calledFormat, between.calls, called, entering.calls,
    indexerCalls_congr entering.here]
  rfl

/-! ## The files afterwards -/

/-- The removal takes its file from where the new one is put. -/
theorem eq_target_of_located {before : World} {tree grown : Tree}
    {folder : String} {location other : Location}
    (cleared : generation.Cleared before tree)
    (added : Tree.Grown before.here folder.toList tree grown)
    (target : grown.Target before.here
      (Store.interfacePath folder generation.targetModule) location)
    (located : before.files.locate before.here
      (Store.interfacePath folder generation.targetModule) = .ok other) :
    other = location := by
  have ends :=
    Store.endsOrdinary_interfacePath folder generation.targetModule
  have keeps : Tree.KeepsFolders before.files grown :=
    cleared.removed.keepsFolders.trans added.grows.keepsFolders
  have aims := (Tree.aims_of_locate ends located).1.of_keepsFolders keeps
  exact aims.unique target.aims

/-- Away from the new interface the files are those from before. -/
theorem isFile_iff_of_ne {before : World} {tree grown : Tree}
    {folder : String} {location other : Location}
    (cleared : generation.Cleared before tree)
    (named : generation.outputFolder = .named folder)
    (added : Tree.Grown before.here folder.toList tree grown)
    (target : grown.Target before.here
      (Store.interfacePath folder generation.targetModule) location)
    (different : other ≠ location) (content : ByteArray) :
    grown.get? other = some (.file content) ↔
      before.files.get? other = some (.file content) := by
  rw [added.isFile_iff]
  rcases cleared.removed.kept_or_located other with same | removed
  · rw [same]
  · obtain ⟨path, sameFolder, located⟩ := removed
    rw [named] at sameFolder
    obtain rfl := Folder.named.inj sameFolder
    exact absurd (eq_target_of_located cleared added target located) different

/-! ## The whole generation -/

/-- What a successful generation has done, when `forest` was produced and
`contents` was the answer of the formatter. -/
structure Delivered (generation : Generation) (indexer : Tool.Indexer)
    (formatter : Tool.Formatter) (before : World) (forest : Forest)
    (rest : List Tool.Outcome) (contents : String) (result : Result)
    (after : World) : Prop where
  supplied : generation.Supplied before forest rest
  /-- The formatter worked on the assembled text. -/
  formatted : formatter.Yields (generation.interfaceText forest) rest contents
  /-- The indexer was called if there was no dump, then the formatter. -/
  calls : after.calls = before.calls ++
    generation.indexerCalls indexer before ++
      formatter.callsOn (generation.interfaceText forest)
  outputPath : ∃ folder, generation.outputFolder = .named folder ∧
    result.outputPath = Store.interfacePath folder generation.targetModule
  /-- There is no half in the contents, so they have an encoding. -/
  encoded : before.machine.halves.encode contents =
    .ok (Text.encodeUtf8 contents)
  written : after.files.read before.here result.outputPath =
    .ok (Text.encodeUtf8 contents)
  /-- At any other place there is a file just if there was the same before. -/
  others : ∀ location,
    after.files.locate before.here result.outputPath ≠ .ok location →
      ∀ content, after.files.get? location = some (.file content) ↔
        before.files.get? location = some (.file content)
  moduleName : result.moduleName = generation.targetModule
  blockCount : result.blockCount =
    (Render.renderForest generation.renderOptions forest).output.length
  counts : result.counts =
    (Render.renderForest generation.renderOptions forest).counts

/-- A generation that succeeds delivers the interface of its declarations. -/
theorem delivered_of_succeeded {result : Result} {before after : World}
    (succeeded :
      generation.run indexer formatter before = .ok result after) :
    ∃ forest rest contents,
      generation.Delivered indexer formatter before forest rest contents result
        after := by
  rw [run_eq] at succeeded
  obtain ⟨prepared, middle, done, succeeded⟩ := bind_eq_ok.mp succeeded
  obtain ⟨path, last, wrote, returned⟩ := bind_eq_ok.mp succeeded
  obtain ⟨rfl, rfl⟩ := pure_eq_ok.mp returned
  -- The removal is needed twice: for the files that the write finds, and for
  -- the world in which the declarations are obtained.
  obtain ⟨cleared, sameHere, sameMachine⟩ :=
    prepare_after generation indexer formatter before
  rw [after_of_ok done] at cleared sameHere sameMachine
  obtain ⟨_, emptied, removed, composed⟩ := bind_eq_ok.mp done
  obtain ⟨clearedFirst, sameFirst⟩ := removeOld_after generation before
  rw [after_of_ok removed] at clearedFirst sameFirst
  obtain ⟨forest, rest, supplied, blocksEq, countsEq, yields, called⟩ :=
    compose_eq_ok composed
  obtain ⟨folder, named, pathEq, sameLast, whole, grown, location, added,
    target, files⟩ := writeOut_eq_ok wrote
  rw [sameHere] at added target
  refine ⟨forest, rest, prepared.contents, ?_⟩
  exact {
    supplied := supplied.of_extends clearedFirst.removed.shrinks sameFirst
    formatted := yields
    calls := by
      rw [sameLast.calls, called, sameFirst.calls,
        indexerCalls_congr sameFirst.here]
    outputPath := ⟨folder, named, pathEq⟩
    encoded := Store.encode_of_breakOff?_eq_none (sameMachine ▸ whole)
    written := by
      rw [files]
      exact target.read_put _
    others := by
      intro other elsewhere content
      have different : other ≠ location := by
        rintro rfl
        rw [files, target.locate_put] at elsewhere
        exact elsewhere rfl
      rw [files, target.get?_put, if_neg different]
      rw [pathEq] at target
      exact isFile_iff_of_ne cleared named added target different content
    moduleName := rfl
    blockCount := congrArg List.length blocksEq
    counts := countsEq }

/-- A generation that replaces the interface of a package module. -/
def replacement : Generation where
  outputFolder := .named "out"
  minimumLevel := .privateAccess
  clean := true
  packageModule := some "Lamp"

/-- A world with the old interface, in which both programs answer. -/
def withPrograms : World where
  files.entries :=
    [ (["out"], .folder),
      (["out", "Lamp.swift"], .file (Text.encodeUtf8 "import Lamp\n\n")) ]
  script :=
    [ .finished ("[\x7b\"\": \x7b\"key.kind\": \"var\", " ++
        "\"key.parsed_declaration\": \"var lit\"\x7d\x7d]"),
      .finished "import Lamp\n\nvar lit\n" ]

theorem delivered_of_succeeded_replacement :
    ∃ result after,
      replacement.run {} (.program {}) withPrograms = .ok result after ∧
        ∃ forest rest contents,
          replacement.Delivered {} (.program {}) withPrograms forest rest
            contents result after := by
  obtain ⟨result, after, succeeded⟩ := exists_of_succeeds
    (show (replacement.run {} (.program {})).succeeds withPrograms = true by
      decide +kernel)
  exact ⟨result, after, succeeded, delivered_of_succeeded succeeded⟩

end Generation

end SwiftInterface
