import SwiftInterface.Proofs.CommandLine.LogContext
import SwiftInterface.Proofs.CommandLine.Precedence
import SwiftInterface.Proofs.Generation.Sources

/-!
# Build arguments

What follows the double dash of a generating command line is handed to the
indexer, whatever it looks like: nothing behind the double dash is an option any
more.  One text is not handed on.  A second double dash that comes first is
dropped like the one in front of it, so the arguments arrive as they were
written just if they do not start with a double dash.

A call that was made is never taken back, so the first call of a command line is
known once the indexer was started.
-/

namespace SwiftInterface

open Run

namespace Run

/-- These calls were made before all others. -/
def Called (calls : List Tool.Call) (world : World) : Prop :=
  calls <+: world.calls

variable {calls : List Tool.Call}

theorem Called.of_same {world other : World} (called : Called calls world)
    (same : other.calls = world.calls) : Called calls other := by
  unfold Called
  rw [same]
  exact called

/-- Calls are only added. -/
theorem fileBlind_called (calls : List Tool.Call) : FileBlind (Called calls) where
  log := ⟨fun world level source message _ called =>
    called.of_same (sameButLog_log world level source message none).calls⟩
  tool _ _ called := List.IsPrefix.trans called (List.prefix_append _ _)
  files _ _ called := called

theorem logBlind_called (calls : List Tool.Call) : LogBlind (Called calls) where
  context _ _ called := called
  record _ _ _ called := called

end Run

/-! ## The call of the indexer -/

namespace Tool

theorem Subject.FolderExists.of_sameButLog {subject : Subject}
    {world other : World} (folderExists : subject.FolderExists world)
    (same : SameButLog world other) : subject.FolderExists other := by
  intro folder asked
  rw [same.files, same.here]
  exact folderExists folder asked

/-- The indexer is called as soon as its folder was found, whatever becomes of
the call. -/
theorem Indexer.document_called {subject : Subject} {world : World}
    (folderExists : subject.FolderExists world) (indexer : Indexer) :
    Called (world.calls ++ [indexer.callFor subject])
      ((indexer.document subject).after world) := by
  obtain ⟨folder, found⟩ := exists_folderPath folderExists
  have folderEq := folderPath_eq_ok found
  have blind :=
    (fileBlind_called (world.calls ++ [indexer.callFor subject])).log
  rw [document, after_bind_of_ok found, after_bind_of_ok (info_eq _ _ _),
    after_bind_of_ok (start_eq _ _)]
  have onward (outcome : Outcome) :
      Keeps (Called (world.calls ++ [indexer.callFor subject])) (do
        let output ← indexer.outputOf subject outcome
        let payload ← Dump.decode output (.invalidOutput subject.description)
        let forest ← Dump.forestWithin payload
        if forest.isEmpty then
          Run.fail (.producer (.noDeclarations subject.description))
        else
          Run.info .producer ("SourceKitten documented " ++
            toString forest.length ++ " files for " ++ subject.description)
          return forest) := by
    refine (outputOf_keeps indexer subject outcome).bind fun output => ?_
    refine (Dump.decode_keeps output _).bind fun payload => ?_
    refine (Dump.forestWithin_keeps blind payload).bind fun forest => ?_
    split
    · exact .fail _
    · exact (Keeps.info blind _ _).bind fun _ => .pure forest
  apply onward
  unfold Called
  rw [folderEq, started, (sameButLog_log world _ _ _ _).calls]
  exact List.prefix_refl _

end Tool

namespace Generation

variable {generation : Generation} {world : World}

theorem produceForest_called (absent : given? generation.inputDump = none)
    (folderExists : (generation.subjectIn world).FolderExists world)
    (indexer : Tool.Indexer) :
    Called (world.calls ++ [indexer.callFor (generation.subjectIn world)])
      ((generation.produceForest indexer).after world) := by
  apply Keeps.after_bind
  · rw [obtainForest, absent, after_bind_of_ok (get_eq world)]
    exact Tool.Indexer.document_called folderExists indexer
  · intro forest
    split
    · exact .fail _
    · exact .pure forest

/-- Before all other calls, a generation without a dump and without a removal
calls the indexer on its subject. -/
theorem run_called (unclean : generation.clean = false)
    (absent : given? generation.inputDump = none)
    (folderExists : (generation.subjectIn world).FolderExists world)
    (indexer : Tool.Indexer) (formatter : Tool.Formatter) :
    Called (world.calls ++ [indexer.callFor (generation.subjectIn world)])
      ((generation.run indexer formatter).after world) := by
  have scopes := logBlind_called
    (world.calls ++ [indexer.callFor (generation.subjectIn world)])
  have blind := fileBlind_called
    (world.calls ++ [indexer.callFor (generation.subjectIn world)])
  have produced : Called
      (world.calls ++ [indexer.callFor (generation.subjectIn world)])
      ((Run.inPhase "produce" (generation.produceForest indexer)).after
        world) := by
    obtain ⟨entered, entering, leaving⟩ :=
      after_inPhase "produce" (generation.produceForest indexer) world
    have sameSubject :
        generation.subjectIn entered = generation.subjectIn world := by
      simp only [subjectIn, World.herePath, entering.here]
    have enteredExists :
        (generation.subjectIn entered).FolderExists entered := by
      rw [sameSubject]
      exact folderExists.of_sameButLog entering
    have called := produceForest_called absent enteredExists indexer
    rw [sameSubject, entering.calls] at called
    exact called.of_same leaving.calls
  have composed : Called
      (world.calls ++ [indexer.callFor (generation.subjectIn world)])
      ((generation.compose indexer formatter).after world) := by
    apply Keeps.after_bind produced
    intro forest
    apply Keeps.bind
    · exact .inPhase scopes _ (renderBlocks_keeps blind.log _ forest)
    intro rendered
    apply Keeps.bind
    · exact .inPhase scopes _
        (Interface.compose_keeps blind.toStepBlind _ _ formatter)
    intro contents
    exact .pure _
  have nothingRemoved : generation.removeOld world = .ok () world := by
    rw [removeOld, unclean]
    rfl
  rw [run_eq]
  apply Keeps.after_bind
  · rw [prepare, after_bind_of_ok nothingRemoved]
    exact composed
  · intro prepared
    refine Keeps.bind (.inPhase scopes _ ?_) fun path => .pure _
    refine (Store.folderPath_keeps _).bind fun folder => ?_
    exact Store.write_fileBlind blind folder _ _

end Generation

namespace CommandLine

/-! ## Reading the arguments -/

/-- What is found on a command line that names a module and has build arguments
behind the double dash. -/
def moduleFound (moduleName : String) (arguments : List String) : Found where
  options := [(valued "--module-name", some moduleName)]
  positionals := some arguments

section Reading

variable {moduleName : String}

theorem shapeOf_of_plain (plain : moduleName.toList.head? ≠ some '-')
    (grammar : Grammar) : shapeOf grammar moduleName = .ok .argument := by
  rw [shapeOf, if_pos plain]

theorem ne_separator_of_plain (plain : moduleName.toList.head? ≠ some '-') :
    moduleName ≠ "--" := by
  rintro rfl
  exact plain rfl

theorem classify_separator (grammar : Grammar) (arguments : List String) :
    classify grammar ("--" :: arguments) =
      .ok (("--", .separator) ::
        arguments.map fun argument => (argument, .argument)) := by
  rw [classify, if_pos rfl]

/-- An argument with a shape is put in front of the others. -/
theorem classify_cons {grammar : Grammar} {text : String} {shape : Shape}
    {rest : List String} {others : List Shaped} (named : text ≠ "--")
    (shaped : shapeOf grammar text = .ok shape)
    (classified : classify grammar rest = .ok others) :
    classify grammar (text :: rest) = .ok ((text, shape) :: others) := by
  rw [classify, if_neg named, shaped, classified]
  rfl

/-- Arguments behind the double dash, with their shape. -/
def asArguments (arguments : List String) : List Shaped :=
  arguments.map fun argument => (argument, .argument)

theorem map_fst_asArguments (arguments : List String) :
    (asArguments arguments).map Prod.fst = arguments := by
  rw [asArguments, List.map_map]
  exact List.map_id arguments

theorem not_isOption_of_mem_asArguments {arguments : List String}
    {item : Shaped} (member : item ∈ asArguments arguments) :
    item.2.isOption = false := by
  obtain ⟨argument, -, rfl⟩ := List.mem_map.mp member
  rfl

/-! ### Steps of the consumption -/

variable {grammar : Grammar} {found taken : Found} {items : List Shaped}

/-- Positional arguments that can all be taken leave nothing. -/
theorem takePositionals_all (fresh : found.positionals = none)
    (counted :
      positionalCount? grammar.positional items = some items.length) :
    takePositionals grammar found items =
      ({ found with
          positionals := some
            (positionalValues grammar.positional (items.map Prod.fst)) },
        []) := by
  have untaken : ¬ found.positionals.isSome = true := by
    simp [fresh]
  rw [takePositionals, if_neg untaken, counted]
  simp only [List.take_length, List.drop_length]

theorem consume_nil (fuel : Nat) (complete : found.positionals.isSome = true) :
    consume grammar fuel found [] = .ok found := by
  cases fuel with
  | zero => rfl
  | succ fuel =>
      rw [consume]
      simp [takePositionals, complete]

/-- Without an option left, the positional arguments are taken and the reading
ends. -/
theorem consume_arguments (fuel : Nat)
    (plain : ∀ item ∈ items, item.2.isOption = false)
    (took : takePositionals grammar found items = (taken, [])) :
    consume grammar (fuel + 1) found items = .ok taken := by
  have noOption : ¬ (items.any fun item => item.2.isOption) = true := by
    simpa using plain
  rw [consume, if_neg noOption, took]
  simp

/-- Positional arguments at the front that take all others, options among them,
end the reading, too. -/
theorem consume_all (fuel : Nat) {item : Shaped} {rest : List Shaped}
    (plain : item.2.isOption = false)
    (hasOption : ((item :: rest).any fun item => item.2.isOption) = true)
    (took : takePositionals grammar found (item :: rest) = (taken, []))
    (complete : taken.positionals.isSome = true) :
    consume grammar (fuel + 1) found (item :: rest) = .ok taken := by
  have front : ¬ ((item :: rest).takeWhile
      fun item => !item.2.isOption).isEmpty = true := by
    simp [plain]
  rw [consume, if_pos hasOption]
  simp only [if_neg front, took, List.length_nil, List.length_cons,
    Nat.zero_lt_succ, if_true]
  exact consume_nil fuel complete

/-- An option at the front is taken before all else. -/
theorem consume_option (fuel : Nat) {text : String} {shape : Shape}
    {rest after : List Shaped} (isOption : shape.isOption = true)
    (took : takeOption grammar found text shape rest = .ok (taken, after)) :
    consume grammar (fuel + 1) found ((text, shape) :: rest) =
      consume grammar fuel taken after := by
  have hasOption : (((text, shape) :: rest).any
      fun item => item.2.isOption) = true := by
    simp [isOption]
  rw [consume, if_pos hasOption]
  simp only [List.takeWhile_cons, isOption, Bool.not_true, Bool.false_eq_true,
    if_false, List.isEmpty_nil, if_true, Nat.lt_irrefl, List.length_nil,
    List.drop_zero, List.map_nil, List.append_nil, took]
  rfl

theorem read_of_consume {arguments : List String}
    (classified : classify grammar arguments = .ok items)
    (consumed : consume grammar (items.length + 1) {} items = .ok found)
    (complete : found.positionals.isSome = true) :
    read grammar arguments = .ok found := by
  have required : requirePositional grammar found = .ok found := by
    obtain ⟨texts, taken⟩ := Option.isSome_iff_exists.mp complete
    rw [requirePositional.eq_def, taken]
    split
    · contradiction
    · rfl
  rw [read, classified]
  change (consume grammar (items.length + 1) {} items >>= _) = _
  rw [consumed]
  exact required

/-! ### The command line -/

/-- In front of the command nothing is taken: the command gets all that follows
it. -/
theorem read_mainGrammar (plain : moduleName.toList.head? ≠ some '-')
    (arguments : List String) :
    read mainGrammar
        ("generate" :: "--module-name" :: moduleName :: "--" :: arguments) =
      .ok ⟨[], some ("generate" :: "--module-name" :: moduleName :: "--" ::
        arguments), []⟩ := by
  have classified : classify mainGrammar
      ("generate" :: "--module-name" :: moduleName :: "--" :: arguments) =
        .ok (("generate", .argument) :: ("--module-name", .unknownOption) ::
          (moduleName, .argument) :: ("--", .separator) ::
            asArguments arguments) := by
    apply classify_cons (by decide) (by rfl)
    apply classify_cons (by decide) (by rfl)
    apply classify_cons (ne_separator_of_plain plain) (shapeOf_of_plain plain _)
    exact classify_separator mainGrammar arguments
  have took := @takePositionals_all mainGrammar {}
    (("generate", .argument) :: ("--module-name", .unknownOption) ::
      (moduleName, .argument) :: ("--", .separator) :: asArguments arguments)
    rfl rfl
  simp only [List.map_cons, map_fst_asArguments] at took
  exact read_of_consume classified (consume_all _ rfl rfl took rfl) rfl

/-- The command takes the name of the module, and what follows the double dash
as positional arguments. -/
theorem read_generateGrammar (plain : moduleName.toList.head? ≠ some '-')
    (arguments : List String) :
    read generateGrammar ("--module-name" :: moduleName :: "--" :: arguments) =
      .ok (moduleFound moduleName arguments) := by
  have classified : classify generateGrammar
      ("--module-name" :: moduleName :: "--" :: arguments) =
        .ok (("--module-name",
            .option (valued "--module-name") "--module-name" none) ::
          (moduleName, .argument) :: ("--", .separator) ::
            asArguments arguments) := by
    apply classify_cons (by decide) (by rfl)
    apply classify_cons (ne_separator_of_plain plain) (shapeOf_of_plain plain _)
    exact classify_separator generateGrammar arguments
  have noOption : ∀ item ∈ ("--", Shape.separator) :: asArguments arguments,
      item.2.isOption = false := by
    intro item member
    rcases List.mem_cons.mp member with rfl | member
    · rfl
    · exact not_isOption_of_mem_asArguments member
  have counted : positionalCount? generateGrammar.positional
      (("--", .separator) :: asArguments arguments) =
        some (("--", Shape.separator) :: asArguments arguments).length := by
    change some (List.length (List.takeWhile _ _)) = _
    rw [List.takeWhile_eq_self_iff.mpr]
    intro item member
    rw [noOption item member]
    rfl
  have took := @takePositionals_all generateGrammar
    ⟨[(valued "--module-name", some moduleName)], none, []⟩ _ rfl counted
  have texts : positionalValues generateGrammar.positional
      ((("--", Shape.separator) :: asArguments arguments).map Prod.fst) =
        arguments := by
    rw [List.map_cons, map_fst_asArguments]
    exact List.erase_cons_head "--" arguments
  rw [texts] at took
  have first : takeOption generateGrammar {} "--module-name"
      (.option (valued "--module-name") "--module-name" none)
      ((moduleName, .argument) :: ("--", .separator) :: asArguments arguments) =
        .ok (⟨[(valued "--module-name", some moduleName)], none, []⟩,
          ("--", .separator) :: asArguments arguments) := rfl
  refine read_of_consume classified ?_ rfl
  rw [consume_option _ rfl first]
  exact consume_arguments _ noOption took

/-- Whatever follows the double dash is an argument of the build. -/
theorem readInvocation_module (plain : moduleName.toList.head? ≠ some '-')
    (arguments : List String) :
    readInvocation
        (["generate", "--module-name", moduleName, "--"] ++ arguments) =
      .ok ⟨false, .generate
        { moduleName := some moduleName, buildArguments := arguments }⟩ := by
  have command : readCommand "generate"
      ("--module-name" :: moduleName :: "--" :: arguments) =
        .ok (false, .generate
          { moduleName := some moduleName, buildArguments := arguments },
            []) := by
    rw [readCommand, if_pos rfl, readWith, read_generateGrammar plain arguments]
    rfl
  change (readWith mainManual mainGrammar
    ("generate" :: "--module-name" :: moduleName :: "--" :: arguments) >>= _) = _
  rw [readWith, read_mainGrammar plain arguments]
  change (readCommand "generate"
    ("--module-name" :: moduleName :: "--" :: arguments) >>= _) = _
  rw [command]
  rfl

end Reading

/-! ## The first call -/

theorem sameButLog_finish (name : String) (body : Run Unit) (world : World) :
    SameButLog (body.after world) (finish name body world).2 := by
  rw [finish]
  cases outcome : body world with
  | ok value after =>
      rw [after_of_ok outcome]
      exact .refl after
  | error failure after =>
      rw [after_of_error outcome]
      obtain ⟨message, origin, report⟩ := reportFailure_eq_log name failure after
      dsimp only
      rw [report]
      exact sameButLog_log after .error .commandLine message origin

/-- The arguments of a command line that names a module and has build
arguments. -/
def moduleArguments (moduleName : String) (arguments : List String) :
    GenerateArguments where
  moduleName := some moduleName
  buildArguments := arguments

/-- The generation that these arguments ask for, once a level is chosen. -/
def moduleGeneration (defaults : Settings) (level : AccessLevel)
    (moduleName : String) (arguments : List String) : Generation where
  outputFolder := .named defaults.outputFolder
  minimumLevel := level
  moduleName := some moduleName
  buildArguments := buildArguments arguments
  skipUnbalanced := defaults.skipUnbalanced

/-- The call of the indexer on a module in the working folder. -/
def moduleCall (defaults : Settings) (moduleName : String)
    (arguments : List String) (world : World) : Tool.Call :=
  (indexerOf defaults).callFor
    (.module moduleName (buildArguments arguments) (.named world.herePath))

section FirstCall

variable {moduleName : String} {world : World}

/-- The generation of a module calls the indexer first, with the build arguments
that are left without a double dash in front. -/
theorem generate_called (named : moduleName ≠ "")
    (folderExists : world.files.isFolder world.here world.herePath = true)
    (defaults : Settings) (arguments : List String) :
    Called (world.calls ++ [moduleCall defaults moduleName arguments world])
      ((generate defaults
        (moduleArguments moduleName arguments)).after world) := by
  obtain ⟨level, chosen, choice⟩ := AccessLevel.exists_choose
    (.string (levelName (moduleArguments moduleName arguments) defaults)) world
  have loaded : Settings.load (moduleArguments moduleName arguments).config
      defaults world = .ok defaults world := rfl
  have built : generationOf (moduleArguments moduleName arguments) defaults
      world = .ok (moduleGeneration defaults level moduleName arguments)
        chosen := by
    rw [generationOf, bind_ok choice]
    rfl
  rw [generate, after_bind_of_ok loaded, after_bind_of_ok built,
    after_bind_of_ok (info_eq _ _ chosen)]
  obtain ⟨entered, entering, leaving⟩ := after_inModule _ _ (chosen.log .info
    .commandLine "Generating Module Interface..." none)
  have same : SameButLog world entered :=
    ((generationOf_keeps (logBlind_sameButLog world) _ _).sameButLog
      built).trans ((sameButLog_log chosen _ _ _ _).trans entering)
  have subjectEq :
      (moduleGeneration defaults level moduleName arguments).subjectIn entered =
        .module moduleName (buildArguments arguments)
          (.named world.herePath) := by
    simp [moduleGeneration, Generation.subjectIn, Generation.subject,
      Generation.given?, named, World.herePath, same.here]
  have called := @Generation.run_called
    (moduleGeneration defaults level moduleName arguments) entered rfl rfl
  rw [subjectEq, same.calls] at called
  refine (called ?_ _ _).of_same leaving.calls
  rintro folder ⟨⟩
  refine ⟨world.herePath, rfl, ?_⟩
  rw [same.files, same.here]
  exact folderExists

theorem execute_called (named : moduleName ≠ "")
    (plain : moduleName.toList.head? ≠ some '-')
    (folderExists : world.files.isFolder world.here world.herePath = true)
    (defaults : Settings) (runId : String) (arguments : List String) :
    Called (world.calls ++ [moduleCall defaults moduleName arguments world])
      (execute defaults runId
        (["generate", "--module-name", moduleName, "--"] ++ arguments)
        world).2 := by
  have executed : execute defaults runId
      (["generate", "--module-name", moduleName, "--"] ++ arguments) world =
        finish "generate"
          (runGenerate defaults (moduleArguments moduleName arguments))
          (startWorld false runId world) := by
    rw [execute, readInvocation_module plain arguments]
    rfl
  have generated := @generate_called moduleName (startWorld false runId world)
    named folderExists defaults arguments
  have reported := sameButLog_finish "generate"
    (runGenerate defaults (moduleArguments moduleName arguments))
    (startWorld false runId world)
  rw [executed]
  refine Called.of_same ?_ reported.calls
  rw [runGenerate_eq]
  apply Keeps.after_bind generated
  intro result
  exact Keeps.info (fileBlind_called _).log _ _

theorem buildArguments_of_head {arguments : List String}
    (unlike : arguments.head? ≠ some "--") :
    buildArguments arguments = arguments := by
  rw [buildArguments.eq_def]
  split
  · exact absurd rfl unlike
  · rfl

/-- The first call of a command line that builds a module hands the build
arguments on as they are, unless the first of them is a double dash, which is
dropped. -/
theorem first_call_passes_arguments (named : moduleName ≠ "")
    (plain : moduleName.toList.head? ≠ some '-')
    (folderExists : world.files.isFolder world.here world.herePath = true)
    (defaults : Settings) (runId : String) (arguments : List String) :
    ∃ call later,
      (execute defaults runId
          (["generate", "--module-name", moduleName, "--"] ++ arguments)
          world).2.calls = world.calls ++ call :: later ∧
        (arguments.head? ≠ some "--" →
          call.command =
            [defaults.indexerPath, "doc", "--module-name", moduleName, "--"] ++
              arguments) ∧
        ∀ rest, arguments = "--" :: rest →
          call.command =
            [defaults.indexerPath, "doc", "--module-name", moduleName, "--"] ++
              rest := by
  obtain ⟨later, callsEq⟩ :=
    execute_called named plain folderExists defaults runId arguments
  refine ⟨moduleCall defaults moduleName arguments world, later, ?_, ?_, ?_⟩
  · rw [← callsEq]
    simp
  · intro unlike
    rw [moduleCall, buildArguments_of_head unlike]
    rfl
  · rintro rest rfl
    rfl

end FirstCall

/-- A program that was started in a folder which exists. -/
def sourceWorld : World where
  files.entries := [(["src"], .folder)]
  here := ["src"]

/-- Texts that look like options, an empty one and a later double dash are handed
on. -/
theorem first_call_passes_arguments_scheme :
    ("Mini" ≠ "" ∧ "Mini".toList.head? ≠ some '-' ∧
      sourceWorld.files.isFolder sourceWorld.here sourceWorld.herePath = true ∧
        ["-scheme", "Mini", "--", "", "-h"].head? ≠ some "--") ∧
      ∃ call later,
        (execute {} "run"
            (["generate", "--module-name", "Mini", "--"] ++
              ["-scheme", "Mini", "--", "", "-h"]) sourceWorld).2.calls =
          call :: later ∧
        call.command =
          ["sourcekitten", "doc", "--module-name", "Mini", "--", "-scheme",
            "Mini", "--", "", "-h"] := by
  have named : "Mini" ≠ "" := by decide
  have plain : "Mini".toList.head? ≠ some '-' := by decide
  have folderExists : sourceWorld.files.isFolder sourceWorld.here
      sourceWorld.herePath = true := by
    decide +kernel
  have unlike : ["-scheme", "Mini", "--", "", "-h"].head? ≠ some "--" := by
    decide
  obtain ⟨call, later, callsEq, verbatim, -⟩ := first_call_passes_arguments
    named plain folderExists {} "run" ["-scheme", "Mini", "--", "", "-h"]
  exact ⟨⟨named, plain, folderExists, unlike⟩, call, later, callsEq,
    verbatim unlike⟩

/-- Build arguments that start with a double dash are not handed on as they
are. -/
theorem first_call_drops_separator :
    ¬ ∀ moduleName arguments (world : World), moduleName ≠ "" →
      moduleName.toList.head? ≠ some '-' →
        world.files.isFolder world.here world.herePath = true →
          ∃ call later,
            (execute {} "run"
                (["generate", "--module-name", moduleName, "--"] ++ arguments)
                world).2.calls = world.calls ++ call :: later ∧
              call.command =
                ["sourcekitten", "doc", "--module-name", moduleName, "--"] ++
                  arguments := by
  intro verbatim
  obtain ⟨call, later, callsEq, command⟩ := verbatim "M" ["--", "x"] sourceWorld
    (by decide) (by decide) (by decide +kernel)
  have made : (execute {} "run"
      ["generate", "--module-name", "M", "--", "--", "x"]
      sourceWorld).2.calls.map Tool.Call.command =
        [["sourcekitten", "doc", "--module-name", "M", "--", "x"]] := by
    decide +kernel
  have commands := congrArg (List.map Tool.Call.command) callsEq
  rw [List.map_append, List.map_cons, command] at commands
  simpa [sourceWorld] using made.symm.trans commands

end CommandLine

end SwiftInterface
