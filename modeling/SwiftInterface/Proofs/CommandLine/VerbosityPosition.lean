import SwiftInterface.Proofs.CommandLine.BuildArguments
import SwiftInterface.Proofs.CommandLine.RunIdentifier
import SwiftInterface.Proofs.Settings.Loading

/-!
# The place of the verbosity flag

More detail in the log can be asked for in front of a command or right behind it.
In front it is an option of the tool, behind it is an option of the command, and
two readers note it in two places.

Reading from left to right, an option at the front leaves no trace but its entry:
everything behind it is read as it would be without it, also where the reading
ends early.  So both readers come to the same end.
-/

namespace SwiftInterface

namespace CommandLine

/-! ## Options in front of others -/

/-- What was found, with options noted in front of the others. -/
def Found.preceded (front : List (OptionSpec × Option String)) (found : Found) :
    Found :=
  { found with options := front ++ found.options }

section Preceded

variable {front : List (OptionSpec × Option String)}

theorem Found.take_preceded (found : Found) (option : OptionSpec)
    (value : Option String) :
    (found.preceded front).take option value =
      (found.take option value).map (Found.preceded front) := by
  rw [Found.take, Found.take]
  split
  · rfl
  · simp [Found.preceded, Except.map]

theorem Found.takeAll_preceded (found : Found)
    (entries : List (OptionSpec × Option String)) :
    (found.preceded front).takeAll entries =
      (found.takeAll entries).map (Found.preceded front) := by
  induction entries generalizing found with
  | nil => rfl
  | cons entry entries ih =>
      rw [Found.takeAll, Found.takeAll, take_preceded]
      cases found.take entry.1 entry.2 with
      | error stop => rfl
      | ok next => exact ih next

variable {grammar : Grammar}

theorem takePositionals_preceded (found : Found) (items : List Shaped) :
    takePositionals grammar (found.preceded front) items =
      ((takePositionals grammar found items).1.preceded front,
        (takePositionals grammar found items).2) := by
  simp only [takePositionals]
  have same : (found.preceded front).positionals = found.positionals := rfl
  rw [same]
  split
  · rfl
  · split
    · rfl
    · rfl

theorem map_preceded (taken : Except Stop Found) (rest : List Shaped) :
    (taken.map (Found.preceded front)).map (fun next => (next, rest)) =
      (taken.map fun next => (next, rest)).map
        (Prod.map (Found.preceded front) id) := by
  cases taken with
  | error stop => rfl
  | ok next => rfl

theorem takeOption_preceded (found : Found) (text : String) (shape : Shape)
    (rest : List Shaped) :
    takeOption grammar (found.preceded front) text shape rest =
      (takeOption grammar found text shape rest).map
        (Prod.map (Found.preceded front) id) := by
  cases shape with
  | option option name joined =>
      cases joined with
      | some joined =>
          simp only [takeOption]
          split
          · rfl
          · rw [Found.takeAll_preceded]
            exact map_preceded _ rest
      | none =>
          simp only [takeOption]
          split
          · split
            · rw [Found.take_preceded]
              exact map_preceded _ _
            · rfl
          · rw [Found.take_preceded]
            exact map_preceded _ rest
  | unknownOption => rfl
  | separator => rfl
  | argument => rfl

/-- The arguments in front of the next option, if there is one. -/
def argumentsAhead (items : List Shaped) : List Shaped :=
  items.takeWhile fun item => !item.2.isOption

/-- What is found once the positional arguments in front of the next option were
taken, if there are any, and what is left. -/
def takeAhead (grammar : Grammar) (found : Found) (items : List Shaped) :
    Found × List Shaped :=
  if (argumentsAhead items).isEmpty then (found, items)
  else takePositionals grammar found items

/-- Set aside the arguments in front of the next option. -/
def skipAhead (found : Found) (items : List Shaped) : Found :=
  { found with
    extras := found.extras ++ (argumentsAhead items).map Prod.fst }

/-- One round of the consumption while there are options. -/
theorem consume_round (fuel : Nat) (found : Found) {items : List Shaped}
    (hasOption : (items.any fun item => item.2.isOption) = true) :
    consume grammar (fuel + 1) found items =
      if (takeAhead grammar found items).2.length < items.length then
        consume grammar fuel (takeAhead grammar found items).1
          (takeAhead grammar found items).2
      else
        match items.drop (argumentsAhead items).length with
        | [] => .ok (skipAhead (takeAhead grammar found items).1 items)
        | (text, shape) :: rest =>
            takeOption grammar (skipAhead (takeAhead grammar found items).1 items)
              text shape rest >>= fun step => consume grammar fuel step.1 step.2 := by
  rw [consume, if_pos hasOption]
  rfl

theorem takeAhead_preceded (found : Found) (items : List Shaped) :
    takeAhead grammar (found.preceded front) items =
      ((takeAhead grammar found items).1.preceded front,
        (takeAhead grammar found items).2) := by
  rw [takeAhead, takeAhead]
  split
  · rfl
  · exact takePositionals_preceded found items

theorem skipAhead_preceded (found : Found) (items : List Shaped) :
    skipAhead (found.preceded front) items =
      (skipAhead found items).preceded front :=
  rfl

/-- Options that were noted before do not show in what is read on. -/
theorem consume_preceded (fuel : Nat) (found : Found) (items : List Shaped) :
    consume grammar fuel (found.preceded front) items =
      (consume grammar fuel found items).map (Found.preceded front) := by
  induction fuel generalizing found items with
  | zero => rfl
  | succ fuel ih =>
      by_cases hasOption : (items.any fun item => item.2.isOption) = true
      · rw [consume_round fuel _ hasOption, consume_round fuel _ hasOption,
          takeAhead_preceded, skipAhead_preceded]
        dsimp only
        split
        · exact ih _ _
        -- Nothing was taken ahead, so the round goes on to the next option.
        · split
          · rfl
          · rw [takeOption_preceded]
            cases takeOption grammar _ _ _ _ with
            | error stop => rfl
            | ok step => exact ih step.1 step.2
      · rw [consume, consume, if_neg hasOption, if_neg hasOption,
          takePositionals_preceded]
        rfl

theorem requirePositional_preceded (found : Found) :
    requirePositional grammar (found.preceded front) =
      (requirePositional grammar found).map (Found.preceded front) := by
  rw [requirePositional.eq_def, requirePositional.eq_def]
  have same : (found.preceded front).positionals = found.positionals := rfl
  rw [same]
  split
  · rfl
  · rfl

end Preceded

/-! ## A flag at the front -/

section Flag

variable {grammar : Grammar} {text : String} {option : OptionSpec}

theorem shapeOf_of_spelled (dashed : text.toList.head? = some '-')
    (spelled : grammar.spelled? text = some option) :
    shapeOf grammar text = .ok (.option option text none) := by
  rw [shapeOf, if_neg (not_not.mpr dashed), spelled]

theorem classify_flag (dashed : text.toList.head? = some '-')
    (named : text ≠ "--") (spelled : grammar.spelled? text = some option)
    (arguments : List String) :
    classify grammar (text :: arguments) =
      (classify grammar arguments).map
        fun items => (text, .option option text none) :: items := by
  rw [classify, if_neg named, shapeOf_of_spelled dashed spelled]
  cases classify grammar arguments with
  | error problem => rfl
  | ok items => rfl

theorem takeOption_flag (plain : option.takesValue = false)
    (noHelp : option.asksHelp = false) (rest : List Shaped) :
    takeOption grammar {} text (.option option text none) rest =
      .ok (Found.preceded [(option, none)] {}, rest) := by
  simp [takeOption, Found.take, plain, noHelp, Found.preceded, Except.map]

/-- After a flag at the front the rest is read as it would be without it. -/
theorem read_flag (dashed : text.toList.head? = some '-') (named : text ≠ "--")
    (spelled : grammar.spelled? text = some option)
    (plain : option.takesValue = false) (noHelp : option.asksHelp = false)
    (arguments : List String) :
    read grammar (text :: arguments) =
      (read grammar arguments).map (Found.preceded [(option, none)]) := by
  rw [read, read, classify_flag dashed named spelled]
  cases classify grammar arguments with
  | error problem => rfl
  | ok items =>
      -- The flag takes one round, and there is one argument more to count.
      change (consume grammar (items.length + 1 + 1) {}
        ((text, .option option text none) :: items) >>= _) =
          (consume grammar (items.length + 1) {} items >>= _).map _
      rw [consume_option _ rfl (takeOption_flag plain noHelp items),
        consume_preceded]
      cases consume grammar (items.length + 1) {} items with
      | error stop => rfl
      | ok found => exact requirePositional_preceded found

end Flag

/-! ## The command behind it -/

theorem map_fst_of_classify {grammar : Grammar} {arguments : List String}
    {items : List Shaped} (classified : classify grammar arguments = .ok items) :
    items.map Prod.fst = arguments := by
  induction arguments generalizing items with
  | nil =>
      obtain rfl := Except.ok.inj classified
      rfl
  | cons text rest ih =>
      rw [classify] at classified
      split at classified
      · obtain rfl := Except.ok.inj classified
        exact congrArg (List.cons text) (map_fst_asArguments rest)
      · obtain ⟨shape, -, classified⟩ := exists_of_bind_eq_ok classified
        obtain ⟨others, shapedRest, classified⟩ :=
          exists_of_bind_eq_ok classified
        obtain rfl := Except.ok.inj classified
        rw [List.map_cons, ih shapedRest]

/-- A command takes all that follows it, unless the tool cannot tell what one of
the arguments is. -/
theorem read_command {name : String} (plain : name.toList.head? ≠ some '-')
    (arguments : List String) :
    read mainGrammar (name :: arguments) =
      match classify mainGrammar arguments with
      | .error problem => .error (.usage problem)
      | .ok _ => .ok ⟨[], some (name :: arguments), []⟩ := by
  cases classified : classify mainGrammar arguments with
  | error problem =>
      rw [read, classify, if_neg (ne_separator_of_plain plain),
        shapeOf_of_plain plain, classified]
      rfl
  | ok items =>
      have whole : classify mainGrammar (name :: arguments) =
          .ok ((name, .argument) :: items) :=
        classify_cons (ne_separator_of_plain plain) (shapeOf_of_plain plain _)
          classified
      have took := @takePositionals_all mainGrammar {}
        ((name, .argument) :: items) rfl rfl
      rw [List.map_cons, map_fst_of_classify classified] at took
      refine read_of_consume whole ?_ rfl
      by_cases hasOption :
          (((name, Shape.argument) :: items).any fun item => item.2.isOption) =
            true
      · exact consume_all _ rfl hasOption took rfl
      · apply consume_arguments _ _ took
        simpa using hasOption

/-! ## The arguments of a command -/

section Unlisted

variable {option : OptionSpec} {name : String}

/-- An option shows in the values of no other option. -/
theorem Found.value?_preceded (unlisted : name ∉ option.names) (found : Found)
    (value : Option String) :
    (found.preceded [(option, value)]).value? name = found.value? name := by
  simp [Found.value?, Found.preceded, unlisted]

theorem Found.has_preceded (unlisted : name ∉ option.names) (found : Found)
    (value : Option String) :
    (found.preceded [(option, value)]).has name = found.has name := by
  simp [Found.has, Found.preceded, unlisted]

theorem Found.folder?_preceded (unlisted : name ∉ option.names) (found : Found)
    (value : Option String) :
    (found.preceded [(option, value)]).folder? name = found.folder? name := by
  rw [Found.folder?, Found.folder?, Found.value?_preceded unlisted,
    Found.has_preceded unlisted]

end Unlisted

theorem Found.has_verbose (found : Found) :
    (found.preceded [(verboseOption, none)]).has "--verbose" = true := by
  simp [Found.has, Found.preceded, verboseOption]

theorem generateArguments_preceded (found : Found) :
    generateArguments (found.preceded [(verboseOption, none)]) =
      generateArguments found := by
  simp (disch := decide) only [generateArguments, Found.value?_preceded,
    Found.has_preceded, Found.folder?_preceded]
  rfl

theorem cleanArguments_preceded (found : Found) :
    cleanArguments (found.preceded [(verboseOption, none)]) =
      cleanArguments found := by
  simp (disch := decide) only [cleanArguments, Found.value?_preceded,
    Found.folder?_preceded]
  rfl

theorem readCommand_generate (arguments : List String) :
    readCommand "generate" arguments =
      (readWith generateManual generateGrammar arguments).map fun found =>
        (found.has "--verbose", .generate (generateArguments found),
          found.extras) := by
  rw [readCommand, if_pos rfl]
  rfl

theorem readCommand_clean (arguments : List String) :
    readCommand "clean" arguments =
      (readWith cleanManual cleanGrammar arguments).map fun found =>
        (found.has "--verbose", .clean (cleanArguments found),
          found.extras) := by
  have other : ¬ "clean" = "generate" := by decide
  rw [readCommand, if_neg other, if_pos rfl]
  rfl

theorem readWith_verbose {grammar : Grammar}
    (spelled : grammar.spelled? "-v" = some verboseOption) (manual : Manual)
    (arguments : List String) :
    readWith manual grammar ("-v" :: arguments) =
      (readWith manual grammar arguments).map
        (Found.preceded [(verboseOption, none)]) := by
  rw [readWith, readWith, read_flag rfl (by decide) spelled rfl rfl]
  cases read grammar arguments with
  | error stop => rfl
  | ok found => rfl

/-- Right behind a command the flag asks for more detail and does nothing
else. -/
theorem readCommand_verbose {name : String}
    (takesFlag : name ∈ ["generate", "clean"]) (arguments : List String) :
    readCommand name ("-v" :: arguments) =
      (readCommand name arguments).map fun taken => (true, taken.2) := by
  rcases List.mem_pair.mp takesFlag with rfl | rfl
  · rw [readCommand_generate, readCommand_generate, readWith_verbose rfl]
    cases readWith generateManual generateGrammar arguments with
    | error answer => rfl
    | ok found =>
        simp only [Except.map, Found.has_verbose, generateArguments_preceded]
        rfl
  · rw [readCommand_clean, readCommand_clean, readWith_verbose rfl]
    cases readWith cleanManual cleanGrammar arguments with
    | error answer => rfl
    | ok found =>
        simp only [Except.map, Found.has_verbose, cleanArguments_preceded]
        rfl

/-- The flag can stand in front of the command or right behind it. -/
theorem readInvocation_verbose {name : String}
    (takesFlag : name ∈ ["generate", "clean"]) (arguments : List String) :
    readInvocation ("-v" :: name :: arguments) =
      readInvocation (name :: "-v" :: arguments) := by
  have plain : name.toList.head? ≠ some '-' := by
    rcases List.mem_pair.mp takesFlag with rfl | rfl
    · decide
    · decide
  have classified := @classify_flag mainGrammar "-v" verboseOption rfl
    (by decide) rfl arguments
  rw [readInvocation, readInvocation, readWith_verbose rfl, readWith, readWith,
    read_command plain, read_command plain, classified]
  cases classify mainGrammar arguments with
  | error problem => rfl
  | ok items =>
      -- The same command is read on both sides, but with the flag on one of them.
      change (readCommand name arguments >>= _) =
        (readCommand name ("-v" :: arguments) >>= _)
      rw [readCommand_verbose takesFlag]
      cases readCommand name arguments with
      | error answer => rfl
      | ok taken => rfl

/-! ## Executions -/

theorem verbose_of_readInvocation {arguments : List String}
    {invocation : Invocation}
    (accepted : readInvocation ("-v" :: arguments) = .ok invocation) :
    invocation.verbose = true := by
  obtain ⟨found, ahead, accepted⟩ := exists_of_bind_eq_ok accepted
  have asked : found.has "--verbose" = true := by
    rw [readWith_verbose rfl] at ahead
    cases without : readWith mainManual mainGrammar arguments with
    | error answer =>
        rw [without] at ahead
        cases ahead
    | ok others =>
        rw [without] at ahead
        obtain rfl := Except.ok.inj ahead
        exact Found.has_verbose others
  obtain ⟨taken, -, accepted⟩ := exists_of_bind_eq_ok accepted
  dsimp only at accepted
  split at accepted
  · obtain rfl := Except.ok.inj accepted
    simp [asked]
  · cases accepted

/-- Whether more detail is asked for in front of a command or right behind it
cannot be seen, also if the command line is rejected.  In both cases no record of
an accepted command is left out of the log. -/
theorem seen_execute_verbose {name : String}
    (takesFlag : name ∈ ["generate", "clean"]) (defaults : Settings)
    (runId other : String) (arguments : List String) (world : World) :
    seen (execute defaults runId (["-v", name] ++ arguments) world) =
        seen (execute defaults other ([name, "-v"] ++ arguments) world) ∧
      ∀ invocation, readInvocation (["-v", name] ++ arguments) = .ok invocation →
        (startWorld invocation.verbose runId world).threshold = .debug := by
  have sameRead : readInvocation (["-v", name] ++ arguments) =
      readInvocation ([name, "-v"] ++ arguments) :=
    readInvocation_verbose takesFlag arguments
  constructor
  · rw [seen_execute_congr defaults other runId, execute, execute, sameRead]
  · intro invocation accepted
    rw [startWorld, verbose_of_readInvocation accepted]
    rfl

/-- An option that is written short, a double dash and a module that is named
like the flag. -/
theorem seen_execute_verbose_shortened :
    "clean" ∈ ["generate", "clean"] ∧
      readInvocation (["-v", "clean"] ++ ["--out", "docs", "--", "-v"]) =
        .ok ⟨true, .clean
          { outputFolder := some (.named "docs"), moduleName := "-v" }⟩ ∧
        seen (execute {} "one" (["-v", "clean"] ++ ["--out", "docs", "--", "-v"])
            {}) =
          seen (execute {} "other"
            (["clean", "-v"] ++ ["--out", "docs", "--", "-v"]) {}) ∧
          (startWorld true "one" {}).threshold = .debug := by
  have takesFlag : "clean" ∈ ["generate", "clean"] := by decide
  have accepted :
      readInvocation (["-v", "clean"] ++ ["--out", "docs", "--", "-v"]) =
        .ok ⟨true, .clean
          { outputFolder := some (.named "docs"), moduleName := "-v" }⟩ := rfl
  obtain ⟨same, detailed⟩ := seen_execute_verbose takesFlag {} "one" "other"
    ["--out", "docs", "--", "-v"] {}
  exact ⟨takesFlag, accepted, same, detailed _ accepted⟩

end CommandLine

end SwiftInterface
