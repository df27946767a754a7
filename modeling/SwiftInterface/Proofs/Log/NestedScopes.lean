import SwiftInterface.Proofs.World.LogContext

/-!
# Nested scopes

The scopes of the log context are opened and left by blocks, which stand inside
each other and one after the other.  A block is left when its body ends and also
when its body fails, and then the failure may be handled by any of the programs
around it, so a run can leave several blocks at once.

The blocks around a place can be read off the program alone.  The context of a
run is a single value that each block overwrites and puts back, and yet it shows
at every place just what the blocks around the place say: the innermost block of
each kind decides, and where there is none, the context from before the run.
-/

namespace SwiftInterface

namespace Run

variable {α : Type} {run : Run α} {handler : Failure → Run α}
  {world after : World}

theorem tryCatch_of_ok {value : α} (ran : run world = .ok value after) :
    (tryCatch run handler : Run α) world = .ok value after := by
  change EStateM.tryCatch run handler world = _
  delta EStateM.tryCatch
  dsimp only
  rw [ran]

/-- A handler goes on in the world in which the failure was raised. -/
theorem tryCatch_of_error {failure : Failure}
    (ran : run world = .error failure after) :
    (tryCatch run handler : Run α) world = handler failure after := by
  change EStateM.tryCatch run handler world = _
  delta EStateM.tryCatch
  dsimp only
  rw [ran]
  rfl

end Run

namespace Log

/-- A block that sets the phase or the module for its body. -/
inductive Block where
  | phase (name : String)
  | module (name : String)
deriving DecidableEq, Repr

/-- A message for the log, perhaps with the failure it is about. -/
structure Message where
  level : Level
  source : Source
  text : String
  failure : Option Failure := none
deriving DecidableEq, Repr

/-- A program of blocks that writes to the log.  It may fail, and a failure of
one part may be handled by another, which sees the failure and may pass it on. -/
inductive Program where
  | nothing
  | write (message : Message)
  | fail (failure : Failure)
  | sequence (first second : Program)
  | within (block : Block) (body : Program)
  | handle (body : Program) (handler : Failure → Program)

namespace Block

def phase? : Block → Option String
  | phase name => some name
  | module _ => none

def module? : Block → Option String
  | phase _ => none
  -- A module without a name is shown as unset, also inside of one with a name.
  | module name => some (if name = "" then unset else name)

def enclose : Block → Run Unit → Run Unit
  | phase name, body => Run.inPhase name body
  | module name, body => Run.inModule name body

end Block

def Program.run : Program → Run Unit
  | nothing => pure ()
  | write message =>
      modify fun world =>
        world.log message.level message.source message.text message.failure
  | fail failure => Run.fail failure
  | sequence first second => do
      first.run
      second.run
  | within block body => block.enclose body.run
  | handle body handler => tryCatch body.run fun failure => (handler failure).run

/-! ## What is read off a program -/

/-- The context inside of blocks, the innermost of which comes first. -/
def Context.inside (outer : Context) (blocks : List Block) : Context where
  runId := outer.runId
  phase := (blocks.findSome? Block.phase?).getD outer.phase
  moduleName := (blocks.findSome? Block.module?).getD outer.moduleName

/-- The messages that a program writes, each with the blocks around it, and the
failure with which it ends, if it fails. -/
structure Trace where
  messages : List (Message × List Block) := []
  failure : Option Failure := none

/-- One trace after the other, which is not reached after a failure. -/
def Trace.andThen (first second : Trace) : Trace :=
  match first.failure with
  | none => ⟨first.messages ++ second.messages, second.failure⟩
  | some _ => first

/-- A trace and, after a failure, that of the handler. -/
def Trace.orElse (first : Trace) (handler : Failure → Trace) : Trace :=
  match first.failure with
  | none => first
  | some failure =>
      ⟨first.messages ++ (handler failure).messages, (handler failure).failure⟩

/-- The trace of a program inside of blocks. -/
def Program.trace : Program → List Block → Trace
  | nothing, _ => {}
  | write message, blocks => { messages := [(message, blocks)] }
  | fail failure, _ => { failure := some failure }
  | sequence first second, blocks =>
      (first.trace blocks).andThen (second.trace blocks)
  -- The blocks are handed down to the body and nothing is ever put back.
  | within block body, blocks => body.trace (block :: blocks)
  | handle body handler, blocks =>
      (body.trace blocks).orElse fun failure => (handler failure).trace blocks

def Message.recordIn (message : Message) (context : Context) : Record where
  level := message.level
  source := message.source
  phase := context.phase
  moduleName := context.moduleName
  message := message.text
  failure := message.failure

/-- The records of messages that reach the threshold, with what the blocks around
them say. -/
def recordsOf (threshold : Level) (outer : Context)
    (messages : List (Message × List Block)) : List Record :=
  (messages.filter fun entry => threshold ≤ entry.1.level).map fun entry =>
    entry.1.recordIn (outer.inside entry.2)

theorem recordsOf_append (threshold : Level) (outer : Context)
    (first second : List (Message × List Block)) :
    recordsOf threshold outer (first ++ second) =
      recordsOf threshold outer first ++ recordsOf threshold outer second := by
  simp [recordsOf]

/-! ## What a run does -/

/-- The world after the messages were written. -/
def written (outer : Context) (messages : List (Message × List Block))
    (world : World) : World :=
  { world with
    records := world.records ++ recordsOf world.threshold outer messages }

/-- How a run ends that follows a trace. -/
def Trace.result (trace : Trace) (outer : Context) (world : World) :
    EStateM.Result Failure World Unit :=
  match trace.failure with
  | none => .ok () (written outer trace.messages world)
  | some failure => .error failure (written outer trace.messages world)

section Written

variable (outer : Context) (world : World)

@[simp]
theorem written_nil : written outer [] world = world := by
  simp [written, recordsOf]

@[simp]
theorem context_written (messages : List (Message × List Block)) :
    (written outer messages world).context = world.context :=
  rfl

theorem written_append (first second : List (Message × List Block)) :
    written outer second (written outer first world) =
      written outer (first ++ second) world := by
  simp [written, recordsOf_append]

end Written

namespace Trace

variable {first second : Trace} {handler : Failure → Trace} {outer : Context}
  {world : World} {failure : Failure}

theorem result_of_none (ending : first.failure = none) :
    first.result outer world = .ok () (written outer first.messages world) := by
  rw [result, ending]

theorem result_of_some (ending : first.failure = some failure) :
    first.result outer world =
      .error failure (written outer first.messages world) := by
  rw [result, ending]

theorem result_andThen_of_none (ending : first.failure = none) :
    (first.andThen second).result outer world =
      second.result outer (written outer first.messages world) := by
  simp only [andThen, ending, result, written_append]

theorem result_andThen_of_some (ending : first.failure = some failure) :
    (first.andThen second).result outer world = first.result outer world := by
  simp only [andThen, ending]

theorem result_orElse_of_none (ending : first.failure = none) :
    (first.orElse handler).result outer world = first.result outer world := by
  simp only [orElse, ending]

theorem result_orElse_of_some (ending : first.failure = some failure) :
    (first.orElse handler).result outer world =
      (handler failure).result outer (written outer first.messages world) := by
  simp only [orElse, ending, result, written_append]

end Trace

namespace Block

def enter : Block → Context → Context × Scope
  | phase name, context => context.enterPhase name
  | module name, context => context.enterModule name

theorem enclose_eq (block : Block) (body : Run Unit) :
    block.enclose body = Run.within block.enter body := by
  cases block with
  | phase name => rfl
  | module name => rfl

theorem restores_enter (block : Block) : Run.Restores block.enter := by
  cases block with
  | phase name => exact Run.restores_enterPhase name
  | module name => exact Run.restores_enterModule name

/-- A block becomes the innermost one when it is entered. -/
theorem enter_inside (block : Block) (outer : Context) (blocks : List Block) :
    (block.enter (outer.inside blocks)).1 = outer.inside (block :: blocks) := by
  cases block with
  | phase name => rfl
  | module name => rfl

/-- The world in which the body of a block starts. -/
def entered (block : Block) (world : World) : World :=
  { world with context := (block.enter world.context).1 }

/-- Leaving a block brings the context back, however its body ends. -/
theorem leave_written (block : Block) (outer : Context)
    (messages : List (Message × List Block)) (world : World) :
    { written outer messages (block.entered world) with
      context := (written outer messages (block.entered world)).context.leave
        (block.enter world.context).2 } = written outer messages world := by
  rw [context_written, entered, restores_enter block world.context]
  rfl

/-- What a body does, a block around it does, too, from the world outside. -/
theorem enclose_of_result {block : Block} {body : Run Unit} {trace : Trace}
    {outer : Context} {world : World}
    (ran : body (block.entered world) = trace.result outer (block.entered world)) :
    block.enclose body world = trace.result outer world := by
  rw [enclose_eq]
  cases ending : trace.failure with
  | none =>
      rw [Trace.result_of_none ending] at ran ⊢
      rw [Run.within_of_ok ran, leave_written]
  | some failure =>
      rw [Trace.result_of_some ending] at ran ⊢
      rw [Run.within_of_error ran, leave_written]

end Block

namespace Program

theorem run_write {message : Message} {outer : Context} {blocks : List Block}
    {world : World} (inside : world.context = outer.inside blocks) :
    (write message).run world =
      .ok () (written outer [(message, blocks)] world) := by
  change EStateM.Result.ok () (world.log message.level message.source message.text
    message.failure) = _
  rw [World.log, written, recordsOf]
  by_cases listens : world.threshold ≤ message.level
  · simp [listens, Message.recordIn, inside]
  · simp [listens]

/-- A run does what its trace says.  The induction is over the program, for all
blocks around it; the context of the world is what these blocks say. -/
theorem run_inside (program : Program) (outer : Context) (blocks : List Block)
    (world : World) (inside : world.context = outer.inside blocks) :
    program.run world = (program.trace blocks).result outer world := by
  induction program generalizing blocks world with
  | nothing =>
      rw [trace, Trace.result, written_nil]
      rfl
  | write message => exact run_write inside
  | fail failure =>
      rw [trace, Trace.result, written_nil]
      rfl
  | sequence first second firstRuns secondRuns =>
      have ran := firstRuns blocks world inside
      have ranOn := secondRuns blocks
        (written outer (first.trace blocks).messages world) inside
      rw [run, trace]
      cases ending : (first.trace blocks).failure with
      | none =>
          rw [Trace.result_of_none ending] at ran
          rw [Run.bind_ok ran, ranOn, Trace.result_andThen_of_none ending]
      | some failure =>
          rw [Trace.result_of_some ending] at ran
          rw [Run.bind_eq_error.mpr (.inl ran),
            Trace.result_andThen_of_some ending, Trace.result_of_some ending]
  | within block body bodyRuns =>
      apply Block.enclose_of_result
      -- The body starts in the context that one more block around it asks for.
      apply bodyRuns
      rw [← block.enter_inside, ← inside]
      rfl
  | handle body handler bodyRuns handlerRuns =>
      have ran := bodyRuns blocks world inside
      rw [run, trace]
      cases ending : (body.trace blocks).failure with
      | none =>
          rw [Trace.result_of_none ending] at ran
          rw [Run.tryCatch_of_ok ran, Trace.result_orElse_of_none ending,
            Trace.result_of_none ending]
      | some failure =>
          rw [Trace.result_of_some ending] at ran
          rw [Run.tryCatch_of_error ran, Trace.result_orElse_of_some ending]
          -- All blocks of the body were left before the handler starts.
          exact handlerRuns failure blocks _ inside

/-! ## Leaving blocks -/

/-- During a run of a program from a world, a block is entered in one world and
left in another. -/
inductive Passes : Program → World → World → World → Prop
  | block (block : Block) (body : Program) (world : World) :
      Passes (.within block body) world world
        ((Program.within block body).run.after world)
  | inside {block : Block} {body : Program} {world entry exit : World}
      (passes : Passes body (block.entered world) entry exit) :
      Passes (.within block body) world entry exit
  | first {first second : Program} {world entry exit : World}
      (passes : Passes first world entry exit) :
      Passes (.sequence first second) world entry exit
  | second {first second : Program} {world middle entry exit : World}
      (ran : first.run world = .ok () middle)
      (passes : Passes second middle entry exit) :
      Passes (.sequence first second) world entry exit
  | body {body : Program} {handler : Failure → Program}
      {world entry exit : World} (passes : Passes body world entry exit) :
      Passes (.handle body handler) world entry exit
  | handler {body : Program} {handler : Failure → Program} {failure : Failure}
      {world middle entry exit : World}
      (failed : body.run world = .error failure middle)
      (passes : Passes (handler failure) middle entry exit) :
      Passes (.handle body handler) world entry exit

theorem context_after_run (program : Program) (world : World) :
    (program.run.after world).context = world.context := by
  have ran := program.run_inside world.context [] world rfl
  cases ending : (program.trace []).failure with
  | none =>
      rw [Trace.result_of_none ending] at ran
      rw [Run.after_of_ok ran, context_written]
  | some failure =>
      rw [Trace.result_of_some ending] at ran
      rw [Run.after_of_error ran, context_written]

theorem Passes.context_eq {program : Program} {world entry exit : World}
    (passes : Passes program world entry exit) : exit.context = entry.context := by
  induction passes with
  -- The block itself is a program, and a program leaves the context as it was.
  | block block body world => exact context_after_run (.within block body) world
  | inside passes ih => exact ih
  | first passes ih => exact ih
  | second ran passes ih => exact ih
  | body passes ih => exact ih
  | handler failed passes ih => exact ih

/-- A run writes the records of its trace, each with the phase and the module of
the innermost blocks around it or, where there are none, those from before the
run.  It ends as its trace does, and every block that is left on the way has put
the context back. -/
theorem scopes_nest (program : Program) (world : World) :
    program.run world = (program.trace []).result world.context world ∧
      ∀ entry exit, Passes program world entry exit →
        exit.context.phase = entry.context.phase ∧
          exit.context.moduleName = entry.context.moduleName := by
  refine ⟨program.run_inside world.context [] world rfl, ?_⟩
  intro entry exit passes
  rw [passes.context_eq]
  exact ⟨rfl, rfl⟩

def note (text : String) : Program :=
  write { level := .info, source := .generator, text }

/-- The work on a module without a name, which fails in a phase of its own. -/
def interrupted : Program :=
  within (.module "") (within (.phase "render")
    (sequence (note "before") (fail (.producer (.dumpMissing "docs.json")))))

/-- A phase in which the failure is handled outside of both inner blocks. -/
def recovering : Program :=
  within (.phase "produce")
    (sequence (handle interrupted fun _ => note "handled") (note "after"))

/-- A world in which a module is worked on. -/
def busyWorld : World where
  context.moduleName := "Main"

/-- The failure leaves two blocks at once. -/
theorem scopes_nest_recovering :
    let entry := (Block.phase "produce").entered busyWorld
    let exit := interrupted.run.after entry
    Passes recovering busyWorld entry exit ∧
      exit.context.phase = "produce" ∧ exit.context.moduleName = "Main" ∧
        (recovering.run.after busyWorld).records.map (fun record =>
            (record.phase, record.moduleName, record.message)) =
          [ ("render", "-", "before"), ("produce", "Main", "handled"),
            ("produce", "Main", "after") ] := by
  intro entry exit
  have passes : Passes recovering busyWorld entry exit :=
    .inside (.first (.body (.block (.module "") _ entry)))
  obtain ⟨ran, left⟩ := scopes_nest recovering busyWorld
  obtain ⟨samePhase, sameModule⟩ := left entry exit passes
  refine ⟨passes, samePhase, sameModule, ?_⟩
  rw [Run.after, ran]
  rfl

end Program

end Log

end SwiftInterface
