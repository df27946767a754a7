import SwiftInterface.Failure
import SwiftInterface.Log.Record

/-!
# The world of a run

A run sees a file tree, starts external programs and writes log records on
some machine.  All of these are values: the outcomes of programs are given in
advance as a script, and the calls made and the records written are collected.
A run is a function from the world before it to a result and the world after
it; a failed run keeps the changes made before the failure.
-/

namespace SwiftInterface

namespace Log

/-- One record of the log.  A failure is attached when its origin is to be
shown. -/
structure Record where
  level : Level
  source : Source
  phase : String
  moduleName : String
  message : String
  failure : Option Failure := none
deriving DecidableEq, Repr, Inhabited

end Log

namespace Tool

/-- What becomes of an attempt to run a program. -/
inductive Outcome where
  /-- The program succeeded and wrote a text. -/
  | finished (output : String)
  /-- The program ended with another status than zero. -/
  | exited (status : Int) (errorOutput : Option String)
  /-- There is no such program. -/
  | missing
  /-- The program did not end in time. -/
  | timedOut
  /-- The program may not be run. -/
  | denied
  /-- Something else went wrong with the program. -/
  | troubled (trouble : Trouble)
deriving DecidableEq, Repr, Inhabited

/-- Whether a program was started, so that a text could be handed to it. -/
def Outcome.wasStarted : Outcome → Bool
  | missing => false
  | denied => false
  | troubled trouble => trouble.afterStart
  | _ => true

/-- A call of a program. -/
structure Call where
  /-- The program and its arguments. -/
  command : List String
  /-- The folder it runs in, if one is chosen. -/
  folder : Option String
  /-- The time it may take, in seconds. -/
  timeout : Int
  /-- The text it reads, if one is given. -/
  input : Option String
deriving DecidableEq, Repr, Inhabited

end Tool

/-- What a run sees and changes. -/
structure World where
  machine : Machine := {}
  files : Files.Tree := {}
  /-- The working folder. -/
  here : Files.Location := []
  /-- Whether the removal of files is refused. -/
  refusesRemoval : Bool := false
  /-- The outcomes of the programs still to be started. -/
  script : List Tool.Outcome := []
  /-- The calls made so far, in order. -/
  calls : List Tool.Call := []
  /-- The least level of the records that are kept. -/
  threshold : Log.Level := .info
  context : Log.Context := {}
  /-- The records written so far, in order. -/
  records : List Log.Record := []
deriving Inhabited

/-- A computation that may change the world and may fail. -/
abbrev Run := EStateM Failure World

namespace World

/-- The path of the working folder. -/
def herePath (world : World) : String :=
  "/" ++ "/".intercalate world.here

/-- Write a record if its level reaches the threshold. -/
def log (world : World) (level : Log.Level) (source : Log.Source)
    (message : String) (failure : Option Failure) : World :=
  if world.threshold ≤ level then
    { world with
      records := world.records ++
        [{ level, source, phase := world.context.phase,
           moduleName := world.context.moduleName, message, failure }] }
  else world

end World

namespace Run

/-- Write a record. -/
def log (level : Log.Level) (source : Log.Source) (message : String) :
    Run Unit :=
  modify fun world => world.log level source message none

/-- Write a record at the level for details. -/
def debug (source : Log.Source) (message : String) : Run Unit :=
  log .debug source message

/-- Write a record at the usual level. -/
def info (source : Log.Source) (message : String) : Run Unit :=
  log .info source message

/-- Write a record at the level for warnings. -/
def warn (source : Log.Source) (message : String) : Run Unit :=
  log .warning source message

/-- Fail. -/
def fail {α : Type} (failure : Failure) : Run α :=
  throw failure

/-- Run within a scope of the log context, and leave it in any case. -/
def within {α : Type} (enter : Log.Context → Log.Context × Log.Scope)
    (body : Run α) : Run α := fun world =>
  let (inner, scope) := enter world.context
  let leave (after : World) : World :=
    { after with context := after.context.leave scope }
  match body { world with context := inner } with
  | .ok result after => .ok result (leave after)
  | .error failure after => .error failure (leave after)

/-- Run within a phase. -/
def inPhase {α : Type} (phase : String) (body : Run α) : Run α :=
  within (fun context => context.enterPhase phase) body

/-- Run within the work on a module. -/
def inModule {α : Type} (name : String) (body : Run α) : Run α :=
  within (fun context => context.enterModule name) body

/-- Start a program.  A program for which the script has no outcome left is
missing. -/
def start (call : Tool.Call) : Run Tool.Outcome := fun world =>
  let called := { world with calls := world.calls ++ [call] }
  match world.script with
  | [] => .ok .missing called
  | outcome :: rest => .ok outcome { called with script := rest }

end Run

end SwiftInterface
