import SwiftInterface.Log.Record

/-!
# Log handlers

Records are written by handlers.  A plain handler writes the message alone; a
structured one writes a line with the time, the level, the context and the
source.  Configuring the log makes all handlers structured, and creates one
if there is none.
-/

namespace SwiftInterface

namespace Log

/-- A handler of the log. -/
structure Handler where
  /-- Whether it writes structured lines. -/
  structured : Bool := false
  /-- How many filters add the context to its records. -/
  filters : Nat := 0
deriving DecidableEq, Repr, Inhabited

/-- The log as a whole. -/
structure Setup where
  level : Level := .warning
  handlers : List Handler := []
  context : Context := {}
deriving DecidableEq, Repr, Inhabited

namespace Handler

/-- The handler with structured lines and a filter that adds the context. -/
def configure (handler : Handler) : Handler where
  structured := true
  filters := max 1 handler.filters

/-- The name of a source in structured lines; the source without a name is
the root of all others. -/
def sourceName (source : String) : String :=
  if source = "" then "root" else source

/-- What a handler writes for a record at the given time. -/
def line (handler : Handler) (time : String) (level : Level)
    (context : Context) (source message : String) : String :=
  if handler.structured then
    " | ".intercalate
      [ time, level.name, "run_id=" ++ context.runId,
        "phase=" ++ context.phase, "module=" ++ context.moduleName,
        sourceName source, message ] ++ "\n"
  else message ++ "\n"

end Handler

namespace Setup

/-- Configure the log for a level. -/
def configure (setup : Setup) (level : Level) : Setup :=
  let handlers :=
    if setup.handlers.isEmpty then [{}] else setup.handlers
  { setup with level, handlers := handlers.map Handler.configure }

/-- Add a plain handler. -/
def addHandler (setup : Setup) : Setup :=
  { setup with handlers := setup.handlers ++ [{}] }

/-- What each handler writes for a record; nothing if its level is too
low. -/
def write (setup : Setup) (time : String) (level : Level)
    (source message : String) : List String :=
  setup.handlers.map fun handler =>
    if setup.level ≤ level then
      handler.line time level setup.context source message
    else ""

end Setup

end Log

end SwiftInterface
