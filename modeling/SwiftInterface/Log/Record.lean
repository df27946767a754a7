/-!
# Log records

A record carries a message with its level, the part of the program it comes
from and the phase and module that were current when it was written.
-/

namespace SwiftInterface

namespace Log

/-- How serious a record is. -/
inductive Level where
  | debug
  | info
  | warning
  | error
  | critical
deriving DecidableEq, Repr, Inhabited

namespace Level

/-- The place of a level in the order of seriousness. -/
def rank : Level → Nat
  | debug => 10
  | info => 20
  | warning => 30
  | error => 40
  | critical => 50

/-- The name of a level. -/
def name : Level → String
  | debug => "DEBUG"
  | info => "INFO"
  | warning => "WARNING"
  | error => "ERROR"
  | critical => "CRITICAL"

instance : LE Level where
  le first second := first.rank ≤ second.rank

instance (first second : Level) : Decidable (first ≤ second) :=
  inferInstanceAs (Decidable (first.rank ≤ second.rank))

end Level

/-- The mark of a context value that is not set. -/
def unset : String :=
  "-"

/-- The values that tell what a record belongs to. -/
structure Context where
  runId : String := unset
  phase : String := unset
  moduleName : String := unset
deriving DecidableEq, Repr, Inhabited

/-- A part of the context that was replaced, with the value it had before. -/
inductive Scope where
  | phase (outer : String)
  | module (outer : String)
deriving DecidableEq, Repr, Inhabited

namespace Context

/-- Enter a phase. -/
def enterPhase (context : Context) (phase : String) : Context × Scope :=
  ({ context with phase }, .phase context.phase)

/-- Enter the work on a module; a module without a name leaves the value
unset. -/
def enterModule (context : Context) (name : String) : Context × Scope :=
  ({ context with moduleName := if name = "" then unset else name },
    .module context.moduleName)

/-- Leave a scope: the value that its entry replaced comes back. -/
def leave (context : Context) : Scope → Context
  | .phase outer => { context with phase := outer }
  | .module outer => { context with moduleName := outer }

/-- The context of a run; `fresh` is used when no identifier is given. -/
def startRun (context : Context) (given : Option String) (fresh : String) :
    Context :=
  match given with
  | none => { context with runId := fresh }
  | some runId => { context with runId := if runId = "" then fresh else runId }

end Context

/-- The part of the program a record comes from. -/
inductive Source where
  | access
  | assembler
  | formatter
  | generator
  | producer
  | renderer
  | settings
  | commandLine
deriving DecidableEq, Repr, Inhabited

/-- The name of a part of the program in log lines. -/
def Source.name : Source → String
  | access => "interface.access"
  | assembler => "interface.assembler"
  | formatter => "interface.formatter"
  | generator => "interface.generator"
  | producer => "interface.producer"
  | renderer => "interface.renderer"
  | settings => "core.settings"
  | commandLine => "run_interface"

end Log

end SwiftInterface
