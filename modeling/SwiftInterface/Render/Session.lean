import SwiftInterface.Render.Tree
import SwiftInterface.World

/-!
# Render sessions

A renderer with fixed options that is used more than once.  It keeps counts:
rendering a forest starts them anew, rendering a single declaration adds to
them.  Neither depends on what was rendered before.
-/

namespace SwiftInterface

namespace Render

/-- The message about a dropped declaration. -/
def Drop.message (halves : Text.Halves) : Drop → String
  | unsigned kind name =>
      "Dropping " ++ kind ++ " " ++
        (match name with
          | none => "None"
          | some name => halves.quoted name) ++
        ": no parsed declaration"
  | unbalanced signature => "Dropping unbalanced declaration: " ++ signature

/-- A renderer in use. -/
structure Session where
  options : Options
  counts : Counts := {}
deriving Inhabited

/-- Write the messages about dropped declarations. -/
def logDrops (halves : Text.Halves) : List Drop → Run Unit
  | [] => pure ()
  | drop :: rest => do
      Run.debug .renderer (drop.message halves)
      logDrops halves rest

namespace Session

/-- Render a forest with counts that start at zero. -/
def renderForest (session : Session) (forest : Forest) :
    Run (List String × Session) := do
  let rendering := Render.renderForest session.options forest
  logDrops (← get).machine.halves rendering.drops
  Run.debug .renderer ("Rendered " ++ toString rendering.output.length ++
    " top-level blocks: " ++ rendering.counts.summary)
  return (rendering.output, { session with counts := rendering.counts })

/-- Render one declaration and add to the counts. -/
def renderDeclaration (session : Session) (declaration : Declaration) :
    Run (Option String × Session) := do
  let rendering := Render.renderDeclaration session.options declaration
  logDrops (← get).machine.halves rendering.drops
  return (rendering.output,
    { session with counts := session.counts + rendering.counts })

end Session

end Render

end SwiftInterface
