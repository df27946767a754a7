import SwiftInterface.Declaration
import SwiftInterface.Render.Balance
import SwiftInterface.Render.Documentation

/-!
# Rendering declaration trees

A forest of declarations is filtered by access level and printed as text
blocks, one for each surviving top-level declaration.  Members of a container
form an indented body between braces.  A source file is transparent: it
prints its members.  An enum case group prints one line for each named
element, whatever its access level.

Rendering is a pure function; beside its output it yields the number of
declarations that were printed or dropped and the declarations whose loss is
worth a message.
-/

namespace SwiftInterface

namespace Render

/-- What to keep and how to indent. -/
structure Options where
  /-- Declarations strictly below this level are dropped with all they hold. -/
  minimumLevel : AccessLevel
  /-- Whether a signature with unbalanced brackets drops its declaration. -/
  skipUnbalanced : Bool := false
  /-- The mark in front of each line of a body. -/
  indentMark : String := " "
deriving DecidableEq, Repr, Inhabited

/-- How many declarations were printed, and how many were dropped for each
reason. -/
structure Counts where
  rendered : Nat := 0
  droppedAccess : Nat := 0
  droppedSignature : Nat := 0
  droppedUnbalanced : Nat := 0
deriving DecidableEq, Repr, Inhabited

namespace Counts

/-- Add two counts component by component. -/
protected def add (first second : Counts) : Counts where
  rendered := first.rendered + second.rendered
  droppedAccess := first.droppedAccess + second.droppedAccess
  droppedSignature := first.droppedSignature + second.droppedSignature
  droppedUnbalanced := first.droppedUnbalanced + second.droppedUnbalanced

instance : Add Counts where
  add := Counts.add

/-- The counts in one line. -/
def summary (counts : Counts) : String :=
  "RenderStats(rendered=" ++ toString counts.rendered ++
    ", dropped_access=" ++ toString counts.droppedAccess ++
    ", dropped_signature=" ++ toString counts.droppedSignature ++
    ", dropped_unbalanced=" ++ toString counts.droppedUnbalanced ++ ")"

end Counts

/-- A dropped declaration that is worth a message. -/
inductive Drop where
  /-- The declaration has no signature. -/
  | unsigned (kind : String) (name : Option String)
  /-- The brackets of the signature are unbalanced. -/
  | unbalanced (signature : String)
deriving DecidableEq, Repr, Inhabited

/-- An output with the counts and drops that led to it. -/
structure Rendering (α : Type) where
  output : α
  counts : Counts := {}
  drops : List Drop := []
deriving Inhabited

/-- What becomes of a declaration that has a kind and is no enum case group. -/
inductive Verdict where
  | belowLevel
  | unsigned
  | unbalanced (signature : String)
  | emitted (signature : String)
deriving DecidableEq, Repr, Inhabited

/-- The tests on a declaration in their order: level, signature, balance. -/
def verdict (options : Options) (accessibility signature : Option String) :
    Verdict :=
  if AccessLevel.parse accessibility < options.minimumLevel then .belowLevel
  else
    match signature with
    | none => .unsigned
    | some signature =>
        if options.skipUnbalanced && !isBalanced signature then
          .unbalanced signature
        else .emitted signature

/-- The comment lines of a declaration. -/
def commentsOf : Option String → String
  | none => ""
  | some documentation => formatDocumentation documentation

/-- The line of one enum element, unless it has no name. -/
def elementLine? (element : Declaration) : Option String :=
  match element.name with
  | none => none
  | some name => if name = "" then none else some ("case " ++ name)

/-- The lines of an enum case group. -/
def elementLines (elements : List Declaration) : String :=
  Text.joinRows (elements.filterMap elementLine?)

/-- The braces of a container around its indented members. -/
def container (mark comments signature : String) (blocks : List String) :
    String :=
  comments ++ signature ++ " \x7b\n\n" ++
    Text.indent mark (Text.joinRows blocks) ++ "\n\x7d\n"

/-- A declaration without a body. -/
def leaf (comments signature : String) : String :=
  comments ++ signature ++ "\n"

mutual

/-- Render one declaration; the output is absent when it is dropped. -/
def renderDeclaration (options : Options) :
    Declaration → Rendering (Option String)
  | ⟨none, _, _, _, _, children⟩ =>
      let body := renderForest options children
      { body with output := some (Text.joinRows body.output) }
  | ⟨some kind, name, accessibility, documentation, signature, children⟩ =>
      if Declaration.isEnumCaseKind (some kind) then
        { output := some (elementLines children) }
      else
        match verdict options accessibility signature with
        | .belowLevel =>
            { output := none, counts := { droppedAccess := 1 } }
        | .unsigned =>
            { output := none, counts := { droppedSignature := 1 },
              drops := [.unsigned kind name] }
        | .unbalanced signature =>
            { output := none, counts := { droppedUnbalanced := 1 },
              drops := [.unbalanced signature] }
        | .emitted signature =>
            if !children.isEmpty && Declaration.isContainerKind (some kind) then
              let body := renderForest options children
              { output := some (container options.indentMark
                  (commentsOf documentation) signature body.output),
                counts := body.counts + { rendered := 1 },
                drops := body.drops }
            else
              { output := some (leaf (commentsOf documentation) signature),
                counts := { rendered := 1 } }
termination_by structural declaration => declaration

/-- Render sibling declarations and keep the blocks of those that survive. -/
def renderForest (options : Options) : Forest → Rendering (List String)
  | [] => { output := [] }
  | declaration :: rest =>
      let first := renderDeclaration options declaration
      let others := renderForest options rest
      { output := first.output.toList ++ others.output,
        counts := first.counts + others.counts,
        drops := first.drops ++ others.drops }
termination_by structural forest => forest

end

/-- The blocks of a forest. -/
def blocks (options : Options) (forest : Forest) : List String :=
  (renderForest options forest).output

end Render

end SwiftInterface
