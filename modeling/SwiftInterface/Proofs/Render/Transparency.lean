import SwiftInterface.Interface
import SwiftInterface.Proofs.Render.HiddenContent
import SwiftInterface.Proofs.Render.History

/-!
# Transparent source files

A source file prints its members and nothing else, so it can be replaced by
them: the interface text and the counts stay the same, whether the file stands
at the top or among the members of another file or of a container, at any depth
below any declarations.  At the top the number of blocks changes, but not the
text that they are joined to.

This needs a member that prints a block.  A file without one still prints a
block itself, an empty one, so there its replacement would show.
-/

namespace SwiftInterface

namespace Declaration

/-- A source file or a container: a declaration whose members are printed, if
it is printed itself. -/
def PrintsMembers (declaration : Declaration) : Prop :=
  declaration.kind = none ∨ declaration.isContainer = true

theorem PrintsMembers.not_group {declaration : Declaration}
    (prints : declaration.PrintsMembers) :
    declaration.isEnumCaseGroup = false := by
  cases group : declaration.isEnumCaseGroup with
  | false => rfl
  | true =>
      have kindEq : declaration.kind = some enumCaseKind := by
        simpa [isEnumCaseGroup, isEnumCaseKind] using group
      have notContainer : isContainerKind (some enumCaseKind) = false := by
        decide +kernel
      rcases prints with kindless | isContainer
      · simp [kindEq] at kindless
      · simp [kindEq, notContainer, Declaration.isContainer] at isContainer

end Declaration

namespace Render

/-! ## Places in a forest -/

/-- One level around nested siblings: the declaration whose members they are,
and what stands before and after it.  The members that the declaration itself
has are not looked at. -/
structure Surrounding where
  before : Forest
  parent : Declaration
  after : Forest

/-- The forest in which siblings stand at a place; the outermost level comes
first. -/
def enclose : List Surrounding → Forest → Forest
  | [], siblings => siblings
  | outer :: inner, siblings =>
      outer.before ++
        { outer.parent with children := enclose inner siblings } :: outer.after

theorem isEmpty_enclose_cons (outer : Surrounding) (inner : List Surrounding)
    (siblings : Forest) :
    (enclose (outer :: inner) siblings).isEmpty = false := by
  simp [enclose]

/-- What stands at a place does not show in the names around it. -/
theorem elementNames_enclose_cons (outer : Surrounding)
    (inner : List Surrounding) (first second : Forest) :
    elementNames (enclose (outer :: inner) first) =
      elementNames (enclose (outer :: inner) second) := by
  simp [elementNames, enclose, List.filterMap_cons]

/-! ## Siblings that read the same -/

/-- Two lists of siblings that are printed as the same text with the same
counts, and of which one is empty only if both are. -/
structure SameText (options : Options) (first second : Forest) : Prop where
  body : SameBody (renderForest options first) (renderForest options second)
  isEmpty : first.isEmpty = second.isEmpty

/-- A declaration shows the same with members that read the same.  An enum case
group looks at the names of its members instead. -/
theorem SameText.renderDeclaration {options : Options} {first second : Forest}
    (same : SameText options first second) {parent : Declaration}
    (names : parent.isEnumCaseGroup = true →
      elementNames first = elementNames second) :
    SameShown (renderDeclaration options { parent with children := first })
      (renderDeclaration options { parent with children := second }) := by
  by_cases kindless : parent.kind = none
  · have bothKindless (members : Forest) :
        ({ parent with children := members } : Declaration).kind = none :=
      kindless
    rw [renderDeclaration_of_kindless options (bothKindless first),
      renderDeclaration_of_kindless options (bothKindless second)]
    exact ⟨congrArg some same.body.text, same.body.counts⟩
  cases group : parent.isEnumCaseGroup with
  | true =>
      have bothGroups (members : Forest) :
          ({ parent with children := members } : Declaration).isEnumCaseGroup =
            true := group
      rw [renderDeclaration_of_group options (bothGroups first),
        renderDeclaration_of_group options (bothGroups second),
        elementLines_eq_names, elementLines_eq_names, names group]
      exact ⟨rfl, rfl⟩
  | false =>
      exact renderDeclaration_sameShown ⟨kindless, group⟩ rfl rfl rfl rfl
        fun _ => ⟨same.isEmpty, same.body⟩

theorem renderForest_sameShown_of_one {options : Options}
    {first second : Declaration}
    (shown : SameShown (renderDeclaration options first)
      (renderDeclaration options second)) (before after : Forest) :
    SameShown (renderForest options (before ++ first :: after))
      (renderForest options (before ++ second :: after)) := by
  obtain ⟨firstOutput, firstCounts⟩ :=
    renderForest_append options before (first :: after)
  obtain ⟨secondOutput, secondCounts⟩ :=
    renderForest_append options before (second :: after)
  constructor
  · rw [firstOutput, secondOutput, renderForest_cons, renderForest_cons]
    simp only [shown.output]
  · rw [firstCounts, secondCounts, renderForest_cons, renderForest_cons]
    simp only [shown.counts]

/-- Siblings that read the same can stand for each other at every place among
members that are printed. -/
theorem SameText.enclose {options : Options} {first second : Forest}
    (same : SameText options first second) (surroundings : List Surrounding)
    (printed : ∀ innermost ∈ surroundings.getLast?,
      innermost.parent.PrintsMembers) :
    SameText options (enclose surroundings first)
      (enclose surroundings second) := by
  induction surroundings with
  | nil => exact same
  | cons outer inner ih =>
      -- The siblings differ in their names, so an enum case group must not be
      -- their parent; further out only the members of one declaration differ.
      have shown : SameShown
          (Render.renderDeclaration options
            { outer.parent with children := Render.enclose inner first })
          (Render.renderDeclaration options
            { outer.parent with children := Render.enclose inner second }) := by
        cases inner with
        | nil =>
            have notGroup := (printed outer (by simp)).not_group
            exact same.renderDeclaration fun group => by
              rw [notGroup] at group
              cases group
        | cons next rest =>
            have within := ih fun innermost last =>
              printed innermost (by simpa using last)
            exact within.renderDeclaration
              fun _ => elementNames_enclose_cons next rest first second
      have whole := renderForest_sameShown_of_one shown outer.before outer.after
      exact ⟨whole.sameBody,
        by rw [isEmpty_enclose_cons, isEmpty_enclose_cons]⟩

/-! ## Replacing a source file -/

/-- The declaration prints a block, be it an empty one. -/
def PrintsBlock (options : Options) (declaration : Declaration) : Prop :=
  (renderDeclaration options declaration).output ≠ none

instance (options : Options) : DecidablePred (PrintsBlock options) :=
  fun _ => inferInstanceAs (Decidable (_ ≠ none))

theorem renderForest_output (options : Options) (forest : Forest) :
    (renderForest options forest).output =
      forest.filterMap fun declaration =>
        (renderDeclaration options declaration).output := by
  induction forest with
  | nil => simp
  | cons declaration forest ih =>
      rw [renderForest_cons]
      cases output : (renderDeclaration options declaration).output with
      | none => simp [output, ih]
      | some block => simp [output, ih]

theorem output_eq_nil_iff {options : Options} {forest : Forest} :
    (renderForest options forest).output = [] ↔
      ∀ declaration ∈ forest, ¬ PrintsBlock options declaration := by
  simp [renderForest_output, PrintsBlock]

/-- A source file among its siblings prints one block and counts what its
members count. -/
theorem renderForest_around_kindless {file : Declaration} (options : Options)
    (kindless : file.kind = none) (before after : Forest) :
    (renderForest options (before ++ [file] ++ after)).output =
        (renderForest options before).output ++
          [Text.joinRows (renderForest options file.children).output] ++
            (renderForest options after).output ∧
      (renderForest options (before ++ [file] ++ after)).counts =
        (renderForest options before).counts +
          (renderForest options file.children).counts +
            (renderForest options after).counts := by
  obtain ⟨wholeOutput, wholeCounts⟩ :=
    renderForest_append options (before ++ [file]) after
  obtain ⟨frontOutput, frontCounts⟩ := renderForest_append options before [file]
  rw [wholeOutput, wholeCounts, frontOutput, frontCounts, renderForest_cons,
    renderDeclaration_of_kindless options kindless, renderForest_nil]
  refine ⟨by simp, ?_⟩
  have nothing : (renderForest options file.children).counts + ({} : Counts) =
      (renderForest options file.children).counts := add_zero _
  simp only [nothing]

theorem sameText_of_printsBlock {options : Options} {file : Declaration}
    (kindless : file.kind = none)
    (prints : ∃ member ∈ file.children, PrintsBlock options member)
    (before after : Forest) :
    SameText options (before ++ [file] ++ after)
      (before ++ file.children ++ after) := by
  obtain ⟨member, memberMem, printsBlock⟩ := prints
  have nonempty : (renderForest options file.children).output ≠ [] :=
    fun empty => output_eq_nil_iff.mp empty member memberMem printsBlock
  obtain ⟨fileOutput, fileCounts⟩ :=
    renderForest_around_kindless options kindless before after
  obtain ⟨wholeOutput, wholeCounts⟩ :=
    renderForest_append options (before ++ file.children) after
  obtain ⟨frontOutput, frontCounts⟩ :=
    renderForest_append options before file.children
  refine ⟨⟨?_, ?_⟩, ?_⟩
  · rw [fileOutput, wholeOutput, frontOutput, Text.joinRows_joinRows nonempty]
  · rw [fileCounts, wholeCounts, frontCounts]
  · have hasMembers : file.children ≠ [] := List.ne_nil_of_mem memberMem
    have around : before ++ [file] ++ after ≠ [] := by simp
    have replaced : before ++ file.children ++ after ≠ [] := by simp [hasMembers]
    rw [List.isEmpty_eq_false_iff.mpr around,
      List.isEmpty_eq_false_iff.mpr replaced]

/-- Two forests with the same interface: the same text under every header, and
the same counts. -/
structure SameInterface (options : Options) (first second : Forest) : Prop where
  text : Text.joinRows (blocks options first) =
    Text.joinRows (blocks options second)
  assembled : ∀ moduleName,
    Interface.assemble (blocks options first) moduleName =
      Interface.assemble (blocks options second) moduleName
  counts : (renderForest options first).counts =
    (renderForest options second).counts

/-- A source file with a member that prints a block can be replaced by its
members wherever it stands.  Without such a member it prints one empty block. -/
theorem sourceFile_transparent (options : Options)
    (surroundings : List Surrounding) (before after : Forest)
    {file : Declaration} (kindless : file.kind = none)
    (printed : ∀ innermost ∈ surroundings.getLast?,
      innermost.parent.PrintsMembers) :
    ((∃ member ∈ file.children, PrintsBlock options member) →
      SameInterface options
        (enclose surroundings (before ++ [file] ++ after))
        (enclose surroundings (before ++ file.children ++ after))) ∧
    ((∀ member ∈ file.children, ¬ PrintsBlock options member) →
      blocks options (before ++ [file] ++ after) =
        blocks options before ++ [""] ++ blocks options after) := by
  constructor
  · intro prints
    have same := (sameText_of_printsBlock kindless prints before after).enclose
      surroundings printed
    have text := same.body.text
    refine ⟨text, fun moduleName => ?_, same.body.counts⟩
    rw [Interface.assemble, Interface.assemble, blocks, text, blocks]
  · intro silent
    have empty := output_eq_nil_iff.mpr silent
    rw [blocks, (renderForest_around_kindless options kindless before after).1,
      empty, Text.joinRows_nil]
    rfl

/-- A method with the given level. -/
def method (level : String) : Declaration :=
  ⟨some "source.lang.swift.decl.function.method.instance", some "close()",
    some level, none, some (level ++ " func close()"), []⟩

/-- A source file with the given members. -/
def fileOf (members : Forest) : Declaration :=
  ⟨none, some "Vault.swift", none, none, none, members⟩

/-- The members of a public class in a source file. -/
def insideClass : List Surrounding :=
  [ ⟨[method "public"], fileOf [], []⟩,
    ⟨[], ⟨some "source.lang.swift.decl.class", some "Vault", some "public", none,
      some "public class Vault", []⟩, [method "private"]⟩ ]

/-- A file in a class in a file can be replaced if one of its methods is public,
and prints an empty block if none is. -/
theorem sourceFile_transparent_insideClass :
    PrintsBlock ⟨.publicAccess, false, " "⟩ (method "public") ∧
      ¬ PrintsBlock ⟨.publicAccess, false, " "⟩ (method "private") ∧
      SameInterface ⟨.publicAccess, false, " "⟩
        (enclose insideClass ([method "public"] ++
          [fileOf [method "private", method "public"]] ++ []))
        (enclose insideClass ([method "public"] ++
          [method "private", method "public"] ++ [])) ∧
      blocks ⟨.publicAccess, false, " "⟩
          ([method "public"] ++ [fileOf [method "private"]] ++ []) =
        blocks ⟨.publicAccess, false, " "⟩ [method "public"] ++ [""] ++
          blocks ⟨.publicAccess, false, " "⟩ [] := by
  have shown : PrintsBlock ⟨.publicAccess, false, " "⟩ (method "public") := by
    decide +kernel
  have hidden : ¬ PrintsBlock ⟨.publicAccess, false, " "⟩ (method "private") := by
    decide +kernel
  have inClass : ∀ innermost ∈ insideClass.getLast?,
      innermost.parent.PrintsMembers := by
    rintro innermost ⟨⟩
    exact .inr (by decide +kernel)
  refine ⟨shown, hidden, ?_, ?_⟩
  · exact (sourceFile_transparent _ insideClass [method "public"] [] rfl
      inClass).1 ⟨method "public", by simp [fileOf], shown⟩
  · exact (sourceFile_transparent _ insideClass [method "public"] [] rfl
      inClass).2 (by simpa [fileOf] using hidden)

end Render

end SwiftInterface
