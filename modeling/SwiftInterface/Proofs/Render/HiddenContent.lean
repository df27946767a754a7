import Mathlib.Data.List.Forall2
import SwiftInterface.Proofs.Render.Session

/-!
# Hidden content does not show

An interface may be handed to readers who are not to see private declarations.
Two forests are *alike* when they differ only in content that the options
hide: anything of a declaration below the minimum level, the members of a
declaration that prints none, the documentation and members of one that is
withheld, the fields of a source file, all of an enum case group but the names
of its elements, and names elsewhere.  The differences may stand at any depth
and in many places at once.  Alike forests have the same blocks and counts.
-/

namespace SwiftInterface

namespace Render

/-- The names that an enum case group prints: those of its elements, less the
absent and the empty ones. -/
def elementNames (elements : List Declaration) : List String :=
  elements.filterMap fun element => element.name.filter (· ≠ "")

/-- Two declarations that differ only in content that the options hide. -/
inductive Alike (options : Options) : Declaration → Declaration → Prop
  /-- Both lie below the minimum level; nothing else is compared. -/
  | belowLevel {first second : Declaration}
      (firstBelow : BelowLevel options first)
      (secondBelow : BelowLevel options second) : Alike options first second
  /-- The kind is one whose members are not printed; the members may differ. -/
  | bodiless {first second : Declaration} (tested : first.Tested)
      (notContainer : first.isContainer = false)
      (sameKind : first.kind = second.kind)
      (sameAccess : first.accessibility = second.accessibility)
      (sameDocumentation : first.documentation = second.documentation)
      (sameSignature : first.signature = second.signature) :
      Alike options first second
  /-- Both are withheld because they have no signature. -/
  | unsigned {first second : Declaration}
      (firstUnsigned : Unsigned options first)
      (secondUnsigned : Unsigned options second) : Alike options first second
  /-- Both are withheld because their signatures are unbalanced. -/
  | unbalanced {first second : Declaration}
      (firstUnbalanced : Unbalanced options first)
      (secondUnbalanced : Unbalanced options second) :
      Alike options first second
  /-- Both are source files with alike members. -/
  | transparent {first second : Declaration}
      (firstKindless : first.kind = none) (secondKindless : second.kind = none)
      (members : List.Forall₂ (Alike options) first.children second.children) :
      Alike options first second
  /-- Both are enum case groups with the same names of elements. -/
  | elements {first second : Declaration}
      (firstGroup : first.isEnumCaseGroup = true)
      (secondGroup : second.isEnumCaseGroup = true)
      (sameNames :
        elementNames first.children = elementNames second.children) :
      Alike options first second
  /-- Only the name and what is hidden in the members differ. -/
  | renamed {first second : Declaration}
      (notGroup : first.isEnumCaseGroup = false)
      (sameKind : first.kind = second.kind)
      (sameAccess : first.accessibility = second.accessibility)
      (sameDocumentation : first.documentation = second.documentation)
      (sameSignature : first.signature = second.signature)
      (members : List.Forall₂ (Alike options) first.children second.children) :
      Alike options first second

/-- Every declaration is alike to itself. -/
theorem Alike.refl (options : Options) (declaration : Declaration) :
    Alike options declaration declaration := by
  induction declaration using Declaration.memberInduction with
  | node declaration members =>
      cases group : declaration.isEnumCaseGroup with
      | true => exact .elements group group rfl
      | false =>
          exact .renamed group rfl rfl rfl rfl
            (List.forall₂_same.mpr members)

/-- Two renderings that show the same output and the same counts. -/
structure SameShown {α : Type} (first second : Rendering α) : Prop where
  output : first.output = second.output
  counts : first.counts = second.counts

/-- Two bodies that read the same when their blocks are joined, with the same
counts. -/
structure SameBody (first second : Rendering (List String)) : Prop where
  text : Text.joinRows first.output = Text.joinRows second.output
  counts : first.counts = second.counts

theorem SameShown.sameBody {first second : Rendering (List String)}
    (shown : SameShown first second) : SameBody first second :=
  ⟨by rw [shown.output], shown.counts⟩

theorem elementLines_eq_names (elements : List Declaration) :
    elementLines elements =
      Text.joinRows ((elementNames elements).map ("case " ++ ·)) := by
  rw [elementLines, elementNames, List.map_filterMap]
  congr 2
  funext element
  cases nameEq : element.name with
  | none => simp [elementLine?, nameEq]
  | some name =>
      by_cases empty : name = ""
      · simp [elementLine?, nameEq, empty, Option.filter]
      · simp [elementLine?, nameEq, empty, Option.filter]

/-- Siblings show the same when they do so one by one. -/
theorem renderForest_sameShown {options : Options} {first second : Forest}
    (pairs : List.Forall₂ (fun declaration other =>
      SameShown (renderDeclaration options declaration)
        (renderDeclaration options other)) first second) :
    SameShown (renderForest options first) (renderForest options second) := by
  induction pairs with
  | nil => exact ⟨rfl, rfl⟩
  | cons pair pairs ih =>
      rw [renderForest_cons, renderForest_cons]
      constructor
      · simp only [pair.output, ih.output]
      · simp only [pair.counts, ih.counts]

/-- Tested declarations with the same header show the same when their bodies
read the same, where a body is printed at all. -/
theorem renderDeclaration_sameShown {options : Options}
    {first second : Declaration} (tested : first.Tested)
    (sameKind : first.kind = second.kind)
    (sameAccess : first.accessibility = second.accessibility)
    (sameDocumentation : first.documentation = second.documentation)
    (sameSignature : first.signature = second.signature)
    (bodies : first.isContainer = true →
      first.children.isEmpty = second.children.isEmpty ∧
        SameBody (renderForest options first.children)
          (renderForest options second.children)) :
    SameShown (renderDeclaration options first)
      (renderDeclaration options second) := by
  obtain ⟨kind, kindEq⟩ := Option.ne_none_iff_exists'.mp tested.1
  have secondTested : second.Tested := by
    rw [Declaration.Tested, Declaration.isEnumCaseGroup, ← sameKind]
    exact tested
  have sameContainer : second.isContainer = first.isContainer := by
    rw [Declaration.isContainer, Declaration.isContainer, sameKind]
  rw [renderDeclaration_of_tested options kindEq tested,
    renderDeclaration_of_tested options (sameKind ▸ kindEq) secondTested,
    sameContainer, ← sameAccess, ← sameSignature, ← sameDocumentation]
  cases verdict options first.accessibility first.signature with
  | belowLevel => exact ⟨rfl, rfl⟩
  | unsigned => exact ⟨rfl, rfl⟩
  | unbalanced signature => exact ⟨rfl, rfl⟩
  | emitted signature =>
      cases isContainer : first.isContainer with
      | false =>
          simp only [Bool.and_false, Bool.false_eq_true, if_false]
          exact ⟨rfl, rfl⟩
      | true =>
          obtain ⟨sameEmpty, body⟩ := bodies isContainer
          simp only [container, sameEmpty, body.text, body.counts]
          cases second.children.isEmpty with
          | true => exact ⟨rfl, rfl⟩
          | false => exact ⟨rfl, rfl⟩

/-- Alike declarations show the same.  The members of a declaration matter
only where the renderer descends into them, and there they are alike. -/
theorem Alike.sameShown {options : Options} {first second : Declaration}
    (alike : Alike options first second) :
    SameShown (renderDeclaration options first)
      (renderDeclaration options second) := by
  induction first using Declaration.memberInduction generalizing second with
  | node first shown =>
      have body {others : Forest}
          (members : List.Forall₂ (Alike options) first.children others) :
          SameShown (renderForest options first.children)
            (renderForest options others) := by
        have pairs := (List.forall₂_and_left _ _).mpr
          ⟨fun member memberMem => @shown member memberMem, members⟩
        exact renderForest_sameShown
          (pairs.imp fun _ _ pair => pair.1 pair.2)
      cases alike with
      | belowLevel firstBelow secondBelow =>
          rw [renderDeclaration_of_belowLevel firstBelow,
            renderDeclaration_of_belowLevel secondBelow]
          exact ⟨rfl, rfl⟩
      | bodiless tested notContainer sameKind sameAccess sameDocumentation
          sameSignature =>
          refine renderDeclaration_sameShown tested sameKind sameAccess
            sameDocumentation sameSignature fun isContainer => ?_
          simp [notContainer] at isContainer
      | unsigned firstUnsigned secondUnsigned =>
          obtain ⟨firstKind, firstEq⟩ :=
            Option.ne_none_iff_exists'.mp firstUnsigned.1.1
          obtain ⟨secondKind, secondEq⟩ :=
            Option.ne_none_iff_exists'.mp secondUnsigned.1.1
          rw [renderDeclaration_of_unsigned firstUnsigned firstEq,
            renderDeclaration_of_unsigned secondUnsigned secondEq]
          exact ⟨rfl, rfl⟩
      | unbalanced firstUnbalanced secondUnbalanced =>
          obtain ⟨firstSignature, firstEq, -⟩ := firstUnbalanced.2.2
          obtain ⟨secondSignature, secondEq, -⟩ := secondUnbalanced.2.2
          rw [renderDeclaration_of_unbalanced firstUnbalanced firstEq,
            renderDeclaration_of_unbalanced secondUnbalanced secondEq]
          exact ⟨rfl, rfl⟩
      | transparent firstKindless secondKindless members =>
          rw [renderDeclaration_of_kindless options firstKindless,
            renderDeclaration_of_kindless options secondKindless]
          exact ⟨by rw [(body members).output], (body members).counts⟩
      | elements firstGroup secondGroup sameNames =>
          rw [renderDeclaration_of_group options firstGroup,
            renderDeclaration_of_group options secondGroup,
            elementLines_eq_names, elementLines_eq_names, sameNames]
          exact ⟨rfl, rfl⟩
      | renamed notGroup sameKind sameAccess sameDocumentation sameSignature
          members =>
          by_cases kindless : first.kind = none
          · rw [renderDeclaration_of_kindless options kindless,
              renderDeclaration_of_kindless options (sameKind ▸ kindless)]
            exact ⟨by rw [(body members).output], (body members).counts⟩
          · have sameEmpty :
                first.children.isEmpty = second.children.isEmpty := by
              rw [Bool.eq_iff_iff, List.isEmpty_iff_length_eq_zero,
                List.isEmpty_iff_length_eq_zero, members.length_eq]
            exact renderDeclaration_sameShown ⟨kindless, notGroup⟩ sameKind
              sameAccess sameDocumentation sameSignature
              fun _ => ⟨sameEmpty, (body members).sameBody⟩

/-- A session returns the same blocks and keeps the same counts for forests
that differ only in hidden content. -/
theorem renderForest_eq_of_alike (session : Session) (world : World)
    {first second : Forest}
    (alike : List.Forall₂ (Alike session.options) first second) :
    ∃ blocks counts firstAfter secondAfter,
      session.renderForest first world =
          .ok (blocks, { session with counts }) firstAfter ∧
        session.renderForest second world =
          .ok (blocks, { session with counts }) secondAfter := by
  have shown := renderForest_sameShown
    (alike.imp fun _ _ pair => pair.sameShown)
  have firstRun := session.renderForest_run first world
  have secondRun := session.renderForest_run second world
  rw [← shown.output, ← shown.counts] at secondRun
  exact ⟨_, _, _, _, firstRun, secondRun⟩

/-- A source file with one public class that holds the given member beside a
public one. -/
def classAround (path : String) (member : Declaration) : Forest :=
  [⟨none, some path, none, none, none,
    [⟨some "source.lang.swift.decl.class", some "Vault", some "public",
      some "Keeps things.", some "public class Vault",
      [member, ⟨some "source.lang.swift.decl.function.method.instance",
        some "close()", some "public", none, some "public func close()", []⟩]⟩]⟩]

/-- A private function. -/
def privateFunction : Declaration :=
  ⟨some "source.lang.swift.decl.function.method.instance", some "open()",
    some "private", some "The secret.", some "private func open()", []⟩

/-- A structure of the file with a public member. -/
def fileprivateStructure : Declaration :=
  ⟨some "source.lang.swift.decl.struct", some "Key", some "fileprivate", none,
    none, [⟨some "source.lang.swift.decl.var.instance", some "code",
      some "public", none, some "public var code: Int", []⟩]⟩

/-- Neither the path of a file nor the kind, the text or the public member of
a hidden declaration shows. -/
theorem renderForest_eq_of_alike_classes :
    List.Forall₂ (Alike ⟨.publicAccess, false, " "⟩)
        (classAround "first.swift" privateFunction)
        (classAround "second.swift" fileprivateStructure) ∧
      ∃ blocks counts firstAfter secondAfter,
        Session.renderForest ⟨⟨.publicAccess, false, " "⟩, {}⟩
            (classAround "first.swift" privateFunction) {} =
          .ok (blocks, ⟨⟨.publicAccess, false, " "⟩, counts⟩) firstAfter ∧
        Session.renderForest ⟨⟨.publicAccess, false, " "⟩, {}⟩
            (classAround "second.swift" fileprivateStructure) {} =
          .ok (blocks, ⟨⟨.publicAccess, false, " "⟩, counts⟩) secondAfter := by
  have hidden : Alike ⟨.publicAccess, false, " "⟩ privateFunction
      fileprivateStructure :=
    .belowLevel (by decide +kernel) (by decide +kernel)
  have alike : List.Forall₂ (Alike ⟨.publicAccess, false, " "⟩)
      (classAround "first.swift" privateFunction)
      (classAround "second.swift" fileprivateStructure) :=
    .cons (.transparent rfl rfl
      (.cons (.renamed (by decide +kernel) rfl rfl rfl rfl
        (.cons hidden (.cons (.refl _ _) .nil))) .nil)) .nil
  exact ⟨alike,
    renderForest_eq_of_alike ⟨⟨.publicAccess, false, " "⟩, {}⟩ {} alike⟩

end Render

end SwiftInterface
