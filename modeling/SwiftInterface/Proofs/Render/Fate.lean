import SwiftInterface.Proofs.Text.Lines
import SwiftInterface.Render.Tree

/-!
# The fate of a declaration

The renderer treats a declaration in one of seven ways: a source file is
transparent, an enum case group prints its elements, and every other
declaration is tested and then dropped for one of three reasons or emitted,
with a body or without.  This file states the conditions on the declaration
alone, shows that one of them always holds, and says what rendering yields
under each and how the texts it prints are joined from rows.  Statements about
rendering are proved from these equations and by induction over the members of
a declaration.
-/

namespace SwiftInterface

namespace AccessLevel

theorem not_lt {first second : AccessLevel} :
    ¬ first < second ↔ second ≤ first :=
  Nat.not_lt

theorem le_trans {first second third : AccessLevel}
    (below : first ≤ second) (above : second ≤ third) : first ≤ third :=
  Nat.le_trans below above

end AccessLevel

namespace Declaration

/-- A declaration that has a kind and is no enum case group, so the tests of
level, signature and balance apply to it. -/
def Tested (declaration : Declaration) : Prop :=
  declaration.kind ≠ none ∧ declaration.isEnumCaseGroup = false

instance (declaration : Declaration) : Decidable declaration.Tested :=
  inferInstanceAs (Decidable (_ ∧ _))

theorem not_tested_of_kindless {declaration : Declaration}
    (kindless : declaration.kind = none) : ¬ declaration.Tested :=
  fun tested => tested.1 kindless

theorem not_tested_of_group {declaration : Declaration}
    (group : declaration.isEnumCaseGroup = true) : ¬ declaration.Tested := by
  intro tested
  rw [tested.2] at group
  cases group

/-- A declaration whose members form a body, if it is emitted. -/
def HasBody (declaration : Declaration) : Prop :=
  declaration.children ≠ [] ∧ declaration.isContainer = true

theorem hasBody_iff {declaration : Declaration} :
    declaration.HasBody ↔
      (!declaration.children.isEmpty && declaration.isContainer) = true := by
  simp [HasBody]

/-- Induction over declaration trees: a property passes from the members of a
declaration to the declaration. -/
theorem memberInduction {motive : Declaration → Prop}
    (node : ∀ declaration : Declaration,
      (∀ member ∈ declaration.children, motive member) → motive declaration)
    (declaration : Declaration) : motive declaration :=
  node declaration fun member _ => memberInduction node member
termination_by sizeOf declaration
decreasing_by
  cases declaration with
  | mk kind name accessibility documentation signature children =>
      have smaller := List.sizeOf_lt_of_mem ‹member ∈ _›
      simp only [mk.sizeOf_spec] at smaller ⊢
      omega

end Declaration

namespace Render

/-- The declaration is tested and lies below the minimum level. -/
def BelowLevel (options : Options) (declaration : Declaration) : Prop :=
  declaration.Tested ∧ declaration.accessLevel < options.minimumLevel

/-- The declaration passes the test of its level and has no signature. -/
def Unsigned (options : Options) (declaration : Declaration) : Prop :=
  declaration.Tested ∧ options.minimumLevel ≤ declaration.accessLevel ∧
    declaration.signature = none

/-- The declaration passes the test of its level, and the brackets of its
signature count and are unbalanced. -/
def Unbalanced (options : Options) (declaration : Declaration) : Prop :=
  declaration.Tested ∧ options.minimumLevel ≤ declaration.accessLevel ∧
    ∃ signature ∈ declaration.signature,
      options.skipUnbalanced = true ∧ isBalanced signature = false

/-- The declaration passes all tests. -/
def Passes (options : Options) (declaration : Declaration) : Prop :=
  declaration.Tested ∧ options.minimumLevel ≤ declaration.accessLevel ∧
    ∃ signature ∈ declaration.signature,
      options.skipUnbalanced = true → isBalanced signature = true

instance (options : Options) : DecidablePred (BelowLevel options) :=
  fun _ => inferInstanceAs (Decidable (_ ∧ _))

instance (options : Options) : DecidablePred (Unsigned options) :=
  fun _ => inferInstanceAs (Decidable (_ ∧ _ ∧ _))

instance (options : Options) : DecidablePred (Unbalanced options) :=
  fun _ => inferInstanceAs (Decidable (_ ∧ _ ∧ _))

instance (options : Options) : DecidablePred (Passes options) :=
  fun _ => inferInstanceAs (Decidable (_ ∧ _ ∧ _))

/-- How the renderer treats a declaration. -/
inductive Fate (options : Options) (declaration : Declaration) : Prop
  | transparent (kindless : declaration.kind = none)
  | elements (group : declaration.isEnumCaseGroup = true)
  | belowLevel (below : BelowLevel options declaration)
  | unsigned {kind : String} (unsigned : Unsigned options declaration)
      (kindEq : declaration.kind = some kind)
  | unbalanced {signature : String}
      (unbalanced : Unbalanced options declaration)
      (signed : declaration.signature = some signature)
  | container {signature : String} (passes : Passes options declaration)
      (signed : declaration.signature = some signature)
      (hasBody : declaration.HasBody)
  | leaf {signature : String} (passes : Passes options declaration)
      (signed : declaration.signature = some signature)
      (bare : ¬ declaration.HasBody)

/-- Every declaration has a fate. -/
theorem fate (options : Options) (declaration : Declaration) :
    Fate options declaration := by
  cases kindEq : declaration.kind with
  | none => exact .transparent kindEq
  | some kind =>
      cases group : declaration.isEnumCaseGroup with
      | true => exact .elements group
      | false =>
          have tested : declaration.Tested := ⟨by simp [kindEq], group⟩
          by_cases below : declaration.accessLevel < options.minimumLevel
          · exact .belowLevel ⟨tested, below⟩
          have level := AccessLevel.not_lt.mp below
          cases signed : declaration.signature with
          | none => exact .unsigned ⟨tested, level, signed⟩ kindEq
          | some signature =>
              by_cases lost :
                  options.skipUnbalanced = true ∧ isBalanced signature = false
              · exact .unbalanced ⟨tested, level, signature, signed, lost⟩ signed
              have passes : Passes options declaration :=
                ⟨tested, level, signature, signed,
                  fun skips => by simpa [skips] using lost⟩
              by_cases hasBody : declaration.HasBody
              · exact .container passes signed hasBody
              · exact .leaf passes signed hasBody

theorem BelowLevel.verdict {options : Options} {declaration : Declaration}
    (below : BelowLevel options declaration) :
    Render.verdict options declaration.accessibility declaration.signature =
      .belowLevel :=
  if_pos below.2

theorem Unsigned.verdict {options : Options} {declaration : Declaration}
    (unsigned : Unsigned options declaration) :
    Render.verdict options declaration.accessibility declaration.signature =
      .unsigned := by
  obtain ⟨-, level, signed⟩ := unsigned
  rw [Render.verdict.eq_def, signed]
  exact if_neg (AccessLevel.not_lt.mpr level)

theorem Unbalanced.verdict {options : Options} {declaration : Declaration}
    {signature : String} (unbalanced : Unbalanced options declaration)
    (signed : declaration.signature = some signature) :
    Render.verdict options declaration.accessibility declaration.signature =
      .unbalanced signature := by
  obtain ⟨-, level, other, otherMem, skips, notBalanced⟩ := unbalanced
  obtain rfl : signature = other := Option.some.inj (signed.symm.trans otherMem)
  rw [Render.verdict.eq_def, signed]
  refine (if_neg (AccessLevel.not_lt.mpr level)).trans ?_
  simp [skips, notBalanced]

theorem Passes.verdict {options : Options} {declaration : Declaration}
    {signature : String} (passes : Passes options declaration)
    (signed : declaration.signature = some signature) :
    Render.verdict options declaration.accessibility declaration.signature =
      .emitted signature := by
  obtain ⟨-, level, other, otherMem, balance⟩ := passes
  obtain rfl : signature = other := Option.some.inj (signed.symm.trans otherMem)
  rw [Render.verdict.eq_def, signed]
  refine (if_neg (AccessLevel.not_lt.mpr level)).trans ?_
  cases skips : options.skipUnbalanced with
  | false => simp
  | true => simp [balance skips]

/-- A source file prints its members. -/
theorem renderDeclaration_of_kindless {declaration : Declaration}
    (options : Options) (kindless : declaration.kind = none) :
    renderDeclaration options declaration =
      { renderForest options declaration.children with
        output := some
          (Text.joinRows (renderForest options declaration.children).output) } := by
  cases declaration with
  | mk kind name accessibility documentation signature children =>
      subst kindless
      rw [renderDeclaration]

/-- An enum case group prints its named elements. -/
theorem renderDeclaration_of_group {declaration : Declaration}
    (options : Options) (group : declaration.isEnumCaseGroup = true) :
    renderDeclaration options declaration =
      { output := some (elementLines declaration.children) } := by
  cases declaration with
  | mk kind name accessibility documentation signature children =>
      cases kind with
      | none => cases group
      | some kind =>
          have isGroup : Declaration.isEnumCaseKind (some kind) = true := group
          rw [renderDeclaration, if_pos isGroup]

/-- A tested declaration is rendered by the verdict on it. -/
theorem renderDeclaration_of_tested {declaration : Declaration} {kind : String}
    (options : Options) (kindEq : declaration.kind = some kind)
    (tested : declaration.Tested) :
    renderDeclaration options declaration =
      match verdict options declaration.accessibility declaration.signature with
      | .belowLevel =>
          { output := none, counts := { droppedAccess := 1 } }
      | .unsigned =>
          { output := none, counts := { droppedSignature := 1 },
            drops := [.unsigned kind declaration.name] }
      | .unbalanced signature =>
          { output := none, counts := { droppedUnbalanced := 1 },
            drops := [.unbalanced signature] }
      | .emitted signature =>
          if !declaration.children.isEmpty && declaration.isContainer then
            let body := renderForest options declaration.children
            { output := some (container options.indentMark
                (commentsOf declaration.documentation) signature body.output),
              counts := body.counts + { rendered := 1 },
              drops := body.drops }
          else
            { output := some
                (leaf (commentsOf declaration.documentation) signature),
              counts := { rendered := 1 } } := by
  have notGroup := tested.2
  cases declaration with
  | mk _ name accessibility documentation signature children =>
      subst kindEq
      have notGroupKind : ¬ Declaration.isEnumCaseKind (some kind) = true :=
        Bool.not_eq_true _ ▸ notGroup
      rw [renderDeclaration, if_neg notGroupKind]
      rfl

theorem renderDeclaration_of_belowLevel {options : Options}
    {declaration : Declaration} (below : BelowLevel options declaration) :
    renderDeclaration options declaration =
      { output := none, counts := { droppedAccess := 1 } } := by
  obtain ⟨kind, kindEq⟩ := Option.ne_none_iff_exists'.mp below.1.1
  rw [renderDeclaration_of_tested options kindEq below.1, below.verdict]

theorem renderDeclaration_of_unsigned {options : Options}
    {declaration : Declaration} {kind : String}
    (unsigned : Unsigned options declaration)
    (kindEq : declaration.kind = some kind) :
    renderDeclaration options declaration =
      { output := none, counts := { droppedSignature := 1 },
        drops := [.unsigned kind declaration.name] } := by
  rw [renderDeclaration_of_tested options kindEq unsigned.1, unsigned.verdict]

theorem renderDeclaration_of_unbalanced {options : Options}
    {declaration : Declaration} {signature : String}
    (unbalanced : Unbalanced options declaration)
    (signed : declaration.signature = some signature) :
    renderDeclaration options declaration =
      { output := none, counts := { droppedUnbalanced := 1 },
        drops := [.unbalanced signature] } := by
  obtain ⟨kind, kindEq⟩ := Option.ne_none_iff_exists'.mp unbalanced.1.1
  rw [renderDeclaration_of_tested options kindEq unbalanced.1,
    unbalanced.verdict signed]

/-- An emitted container puts braces around its members. -/
theorem renderDeclaration_of_container {options : Options}
    {declaration : Declaration} {signature : String}
    (passes : Passes options declaration)
    (signed : declaration.signature = some signature)
    (hasBody : declaration.HasBody) :
    renderDeclaration options declaration =
      { output := some (container options.indentMark
          (commentsOf declaration.documentation) signature
          (renderForest options declaration.children).output),
        counts := (renderForest options declaration.children).counts +
          { rendered := 1 },
        drops := (renderForest options declaration.children).drops } := by
  obtain ⟨kind, kindEq⟩ := Option.ne_none_iff_exists'.mp passes.1.1
  rw [renderDeclaration_of_tested options kindEq passes.1,
    passes.verdict signed]
  exact if_pos (Declaration.hasBody_iff.mp hasBody)

/-- An emitted declaration without members, or of a kind whose members are not
printed, prints its header only. -/
theorem renderDeclaration_of_leaf {options : Options}
    {declaration : Declaration} {signature : String}
    (passes : Passes options declaration)
    (signed : declaration.signature = some signature)
    (bare : ¬ declaration.HasBody) :
    renderDeclaration options declaration =
      { output := some
          (leaf (commentsOf declaration.documentation) signature),
        counts := { rendered := 1 } } := by
  obtain ⟨kind, kindEq⟩ := Option.ne_none_iff_exists'.mp passes.1.1
  rw [renderDeclaration_of_tested options kindEq passes.1,
    passes.verdict signed]
  exact if_neg fun braces => bare (Declaration.hasBody_iff.mpr braces)

@[simp]
theorem renderForest_nil (options : Options) :
    renderForest options [] = { output := [] } := by
  rw [renderForest]

theorem renderForest_cons (options : Options) (declaration : Declaration)
    (forest : Forest) :
    renderForest options (declaration :: forest) =
      { output := (renderDeclaration options declaration).output.toList ++
          (renderForest options forest).output,
        counts := (renderDeclaration options declaration).counts +
          (renderForest options forest).counts,
        drops := (renderDeclaration options declaration).drops ++
          (renderForest options forest).drops } := by
  rw [renderForest]

@[simp]
theorem Counts.add_rendered (first second : Counts) :
    (first + second).rendered = first.rendered + second.rendered :=
  rfl

@[simp]
theorem Counts.add_droppedAccess (first second : Counts) :
    (first + second).droppedAccess =
      first.droppedAccess + second.droppedAccess :=
  rfl

@[simp]
theorem Counts.add_droppedSignature (first second : Counts) :
    (first + second).droppedSignature =
      first.droppedSignature + second.droppedSignature :=
  rfl

@[simp]
theorem Counts.add_droppedUnbalanced (first second : Counts) :
    (first + second).droppedUnbalanced =
      first.droppedUnbalanced + second.droppedUnbalanced :=
  rfl

/-- The text of a container: the header, an empty row, the body, the closing
brace and the empty row after it. -/
theorem container_eq_joinRows (mark comments signature : String)
    (blocks : List String) :
    container mark comments signature blocks =
      Text.joinRows [comments ++ signature ++ " \x7b", "",
        Text.indent mark (Text.joinRows blocks), "\x7d", ""] := by
  apply String.toList_inj.mp
  simp [container, Text.joinRows]

/-- The text of a declaration without a body: the header and the empty row
after it. -/
theorem leaf_eq_joinRows (comments signature : String) :
    leaf comments signature = Text.joinRows [comments ++ signature, ""] := by
  apply String.toList_inj.mp
  simp [leaf, Text.joinRows]

end Render

end SwiftInterface
