import SwiftInterface.Proofs.Render.Fate

/-!
# Stricter options only remove rows

Raising the minimum level, or dropping unbalanced signatures as well, takes
whole declarations out of an interface and leaves the rest as it was.  Line by
line this means that the rows under the stricter options are a selection of
the rows under the looser ones.  The delicate point is a body or a file whose
members all vanish: it still prints one empty row, which has to be among the
rows that were there before.
-/

namespace SwiftInterface

namespace Render

open Text

/-- The options `high` are at least as strict as `low` and indent alike. -/
structure Stricter (low high : Options) : Prop where
  sameMark : high.indentMark = low.indentMark
  level : low.minimumLevel ≤ high.minimumLevel
  skips : low.skipUnbalanced = true → high.skipUnbalanced = true

theorem Passes.of_stricter {low high : Options} {declaration : Declaration}
    (stricter : Stricter low high) (passes : Passes high declaration) :
    Passes low declaration := by
  obtain ⟨tested, level, signature, signed, balance⟩ := passes
  exact ⟨tested, AccessLevel.le_trans stricter.level level, signature, signed,
    fun skips => balance (stricter.skips skips)⟩

/-- What may remain of the text of a declaration.  A text that goes as a whole
has held an empty row. -/
inductive Remains : Option String → Option String → Prop
  | absent : Remains none none
  | removed {text : String} (emptyRow : "" ∈ rowsOf text) :
      Remains none (some text)
  | kept {remaining text : String}
      (rows : (rowsOf remaining).Sublist (rowsOf text)) :
      Remains (some remaining) (some text)

/-- What may remain of the blocks of sibling declarations. -/
structure BlocksRemain (remaining blocks : List String) : Prop where
  rows : (remaining.flatMap rowsOf).Sublist (blocks.flatMap rowsOf)
  emptyRow : remaining = [] → blocks ≠ [] → "" ∈ blocks.flatMap rowsOf

theorem BlocksRemain.append {remaining text : Option String}
    {remainings texts : List String} (first : Remains remaining text)
    (others : BlocksRemain remainings texts) :
    BlocksRemain (remaining.toList ++ remainings) (text.toList ++ texts) := by
  cases first with
  | absent => exact others
  | @removed text emptyRow =>
      constructor
      · change (remainings.flatMap rowsOf).Sublist
          (rowsOf text ++ texts.flatMap rowsOf)
        exact others.rows.trans (List.sublist_append_right _ _)
      · intro _ _
        exact List.mem_append_left _ emptyRow
  | @kept remaining text rows =>
      constructor
      · exact rows.append others.rows
      · intro noBlocks
        exact absurd noBlocks (by simp)

/-- Blocks that remain have rows that remain, also when no block is left and
the joined text is empty. -/
theorem BlocksRemain.joinRows {remaining blocks : List String}
    (remain : BlocksRemain remaining blocks) :
    (rowsOf (Text.joinRows remaining)).Sublist
      (rowsOf (Text.joinRows blocks)) := by
  by_cases noBlocks : blocks = []
  · subst noBlocks
    cases remaining with
    | nil => exact List.Sublist.refl _
    | cons text texts =>
        have noRows : rowsOf text ++ texts.flatMap rowsOf = [] :=
          List.sublist_nil.mp remain.rows
        exact absurd (List.append_eq_nil_iff.mp noRows).1 (rowsOf_ne_nil text)
  rw [rowsOf_joinRows noBlocks]
  by_cases noneRemain : remaining = []
  · rw [noneRemain, joinRows_nil, rowsOf_empty]
    exact List.singleton_sublist.mpr (remain.emptyRow noneRemain noBlocks)
  · rw [rowsOf_joinRows noneRemain]
    exact remain.rows

theorem rowsOf_container (mark comments signature : String)
    (blocks : List String) :
    rowsOf (container mark comments signature blocks) =
      rowsOf (comments ++ signature ++ " \x7b") ++
        ("" :: (rowsOf (indent mark (joinRows blocks)) ++ ["\x7d", ""])) := by
  rw [container_eq_joinRows, rowsOf_joinRows (by simp)]
  have brace : rowsOf "\x7d" = ["\x7d"] := by decide
  simp [brace]

theorem rowsOf_leaf (comments signature : String) :
    rowsOf (leaf comments signature) =
      rowsOf (comments ++ signature) ++ [""] := by
  rw [leaf_eq_joinRows, rowsOf_joinRows (by simp)]
  simp

/-- A rendering under stricter options beside the one under looser options. -/
structure Thinner (high low : Rendering (Option String)) : Prop where
  output : Remains high.output low.output
  rendered : high.counts.rendered ≤ low.counts.rendered

/-- A declaration that is tested and then dropped is thinner than whatever
other options make of it. -/
theorem thinner_of_dropped {high : Rendering (Option String)}
    {low : Options} {declaration : Declaration} (tested : declaration.Tested)
    (output : high.output = none) (rendered : high.counts.rendered = 0) :
    Thinner high (renderDeclaration low declaration) := by
  refine ⟨?_, by omega⟩
  rw [output]
  cases fate low declaration with
  | transparent kindless =>
      exact absurd tested (Declaration.not_tested_of_kindless kindless)
  | elements group =>
      exact absurd tested (Declaration.not_tested_of_group group)
  | belowLevel below =>
      rw [renderDeclaration_of_belowLevel below]
      exact .absent
  | unsigned unsigned kindEq =>
      rw [renderDeclaration_of_unsigned unsigned kindEq]
      exact .absent
  | unbalanced unbalanced signed =>
      rw [renderDeclaration_of_unbalanced unbalanced signed]
      exact .absent
  | container passes signed hasBody =>
      rw [renderDeclaration_of_container passes signed hasBody]
      exact .removed (by simp [rowsOf_container])
  | leaf passes signed bare =>
      rw [renderDeclaration_of_leaf passes signed bare]
      exact .removed (by simp [rowsOf_leaf])

/-- Siblings are thinner together when they are thinner one by one. -/
theorem renderForest_thinner {low high : Options} {forest : Forest}
    (members : ∀ declaration ∈ forest,
      Thinner (renderDeclaration high declaration)
        (renderDeclaration low declaration)) :
    BlocksRemain (renderForest high forest).output
        (renderForest low forest).output ∧
      (renderForest high forest).counts.rendered ≤
        (renderForest low forest).counts.rendered := by
  induction forest with
  | nil =>
      simp only [renderForest_nil]
      exact ⟨⟨List.Sublist.refl _, fun _ noBlocks => absurd rfl noBlocks⟩,
        Nat.le_refl _⟩
  | cons declaration forest ih =>
      obtain ⟨output, rendered⟩ := members declaration (by simp)
      obtain ⟨others, othersRendered⟩ := ih fun other otherMem =>
        members other (List.mem_cons_of_mem declaration otherMem)
      rw [renderForest_cons, renderForest_cons]
      refine ⟨others.append output, ?_⟩
      simp only [Counts.add_rendered]
      omega

theorem renderDeclaration_thinner {low high : Options}
    (stricter : Stricter low high) (declaration : Declaration) :
    Thinner (renderDeclaration high declaration)
      (renderDeclaration low declaration) := by
  induction declaration using Declaration.memberInduction with
  | node declaration members =>
      obtain ⟨blocks, rendered⟩ := renderForest_thinner members
      cases fate high declaration with
      | transparent kindless =>
          rw [renderDeclaration_of_kindless high kindless,
            renderDeclaration_of_kindless low kindless]
          exact ⟨.kept blocks.joinRows, rendered⟩
      | elements group =>
          rw [renderDeclaration_of_group high group,
            renderDeclaration_of_group low group]
          exact ⟨.kept (List.Sublist.refl _), Nat.le_refl _⟩
      | belowLevel below =>
          have dropped := renderDeclaration_of_belowLevel below
          exact thinner_of_dropped below.1 (by rw [dropped]) (by rw [dropped])
      | unsigned unsigned kindEq =>
          have dropped := renderDeclaration_of_unsigned unsigned kindEq
          exact thinner_of_dropped unsigned.1 (by rw [dropped]) (by rw [dropped])
      | unbalanced unbalanced signed =>
          have dropped := renderDeclaration_of_unbalanced unbalanced signed
          exact thinner_of_dropped unbalanced.1 (by rw [dropped])
            (by rw [dropped])
      | container passes signed hasBody =>
          have passesLow := passes.of_stricter stricter
          rw [renderDeclaration_of_container passes signed hasBody,
            renderDeclaration_of_container passesLow signed hasBody]
          refine ⟨.kept ?_, Nat.add_le_add_right rendered 1⟩
          rw [rowsOf_container, rowsOf_container, stricter.sameMark]
          have body := rowsOf_indent_sublist low.indentMark blocks.joinRows
          exact (List.Sublist.refl _).append
            ((body.append (List.Sublist.refl _)).cons_cons "")
      | leaf passes signed bare =>
          have passesLow := passes.of_stricter stricter
          rw [renderDeclaration_of_leaf passes signed bare,
            renderDeclaration_of_leaf passesLow signed bare]
          exact ⟨.kept (List.Sublist.refl _), Nat.le_refl _⟩

/-- The rows of an interface under stricter options are a selection, in order
and unaltered, of the rows under looser options, and no more declarations are
printed. -/
theorem rowsOf_blocks_sublist {low high : Options}
    (stricter : Stricter low high) (forest : Forest) :
    (rowsOf (joinRows (blocks high forest))).Sublist
        (rowsOf (joinRows (blocks low forest))) ∧
      (renderForest high forest).counts.rendered ≤
        (renderForest low forest).counts.rendered := by
  obtain ⟨remain, rendered⟩ := renderForest_thinner
    fun declaration (_ : declaration ∈ forest) =>
      renderDeclaration_thinner stricter declaration
  exact ⟨remain.joinRows, rendered⟩

/-- A public structure whose only member is internal. -/
def structureWithInternalMember : Forest :=
  [⟨some "source.lang.swift.decl.struct", some "Point", some "public", none,
    some "public struct Point",
    [⟨some "source.lang.swift.decl.var.instance", some "x", some "internal",
      none, some "var x: Int", []⟩]⟩]

/-- The body that loses its only member keeps an empty row, here under a mark
that breaks the line. -/
theorem rowsOf_blocks_sublist_of_vanishing_body :
    Stricter ⟨.internalAccess, false, "\n\t"⟩ ⟨.publicAccess, true, "\n\t"⟩ ∧
      rowsOf (joinRows (blocks ⟨.publicAccess, true, "\n\t"⟩
          structureWithInternalMember)) =
        ["public struct Point \x7b", "", "", "\x7d", ""] ∧
      ["public struct Point \x7b", "", "", "\x7d", ""].Sublist
        (rowsOf (joinRows (blocks ⟨.internalAccess, false, "\n\t"⟩
          structureWithInternalMember))) := by
  have stricter :
      Stricter ⟨.internalAccess, false, "\n\t"⟩ ⟨.publicAccess, true, "\n\t"⟩ :=
    ⟨rfl, by decide, fun _ => rfl⟩
  have rows :
      rowsOf (joinRows (blocks ⟨.publicAccess, true, "\n\t"⟩
          structureWithInternalMember)) =
        ["public struct Point \x7b", "", "", "\x7d", ""] := by
    decide +kernel
  have selected :=
    (rowsOf_blocks_sublist stricter structureWithInternalMember).1
  rw [rows] at selected
  exact ⟨stricter, rows, selected⟩

end Render

end SwiftInterface
