import SwiftInterface.Interface
import SwiftInterface.Proofs.Render.Balance
import SwiftInterface.Proofs.Render.Fate

/-!
# Balanced interfaces

When declarations with an unbalanced signature are dropped, nothing that the
renderer adds can unbalance an interface: comment marks, joins, indentation and
the braces of containers keep balanced texts balanced at any depth.  What
remains are the texts that are printed untested, documentation and the names of
enum elements, and the two that the user chooses, the indentation mark and the
module name.
-/

namespace SwiftInterface

namespace Render

/-- Every documentation text in a declaration tree is balanced, and so is every
name of an element of an enum case group. -/
inductive TextsBalanced : Declaration → Prop
  | node {declaration : Declaration}
      (documentation : ∀ text ∈ declaration.documentation,
        isBalanced text = true)
      (elements : declaration.isEnumCaseGroup = true →
        ∀ element ∈ declaration.children, ∀ name ∈ element.name,
          isBalanced name = true)
      (members : ∀ member ∈ declaration.children, TextsBalanced member) :
      TextsBalanced declaration

theorem isBalanced_append {first second : String}
    (before : isBalanced first = true) (after : isBalanced second = true) :
    isBalanced (first ++ second) = true := by
  rw [← neutral_iff_isBalanced] at before after ⊢
  rw [String.toList_append]
  exact before.append after

theorem isBalanced_joinRows {texts : List String}
    (balanced : ∀ text ∈ texts, isBalanced text = true) :
    isBalanced (Text.joinRows texts) = true := by
  induction texts with
  | nil => rfl
  | cons text texts ih =>
      have first := balanced text (by simp)
      have others := ih fun other otherMem =>
        balanced other (List.mem_cons_of_mem text otherMem)
      by_cases last : texts = []
      · simpa [last, Text.joinRows_singleton] using first
      · have lineFeed : isBalanced "\n" = true := by decide
        rw [Text.joinRows_cons text last]
        exact isBalanced_append (isBalanced_append first lineFeed) others

theorem isBalanced_indent {mark text : String}
    (markBalanced : isBalanced mark = true) (balanced : isBalanced text = true) :
    isBalanced (Text.indent mark text) = true := by
  rw [← neutral_iff_isBalanced] at markBalanced balanced ⊢
  rw [Text.indent, String.toList_ofList]
  exact markBalanced.indentChars balanced

/-! ## Documentation -/

/-- The brackets of a text, in order. -/
def bracketsOf (text : String) : List Char :=
  text.toList.filter isBracket

@[simp]
theorem bracketsOf_append (first second : String) :
    bracketsOf (first ++ second) = bracketsOf first ++ bracketsOf second := by
  simp [bracketsOf]

theorem isBalanced_eq_closes_bracketsOf (text : String) :
    isBalanced text = closes [] (bracketsOf text) :=
  (closes_filter_isBracket [] text.toList).symm

theorem bracketsOf_joinRows (texts : List String) :
    bracketsOf (Text.joinRows texts) = texts.flatMap bracketsOf := by
  induction texts with
  | nil => rfl
  | cons text texts ih =>
      by_cases last : texts = []
      · simp [last, Text.joinRows_singleton]
      · have lineFeed : bracketsOf "\n" = [] := by decide
        rw [Text.joinRows_cons text last, List.flatMap_cons]
        simp [lineFeed, ih]

theorem bracketsOf_commentLine (row : String) :
    bracketsOf (commentLine row) = bracketsOf row := by
  have mark : bracketsOf documentationMark = [] := by decide
  have lineFeed : bracketsOf "\n" = [] := by decide
  simp [commentLine, mark, lineFeed]

theorem bracketsOf_comments (rows : List String) :
    bracketsOf (String.join ((rows.filter fun row => row ≠ "").map commentLine)) =
      rows.flatMap bracketsOf := by
  induction rows with
  | nil => rfl
  | cons row rows ih =>
      by_cases empty : row = ""
      · have none : bracketsOf "" = [] := by decide
        rw [List.filter_cons_of_neg (by simp [empty]), ih, List.flatMap_cons,
          empty, none, List.nil_append]
      · rw [List.filter_cons_of_pos (by simpa using empty), List.map_cons,
          String.join_cons, bracketsOf_append, bracketsOf_commentLine, ih,
          List.flatMap_cons]

/-- Comment lines hold the brackets of the documentation and no others: the
rows that are left out are empty. -/
theorem bracketsOf_formatDocumentation (documentation : String) :
    bracketsOf (formatDocumentation documentation) =
      bracketsOf documentation := by
  calc
    bracketsOf (formatDocumentation documentation) =
        (Text.rowsOf documentation).flatMap bracketsOf :=
      bracketsOf_comments (Text.rowsOf documentation)
    _ = bracketsOf (Text.joinRows (Text.rowsOf documentation)) :=
      (bracketsOf_joinRows (Text.rowsOf documentation)).symm
    _ = bracketsOf documentation := by rw [Text.joinRows_rowsOf]

theorem isBalanced_commentsOf {documentation : Option String}
    (balanced : ∀ text ∈ documentation, isBalanced text = true) :
    isBalanced (commentsOf documentation) = true := by
  cases documentation with
  | none => rfl
  | some text =>
      have textBalanced := balanced text rfl
      rw [isBalanced_eq_closes_bracketsOf] at textBalanced ⊢
      rw [commentsOf, bracketsOf_formatDocumentation]
      exact textBalanced

/-! ## Declarations -/

theorem isBalanced_elementLines {elements : List Declaration}
    (balanced : ∀ element ∈ elements, ∀ name ∈ element.name,
      isBalanced name = true) :
    isBalanced (elementLines elements) = true := by
  apply isBalanced_joinRows
  intro line lineMem
  obtain ⟨element, elementMem, lineEq⟩ := List.mem_filterMap.mp lineMem
  have keyword : isBalanced "case " = true := by decide
  cases named : element.name with
  | none => simp [elementLine?, named] at lineEq
  | some name =>
      have nameBalanced := balanced element elementMem name named
      by_cases empty : name = ""
      · simp [elementLine?, named, empty] at lineEq
      · have lineIs : "case " ++ name = line := by
          simpa [elementLine?, named, empty] using lineEq
        rw [← lineIs]
        exact isBalanced_append keyword nameBalanced

theorem isBalanced_leaf {comments signature : String}
    (commentsBalanced : isBalanced comments = true)
    (signatureBalanced : isBalanced signature = true) :
    isBalanced (leaf comments signature) = true := by
  have lineFeed : isBalanced "\n" = true := by decide
  exact isBalanced_append
    (isBalanced_append commentsBalanced signatureBalanced) lineFeed

theorem isBalanced_container {mark comments signature : String}
    {blocks : List String} (markBalanced : isBalanced mark = true)
    (commentsBalanced : isBalanced comments = true)
    (signatureBalanced : isBalanced signature = true)
    (blocksBalanced : ∀ block ∈ blocks, isBalanced block = true) :
    isBalanced (container mark comments signature blocks) = true := by
  have header := neutral_iff_isBalanced.mpr
    (isBalanced_append commentsBalanced signatureBalanced)
  have body := neutral_iff_isBalanced.mpr
    (isBalanced_indent markBalanced (isBalanced_joinRows blocksBalanced))
  have space : Neutral [' '] := neutral_iff.mpr (by decide)
  have lineFeed : Neutral ['\n'] := neutral_iff.mpr (by decide)
  have braces : Neutral ('\x7b' :: (['\n'] ++ ['\n'] ++
      (Text.indent mark (Text.joinRows blocks)).toList ++ ['\n'] ++
        ['\x7d'])) :=
    (((lineFeed.append lineFeed).append body).append lineFeed).enclose
      (by decide) (by decide) (by decide)
  have whole := ((header.append space).append braces).append lineFeed
  rw [← neutral_iff_isBalanced]
  simpa [container] using whole

theorem isBalanced_of_mem_renderForest {options : Options} {forest : Forest}
    (balanced : ∀ declaration ∈ forest,
      ∀ text ∈ (renderDeclaration options declaration).output,
        isBalanced text = true) :
    ∀ block ∈ (renderForest options forest).output,
      isBalanced block = true := by
  induction forest with
  | nil => simp
  | cons declaration forest ih =>
      intro block blockMem
      rw [renderForest_cons] at blockMem
      rcases List.mem_append.mp blockMem with first | others
      · exact balanced declaration (by simp) block (by simpa using first)
      · exact ih (fun other otherMem =>
          balanced other (List.mem_cons_of_mem declaration otherMem))
          block others

theorem Passes.isBalanced {options : Options} {declaration : Declaration}
    {signature : String} (passes : Passes options declaration)
    (skips : options.skipUnbalanced = true)
    (signed : declaration.signature = some signature) :
    isBalanced signature = true := by
  obtain ⟨-, -, other, otherMem, balance⟩ := passes
  obtain rfl : signature = other := Option.some.inj (signed.symm.trans otherMem)
  exact balance skips

/-- Whatever a declaration prints is balanced. -/
theorem isBalanced_renderDeclaration {options : Options}
    (skips : options.skipUnbalanced = true)
    (markBalanced : isBalanced options.indentMark = true)
    {declaration : Declaration} (texts : TextsBalanced declaration) :
    ∀ text ∈ (renderDeclaration options declaration).output,
      isBalanced text = true := by
  induction declaration using Declaration.memberInduction with
  | node declaration ih =>
      obtain ⟨documentation, elements, members⟩ := texts
      have comments := isBalanced_commentsOf documentation
      have body : ∀ block ∈ (renderForest options declaration.children).output,
          isBalanced block = true :=
        isBalanced_of_mem_renderForest fun member memberMem =>
          ih member memberMem (members member memberMem)
      intro text textMem
      cases fate options declaration with
      | transparent kindless =>
          rw [renderDeclaration_of_kindless options kindless] at textMem
          obtain rfl := Option.some.inj textMem
          exact isBalanced_joinRows body
      | elements group =>
          rw [renderDeclaration_of_group options group] at textMem
          obtain rfl := Option.some.inj textMem
          exact isBalanced_elementLines (elements group)
      | belowLevel below =>
          rw [renderDeclaration_of_belowLevel below] at textMem
          cases textMem
      | unsigned unsigned kindEq =>
          rw [renderDeclaration_of_unsigned unsigned kindEq] at textMem
          cases textMem
      | unbalanced unbalanced signed =>
          rw [renderDeclaration_of_unbalanced unbalanced signed] at textMem
          cases textMem
      | container passes signed hasBody =>
          rw [renderDeclaration_of_container passes signed hasBody] at textMem
          obtain rfl := Option.some.inj textMem
          exact isBalanced_container markBalanced comments
            (passes.isBalanced skips signed) body
      | leaf passes signed bare =>
          rw [renderDeclaration_of_leaf passes signed bare] at textMem
          obtain rfl := Option.some.inj textMem
          exact isBalanced_leaf comments (passes.isBalanced skips signed)

theorem isBalanced_assemble {blocks : List String} {moduleName : String}
    (nameBalanced : isBalanced moduleName = true)
    (blocksBalanced : ∀ block ∈ blocks, isBalanced block = true) :
    isBalanced (Interface.assemble blocks moduleName) = true := by
  have keyword : isBalanced "import " = true := by decide
  have lineFeeds : isBalanced "\n\n" = true := by decide
  exact isBalanced_append
    (isBalanced_append (isBalanced_append keyword nameBalanced) lineFeeds)
    (isBalanced_joinRows blocksBalanced)

/-- An interface without unbalanced declarations is balanced, block by block
and as a whole, at every minimum level. -/
theorem interface_balanced {options : Options} {forest : Forest}
    {moduleName : String} (skips : options.skipUnbalanced = true)
    (markBalanced : isBalanced options.indentMark = true)
    (nameBalanced : isBalanced moduleName = true)
    (texts : ∀ declaration ∈ forest, TextsBalanced declaration) :
    (∀ block ∈ blocks options forest, isBalanced block = true) ∧
      isBalanced (Interface.assemble (blocks options forest) moduleName) =
        true := by
  have blocksBalanced : ∀ block ∈ blocks options forest,
      isBalanced block = true :=
    isBalanced_of_mem_renderForest fun declaration declarationMem =>
      isBalanced_renderDeclaration skips markBalanced
        (texts declaration declarationMem)
  exact ⟨blocksBalanced, isBalanced_assemble nameBalanced blocksBalanced⟩

/-- A public enum whose documentation opens a bracket in one row and closes it
in another, with a group of elements and a member whose signature was cut off. -/
def documentedEnum : Declaration :=
  ⟨some "source.lang.swift.decl.enum", some "Shape", some "public",
    some "Shapes (all\n\nof them).", some "public enum Shape",
    [⟨some Declaration.enumCaseKind, none, none, none, none,
        [⟨some "source.lang.swift.decl.enumelement", some "circle(radius:)",
          none, none, none, []⟩]⟩,
      ⟨some "source.lang.swift.decl.function.method.instance", some "scale",
        some "public", none, some "public func scale(_ factors: [Int", []⟩]⟩

/-- The mark stands between the braces of the enum and holds brackets. -/
theorem interface_balanced_documentedEnum :
    (∀ declaration ∈ [documentedEnum], TextsBalanced declaration) ∧
      isBalanced "[]" = true ∧ isBalanced "Shapes\x7b\x7d" = true ∧
        (∀ block ∈ blocks ⟨.publicAccess, true, "[]"⟩ [documentedEnum],
          isBalanced block = true) ∧
        isBalanced (Interface.assemble
          (blocks ⟨.publicAccess, true, "[]"⟩ [documentedEnum])
          "Shapes\x7b\x7d") = true := by
  have element : TextsBalanced ⟨some "source.lang.swift.decl.enumelement",
      some "circle(radius:)", none, none, none, []⟩ :=
    .node (by simp) (by decide) (by simp)
  have group : TextsBalanced ⟨some Declaration.enumCaseKind, none, none, none,
      none, [⟨some "source.lang.swift.decl.enumelement",
        some "circle(radius:)", none, none, none, []⟩]⟩ := by
    refine .node (by simp) ?_ (by simpa using element)
    simp only [List.mem_singleton, forall_eq]
    decide
  have function : TextsBalanced
      ⟨some "source.lang.swift.decl.function.method.instance", some "scale",
        some "public", none, some "public func scale(_ factors: [Int", []⟩ :=
    .node (by simp) (by decide) (by simp)
  have texts : ∀ declaration ∈ [documentedEnum], TextsBalanced declaration := by
    simp only [List.mem_singleton, forall_eq]
    refine .node ?_ (by decide) ?_
    · intro text textMem
      obtain rfl := Option.some.inj textMem
      decide
    · simp only [documentedEnum, List.mem_cons, List.not_mem_nil, or_false]
      rintro member (rfl | rfl)
      · exact group
      · exact function
  have markBalanced : isBalanced "[]" = true := by decide
  have nameBalanced : isBalanced "Shapes\x7b\x7d" = true := by decide
  exact ⟨texts, markBalanced, nameBalanced,
    interface_balanced rfl markBalanced nameBalanced texts⟩

end Render

end SwiftInterface
