import SwiftInterface.Proofs.Render.Fate

/-!
# Filtering before rendering

The tests of a renderer can be made beforehand.  A pass over the forest erases
the signature of every declaration that some options filter out; rendering
what is left under other options prints what one rendering under the stricter
of both would print, and drops as many declarations.  Which of the three tests
drops a declaration may change, so only the sum of the dropped ones is kept.
Erased declarations stay in their place: a container whose members are all
filtered out still has members, and so keeps its braces.
-/

namespace SwiftInterface

namespace Render

/-- The options that drop what either of two options drops.  Bodies are
indented as the second ones say. -/
def Options.strictest (first second : Options) : Options where
  minimumLevel :=
    if first.minimumLevel ≤ second.minimumLevel then second.minimumLevel
    else first.minimumLevel
  skipUnbalanced := first.skipUnbalanced || second.skipUnbalanced
  indentMark := second.indentMark

theorem Options.strictest_minimumLevel_le {first second : Options}
    {level : AccessLevel} :
    (first.strictest second).minimumLevel ≤ level ↔
      first.minimumLevel ≤ level ∧ second.minimumLevel ≤ level := by
  rw [strictest]
  split
  case isTrue ordered =>
      constructor
      · intro above
        exact ⟨AccessLevel.le_trans ordered above, above⟩
      · exact And.right
  case isFalse ordered =>
      have reversed : second.minimumLevel ≤ first.minimumLevel :=
        Nat.le_of_not_le ordered
      constructor
      · intro above
        exact ⟨above, AccessLevel.le_trans reversed above⟩
      · exact And.left

/-- The declaration lies below the minimum level, or the brackets of its
signature count and are unbalanced. -/
def Filtered (options : Options) (accessibility signature : Option String) :
    Prop :=
  AccessLevel.parse accessibility < options.minimumLevel ∨
    options.skipUnbalanced = true ∧
      ∃ header ∈ signature, isBalanced header = false

instance (options : Options) (accessibility signature : Option String) :
    Decidable (Filtered options accessibility signature) :=
  inferInstanceAs (Decidable (_ ∨ _ ∧ _))

mutual

/-- Erase the signatures of a declaration and of all declarations nested in
it, at any depth, that the options filter out. -/
def eraseFiltered (options : Options) : Declaration → Declaration
  | ⟨kind, name, accessibility, documentation, signature, children⟩ =>
      { kind, name, accessibility, documentation,
        signature :=
          if Filtered options accessibility signature then none else signature
        children := eraseForest options children }
termination_by structural declaration => declaration

/-- Erase the signatures in a forest that the options filter out. -/
def eraseForest (options : Options) : Forest → Forest
  | [] => []
  | declaration :: rest =>
      eraseFiltered options declaration :: eraseForest options rest
termination_by structural forest => forest

end

theorem eraseForest_eq_map (options : Options) (forest : Forest) :
    eraseForest options forest = forest.map (eraseFiltered options) := by
  induction forest with
  | nil => rw [eraseForest, List.map_nil]
  | cons declaration forest ih => rw [eraseForest, List.map_cons, ih]

/-- Erasing changes signatures and members only. -/
theorem eraseFiltered_eq (options : Options) (declaration : Declaration) :
    eraseFiltered options declaration =
      { declaration with
        signature :=
          if Filtered options declaration.accessibility declaration.signature
          then none else declaration.signature
        children := declaration.children.map (eraseFiltered options) } := by
  cases declaration with
  | mk kind name accessibility documentation signature children =>
      rw [eraseFiltered, eraseForest_eq_map]

@[simp]
theorem eraseFiltered_kind (options : Options) (declaration : Declaration) :
    (eraseFiltered options declaration).kind = declaration.kind := by
  rw [eraseFiltered_eq]

@[simp]
theorem eraseFiltered_name (options : Options) (declaration : Declaration) :
    (eraseFiltered options declaration).name = declaration.name := by
  rw [eraseFiltered_eq]

@[simp]
theorem eraseFiltered_accessLevel (options : Options)
    (declaration : Declaration) :
    (eraseFiltered options declaration).accessLevel =
      declaration.accessLevel := by
  rw [eraseFiltered_eq]
  rfl

@[simp]
theorem eraseFiltered_documentation (options : Options)
    (declaration : Declaration) :
    (eraseFiltered options declaration).documentation =
      declaration.documentation := by
  rw [eraseFiltered_eq]

@[simp]
theorem eraseFiltered_children (options : Options) (declaration : Declaration) :
    (eraseFiltered options declaration).children =
      declaration.children.map (eraseFiltered options) := by
  rw [eraseFiltered_eq]

theorem eraseFiltered_signature_eq_some {options : Options}
    {declaration : Declaration} {signature : String} :
    (eraseFiltered options declaration).signature = some signature ↔
      declaration.signature = some signature ∧
        options.minimumLevel ≤ declaration.accessLevel ∧
          (options.skipUnbalanced = true → isBalanced signature = true) := by
  rw [eraseFiltered_eq]
  by_cases filtered :
      Filtered options declaration.accessibility declaration.signature
  · simp only [filtered, if_true, reduceCtorEq, false_iff]
    rintro ⟨signed, level, balance⟩
    rcases filtered with below | ⟨skips, header, headerMem, notBalanced⟩
    · exact AccessLevel.not_lt.mpr level below
    · obtain rfl : signature = header :=
        Option.some.inj (signed.symm.trans headerMem)
      simp [balance skips] at notBalanced
  · simp only [filtered, if_false, iff_self_and]
    intro signed
    have level := AccessLevel.not_lt.mp fun below => filtered (.inl below)
    refine ⟨level, fun skips => ?_⟩
    cases balanced : isBalanced signature with
    | true => rfl
    | false => exact absurd (.inr ⟨skips, signature, signed, balanced⟩) filtered

theorem tested_eraseFiltered {options : Options} {declaration : Declaration} :
    (eraseFiltered options declaration).Tested ↔ declaration.Tested := by
  simp [Declaration.Tested, Declaration.isEnumCaseGroup]

theorem hasBody_eraseFiltered {options : Options} {declaration : Declaration} :
    (eraseFiltered options declaration).HasBody ↔ declaration.HasBody := by
  simp [Declaration.HasBody, Declaration.isContainer]

/-- What is left passes the second tests exactly if it passes both. -/
theorem passes_eraseFiltered {first second : Options}
    {declaration : Declaration} :
    Passes second (eraseFiltered first declaration) ↔
      Passes (first.strictest second) declaration := by
  simp only [Passes, tested_eraseFiltered, eraseFiltered_accessLevel,
    Option.mem_def, eraseFiltered_signature_eq_some,
    Options.strictest_minimumLevel_le]
  constructor
  · rintro ⟨tested, level, signature, ⟨signed, firstLevel, balance⟩, balance'⟩
    refine ⟨tested, ⟨firstLevel, level⟩, signature, signed, fun skips => ?_⟩
    rcases Bool.or_eq_true_iff.mp skips with skips | skips
    · exact balance skips
    · exact balance' skips
  · rintro ⟨tested, ⟨firstLevel, level⟩, signature, signed, balance⟩
    exact ⟨tested, level, signature,
      ⟨signed, firstLevel, fun skips => balance (by simp [Options.strictest, skips])⟩,
      fun skips => balance (by simp [Options.strictest, skips])⟩

/-- The number of declarations that were dropped, for whatever reason. -/
def Counts.dropped (counts : Counts) : Nat :=
  counts.droppedAccess + counts.droppedSignature + counts.droppedUnbalanced

theorem Counts.add_dropped (first second : Counts) :
    (first + second).dropped = first.dropped + second.dropped := by
  simp only [dropped, add_droppedAccess, add_droppedSignature,
    add_droppedUnbalanced]
  omega

/-- Two renderings with the same output that print and drop equally many
declarations. -/
structure SameEffect {α : Type} (first second : Rendering α) : Prop where
  output : first.output = second.output
  rendered : first.counts.rendered = second.counts.rendered
  dropped : first.counts.dropped = second.counts.dropped

theorem SameEffect.symm {α : Type} {first second : Rendering α}
    (same : SameEffect first second) : SameEffect second first :=
  ⟨same.output.symm, same.rendered.symm, same.dropped.symm⟩

theorem SameEffect.trans {α : Type} {first second third : Rendering α}
    (same : SameEffect first second) (other : SameEffect second third) :
    SameEffect first third :=
  ⟨same.output.trans other.output, same.rendered.trans other.rendered,
    same.dropped.trans other.dropped⟩

/-- Whichever test a declaration fails, its loss has the same effect. -/
theorem renderDeclaration_of_not_passes {options : Options}
    {declaration : Declaration} (tested : declaration.Tested)
    (fails : ¬ Passes options declaration) :
    SameEffect (renderDeclaration options declaration)
      { output := none, counts := { droppedAccess := 1 } } := by
  cases fate options declaration with
  | transparent kindless =>
      exact absurd tested (Declaration.not_tested_of_kindless kindless)
  | elements group =>
      exact absurd tested (Declaration.not_tested_of_group group)
  | belowLevel below =>
      rw [renderDeclaration_of_belowLevel below]
      exact ⟨rfl, rfl, rfl⟩
  | unsigned unsigned kindEq =>
      rw [renderDeclaration_of_unsigned unsigned kindEq]
      exact ⟨rfl, rfl, rfl⟩
  | unbalanced unbalanced signed =>
      rw [renderDeclaration_of_unbalanced unbalanced signed]
      exact ⟨rfl, rfl, rfl⟩
  | container passes signed hasBody => exact absurd passes fails
  | leaf passes signed bare => exact absurd passes fails

theorem elementLines_eraseFiltered (options : Options)
    (elements : List Declaration) :
    elementLines (elements.map (eraseFiltered options)) =
      elementLines elements := by
  rw [elementLines, elementLines, List.filterMap_map]
  congr 2
  funext element
  simp [elementLine?]

/-- Siblings have the same effect when they have it one by one. -/
theorem renderForest_sameEffect_of_members {first second : Options}
    {forest : Forest}
    (members : ∀ declaration ∈ forest,
      SameEffect (renderDeclaration second (eraseFiltered first declaration))
        (renderDeclaration (first.strictest second) declaration)) :
    SameEffect (renderForest second (forest.map (eraseFiltered first)))
      (renderForest (first.strictest second) forest) := by
  induction forest with
  | nil =>
      rw [List.map_nil, renderForest_nil, renderForest_nil]
      exact ⟨rfl, rfl, rfl⟩
  | cons declaration forest ih =>
      have head := members declaration (by simp)
      have tail := ih fun other otherMem =>
        members other (List.mem_cons_of_mem declaration otherMem)
      rw [List.map_cons, renderForest_cons, renderForest_cons]
      constructor
      · simp only [head.output, tail.output]
      · simp only [Counts.add_rendered, head.rendered, tail.rendered]
      · simp only [Counts.add_dropped, head.dropped, tail.dropped]

/-- A declaration that passes both tests keeps its signature and prints the
same header around the same body. -/
theorem Passes.sameEffect {first second : Options} {declaration : Declaration}
    (passes : Passes (first.strictest second) declaration)
    (body : SameEffect
      (renderForest second (declaration.children.map (eraseFiltered first)))
      (renderForest (first.strictest second) declaration.children)) :
    SameEffect (renderDeclaration second (eraseFiltered first declaration))
      (renderDeclaration (first.strictest second) declaration) := by
  have erasedPasses := passes_eraseFiltered.mpr passes
  obtain ⟨signature, erasedSigned, -⟩ := erasedPasses.2.2
  have signed : declaration.signature = some signature :=
    (eraseFiltered_signature_eq_some.mp erasedSigned).1
  by_cases hasBody : declaration.HasBody
  · rw [renderDeclaration_of_container erasedPasses erasedSigned
        (hasBody_eraseFiltered.mpr hasBody),
      renderDeclaration_of_container passes signed hasBody,
      eraseFiltered_children, eraseFiltered_documentation]
    constructor
    · simp only [body.output, Options.strictest]
    · simp only [Counts.add_rendered, body.rendered]
    · simp only [Counts.add_dropped, body.dropped]
  · rw [renderDeclaration_of_leaf erasedPasses erasedSigned
        (mt hasBody_eraseFiltered.mp hasBody),
      renderDeclaration_of_leaf passes signed hasBody,
      eraseFiltered_documentation]
    exact ⟨rfl, rfl, rfl⟩

theorem renderDeclaration_eraseFiltered (first second : Options)
    (declaration : Declaration) :
    SameEffect (renderDeclaration second (eraseFiltered first declaration))
      (renderDeclaration (first.strictest second) declaration) := by
  induction declaration using Declaration.memberInduction with
  | node declaration members =>
      have body := renderForest_sameEffect_of_members members
      by_cases kindless : declaration.kind = none
      · have erasedKindless : (eraseFiltered first declaration).kind = none :=
          (eraseFiltered_kind first declaration).trans kindless
        rw [renderDeclaration_of_kindless second erasedKindless,
          renderDeclaration_of_kindless _ kindless, eraseFiltered_children]
        exact ⟨by rw [body.output], body.rendered, body.dropped⟩
      cases group : declaration.isEnumCaseGroup with
      | true =>
          have erasedGroup :
              (eraseFiltered first declaration).isEnumCaseGroup = true := by
            simpa [Declaration.isEnumCaseGroup] using group
          rw [renderDeclaration_of_group second erasedGroup,
            renderDeclaration_of_group _ group, eraseFiltered_children,
            elementLines_eraseFiltered]
          exact ⟨rfl, rfl, rfl⟩
      | false =>
          have tested : declaration.Tested := ⟨kindless, group⟩
          by_cases passes : Passes (first.strictest second) declaration
          · exact passes.sameEffect body
          · have erasedDropped := renderDeclaration_of_not_passes
              (tested_eraseFiltered.mpr tested)
              (mt passes_eraseFiltered.mp passes)
            have dropped := renderDeclaration_of_not_passes tested passes
            exact erasedDropped.trans dropped.symm

/-- Rendering a forest that was filtered before prints the blocks that one
rendering under the stricter of both options prints, and prints and drops as
many declarations.  The mark of the options that filter does not matter. -/
theorem blocks_eraseForest (first second : Options) (forest : Forest) :
    blocks second (eraseForest first forest) =
        blocks (first.strictest second) forest ∧
      (renderForest second (eraseForest first forest)).counts.rendered =
        (renderForest (first.strictest second) forest).counts.rendered ∧
      (renderForest second (eraseForest first forest)).counts.dropped =
        (renderForest (first.strictest second) forest).counts.dropped := by
  have same := renderForest_sameEffect_of_members
    fun declaration (_ : declaration ∈ forest) =>
      renderDeclaration_eraseFiltered first second declaration
  rw [← eraseForest_eq_map] at same
  exact ⟨same.output, same.rendered, same.dropped⟩

end Render

end SwiftInterface
