import SwiftInterface.Proofs.Render.Fate

/-!
# Positions in a forest

A declaration is named by its path, the indices of children from the top of
the forest down to it.  The renderer reaches a declaration when every proper
ancestor lets its members through.  This file states reaching by ancestors
alone, without a walk, and then lists the reached declarations by a walk in
document order: a declaration before its members, and siblings in order.  This
is the lexicographic order of paths.
-/

namespace SwiftInterface

/-- The declaration at a path. -/
def Forest.at? : Forest → List Nat → Option Declaration
  | _, [] => none
  | forest, [index] => forest[index]?
  | forest, index :: next :: path =>
      forest[index]?.bind fun declaration =>
        Forest.at? declaration.children (next :: path)

theorem Forest.at?_cons (forest : Forest) (index : Nat) {path : List Nat}
    (nonempty : path ≠ []) :
    forest.at? (index :: path) =
      forest[index]?.bind fun declaration =>
        Forest.at? declaration.children path := by
  cases path with
  | nil => exact absurd rfl nonempty
  | cons next path => rfl

/-- Every ancestor of a declaration is a declaration. -/
theorem Forest.exists_at_of_prefix {forest : Forest} {above path : List Nat}
    {declaration : Declaration} (found : forest.at? path = some declaration)
    (isPrefix : above <+: path) (nonempty : above ≠ []) :
    ∃ ancestor, forest.at? above = some ancestor := by
  obtain ⟨below, rfl⟩ := isPrefix
  induction above generalizing forest with
  | nil => exact absurd rfl nonempty
  | cons index above ih =>
      by_cases last : above = []
      · subst last
        by_cases noBelow : below = []
        · subst noBelow
          exact ⟨declaration, found⟩
        · rw [List.singleton_append, forest.at?_cons index noBelow] at found
          obtain ⟨ancestor, ancestorFound, -⟩ := Option.bind_eq_some_iff.mp found
          exact ⟨ancestor, ancestorFound⟩
      · rw [List.cons_append, forest.at?_cons index (by simp [last])] at found
        obtain ⟨parent, parentFound, found⟩ := Option.bind_eq_some_iff.mp found
        obtain ⟨ancestor, ancestorFound⟩ := ih last found
        refine ⟨ancestor, ?_⟩
        rw [forest.at?_cons index last, parentFound]
        exact ancestorFound

namespace Render

mutual

/-- The renderer reaches the declaration at a path: there is one, and every
proper ancestor is open. -/
inductive Reached (options : Options) (forest : Forest) : List Nat → Prop
  | intro {path : List Nat} {declaration : Declaration}
      (found : forest.at? path = some declaration)
      (ancestors : ∀ above, above ≠ [] → above <+: path → above ≠ path →
        Opened options forest above) :
      Reached options forest path

/-- The declaration at a path lets its members through: it has no kind, or it
is emitted and of a container kind. -/
inductive Opened (options : Options) (forest : Forest) : List Nat → Prop
  | transparent {path : List Nat} {declaration : Declaration}
      (found : forest.at? path = some declaration)
      (kindless : declaration.kind = none) : Opened options forest path
  | container {path : List Nat} {declaration : Declaration}
      (found : forest.at? path = some declaration)
      (emitted : Emitted options forest path)
      (isContainer : declaration.isContainer = true) :
      Opened options forest path

/-- The declaration at a path is emitted: it is reached and passes all
tests. -/
inductive Emitted (options : Options) (forest : Forest) : List Nat → Prop
  | intro {path : List Nat} {declaration : Declaration}
      (found : forest.at? path = some declaration)
      (reached : Reached options forest path)
      (passes : Passes options declaration) : Emitted options forest path

end

/-- What a declaration needs by itself to let its members through. -/
def Opens (options : Options) (declaration : Declaration) : Prop :=
  declaration.kind = none ∨
    Passes options declaration ∧ declaration.isContainer = true

instance (options : Options) : DecidablePred (Opens options) :=
  fun _ => inferInstanceAs (Decidable (_ ∨ _))

theorem Reached.exists_at {options : Options} {forest : Forest}
    {path : List Nat} (reached : Reached options forest path) :
    ∃ declaration, forest.at? path = some declaration := by
  cases reached with
  | intro found ancestors => exact ⟨_, found⟩

theorem Opened.opens {options : Options} {forest : Forest} {path : List Nat}
    {declaration : Declaration} (opened : Opened options forest path)
    (found : forest.at? path = some declaration) :
    Opens options declaration := by
  cases opened with
  | transparent otherFound kindless =>
      obtain rfl := Option.some.inj (found.symm.trans otherFound)
      exact Or.inl kindless
  | container otherFound emitted isContainer =>
      obtain rfl := Option.some.inj (found.symm.trans otherFound)
      cases emitted with
      | intro emittedFound reached passes =>
          obtain rfl := Option.some.inj (found.symm.trans emittedFound)
          exact Or.inr ⟨passes, isContainer⟩

theorem opened_of_reached {options : Options} {forest : Forest}
    {path : List Nat} {declaration : Declaration}
    (reached : Reached options forest path)
    (found : forest.at? path = some declaration)
    (opens : Opens options declaration) : Opened options forest path := by
  rcases opens with kindless | ⟨passes, isContainer⟩
  · exact .transparent found kindless
  · exact .container found (.intro found reached passes) isContainer

theorem emitted_iff {options : Options} {forest : Forest} {path : List Nat} :
    Emitted options forest path ↔
      Reached options forest path ∧
        ∃ declaration, forest.at? path = some declaration ∧
          Passes options declaration := by
  constructor
  · intro emitted
    cases emitted with
    | intro found reached passes => exact ⟨reached, _, found, passes⟩
  · rintro ⟨reached, declaration, found, passes⟩
    exact .intro found reached passes

theorem length_lt_of_proper {above path : List Nat} (isPrefix : above <+: path)
    (proper : above ≠ path) : above.length < path.length := by
  have bounded := isPrefix.length_le
  have differs : above.length ≠ path.length :=
    fun sameLength => proper (isPrefix.eq_of_length sameLength)
  omega

/-- Ancestors that would let their members through do so, because their own
ancestors are among them. -/
theorem reached_of_ancestors {options : Options} {forest : Forest}
    {path : List Nat} {declaration : Declaration}
    (found : forest.at? path = some declaration)
    (ancestors : ∀ above ancestor, above <+: path → above ≠ path →
      forest.at? above = some ancestor → Opens options ancestor) :
    Reached options forest path := by
  refine .intro found fun above nonempty isPrefix proper => ?_
  have shorter := length_lt_of_proper isPrefix proper
  obtain ⟨ancestor, ancestorFound⟩ :=
    Forest.exists_at_of_prefix found isPrefix nonempty
  have reached : Reached options forest above := by
    refine reached_of_ancestors ancestorFound ?_
    intro further other furtherPrefix furtherProper otherFound
    have furtherShorter := length_lt_of_proper furtherPrefix furtherProper
    refine ancestors further other (furtherPrefix.trans isPrefix) ?_ otherFound
    rintro rfl
    omega
  exact opened_of_reached reached ancestorFound
    (ancestors above ancestor isPrefix proper ancestorFound)
termination_by path.length

/-- Reaching only depends on what each proper ancestor needs by itself. -/
theorem reached_iff {options : Options} {forest : Forest} {path : List Nat} :
    Reached options forest path ↔
      (∃ declaration, forest.at? path = some declaration) ∧
        ∀ above ancestor, above <+: path → above ≠ path →
          forest.at? above = some ancestor → Opens options ancestor := by
  constructor
  · intro reached
    refine ⟨reached.exists_at, ?_⟩
    intro above ancestor isPrefix proper ancestorFound
    cases reached with
    | intro found ancestors =>
        have nonempty : above ≠ [] := by
          rintro rfl
          cases ancestorFound
        exact (ancestors above nonempty isPrefix proper).opens ancestorFound
  · rintro ⟨⟨declaration, found⟩, ancestors⟩
    exact reached_of_ancestors found ancestors

theorem reached_singleton {options : Options} {forest : Forest}
    {index : Nat} :
    Reached options forest [index] ↔
      ∃ declaration, forest[index]? = some declaration := by
  refine ⟨Reached.exists_at, fun found => reached_iff.mpr ⟨found, ?_⟩⟩
  intro above ancestor isPrefix proper ancestorFound
  rcases List.prefix_cons_iff.mp isPrefix with rfl | ⟨tail, rfl, tailPrefix⟩
  · cases ancestorFound
  · exact absurd (by rw [List.prefix_nil.mp tailPrefix]) proper

/-- A member is reached when its parent is open and it is reached among the
members. -/
theorem reached_cons {options : Options} {forest : Forest} {index : Nat}
    {path : List Nat} (nonempty : path ≠ []) :
    Reached options forest (index :: path) ↔
      ∃ declaration, forest[index]? = some declaration ∧
        Opens options declaration ∧
          Reached options declaration.children path := by
  constructor
  · intro reached
    obtain ⟨⟨found, foundAt⟩, ancestors⟩ := reached_iff.mp reached
    rw [forest.at?_cons index nonempty] at foundAt
    obtain ⟨parent, parentFound, foundAt⟩ := Option.bind_eq_some_iff.mp foundAt
    refine ⟨parent, parentFound, ?_, reached_iff.mpr ⟨⟨found, foundAt⟩, ?_⟩⟩
    · exact ancestors [index] parent
        (by simp) (by simpa using nonempty.symm) parentFound
    · intro above ancestor isPrefix proper ancestorFound
      have aboveNonempty : above ≠ [] := by
        rintro rfl
        cases ancestorFound
      refine ancestors (index :: above) ancestor
        ((List.prefix_cons_inj index).mpr isPrefix) (by simpa using proper) ?_
      rw [forest.at?_cons index aboveNonempty, parentFound]
      exact ancestorFound
  · rintro ⟨parent, parentFound, opens, reached⟩
    obtain ⟨⟨found, foundAt⟩, ancestors⟩ := reached_iff.mp reached
    refine reached_iff.mpr ⟨⟨found, ?_⟩, ?_⟩
    · rw [forest.at?_cons index nonempty, parentFound]
      exact foundAt
    · intro above ancestor isPrefix proper ancestorFound
      rcases List.prefix_cons_iff.mp isPrefix with rfl | ⟨tail, rfl, tailPrefix⟩
      · cases ancestorFound
      by_cases atParent : tail = []
      · subst atParent
        obtain rfl := Option.some.inj (parentFound.symm.trans ancestorFound)
        exact opens
      · rw [forest.at?_cons index atParent, parentFound] at ancestorFound
        exact ancestors tail ancestor tailPrefix (by simpa using proper)
          ancestorFound

mutual

/-- The declarations reached from a declaration down, with their paths below
it, in document order. -/
def walkDeclaration (options : Options) :
    Declaration → List (List Nat × Declaration)
  | ⟨kind, name, accessibility, documentation, signature, children⟩ =>
      ([], ⟨kind, name, accessibility, documentation, signature, children⟩) ::
        if Opens options
            ⟨kind, name, accessibility, documentation, signature, children⟩ then
          walkForest options 0 children
        else []
termination_by structural declaration => declaration

/-- The declarations reached from siblings down, with their paths; the first
sibling has the index `start`. -/
def walkForest (options : Options) (start : Nat) :
    Forest → List (List Nat × Declaration)
  | [] => []
  | declaration :: rest =>
      (walkDeclaration options declaration).map
          (fun entry => (start :: entry.1, entry.2)) ++
        walkForest options (start + 1) rest
termination_by structural forest => forest

end

theorem walkDeclaration_eq (options : Options) (declaration : Declaration) :
    walkDeclaration options declaration =
      ([], declaration) ::
        if Opens options declaration then
          walkForest options 0 declaration.children
        else [] := by
  cases declaration with
  | mk kind name accessibility documentation signature children =>
      rw [walkDeclaration]

theorem mem_walkForest {options : Options} {start : Nat} {forest : Forest}
    {path : List Nat} {found : Declaration} :
    (path, found) ∈ walkForest options start forest ↔
      ∃ index tail declaration, path = (start + index) :: tail ∧
        forest[index]? = some declaration ∧
          (tail, found) ∈ walkDeclaration options declaration := by
  induction forest generalizing start with
  | nil => simp [walkForest]
  | cons first rest ih =>
      rw [walkForest, List.mem_append, List.mem_map, ih]
      constructor
      · rintro (⟨⟨tail, found⟩, mem, equal⟩ |
          ⟨index, tail, other, rfl, otherAt, mem⟩)
        · cases equal
          exact ⟨0, tail, first, rfl, rfl, mem⟩
        · refine ⟨index + 1, tail, other, ?_, otherAt, mem⟩
          rw [Nat.add_right_comm, Nat.add_assoc]
      · rintro ⟨index, tail, other, rfl, otherAt, mem⟩
        cases index with
        | zero =>
            obtain rfl : first = other := Option.some.inj otherAt
            exact Or.inl ⟨(tail, found), mem, rfl⟩
        | succ index =>
            refine Or.inr ⟨index, tail, other, ?_, otherAt, mem⟩
            rw [Nat.add_right_comm, Nat.add_assoc]

theorem ne_nil_of_mem_walkForest {options : Options} {start : Nat}
    {forest : Forest} {path : List Nat} {found : Declaration}
    (mem : (path, found) ∈ walkForest options start forest) : path ≠ [] := by
  obtain ⟨index, tail, declaration, rfl, -⟩ := mem_walkForest.mp mem
  simp

theorem mem_walkDeclaration_nil {options : Options}
    {declaration found : Declaration} :
    ([], found) ∈ walkDeclaration options declaration ↔
      found = declaration := by
  have notBelow : ([], found) ∉ walkForest options 0 declaration.children :=
    fun mem => ne_nil_of_mem_walkForest mem rfl
  rw [walkDeclaration_eq, List.mem_cons]
  split <;> simp [notBelow]

theorem mem_walkDeclaration_of_ne_nil {options : Options}
    {declaration found : Declaration} {path : List Nat}
    (nonempty : path ≠ []) :
    (path, found) ∈ walkDeclaration options declaration ↔
      Opens options declaration ∧
        (path, found) ∈ walkForest options 0 declaration.children := by
  rw [walkDeclaration_eq, List.mem_cons]
  by_cases opens : Opens options declaration
  · simp [opens, nonempty]
  · simp [opens, nonempty]

/-- The walk lists the reached declarations and no others. -/
theorem mem_walkForest_iff {options : Options} {forest : Forest}
    {path : List Nat} {found : Declaration} :
    (path, found) ∈ walkForest options 0 forest ↔
      Reached options forest path ∧ forest.at? path = some found := by
  induction path generalizing forest with
  | nil =>
      constructor
      · intro mem
        exact absurd rfl (ne_nil_of_mem_walkForest mem)
      · rintro ⟨-, foundAt⟩
        cases foundAt
  | cons index path ih =>
      have here : (index :: path, found) ∈ walkForest options 0 forest ↔
          ∃ declaration, forest[index]? = some declaration ∧
            (path, found) ∈ walkDeclaration options declaration := by
        rw [mem_walkForest]
        constructor
        · rintro ⟨other, tail, declaration, pathEq, declarationAt, mem⟩
          rw [Nat.zero_add] at pathEq
          cases pathEq
          exact ⟨declaration, declarationAt, mem⟩
        · rintro ⟨declaration, declarationAt, mem⟩
          exact ⟨index, path, declaration, by rw [Nat.zero_add],
            declarationAt, mem⟩
      rw [here]
      by_cases last : path = []
      · subst last
        simp only [mem_walkDeclaration_nil, reached_singleton, Forest.at?]
        constructor
        · rintro ⟨declaration, declarationAt, rfl⟩
          exact ⟨⟨found, declarationAt⟩, declarationAt⟩
        · rintro ⟨-, foundAt⟩
          exact ⟨found, foundAt, rfl⟩
      · simp only [mem_walkDeclaration_of_ne_nil last, ih, reached_cons last,
          forest.at?_cons index last]
        constructor
        · rintro ⟨declaration, declarationAt, opens, reached, foundAt⟩
          refine ⟨⟨declaration, declarationAt, opens, reached⟩, ?_⟩
          rw [declarationAt]
          exact foundAt
        · rintro ⟨⟨declaration, declarationAt, opens, reached⟩, foundAt⟩
          rw [declarationAt] at foundAt
          exact ⟨declaration, declarationAt, opens, reached, foundAt⟩

/-- Siblings are walked in document order when each of them is. -/
theorem walkForest_pairwise_of_members {options : Options} {forest : Forest}
    (start : Nat)
    (members : ∀ declaration ∈ forest,
      (walkDeclaration options declaration).Pairwise
        fun first second => first.1 < second.1) :
    (walkForest options start forest).Pairwise
      fun first second => first.1 < second.1 := by
  induction forest generalizing start with
  | nil =>
      rw [walkForest]
      exact .nil
  | cons declaration forest ih =>
      rw [walkForest, List.pairwise_append, List.pairwise_map]
      refine ⟨?_, ?_, ?_⟩
      · exact (members declaration (by simp)).imp fun before =>
          List.cons_lt_cons_iff.mpr (Or.inr ⟨rfl, before⟩)
      · exact ih (start + 1) fun other otherMem =>
          members other (List.mem_cons_of_mem declaration otherMem)
      · rintro first firstMem ⟨path, found⟩ secondMem
        obtain ⟨entry, -, rfl⟩ := List.mem_map.mp firstMem
        obtain ⟨index, tail, other, rfl, -⟩ := mem_walkForest.mp secondMem
        exact List.cons_lt_cons_iff.mpr (Or.inl (by omega))

theorem walkDeclaration_pairwise (options : Options)
    (declaration : Declaration) :
    (walkDeclaration options declaration).Pairwise
      fun first second => first.1 < second.1 := by
  induction declaration using Declaration.memberInduction with
  | node declaration members =>
      rw [walkDeclaration_eq, List.pairwise_cons]
      split
      · refine ⟨?_, walkForest_pairwise_of_members 0 members⟩
        rintro ⟨path, found⟩ mem
        obtain ⟨index, tail, other, rfl, -⟩ := mem_walkForest.mp mem
        exact List.nil_lt_cons _ _
      · simp

/-- The walk lists paths in document order. -/
theorem walkForest_pairwise (options : Options) (start : Nat)
    (forest : Forest) :
    (walkForest options start forest).Pairwise
      fun first second => first.1 < second.1 :=
  walkForest_pairwise_of_members start
    fun declaration _ => walkDeclaration_pairwise options declaration

end Render

end SwiftInterface
