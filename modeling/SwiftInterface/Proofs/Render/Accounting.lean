import Mathlib.Data.List.Forall2
import Mathlib.Data.Set.Card
import SwiftInterface.Proofs.Render.Position
import SwiftInterface.Proofs.Render.Session

/-!
# Accounting by position

While it descends, the renderer adds up counts and collects messages.  This
file matches both with the positions of a forest: each count is the number of
paths of one kind, the four counts together make up the reached declarations
that are tested, and the messages name the withheld declarations in document
order.  The proof goes through the walk over reached declarations: what a
declaration adds to the account is its own entry and the accounts of the
members it lets through.
-/

namespace SwiftInterface

namespace Render

namespace Counts

theorem zero_add (counts : Counts) : ({} : Counts) + counts = counts := by
  ext <;> simp

theorem add_comm (first second : Counts) : first + second = second + first := by
  ext <;> simp [Nat.add_comm]

/-- The number of declarations that were tested. -/
def total (counts : Counts) : Nat :=
  counts.rendered + counts.droppedAccess + counts.droppedSignature +
    counts.droppedUnbalanced

end Counts

/-- How many declarations of a list meet each end. -/
def tally (options : Options) (declarations : List Declaration) : Counts where
  rendered := declarations.countP (Passes options ·)
  droppedAccess := declarations.countP (BelowLevel options ·)
  droppedSignature := declarations.countP (Unsigned options ·)
  droppedUnbalanced := declarations.countP (Unbalanced options ·)

/-- The drops that a declaration by itself leads to. -/
def dropsOf (options : Options) (declaration : Declaration) : List Drop :=
  if Unsigned options declaration then
    [.unsigned (declaration.kind.getD "") declaration.name]
  else if Unbalanced options declaration then
    [.unbalanced (declaration.signature.getD "")]
  else []

theorem tally_append (options : Options) (first second : List Declaration) :
    tally options (first ++ second) =
      tally options first + tally options second := by
  simp only [tally, List.countP_append]
  rfl

/-- What a single declaration adds to the account. -/
structure Entry (options : Options) (declaration : Declaration)
    (counts : Counts) (drops : List Drop) : Prop where
  tally_eq : tally options [declaration] = counts
  drops_eq : dropsOf options declaration = drops
  total_eq : counts.total = if declaration.Tested then 1 else 0

theorem entry_of_untested {declaration : Declaration} (options : Options)
    (untested : ¬ declaration.Tested) : Entry options declaration {} [] := by
  constructor
  · simp [tally, Passes, BelowLevel, Unsigned, Unbalanced, untested]
  · simp [dropsOf, Unsigned, Unbalanced, untested]
  · simp [Counts.total, untested]

theorem BelowLevel.entry {options : Options} {declaration : Declaration}
    (below : BelowLevel options declaration) :
    Entry options declaration { droppedAccess := 1 } [] := by
  obtain ⟨tested, lower⟩ := below
  have notReached : ¬ options.minimumLevel ≤ declaration.accessLevel :=
    fun level => AccessLevel.not_lt.mpr level lower
  constructor
  · simp [tally, Passes, BelowLevel, Unsigned, Unbalanced, tested, lower,
      notReached]
  · simp [dropsOf, Unsigned, Unbalanced, notReached]
  · simp [Counts.total, tested]

theorem Unsigned.entry {options : Options} {declaration : Declaration}
    {kind : String} (unsigned : Unsigned options declaration)
    (kindEq : declaration.kind = some kind) :
    Entry options declaration { droppedSignature := 1 }
      [.unsigned kind declaration.name] := by
  have drops : dropsOf options declaration =
      [.unsigned kind declaration.name] := by
    simp [dropsOf, unsigned, kindEq]
  obtain ⟨tested, level, signed⟩ := unsigned
  have notLower := AccessLevel.not_lt.mpr level
  constructor
  · simp [tally, Passes, BelowLevel, Unsigned, Unbalanced, tested, level,
      notLower, signed]
  · exact drops
  · simp [Counts.total, tested]

theorem Unbalanced.entry {options : Options} {declaration : Declaration}
    {signature : String} (unbalanced : Unbalanced options declaration)
    (signed : declaration.signature = some signature) :
    Entry options declaration { droppedUnbalanced := 1 }
      [.unbalanced signature] := by
  obtain ⟨tested, level, other, otherMem, skips, notBalanced⟩ := unbalanced
  obtain rfl : signature = other := Option.some.inj (signed.symm.trans otherMem)
  have notLower := AccessLevel.not_lt.mpr level
  constructor
  · simp [tally, Passes, BelowLevel, Unsigned, Unbalanced, tested, level,
      notLower, signed, skips, notBalanced]
  · simp [dropsOf, Unsigned, Unbalanced, tested, level, signed, skips,
      notBalanced]
  · simp [Counts.total, tested]

theorem Passes.entry {options : Options} {declaration : Declaration}
    (passes : Passes options declaration) :
    Entry options declaration { rendered := 1 } [] := by
  obtain ⟨tested, level, signature, signed, balance⟩ := passes
  have signed : declaration.signature = some signature := signed
  have notLower := AccessLevel.not_lt.mpr level
  constructor
  · simpa [tally, Passes, BelowLevel, Unsigned, Unbalanced, tested, level,
      notLower, signed] using balance
  · simpa [dropsOf, Unsigned, Unbalanced, tested, level, signed] using balance
  · simp [Counts.total, tested]

theorem Entry.not_passes {options : Options} {declaration : Declaration}
    {counts : Counts} {drops : List Drop}
    (entry : Entry options declaration counts drops)
    (notRendered : counts.rendered = 0) : ¬ Passes options declaration := by
  intro passes
  rw [← entry.tally_eq, passes.entry.tally_eq] at notRendered
  cases notRendered

/-- A tested declaration that is not emitted lets no members through. -/
theorem Entry.not_opens {options : Options} {declaration : Declaration}
    {counts : Counts} {drops : List Drop}
    (entry : Entry options declaration counts drops)
    (tested : declaration.Tested) (notRendered : counts.rendered = 0) :
    ¬ Opens options declaration := by
  rintro (kindless | ⟨passes, -⟩)
  · exact tested.1 kindless
  · exact entry.not_passes notRendered passes

/-- The account of a rendering is that of the declarations it walked over. -/
structure Accounted {α : Type} (options : Options) (rendering : Rendering α)
    (walked : List (List Nat × Declaration)) : Prop where
  counts_eq : rendering.counts = tally options (walked.map Prod.snd)
  drops_eq : rendering.drops = (walked.map Prod.snd).flatMap (dropsOf options)

/-- A declaration that lets no members through is accounted for by its own
entry. -/
theorem accounted_of_entry {options : Options} {declaration : Declaration}
    {rendering : Rendering (Option String)}
    (entry : Entry options declaration rendering.counts rendering.drops)
    (closed : Opens options declaration → declaration.children = []) :
    Accounted options rendering (walkDeclaration options declaration) := by
  have alone : walkDeclaration options declaration = [([], declaration)] := by
    rw [walkDeclaration_eq]
    split
    case isTrue opens => rw [closed opens, walkForest]
    case isFalse => rfl
  rw [alone]
  constructor
  · exact entry.tally_eq.symm
  · simp [entry.drops_eq]

/-- A declaration that lets its members through adds its own entry to their
account. -/
theorem accounted_of_opens {options : Options} {declaration : Declaration}
    {rendering : Rendering (Option String)} {counts : Counts}
    (opens : Opens options declaration)
    (entry : Entry options declaration counts [])
    (body : Accounted options (renderForest options declaration.children)
      (walkForest options 0 declaration.children))
    (counts_eq : rendering.counts =
      (renderForest options declaration.children).counts + counts)
    (drops_eq : rendering.drops =
      (renderForest options declaration.children).drops) :
    Accounted options rendering (walkDeclaration options declaration) := by
  rw [walkDeclaration_eq, if_pos opens]
  constructor
  · rw [counts_eq, body.counts_eq, ← entry.tally_eq, Counts.add_comm,
      ← tally_append]
    rfl
  · rw [drops_eq, body.drops_eq, List.map_cons, List.flatMap_cons,
      entry.drops_eq]
    rfl

theorem renderForest_accounted_of_members {options : Options}
    {forest : Forest} (start : Nat)
    (members : ∀ declaration ∈ forest,
      Accounted options (renderDeclaration options declaration)
        (walkDeclaration options declaration)) :
    Accounted options (renderForest options forest)
      (walkForest options start forest) := by
  induction forest generalizing start with
  | nil =>
      rw [renderForest_nil, walkForest]
      exact ⟨rfl, rfl⟩
  | cons declaration forest ih =>
      have first := members declaration (by simp)
      have others := ih (start + 1) fun other otherMem =>
        members other (List.mem_cons_of_mem declaration otherMem)
      have walked : (walkForest options start (declaration :: forest)).map
          Prod.snd = (walkDeclaration options declaration).map Prod.snd ++
            (walkForest options (start + 1) forest).map Prod.snd := by
        rw [walkForest, List.map_append, List.map_map]
        rfl
      rw [renderForest_cons]
      constructor
      · rw [walked, tally_append, first.counts_eq, others.counts_eq]
      · rw [walked, List.flatMap_append, first.drops_eq, others.drops_eq]

theorem renderDeclaration_accounted (options : Options)
    (declaration : Declaration) :
    Accounted options (renderDeclaration options declaration)
      (walkDeclaration options declaration) := by
  induction declaration using Declaration.memberInduction with
  | node declaration members =>
      have body := renderForest_accounted_of_members 0 members
      cases fate options declaration with
      | transparent kindless =>
          have untested := Declaration.not_tested_of_kindless kindless
          rw [renderDeclaration_of_kindless options kindless]
          exact accounted_of_opens (Or.inl kindless)
            (entry_of_untested options untested) body
            (by rw [Counts.add_comm, Counts.zero_add]) rfl
      | elements group =>
          have untested := Declaration.not_tested_of_group group
          rw [renderDeclaration_of_group options group]
          refine accounted_of_entry (entry_of_untested options untested)
            fun opens => ?_
          rcases opens with kindless | ⟨passes, -⟩
          · rw [Declaration.isEnumCaseGroup, kindless] at group
            cases group
          · exact absurd passes.1 untested
      | belowLevel below =>
          rw [renderDeclaration_of_belowLevel below]
          exact accounted_of_entry below.entry fun opens =>
            absurd opens (below.entry.not_opens below.1 rfl)
      | unsigned unsigned kindEq =>
          have entry := unsigned.entry kindEq
          rw [renderDeclaration_of_unsigned unsigned kindEq]
          exact accounted_of_entry entry fun opens =>
            absurd opens (entry.not_opens unsigned.1 rfl)
      | unbalanced unbalanced signed =>
          have entry := unbalanced.entry signed
          rw [renderDeclaration_of_unbalanced unbalanced signed]
          exact accounted_of_entry entry fun opens =>
            absurd opens (entry.not_opens unbalanced.1 rfl)
      | container passes signed hasBody =>
          rw [renderDeclaration_of_container passes signed hasBody]
          exact accounted_of_opens (Or.inr ⟨passes, hasBody.2⟩) passes.entry
            body rfl rfl
      | leaf passes signed bare =>
          rw [renderDeclaration_of_leaf passes signed bare]
          refine accounted_of_entry passes.entry fun opens => ?_
          rcases opens with kindless | ⟨-, isContainer⟩
          · exact absurd kindless passes.1.1
          · by_contra nonempty
            exact bare ⟨nonempty, isContainer⟩

theorem renderForest_accounted (options : Options) (forest : Forest) :
    Accounted options (renderForest options forest)
      (walkForest options 0 forest) :=
  renderForest_accounted_of_members 0
    fun declaration _ => renderDeclaration_accounted options declaration

theorem exists_entry (options : Options) (declaration : Declaration) :
    ∃ counts drops, Entry options declaration counts drops := by
  cases fate options declaration with
  | transparent kindless =>
      exact ⟨_, _, entry_of_untested options
        (Declaration.not_tested_of_kindless kindless)⟩
  | elements group =>
      exact ⟨_, _, entry_of_untested options
        (Declaration.not_tested_of_group group)⟩
  | belowLevel below => exact ⟨_, _, below.entry⟩
  | unsigned unsigned kindEq => exact ⟨_, _, unsigned.entry kindEq⟩
  | unbalanced unbalanced signed => exact ⟨_, _, unbalanced.entry signed⟩
  | container passes => exact ⟨_, _, passes.entry⟩
  | leaf passes => exact ⟨_, _, passes.entry⟩

/-- The four counts together make up the tested declarations. -/
theorem tally_total (options : Options) (declarations : List Declaration) :
    (tally options declarations).total =
      declarations.countP (Declaration.Tested ·) := by
  induction declarations with
  | nil => rfl
  | cons declaration declarations ih =>
      obtain ⟨counts, drops, entry⟩ := exists_entry options declaration
      have counted : tally options (declaration :: declarations) =
          counts + tally options declarations := by
        rw [← entry.tally_eq, ← tally_append]
        rfl
      have total := entry.total_eq
      rw [counted, List.countP_cons, ← ih]
      simp only [Counts.total, Counts.add_rendered, Counts.add_droppedAccess,
        Counts.add_droppedSignature, Counts.add_droppedUnbalanced,
        decide_eq_true_eq] at total ⊢
      omega

/-- Counting the entries that pass a test counts the keys they stand at. -/
theorem countP_eq_encard {Key Value : Type} {entries : List (Key × Value)}
    (distinct : (entries.map Prod.fst).Nodup) (test : Value → Prop)
    [DecidablePred test] :
    (((entries.map Prod.snd).countP (test ·) : Nat) : ℕ∞) =
      {key | ∃ value, (key, value) ∈ entries ∧ test value}.encard := by
  classical
  let kept := (entries.filter fun entry => test entry.2).map Prod.fst
  have keptDistinct : kept.Nodup :=
    distinct.sublist (List.filter_sublist.map Prod.fst)
  have keys : {key | ∃ value, (key, value) ∈ entries ∧ test value} =
      (kept.toFinset : Set Key) := by
    ext key
    simp [kept]
  have length : (entries.map Prod.snd).countP (test ·) = kept.length := by
    rw [List.countP_map, List.countP_eq_length_filter, List.length_map]
    rfl
  rw [keys, Set.encard_coe_eq_coe_finsetCard,
    List.toFinset_card_of_nodup keptDistinct, length]

/-- The paths of the reached declarations that meet a condition. -/
def reachedWhere (options : Options) (forest : Forest)
    (test : Declaration → Prop) : Set (List Nat) :=
  {path | Reached options forest path ∧
    ∃ declaration, forest.at? path = some declaration ∧ test declaration}

theorem countP_walkForest (options : Options) (forest : Forest)
    (test : Declaration → Prop) [DecidablePred test] :
    ((((walkForest options 0 forest).map Prod.snd).countP (test ·) : Nat) : ℕ∞) =
      (reachedWhere options forest test).encard := by
  have distinct : ((walkForest options 0 forest).map Prod.fst).Nodup := by
    rw [List.Nodup, List.pairwise_map]
    refine (walkForest_pairwise options 0 forest).imp ?_
    intro first second before same
    exact List.lt_irrefl _ (same ▸ before)
  rw [countP_eq_encard distinct]
  congr 1
  ext path
  simp only [reachedWhere, Set.mem_ofPred_eq, mem_walkForest_iff, and_assoc,
    exists_and_left]

/-- The message about a declaration that is withheld. -/
inductive Reports (halves : Text.Halves) (options : Options)
    (declaration : Declaration) : String → Prop
  | unsigned {kind : String} (unsigned : Unsigned options declaration)
      (kindEq : declaration.kind = some kind) :
      Reports halves options declaration
        ((Drop.unsigned kind declaration.name).message halves)
  | unbalanced {signature : String}
      (unbalanced : Unbalanced options declaration)
      (signed : declaration.signature = some signature) :
      Reports halves options declaration
        ((Drop.unbalanced signature).message halves)

/-- The drops of a list of declarations are reported one for each that is
withheld, in the order of the list. -/
theorem reports_of_entries (halves : Text.Halves) {options : Options}
    {forest : Forest} {entries : List (List Nat × Declaration)}
    (found : ∀ entry ∈ entries, forest.at? entry.1 = some entry.2) :
    List.Forall₂
      (fun path message => ∃ declaration,
        forest.at? path = some declaration ∧
          Reports halves options declaration message)
      ((entries.filter fun entry =>
        Unsigned options entry.2 ∨ Unbalanced options entry.2).map Prod.fst)
      (((entries.map Prod.snd).flatMap (dropsOf options)).map
        (Drop.message halves)) := by
  induction entries with
  | nil => exact .nil
  | cons entry entries ih =>
      have foundHere := found entry (by simp)
      have others := ih fun other otherMem =>
        found other (List.mem_cons_of_mem entry otherMem)
      simp only [List.map_cons, List.flatMap_cons, List.map_append]
      by_cases unsigned : Unsigned options entry.2
      · obtain ⟨kind, kindEq⟩ := Option.ne_none_iff_exists'.mp unsigned.1.1
        rw [(unsigned.entry kindEq).drops_eq,
          List.filter_cons_of_pos (by simp [unsigned])]
        exact .cons ⟨entry.2, foundHere, .unsigned unsigned kindEq⟩ others
      by_cases unbalanced : Unbalanced options entry.2
      · obtain ⟨signature, signed, -⟩ := unbalanced.2.2
        rw [(unbalanced.entry signed).drops_eq,
          List.filter_cons_of_pos (by simp [unbalanced])]
        exact .cons ⟨entry.2, foundHere, .unbalanced unbalanced signed⟩ others
      · have noDrops : dropsOf options entry.2 = [] := by
          simp [dropsOf, unsigned, unbalanced]
        rw [noDrops, List.filter_cons_of_neg (by simp [unsigned, unbalanced])]
        exact others

/-- What a declaration needs to print a block, if it is reached. -/
def Survives (options : Options) (declaration : Declaration) : Prop :=
  declaration.kind = none ∨ declaration.isEnumCaseGroup = true ∨
    Passes options declaration

instance (options : Options) : DecidablePred (Survives options) :=
  fun _ => inferInstanceAs (Decidable (_ ∨ _ ∨ _))

theorem Entry.not_survives {options : Options} {declaration : Declaration}
    {counts : Counts} {drops : List Drop}
    (entry : Entry options declaration counts drops)
    (tested : declaration.Tested) (notRendered : counts.rendered = 0) :
    ¬ Survives options declaration := by
  rintro (kindless | group | passes)
  · exact Declaration.not_tested_of_kindless kindless tested
  · exact Declaration.not_tested_of_group group tested
  · exact entry.not_passes notRendered passes

theorem output_length (options : Options) (declaration : Declaration) :
    (renderDeclaration options declaration).output.toList.length =
      if Survives options declaration then 1 else 0 := by
  cases fate options declaration with
  | transparent kindless =>
      have survives : Survives options declaration := Or.inl kindless
      rw [renderDeclaration_of_kindless options kindless, if_pos survives]
      rfl
  | elements group =>
      have survives : Survives options declaration := Or.inr (Or.inl group)
      rw [renderDeclaration_of_group options group, if_pos survives]
      rfl
  | belowLevel below =>
      rw [renderDeclaration_of_belowLevel below,
        if_neg (below.entry.not_survives below.1 rfl)]
      rfl
  | unsigned unsigned kindEq =>
      rw [renderDeclaration_of_unsigned unsigned kindEq,
        if_neg ((unsigned.entry kindEq).not_survives unsigned.1 rfl)]
      rfl
  | unbalanced unbalanced signed =>
      rw [renderDeclaration_of_unbalanced unbalanced signed,
        if_neg ((unbalanced.entry signed).not_survives unbalanced.1 rfl)]
      rfl
  | container passes signed hasBody =>
      have survives : Survives options declaration := Or.inr (Or.inr passes)
      rw [renderDeclaration_of_container passes signed hasBody,
        if_pos survives]
      rfl
  | leaf passes signed bare =>
      have survives : Survives options declaration := Or.inr (Or.inr passes)
      rw [renderDeclaration_of_leaf passes signed bare, if_pos survives]
      rfl

theorem blocks_length (options : Options) (forest : Forest) :
    (renderForest options forest).output.length =
      forest.countP (Survives options ·) := by
  induction forest with
  | nil => rfl
  | cons declaration forest ih =>
      rw [renderForest_cons, List.length_append, output_length, ih,
        List.countP_cons, Nat.add_comm]
      simp only [decide_eq_true_eq]

/-- A forest has one block for each top-level index that prints one.  A
top-level declaration has no ancestors, so it is reached whatever the rest of
the forest is. -/
theorem blocks_length_eq_encard (options : Options) (forest : Forest) :
    ((renderForest options forest).output.length : ℕ∞) =
      {index | ∃ declaration, forest[index]? = some declaration ∧
        (declaration.kind = none ∨ declaration.isEnumCaseGroup = true ∨
          Emitted options forest [index])}.encard := by
  let entries := forest.zipIdx.map Prod.swap
  have distinct : (entries.map Prod.fst).Nodup := by
    have indices : entries.map Prod.fst = forest.zipIdx.map Prod.snd := by
      simp [entries, Function.comp_def]
    rw [indices, List.zipIdx_map_snd]
    exact List.nodup_range'
  have declarations : entries.map Prod.snd = forest := by
    rw [List.map_map]
    exact List.zipIdx_map_fst 0 forest
  have counted := countP_eq_encard distinct (Survives options)
  rw [declarations, ← blocks_length] at counted
  rw [counted]
  congr 1
  ext index
  have entryAt (declaration : Declaration) :
      (index, declaration) ∈ entries ↔ forest[index]? = some declaration := by
    rw [← List.mem_zipIdx_iff_getElem? (x := (declaration, index))]
    simp [entries]
  simp only [Set.mem_ofPred_eq, entryAt, Survives, emitted_iff,
    reached_singleton, Forest.at?]
  constructor
  · rintro ⟨declaration, foundAt, kindless | group | passes⟩
    · exact ⟨declaration, foundAt, Or.inl kindless⟩
    · exact ⟨declaration, foundAt, Or.inr (Or.inl group)⟩
    · exact ⟨declaration, foundAt, Or.inr (Or.inr
        ⟨⟨declaration, foundAt⟩, declaration, foundAt, passes⟩)⟩
  · rintro ⟨declaration, foundAt, kindless | group | ⟨-, other, otherAt, passes⟩⟩
    · exact ⟨declaration, foundAt, Or.inl kindless⟩
    · exact ⟨declaration, foundAt, Or.inr (Or.inl group)⟩
    · exact ⟨other, otherAt, Or.inr (Or.inr passes)⟩

/-- The account of a rendered forest by position. -/
structure Account (halves : Text.Halves) (options : Options) (forest : Forest)
    (blocks : List String) (counts : Counts) (messages : List String) :
    Prop where
  /-- The declarations printed are those at emitted paths. -/
  rendered : (counts.rendered : ℕ∞) =
    {path | Emitted options forest path}.encard
  /-- Each reason to drop a declaration is counted once for each reached path
  at which it is the first test that fails. -/
  droppedAccess : (counts.droppedAccess : ℕ∞) =
    (reachedWhere options forest (BelowLevel options)).encard
  droppedSignature : (counts.droppedSignature : ℕ∞) =
    (reachedWhere options forest (Unsigned options)).encard
  droppedUnbalanced : (counts.droppedUnbalanced : ℕ∞) =
    (reachedWhere options forest (Unbalanced options)).encard
  /-- Together the counts make up the reached declarations that are tested. -/
  total : ((counts.rendered + counts.droppedAccess + counts.droppedSignature +
      counts.droppedUnbalanced : Nat) : ℕ∞) =
    (reachedWhere options forest Declaration.Tested).encard
  /-- A block stands for each source file, enum case group and emitted
  declaration at the top. -/
  blocks : (blocks.length : ℕ∞) =
    {index | ∃ declaration, forest[index]? = some declaration ∧
      (declaration.kind = none ∨ declaration.isEnumCaseGroup = true ∨
        Emitted options forest [index])}.encard
  /-- The messages report the declarations withheld for their signature, one
  for each, in document order, which is the lexicographic order of paths. -/
  messages : ∃ withheld : List (List Nat),
    withheld.Pairwise (· < ·) ∧
      (∀ path, path ∈ withheld ↔
        path ∈ reachedWhere options forest (Unsigned options) ∨
          path ∈ reachedWhere options forest (Unbalanced options)) ∧
      List.Forall₂
        (fun path message => ∃ declaration,
          forest.at? path = some declaration ∧
            Reports halves options declaration message)
        withheld messages

theorem withheld_of_walk (halves : Text.Halves) (options : Options)
    (forest : Forest) :
    ∃ withheld : List (List Nat),
      withheld.Pairwise (· < ·) ∧
        (∀ path, path ∈ withheld ↔
          path ∈ reachedWhere options forest (Unsigned options) ∨
            path ∈ reachedWhere options forest (Unbalanced options)) ∧
        List.Forall₂
          (fun path message => ∃ declaration,
            forest.at? path = some declaration ∧
              Reports halves options declaration message)
          withheld
          ((renderForest options forest).drops.map (Drop.message halves)) := by
  have accounted := renderForest_accounted options forest
  refine ⟨((walkForest options 0 forest).filter fun entry =>
    Unsigned options entry.2 ∨ Unbalanced options entry.2).map Prod.fst,
    ?_, ?_, ?_⟩
  · rw [List.pairwise_map]
    exact (walkForest_pairwise options 0 forest).filter _
  · intro path
    simp only [List.mem_map, List.mem_filter, decide_eq_true_eq, Prod.exists,
      exists_and_right, exists_eq_right, mem_walkForest_iff, reachedWhere,
      Set.mem_ofPred_eq]
    constructor
    · rintro ⟨declaration, ⟨reached, foundAt⟩, unsigned | unbalanced⟩
      · exact Or.inl ⟨reached, declaration, foundAt, unsigned⟩
      · exact Or.inr ⟨reached, declaration, foundAt, unbalanced⟩
    · rintro (⟨reached, declaration, foundAt, unsigned⟩ |
        ⟨reached, declaration, foundAt, unbalanced⟩)
      · exact ⟨declaration, ⟨reached, foundAt⟩, Or.inl unsigned⟩
      · exact ⟨declaration, ⟨reached, foundAt⟩, Or.inr unbalanced⟩
  · rw [accounted.drops_eq]
    exact reports_of_entries halves fun entry entryMem =>
      (mem_walkForest_iff.mp entryMem).2

/-- Rendering a forest in a session succeeds, and its blocks, counts and
messages are accounted for by the positions of the forest. -/
theorem renderForest_account (session : Session) (forest : Forest)
    (world : World) :
    ∃ blocks counts messages,
      session.renderForest forest world =
          .ok (blocks, { session with counts })
            { world with
              records := world.records ++ debugRecords world
                (messages ++ [summaryMessage blocks counts]) } ∧
        Account world.machine.halves session.options forest blocks counts
          messages := by
  refine ⟨_, _, _, session.renderForest_run forest world, ?_⟩
  have accounted := (renderForest_accounted session.options forest).counts_eq
  have emitted : {path | Emitted session.options forest path} =
      reachedWhere session.options forest (Passes session.options) := by
    ext path
    exact emitted_iff
  constructor
  · rw [emitted, accounted]
    exact countP_walkForest session.options forest (Passes session.options)
  · rw [accounted]
    exact countP_walkForest session.options forest (BelowLevel session.options)
  · rw [accounted]
    exact countP_walkForest session.options forest (Unsigned session.options)
  · rw [accounted]
    exact countP_walkForest session.options forest (Unbalanced session.options)
  · have total := tally_total session.options
      ((walkForest session.options 0 forest).map Prod.snd)
    rw [← countP_walkForest session.options forest Declaration.Tested, ← total,
      accounted]
    rfl
  · exact blocks_length_eq_encard session.options forest
  · exact withheld_of_walk world.machine.halves session.options forest

end Render

end SwiftInterface
