import SwiftInterface.Proofs.Render.Balance

/-!
# The grammar of brackets

Bracketed texts are those derived by the grammar of brackets: nothing, a
character that is no bracket, a bracketed text between two brackets that belong
together, and one bracketed text after the other.  The grammar is ambiguous and
says nothing about a stack, but the check of balance decides it exactly.

That derived texts pass the check follows from the closure of neutral texts.
Conversely, a bracketed text can be inserted into another one at any place, and
this carries the invariant of the check backwards through a text: the brackets
that are open, outermost first, and then the text that closes them are together
bracketed.
-/

namespace SwiftInterface

namespace Render

/-- The opening and the closing bracket of each shape. -/
def bracketPairs : List (Char × Char) :=
  [('(', ')'), ('[', ']'), ('\x7b', '\x7d')]

/-- The texts that the grammar of brackets derives. -/
inductive Bracketed : List Char → Prop
  | empty : Bracketed []
  | plain {char : Char}
      (noBracket : ∀ pair ∈ bracketPairs, char ≠ pair.1 ∧ char ≠ pair.2) :
      Bracketed [char]
  | enclosed {opener closer : Char} {inner : List Char}
      (pair : (opener, closer) ∈ bracketPairs) (derived : Bracketed inner) :
      Bracketed (opener :: (inner ++ [closer]))
  | append {first second : List Char} (before : Bracketed first)
      (after : Bracketed second) : Bracketed (first ++ second)

/-! ## Brackets of the check -/

theorem needs_of_pair {opener closer : Char}
    (pair : (opener, closer) ∈ bracketPairs) :
    isOpener opener = true ∧ isOpener closer = false ∧
      openerOf? closer = some opener := by
  simp only [bracketPairs, List.mem_cons, Prod.mk.injEq, List.not_mem_nil,
    or_false] at pair
  rcases pair with ⟨rfl, rfl⟩ | ⟨rfl, rfl⟩ | ⟨rfl, rfl⟩
  · decide
  · decide
  · decide

theorem pair_of_needs {opener closer : Char}
    (needs : openerOf? closer = some opener) :
    (opener, closer) ∈ bracketPairs := by
  rw [openerOf?.eq_def] at needs
  split at needs
  case h_1 => simp [bracketPairs, ← Option.some.inj needs]
  case h_2 => simp [bracketPairs, ← Option.some.inj needs]
  case h_3 => simp [bracketPairs, ← Option.some.inj needs]
  case h_4 => cases needs

theorem exists_pair_of_isOpener {opener : Char}
    (opens : isOpener opener = true) :
    ∃ closer, (opener, closer) ∈ bracketPairs := by
  simp only [isOpener, Bool.or_eq_true, beq_iff_eq] at opens
  rcases opens with (rfl | rfl) | rfl
  · exact ⟨')', by decide⟩
  · exact ⟨']', by decide⟩
  · exact ⟨'\x7d', by decide⟩

theorem isBracket_eq_false_iff {char : Char} :
    isBracket char = false ↔
      ∀ pair ∈ bracketPairs, char ≠ pair.1 ∧ char ≠ pair.2 := by
  constructor
  · rintro plain ⟨opener, closer⟩ pair
    obtain ⟨opens, -, needs⟩ := needs_of_pair pair
    constructor
    · rintro rfl
      simp [isBracket, opens] at plain
    · rintro rfl
      simp [isBracket, needs] at plain
  · intro noBracket
    have notOpener : isOpener char = false := by
      cases opens : isOpener char with
      | false => rfl
      | true =>
          obtain ⟨closer, pair⟩ := exists_pair_of_isOpener opens
          exact absurd rfl (noBracket _ pair).1
    have notCloser : openerOf? char = none := by
      cases needs : openerOf? char with
      | none => rfl
      | some opener => exact absurd rfl (noBracket _ (pair_of_needs needs)).2
    simp [isBracket, notOpener, notCloser]

/-! ## Derived texts close themselves -/

theorem Bracketed.neutral {chars : List Char} (derived : Bracketed chars) :
    Neutral chars := by
  induction derived with
  | empty => exact fun _ _ => rfl
  | plain noBracket =>
      intro pending rest
      exact closes_cons_of_not_isBracket
        (isBracket_eq_false_iff.mpr noBracket) pending rest
  | enclosed pair _ ih =>
      obtain ⟨opens, notOpener, needs⟩ := needs_of_pair pair
      exact ih.enclose opens notOpener needs
  | append _ _ before after => exact before.append after

/-! ## Texts that close themselves are derived -/

/-- A bracketed text can be inserted into another at any place. -/
theorem Bracketed.insert {whole middle : List Char}
    (derived : Bracketed whole) (inserted : Bracketed middle)
    (front back : List Char) (split : whole = front ++ back) :
    Bracketed (front ++ middle ++ back) := by
  induction derived generalizing front back with
  | empty =>
      obtain ⟨rfl, rfl⟩ := List.append_eq_nil_iff.mp split.symm
      simpa using inserted
  | plain noBracket =>
      have single := Bracketed.plain noBracket
      rcases List.append_eq_singleton_iff.mp split.symm with
        ⟨rfl, rfl⟩ | ⟨rfl, rfl⟩
      · exact inserted.append single
      · simpa using single.append inserted
  | @enclosed opener closer inner pair derived ih =>
      have whole := Bracketed.enclosed pair derived
      cases front with
      | nil =>
          rw [List.nil_append] at split ⊢
          rw [← split]
          exact inserted.append whole
      | cons first front =>
          rw [List.cons_append] at split
          obtain ⟨rfl, tailSplit⟩ := List.cons.inj split
          -- The place is behind the closing bracket or between the two.
          rcases List.eq_nil_or_concat back with rfl | ⟨back, last, rfl⟩
          · simp only [List.append_nil] at tailSplit ⊢
            rw [← tailSplit]
            exact whole.append inserted
          · rw [List.concat_eq_append] at tailSplit ⊢
            rw [← List.append_assoc] at tailSplit
            obtain ⟨innerSplit, lastEq⟩ := List.append_inj' tailSplit rfl
            obtain rfl : closer = last := by simpa using lastEq
            have inside := Bracketed.enclosed pair (ih front back innerSplit)
            simpa using inside
  | @append first second before after ihBefore ihAfter =>
      rcases List.append_eq_append_iff.mp split with
        ⟨gap, rfl, rfl⟩ | ⟨gap, rfl, rfl⟩
      · have later := before.append (ihAfter gap back rfl)
        simpa using later
      · have earlier := (ihBefore front gap rfl).append after
        simpa using earlier

/-- If a text closes the pending brackets, then these, outermost first, and the
text are together bracketed. -/
theorem bracketed_of_closes {pending text : List Char}
    (closed : closes pending text = true) :
    Bracketed (pending.reverse ++ text) := by
  induction text generalizing pending with
  | nil =>
      have none : pending = [] := by simpa [closes] using closed
      rw [none]
      exact .empty
  | cons char text ih =>
      rw [closes] at closed
      split at closed
      case isTrue opens => simpa using ih closed
      case isFalse notOpener =>
          split at closed
          case h_1 notCloser =>
              have plain : isBracket char = false := by
                simp [isBracket, notOpener, notCloser]
              have single := Bracketed.plain (isBracket_eq_false_iff.mp plain)
              simpa using (ih closed).insert single _ _ rfl
          case h_2 opener needs =>
              cases pending with
              | nil => cases closed
              | cons innermost outer =>
                  obtain ⟨same, outerClosed⟩ := Bool.and_eq_true_iff.mp closed
                  obtain rfl : innermost = opener := by simpa using same
                  have matched : Bracketed [innermost, char] :=
                    .enclosed (pair_of_needs needs) .empty
                  simpa using (ih outerClosed).insert matched _ _ rfl

/-- The check of balance accepts exactly the texts of the grammar. -/
theorem isBalanced_iff_bracketed (text : String) :
    isBalanced text = true ↔ Bracketed text.toList := by
  rw [← neutral_iff_isBalanced]
  constructor
  · intro neutral
    exact bracketed_of_closes (neutral_iff.mp neutral)
  · intro derived
    exact derived.neutral

end Render

end SwiftInterface
