import SwiftInterface.Proofs.Text.Lines
import SwiftInterface.Render.Balance

/-!
# Closing brackets

A balanced text closes what it opens and touches nothing that was open before,
so whatever is pending and whatever follows, it can be left out.  Hence
balanced texts can be put one after the other, between two brackets that
match, and into each other at any place.  Characters that are no brackets play
no part at all.
-/

namespace SwiftInterface

namespace Render

/-- Whether a character opens or closes something. -/
def isBracket (char : Char) : Bool :=
  isOpener char || (openerOf? char).isSome

theorem closes_cons_of_not_isBracket {char : Char}
    (plain : isBracket char = false) (pending rest : List Char) :
    closes pending (char :: rest) = closes pending rest := by
  simp only [isBracket, Bool.or_eq_false_iff, Option.isSome_eq_false_iff,
    Option.isNone_iff_eq_none] at plain
  rw [closes, plain.1, plain.2]
  simp

/-- Only the brackets of a text decide what it closes. -/
theorem closes_filter_isBracket (pending chars : List Char) :
    closes pending (chars.filter isBracket) = closes pending chars := by
  induction chars generalizing pending with
  | nil => rfl
  | cons char chars ih =>
      by_cases plain : isBracket char = false
      · rw [closes_cons_of_not_isBracket plain,
          List.filter_cons_of_neg (by simp [plain])]
        exact ih pending
      · rw [List.filter_cons_of_pos (by simpa using plain), closes, closes]
        simp only [ih]

/-- A text that closes the innermost brackets leaves the other ones and what
follows to each other. -/
theorem closes_append {stack text : List Char}
    (closed : closes stack text = true) (pending rest : List Char) :
    closes (stack ++ pending) (text ++ rest) = closes pending rest := by
  induction text generalizing stack with
  | nil =>
      have empty : stack = [] := by simpa [closes] using closed
      simp [empty]
  | cons char text ih =>
      rw [closes] at closed
      rw [List.cons_append, closes]
      split at closed
      case isTrue opens =>
          rw [if_pos opens]
          exact ih closed
      case isFalse notOpener =>
          rw [if_neg notOpener]
          cases needs : openerOf? char with
          | none =>
              rw [needs] at closed
              exact ih closed
          | some opener =>
              rw [needs] at closed
              cases stack with
              | nil => cases closed
              | cons innermost outer =>
                  have both := Bool.and_eq_true_iff.mp closed
                  simp only [List.cons_append, both.1, Bool.true_and]
                  exact ih both.2

/-- Texts that close the same can stand for each other at the end of a text. -/
theorem closes_append_congr {first second : List Char}
    (same : ∀ pending, closes pending first = closes pending second)
    (pending front : List Char) :
    closes pending (front ++ first) = closes pending (front ++ second) := by
  induction front generalizing pending with
  | nil => exact same pending
  | cons char front ih =>
      rw [List.cons_append, List.cons_append, closes, closes]
      simp only [ih]

/-- A text that can be left out in front of any other. -/
def Neutral (chars : List Char) : Prop :=
  ∀ pending rest, closes pending (chars ++ rest) = closes pending rest

theorem neutral_iff {chars : List Char} :
    Neutral chars ↔ closes [] chars = true := by
  constructor
  · intro neutral
    simpa [closes] using neutral [] []
  · intro closed pending rest
    exact closes_append closed pending rest

theorem neutral_iff_isBalanced {text : String} :
    Neutral text.toList ↔ isBalanced text = true :=
  neutral_iff

theorem Neutral.append {first second : List Char} (before : Neutral first)
    (after : Neutral second) : Neutral (first ++ second) := by
  intro pending rest
  rw [List.append_assoc, before, after]

/-- Brackets that match enclose a neutral text. -/
theorem Neutral.enclose {chars : List Char} {opener closer : Char}
    (neutral : Neutral chars) (opens : isOpener opener = true)
    (notOpener : isOpener closer = false)
    (needs : openerOf? closer = some opener) :
    Neutral (opener :: (chars ++ [closer])) := by
  intro pending rest
  have inside := neutral (opener :: pending) (closer :: rest)
  rw [List.cons_append, closes, if_pos opens, List.append_assoc,
    List.singleton_append, inside, closes]
  simp [notOpener, needs]

/-! ## Insertion -/

/-- Indentation by a neutral mark changes nothing about what a text closes: the
marks stand inside brackets that are open, but can be left out there too. -/
theorem closes_indentChars {mark : List Char} (neutral : Neutral mark)
    (pending chars rest : List Char) :
    closes pending (Text.indentChars mark chars ++ rest) =
      closes pending (chars ++ rest) := by
  have segment (pending line after : List Char) :
      closes pending (Text.indentSegment mark line ++ after) =
        closes pending (line ++ after) := by
    rw [Text.indentSegment]
    split
    · rfl
    · rw [List.append_assoc, neutral]
  induction chars using Text.lineInduction generalizing pending with
  | lastLine line endFree =>
      rw [Text.indentChars_of_endFree mark endFree]
      exact segment pending line rest
  | nextLine line ending others endFree ends ih =>
      rw [Text.indentChars_line mark endFree ends]
      simp only [List.append_assoc, segment]
      rw [← List.append_assoc line ending, ← List.append_assoc line ending]
      exact closes_append_congr ih pending (line ++ ending)

theorem Neutral.indentChars {mark chars : List Char} (markNeutral : Neutral mark)
    (neutral : Neutral chars) : Neutral (Text.indentChars mark chars) := by
  intro pending rest
  rw [closes_indentChars markNeutral, neutral]

end Render

end SwiftInterface
