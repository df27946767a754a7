import SwiftInterface.Text.Blank

/-!
# Trimmed texts

What remains of a text without the characters of a class at its two ends is
determined by where it stands: such characters on both sides of it, and none of
them at its own ends.
-/

namespace SwiftInterface

namespace Text

/-- The text stands between dropped characters and begins and ends with none. -/
inductive Trims (drops : Char → Bool) : List Char → List Char → Prop
  | intro {front inner back : List Char}
      (before : ∀ char ∈ front, drops char = true)
      (after : ∀ char ∈ back, drops char = true)
      (first : ∀ char ∈ inner.head?, drops char = false)
      (last : ∀ char ∈ inner.getLast?, drops char = false) :
      Trims drops (front ++ inner ++ back) inner

variable {drops : Char → Bool}

theorem dropWhile_of_head {chars : List Char}
    (first : ∀ char ∈ chars.head?, drops char = false) :
    chars.dropWhile drops = chars := by
  cases chars with
  | nil => rfl
  | cons char rest => simp [first char (by simp)]

theorem head_dropWhile (chars : List Char) :
    ∀ char ∈ (chars.dropWhile drops).head?, drops char = false := by
  intro char charMem
  have found := List.head?_dropWhile_not drops chars
  rw [Option.mem_def.mp charMem] at found
  exact found

/-- Dropped characters around a text are removed from both of its ends. -/
theorem Trims.trimBy_eq {chars inner : List Char}
    (trims : Trims drops chars inner) : trimBy drops chars = inner := by
  cases trims with
  | @intro front inner back before after first last =>
      have afterReversed : ∀ char ∈ back.reverse, drops char = true := by
        intro char charMem
        exact after char (List.mem_reverse.mp charMem)
      rw [trimBy, List.append_assoc, List.dropWhile_append_of_pos before]
      by_cases empty : inner = []
      · subst empty
        have nothing : back.dropWhile drops = [] := by
          rw [← List.append_nil back, List.dropWhile_append_of_pos after]
          rfl
        simp [nothing]
      · have stays : (inner ++ back).dropWhile drops = inner ++ back := by
          apply dropWhile_of_head
          cases inner with
          | nil => exact absurd rfl empty
          | cons char inner => exact first
        have reversed : inner.reverse.dropWhile drops = inner.reverse := by
          apply dropWhile_of_head
          rwa [List.head?_reverse]
        rw [stays, List.reverse_append,
          List.dropWhile_append_of_pos afterReversed, reversed,
          List.reverse_reverse]

theorem trims_trimBy (chars : List Char) :
    Trims drops chars (trimBy drops chars) := by
  let rest := chars.dropWhile drops
  let tail := (rest.reverse.takeWhile drops).reverse
  have restEq : rest = trimBy drops chars ++ tail := by
    have split := List.takeWhile_append_dropWhile (p := drops) (l := rest.reverse)
    rw [← List.reverse_reverse rest, ← split, List.reverse_append]
    rfl
  have charsEq : chars =
      chars.takeWhile drops ++ trimBy drops chars ++ tail := by
    rw [List.append_assoc, ← restEq]
    exact List.takeWhile_append_dropWhile.symm
  have first : ∀ char ∈ (trimBy drops chars).head?, drops char = false := by
    intro char charMem
    apply head_dropWhile chars char
    change char ∈ rest.head?
    rw [restEq, List.head?_append, Option.mem_def.mp charMem]
    rfl
  have last : ∀ char ∈ (trimBy drops chars).getLast?, drops char = false := by
    intro char charMem
    rw [trimBy, List.getLast?_reverse] at charMem
    exact head_dropWhile _ char charMem
  have before : ∀ char ∈ chars.takeWhile drops, drops char = true :=
    List.all_eq_true.mp List.all_takeWhile
  have after : ∀ char ∈ tail, drops char = true := by
    intro char charMem
    exact List.all_eq_true.mp List.all_takeWhile char
      (List.mem_reverse.mp charMem)
  have trims := Trims.intro before after first last
  rwa [← charsEq] at trims

theorem trims_iff {chars inner : List Char} :
    Trims drops chars inner ↔ trimBy drops chars = inner := by
  constructor
  · exact Trims.trimBy_eq
  · rintro rfl
    exact trims_trimBy chars

end Text

end SwiftInterface
