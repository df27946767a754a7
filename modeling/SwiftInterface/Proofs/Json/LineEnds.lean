import SwiftInterface.Proofs.Json.Progress
import SwiftInterface.Proofs.Text.LineEnds

/-!
# JSON with unified line ends

Line ends may stand between the tokens of a JSON text and nowhere else: inside
a string they are control characters, after a backslash they escape nothing,
and no number, word or code escape holds one.  So the reader does the same on a
text and on the text with unified line ends, up to the place of a fault.  The
two texts differ in length, hence also in the fuel that the reader starts with,
so the comparison is made for any fuel that is enough for both.
-/

namespace SwiftInterface

namespace Json

open Text

variable {α β : Type} {halves : Text.Halves}

/-- Two faults of the same cause.  Whatever is wrong with a text that is not
JSON, it is malformed. -/
inductive Fault.SameCause : Fault → Fault → Prop
  | malformed (problem other : Problem) (remaining rest : List Char) :
      SameCause (.malformed problem remaining) (.malformed other rest)
  | tooManyDigits (digits : Nat) :
      SameCause (.tooManyDigits digits) (.tooManyDigits digits)
  | tooDeep (descent : Descent) : SameCause (.tooDeep descent) (.tooDeep descent)

/-- The second result is what the first becomes when the line ends of the text
are unified. -/
inductive Follows :
    Except Fault (α × List Char) → Except Fault (α × List Char) → Prop
  | ok (value : α) (rest : List Char) :
      Follows (.ok (value, rest)) (.ok (value, unifyLineEnds rest))
  | error {fault other : Fault} (same : fault.SameCause other) :
      Follows (.error fault) (.error other)

theorem Follows.malformed (problem other : Problem)
    (remaining rest : List Char) :
    Follows (.error (.malformed problem remaining) :
        Except Fault (α × List Char))
      (.error (.malformed other rest)) :=
  .error (.malformed problem other remaining rest)

theorem Follows.bind {first second : Except Fault (α × List Char)}
    {next nextUnified : α × List Char → Except Fault (β × List Char)}
    (follows : Follows first second)
    (onward : ∀ value rest, first = .ok (value, rest) →
      second = .ok (value, unifyLineEnds rest) →
        Follows (next (value, rest))
          (nextUnified (value, unifyLineEnds rest))) :
    Follows (first >>= next) (second >>= nextUnified) := by
  cases follows with
  | ok value rest => exact onward value rest rfl rfl
  | error same => exact .error same

/-- The room does not depend on the line ends. -/
theorem Follows.enter {descent : Descent} {room : Nat}
    {next nextUnified : Nat → Except Fault (α × List Char)}
    (onward : ∀ inner, Follows (next inner) (nextUnified inner)) :
    Follows (Json.enter descent room >>= next)
      (Json.enter descent room >>= nextUnified) := by
  cases room with
  | zero => exact .error (.tooDeep descent)
  | succ inner => exact onward inner

theorem skipSpace_unifyLineEnds (chars : List Char) :
    skipSpace (unifyLineEnds chars) = unifyLineEnds (skipSpace chars) :=
  dropWhile_unifyLineEnds (by decide) chars

/-! ## Strings -/

section Escape

variable {opening openingUnified : List Char} {fuel more : Nat}
  (follows : ∀ read chars, chars.length ≤ fuel →
    (unifyLineEnds chars).length ≤ more →
      Follows (readString halves opening fuel read chars)
        (readString halves openingUnified more read (unifyLineEnds chars)))

end Escape

end Json

end SwiftInterface
