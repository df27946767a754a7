import SwiftInterface.Proofs.Json.LineEnds

/-!
# Reading JSON with unified line ends

A value is read alike from a text and from the text with unified line ends.
What is read next is chosen by the character in front, and a line end chooses
nothing.  The readers of values, items and members call each other with less
fuel, so they are compared together, by induction on the fuel of the first.
-/

namespace SwiftInterface

namespace Json

open Text

variable {α : Type} {halves : Text.Halves}

/-- With enough fuel for both, the reader does the same on a text and on the text
with unified line ends. -/
def ReadsAlike (reader : Nat → List Char → Except Fault (α × List Char))
    (slack fuel : Nat) : Prop :=
  ∀ more chars, 2 * chars.length + slack ≤ fuel →
    2 * (unifyLineEnds chars).length + slack ≤ more →
      Follows (reader fuel chars) (reader more (unifyLineEnds chars))

/-- The same after white space, with the fuel that is left. -/
theorem ReadsAlike.skipSpace
    {reader : Nat → List Char → Except Fault (α × List Char)}
    {slack fuel more : Nat} {chars : List Char}
    (alike : ReadsAlike reader slack fuel)
    (enough : 2 * chars.length + slack ≤ fuel)
    (enoughUnified : 2 * (unifyLineEnds chars).length + slack ≤ more) :
    Follows (reader fuel (skipSpace chars))
      (reader more (Json.skipSpace (unifyLineEnds chars))) := by
  have shorter := length_skipSpace_le chars
  have shorterUnified := length_skipSpace_le (unifyLineEnds chars)
  rw [skipSpace_unifyLineEnds] at shorterUnified ⊢
  exact alike more _ (by omega) (by omega)

section Step

variable {fuel : Nat}
  (values : ∀ room, ReadsAlike (readValue halves room) 1 fuel)
  (items : ∀ room, ReadsAlike (readItems halves room) 2 fuel)
  (members : ∀ room, ReadsAlike (readMembers halves room) 2 fuel)

end Step

end Json

end SwiftInterface
