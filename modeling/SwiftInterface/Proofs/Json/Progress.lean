import SwiftInterface.Json.Reader

/-!
# Progress of the JSON reader

Every part of the reader that succeeds has taken at least one character.  This
is what the fuel of the reader is counted by: the text that remains for a later
part is shorter by what the earlier parts took.  The readers of values, items
and members are first rewritten by the character that chooses what they do next.
-/

namespace SwiftInterface

namespace Json

variable {α β : Type} (halves : Text.Halves)

/-- If something is read from a text, less of the text remains. -/
def Takes (chars : List Char) (result : Except Fault (α × List Char)) : Prop :=
  ∀ value rest, result = .ok (value, rest) → rest.length < chars.length

theorem Takes.error (chars : List Char) (fault : Fault) :
    Takes chars (.error fault : Except Fault (α × List Char)) :=
  nofun

theorem Takes.ok {chars rest : List Char} (value : α)
    (shorter : rest.length < chars.length) :
    Takes chars (.ok (value, rest)) := by
  rintro _ _ ⟨⟩
  exact shorter

theorem Takes.bind {chars : List Char} {first : Except Fault (α × List Char)}
    {next : α × List Char → Except Fault (β × List Char)}
    (onward : ∀ value rest, first = .ok (value, rest) →
      Takes chars (next (value, rest))) :
    Takes chars (first >>= next) := by
  cases first with
  | error fault => exact .error chars fault
  | ok result => exact onward result.1 result.2 rfl

theorem Takes.after {chars : List Char} {first : Except Fault β}
    {next : β → Except Fault (α × List Char)}
    (onward : ∀ value, Takes chars (next value)) :
    Takes chars (first >>= next) := by
  cases first with
  | error fault => exact .error chars fault
  | ok value => exact onward value

theorem length_skipSpace_le (chars : List Char) :
    (skipSpace chars).length ≤ chars.length :=
  (List.dropWhile_suffix isSpace).length_le

/-! ## Strings -/

section Step

variable {halves} {fuel : Nat}
  (values : ∀ room chars, Takes chars (readValue halves room fuel chars))
  (items : ∀ room chars, Takes chars (readItems halves room fuel chars))
  (members : ∀ room chars, Takes chars (readMembers halves room fuel chars))

end Step

end Json

end SwiftInterface
