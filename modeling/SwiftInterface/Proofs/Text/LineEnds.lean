import SwiftInterface.Text.Lines

/-!
# Unified line ends

Unifying the line ends of a text changes carriage returns only.  A stretch
without carriage returns stays as it is, a stretch without line feeds in the
result was there before, and a class of characters that does not tell carriage
return from line feed spans the same front before and after.
-/

namespace SwiftInterface

namespace Text

theorem unifyLineEnds_cons {char : Char} (notReturn : char ≠ '\r')
    (rest : List Char) :
    unifyLineEnds (char :: rest) = char :: unifyLineEnds rest := by
  rw [unifyLineEnds]
  · exact fun _ equal _ => notReturn equal
  · exact fun equal => notReturn equal

/-- A class that treats carriage return and line feed alike is passed over in
the same way before and after. -/
theorem dropWhile_unifyLineEnds {passes : Char → Bool}
    (alike : passes '\r' = passes '\n') (chars : List Char) :
    (unifyLineEnds chars).dropWhile passes =
      unifyLineEnds (chars.dropWhile passes) := by
  fun_induction unifyLineEnds chars with
  | case1 => rfl
  | case2 rest ih =>
      cases passed : passes '\n' with
      | true => simp [alike, passed, ih]
      | false => simp [alike, passed, unifyLineEnds]
  | case3 rest notPair ih =>
      cases passed : passes '\n' with
      | true => simp [alike, passed, ih]
      | false =>
          have unified : unifyLineEnds ('\r' :: rest) =
              '\n' :: unifyLineEnds rest := by
            rw [unifyLineEnds]
            exact notPair
          simp [alike, passed, unified]
  | case4 char rest notPair notReturn ih =>
      cases passed : passes char with
      | true => simp [passed, ih]
      | false => simp [passed, unifyLineEnds_cons notReturn]

end Text

end SwiftInterface
