import SwiftInterface.Number.Double

/-!
# Shortest decimal texts

A floating-point number is written with the fewest significant digits that
read back as the same number, and of those with the ones nearest to it.
Numbers from a ten-thousandth up to below ten to the sixteenth are written
positionally, with at least one digit after the point; the others have an
exponent of at least two digits with its sign.
-/

namespace SwiftInterface

namespace Number

namespace Double

/-- The exponent of the leading decimal digit of `mantissa * 2 ^ exponent`. -/
def leadingExponent (mantissa : Nat) (exponent : Int) : Int :=
  let scaled := mantissa * natPower 2 exponent * Nat.pow 10 400 /
    natPower 2 (-exponent)
  (Nat.toDigits 10 scaled).length - 401

/-- The decimal of the given number of digits that reads back as
`mantissa * 2 ^ exponent` and is nearest to it, as an integer and a power of
ten.  The interval of the reals that round to the number is measured in
quarters of its last bit. -/
def decimalWith? (mantissa : Nat) (exponent : Int) (digitCount : Nat) :
    Option (Nat × Int) :=
  let place := leadingExponent mantissa exponent - digitCount + 1
  let ten := natPower 10 place * natPower 2 (2 - exponent)
  let quarter := natPower 2 (exponent - 2) * natPower 10 (-place)
  let value := 4 * mantissa * quarter
  let low :=
    if mantissa = Nat.pow 2 52 ∧ leastExponent < exponent then
      (4 * mantissa - 1) * quarter
    else (4 * mantissa - 2) * quarter
  let high := (4 * mantissa + 2) * quarter
  let closed := mantissa % 2 = 0
  let fits (candidate : Nat) : Bool :=
    if closed then
      low ≤ candidate * ten && candidate * ten ≤ high
    else low < candidate * ten && candidate * ten < high
  let below := value / ten
  let above := below + 1
  let belowGap := value - below * ten
  let aboveGap := above * ten - value
  match fits below, fits above with
  | true, true =>
      if belowGap < aboveGap ∨ (belowGap = aboveGap ∧ below % 2 = 0) then
        some (below, place)
      else some (above, place)
  | true, false => some (below, place)
  | false, true => some (above, place)
  | false, false => none

/-- The shortest decimal that reads back as `mantissa * 2 ^ exponent`. -/
def shortest (mantissa : Nat) (exponent : Int) : Nat × Int :=
  ((List.range 17).findSome? fun index =>
    decimalWith? mantissa exponent (index + 1)).getD (0, 0)

/-- The significant digits of a number and how many of them, counted from the
left, stand before the point. -/
def significantDigits (mantissa : Nat) (exponent : Int) : List Char × Int :=
  if mantissa = 0 then (['0'], 1)
  else
    let (digits, place) := shortest mantissa exponent
    let chars := Nat.toDigits 10 digits
    let kept := (chars.reverse.dropWhile (· == '0')).reverse
    (kept, place + chars.length)

/-- Digits written positionally with `point` of them before the point. -/
def positional (digits : List Char) (point : Int) : List Char :=
  if point ≤ 0 then
    '0' :: '.' :: List.replicate (-point).toNat '0' ++ digits
  else
    let whole := point.toNat
    let front := digits.take whole ++
      List.replicate (whole - digits.length) '0'
    let back := digits.drop whole
    front ++ '.' :: (if back.isEmpty then ['0'] else back)

/-- Digits written with an exponent. -/
def scientific (digits : List Char) (point : Int) : List Char :=
  let exponent := point - 1
  let sign := if exponent < 0 then '-' else '+'
  let magnitude := Nat.toDigits 10 exponent.natAbs
  let padded := if magnitude.length < 2 then '0' :: magnitude else magnitude
  match digits with
  | [] => []
  | [digit] => digit :: 'e' :: sign :: padded
  | digit :: rest => digit :: '.' :: rest ++ 'e' :: sign :: padded

/-- The text of a number. -/
def text : Double → String
  | nan => "nan"
  | infinite negative => if negative then "-inf" else "inf"
  | finite negative mantissa exponent =>
      let (digits, point) := significantDigits mantissa exponent
      let body :=
        if -4 < point ∧ point ≤ 16 then positional digits point
        else scientific digits point
      String.ofList (if negative then '-' :: body else body)

end Double

end Number

end SwiftInterface
