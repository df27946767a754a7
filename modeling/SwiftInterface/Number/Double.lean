/-!
# Binary floating-point numbers

Numbers of the 64-bit binary format, held exactly as a sign, an integer
mantissa and a power of two.  Decimal numbers are rounded to the nearest
number of the format, with ties going to the even mantissa.
-/

namespace SwiftInterface

namespace Number

/-- A number of the 64-bit binary format.  A finite number is
`mantissa * 2 ^ exponent` with a mantissa below `2 ^ 53`. -/
inductive Double where
  | nan
  | infinite (negative : Bool)
  | finite (negative : Bool) (mantissa : Nat) (exponent : Int)
deriving DecidableEq, Repr, Inhabited

namespace Double

/-- The exponent of the smallest numbers. -/
def leastExponent : Int :=
  -1074

/-- The exponent of the largest numbers. -/
def greatestExponent : Int :=
  971

/-- The power of a base with a natural exponent, one for negative ones. -/
def natPower (base : Nat) (exponent : Int) : Nat :=
  Nat.pow base exponent.toNat

/-- The quotient of two numbers rounded to the nearest integer, ties to
even. -/
def roundDiv (dividend divisor : Nat) : Nat :=
  let quotient := dividend / divisor
  let remainder := dividend % divisor
  if divisor < 2 * remainder then quotient + 1
  else if 2 * remainder = divisor ∧ quotient % 2 = 1 then quotient + 1
  else quotient

/-- The exponent for which the mantissa of a positive ratio has 53 bits, or
the least exponent if that one is too small. -/
def exponentFor (numerator denominator : Nat) : Int :=
  let guess : Int := (numerator.log2 : Int) - (denominator.log2 : Int) - 52
  let scaled := numerator * natPower 2 (-guess) /
    (denominator * natPower 2 guess)
  max (if scaled < Nat.pow 2 52 then guess - 1 else guess) leastExponent

/-- The number of the format nearest to a ratio. -/
def ofRatio (negative : Bool) (numerator denominator : Nat) : Double :=
  if numerator = 0 then .finite negative 0 leastExponent
  else
    let exponent := exponentFor numerator denominator
    let mantissa := roundDiv (numerator * natPower 2 (-exponent))
      (denominator * natPower 2 exponent)
    let carried := decide (mantissa = Nat.pow 2 53)
    let exponent := if carried then exponent + 1 else exponent
    let mantissa := if carried then Nat.pow 2 52 else mantissa
    if greatestExponent < exponent then .infinite negative
    else .finite negative mantissa exponent

/-- The number of the format nearest to `digits * 10 ^ exponent`. -/
def ofDecimal (negative : Bool) (digits : Nat) (exponent : Int) : Double :=
  let size : Int := (Nat.toDigits 10 digits).length
  if digits = 0 ∨ exponent + size < -400 then
    .finite negative 0 leastExponent
  else if 400 < exponent + size then .infinite negative
  else
    ofRatio negative (digits * natPower 10 exponent) (natPower 10 (-exponent))

/-- The number of the format nearest to an integer. -/
def ofInt (number : Int) : Double :=
  ofRatio (decide (number < 0)) number.natAbs 1

/-- The exact value of a finite number as a ratio. -/
def ratio? : Double → Option (Int × Nat)
  | finite negative mantissa exponent =>
      let magnitude : Int := mantissa * natPower 2 exponent
      some (if negative then -magnitude else magnitude,
        natPower 2 (-exponent))
  | _ => none

/-- The nearest number to a ratio with a signed numerator. -/
def ofSignedRatio (numerator : Int) (denominator : Nat) : Double :=
  ofRatio (decide (numerator < 0)) numerator.natAbs denominator

/-- Whether a number carries a minus sign. -/
def isNegative : Double → Bool
  | nan => false
  | infinite negative => negative
  | finite negative _ _ => negative

/-- Whether a number is one of the two zeros. -/
def isZero : Double → Bool
  | finite _ 0 _ => true
  | _ => false

/-- The rounded sum of two numbers.  A sum of zero is positive, and opposite
infinities have no sum. -/
def add : Double → Double → Double
  | nan, _ => nan
  | _, nan => nan
  | infinite negative, infinite otherNegative =>
      if negative = otherNegative then infinite negative else nan
  | infinite negative, finite _ _ _ => infinite negative
  | finite _ _ _, infinite negative => infinite negative
  | first, second =>
      match first.ratio?, second.ratio? with
      | some (firstTop, firstBottom), some (secondTop, secondBottom) =>
          ofSignedRatio (firstTop * secondBottom + secondTop * firstBottom)
            (firstBottom * secondBottom)
      | _, _ => nan

/-- The rounded product of two numbers.  An infinite number has no product
with zero. -/
def mul (first second : Double) : Double :=
  let negative := first.isNegative != second.isNegative
  match first, second with
  | nan, _ => nan
  | _, nan => nan
  | infinite _, other => if other.isZero then nan else infinite negative
  | other, infinite _ => if other.isZero then nan else infinite negative
  | first, second =>
      match first.ratio?, second.ratio? with
      | some (firstTop, firstBottom), some (secondTop, secondBottom) =>
          ofRatio negative (firstTop * secondTop).natAbs
            (firstBottom * secondBottom)
      | _, _ => nan

/-- The number with the opposite sign. -/
def negate : Double → Double
  | nan => nan
  | infinite negative => infinite !negative
  | finite negative mantissa exponent => finite (!negative) mantissa exponent

/-- The integer part of a finite number. -/
def truncate? : Double → Option Int
  | finite negative mantissa exponent =>
      let magnitude : Int :=
        mantissa * natPower 2 exponent / natPower 2 (-exponent)
      some (if negative then -magnitude else magnitude)
  | _ => none

/-- Whether a number equals an integer. -/
def equalsInt (double : Double) (number : Int) : Bool :=
  match double.ratio? with
  | some (top, bottom) => top == number * bottom
  | none => false

/-- Whether two numbers are equal.  The two zeros are; the not-a-number value
equals nothing. -/
def sameNumber (first second : Double) : Bool :=
  match first, second with
  | infinite negative, infinite otherNegative => negative == otherNegative
  | finite _ 0 _, finite _ 0 _ => true
  | finite negative mantissa exponent,
    finite otherNegative otherMantissa otherExponent =>
      negative == otherNegative && mantissa == otherMantissa &&
        exponent == otherExponent
  | _, _ => false

end Double

end Number

end SwiftInterface
