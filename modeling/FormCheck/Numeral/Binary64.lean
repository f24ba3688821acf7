import FormCheck.Numeral

/-!
Rounding to binary64. Every finite binary64 number is a whole multiple of the least
positive one, `2 ^ -1074`, so a rounded number is kept as that multiple and numbers are
compared as integers. Rounding is to the nearest number, and a tie goes to the one with
an even significand.
-/

set_option autoImplicit false

namespace FormCheck.Binary64

/-- The number one, counted in units of `2 ^ -1074`. -/
def unitsPerOne : Nat := Nat.pow 2 1074

/-- The least magnitude that is no longer finite, `2 ^ 1024`, counted in units. -/
def overflow : Nat := Nat.pow 2 2098

/-- The quotient rounded to the nearest integer, a half going to the even neighbour. -/
def roundQuotient (numerator denominator : Nat) : Nat :=
  let quotient := numerator / denominator
  let remainder := numerator % denominator
  if 2 * remainder < denominator then
    quotient
  else if denominator < 2 * remainder then
    quotient + 1
  else
    quotient + quotient % 2

/-- The distance between neighbouring numbers at a magnitude of that many whole units: a
significand has 53 bits, and below `2 ^ 53` units every integer is a number. -/
def spacing (units : Nat) : Nat :=
  Nat.pow 2 (units.log2 - 52)

/-- The number nearest to `numerator / denominator` units, when magnitudes are not
bounded above. -/
def nearest (numerator denominator : Nat) : Nat :=
  let step := spacing (numerator / denominator)
  roundQuotient numerator (denominator * step) * step

def finite? (units : Nat) : Option Nat :=
  if units < overflow then some units else none

end FormCheck.Binary64

namespace FormCheck.Numeral

open FormCheck.Binary64

/-- The magnitude of a numeral rounded to binary64, in units, or nothing when it is not
finite. A power of ten is computed only where it can matter: from `10 ^ 309` on every
coefficient but zero overflows, and a value below half a unit rounds to zero. -/
def magnitude? (numeral : Numeral) : Option Nat :=
  match numeral.exponent with
  | .ofNat shift =>
      if numeral.coefficient = 0 then
        some 0
      else if 309 ≤ shift then
        none
      else
        finite? (nearest (numeral.coefficient * Nat.pow 10 shift * unitsPerOne) 1)
  | .negSucc shift =>
      if numeral.coefficient.log2 + 1076 ≤ 3 * (shift + 1) then
        some 0
      else
        finite? (nearest (numeral.coefficient * unitsPerOne) (Nat.pow 10 (shift + 1)))

/-- The finite binary64 number nearest to a numeral, in signed units. The two zeros are
one number here, as they are in every comparison. -/
def units? (numeral : Numeral) : Option Int :=
  numeral.magnitude?.map fun magnitude =>
    if numeral.negative then -(magnitude : Int) else magnitude

def unitsOfText? (text : String) : Option Int :=
  (ofChars? (Text.trim text.toList)).bind units?

end FormCheck.Numeral
