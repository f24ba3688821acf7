import FormCheck.Text.Blank
import FormCheck.Text.Digits

/-!
Decimal numerals. A numeral is a sign, a coefficient and a power of ten, so its value is
exact however many digits or however large an exponent it was written with.
-/

set_option autoImplicit false

namespace FormCheck

/-- The number `± coefficient * 10 ^ exponent`. -/
structure Numeral where
  negative : Bool
  coefficient : Nat
  exponent : Int
  deriving DecidableEq

namespace Numeral

def readFraction : List Char → List Char × List Char
  | '.' :: rest => (rest.takeWhile Char.isDigit, rest.dropWhile Char.isDigit)
  | text => ([], text)

/-- The exponent part that ends a numeral: nothing at all, or a letter `e` of either
case, an optional sign and at least one digit. -/
def readExponent? : List Char → Option Int
  | [] => some 0
  | mark :: rest =>
      let (negative, digits) := Text.readSign rest
      if (mark == 'e' || mark == 'E') && Text.isNumber digits then
        let shift : Int := Text.decimalValue digits
        some (if negative then -shift else shift)
      else
        none

/-- Reads a whole text as a numeral: an optional sign, digits with an optional point
among, before or behind them, and an optional exponent. A lone sign or point and an
exponent without digits are no numerals. -/
def ofChars? (text : List Char) : Option Numeral :=
  let (negative, body) := Text.readSign text
  let whole := body.takeWhile Char.isDigit
  let (fraction, tail) := readFraction (body.dropWhile Char.isDigit)
  if whole.isEmpty && fraction.isEmpty then
    none
  else
    (readExponent? tail).map fun shift =>
      { negative
        coefficient := Text.decimalValue (whole ++ fraction)
        exponent := shift - fraction.length }

end Numeral

end FormCheck
