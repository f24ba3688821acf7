import FormCheck.Text.Blank
import FormCheck.Text.Digits

/-!
Counts, the arguments of the length tests. A count is a run of digits with an optional
plus sign, and it fits 64 bits.
-/

set_option autoImplicit false

namespace FormCheck.Count

def bound : Nat := Nat.pow 2 64

def dropPlus : List Char → List Char
  | '+' :: rest => rest
  | text => text

def ofChars? (text : List Char) : Option Nat :=
  let digits := dropPlus text
  let value := Text.decimalValue digits
  if Text.isNumber digits && value < bound then some value else none

def ofText? (text : String) : Option Nat :=
  ofChars? (Text.trim text.toList)

end FormCheck.Count
