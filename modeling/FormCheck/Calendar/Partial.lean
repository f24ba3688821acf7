import FormCheck.Calendar.Layout
import FormCheck.Text.Bytes

/-!
Partial dates: a bare year, or a year and a month. A partial date stands for the first
day of its year or month, so it is completed to a whole date and read as one.
-/

set_option autoImplicit false

namespace FormCheck.Calendar

/-- The whole date that a partial date stands for. Four digits are completed by a month
and a day; a text of seven bytes that starts with four digits is completed by a day. -/
def complete? (text : List Char) : Option (List Char) :=
  let year := text.take 4
  if year.length == 4 && year.all Char.isDigit then
    match Text.byteCount text with
    | 4 => some (text ++ "-01-01".toList)
    | 7 => some (text ++ "-01".toList)
    | _ => none
  else
    none

def isPartialDate (text : List Char) : Bool :=
  (complete? text).any (Layout.yearFirst '-').fits

end FormCheck.Calendar
