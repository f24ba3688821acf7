import FormCheck.Calendar.Partial
import FormCheck.Calendar.Timestamp

/-!
Written dates: every notation in which a form accepts a date.
-/

set_option autoImplicit false

namespace FormCheck.Calendar

/-- Whether a text, blanks around it ignored, is a date in one of the accepted
notations: a timestamp, a partial date, or a date with or without a time in one of the
layouts. -/
def isDate (text : String) : Bool :=
  let written := Text.trim text.toList
  Timestamp.fits written || isPartialDate written ||
    Layout.dates.any (·.fits written) || Layout.dateTimes.any (·.fits written)

end FormCheck.Calendar
