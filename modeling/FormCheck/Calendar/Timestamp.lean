import FormCheck.Calendar.Moment
import FormCheck.Text.Digits

/-!
Timestamps of RFC 3339: a date and a time of fixed widths with an offset from universal
time. Unlike the layouts, a timestamp allows no blanks, signs or missing digits.
-/

set_option autoImplicit false

namespace FormCheck.Calendar.Timestamp

def dropChar? (accepts : Char → Bool) : List Char → Option (List Char)
  | [] => none
  | c :: rest => if accepts c then some rest else none

/-- The signs of an offset; the typographic minus is one of them. -/
def isSign (c : Char) : Bool :=
  c == '+' || c == '-' || c == '\u2212'

def readSignedOffset? (text : List Char) : Option (Nat × Nat) := do
  let text ← dropChar? isSign text
  let (hour, text) ← Text.readFixed? 2 text
  let text ← dropChar? (· == ':') text
  let (minute, text) ← Text.readFixed? 2 text
  if text.isEmpty then some (hour, minute) else none

/-- Whether a whole text is an offset: the letter `Z` of either case, or a signed time
that a clock can show. -/
def isOffset (text : List Char) : Bool :=
  text == ['Z'] || text == ['z'] ||
    (readSignedOffset? text).any fun (hour, minute) => hour < 24 && minute < 60

/-- Reads a whole text as a timestamp and gives its local date and time. -/
def read? (text : List Char) : Option Moment := do
  let (year, text) ← Text.readFixed? 4 text
  let text ← dropChar? (· == '-') text
  let (month, text) ← Text.readFixed? 2 text
  let text ← dropChar? (· == '-') text
  let (day, text) ← Text.readFixed? 2 text
  let text ← dropChar? (fun c => c == 'T' || c == 't' || c == ' ') text
  let (hour, text) ← Text.readFixed? 2 text
  let text ← dropChar? (· == ':') text
  let (minute, text) ← Text.readFixed? 2 text
  let text ← dropChar? (· == ':') text
  let (second, text) ← Text.readFixed? 2 text
  let text ← Text.dropFraction? text
  if isOffset text then some { year, month, day, hour, minute, second } else none

def fits (text : List Char) : Bool :=
  (read? text).any Moment.isReal

end FormCheck.Calendar.Timestamp
