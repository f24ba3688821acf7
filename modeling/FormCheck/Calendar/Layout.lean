import FormCheck.Calendar.Moment
import FormCheck.Text.Blank
import FormCheck.Text.Digits

/-!
Layouts of written dates and times. A layout is a sequence of items; each item takes what
it can from the front of a text and records it, and a layout fits a text when its items
use the text up.
-/

set_option autoImplicit false

namespace FormCheck.Calendar

inductive Item where
  /-- A year: up to four digits, or any number of digits behind a sign. -/
  | year
  | number (part : Part)
  | fraction
  | monthAbbreviation
  | monthName
  /-- Any amount of blank space, none included. -/
  | gap
  | literal (char : Char)
  deriving DecidableEq

/-- The English month names in lower case, cut behind the three letters of their
abbreviations. -/
def monthNames : List (String × String) :=
  [("jan", "uary"), ("feb", "ruary"), ("mar", "ch"), ("apr", "il"), ("may", ""), ("jun", "e"),
    ("jul", "y"), ("aug", "ust"), ("sep", "tember"), ("oct", "ober"), ("nov", "ember"),
    ("dec", "ember")]

/-- What stands behind `word` in a text that starts with it in letters of either case.
The word itself is given in lower case. -/
def dropWord? (word : List Char) (text : List Char) : Option (List Char) :=
  if (text.take word.length).map Char.toLower == word then some (text.drop word.length) else none

/-- A number of at most `width` digits behind any blanks. -/
def readNumber? (width : Nat) (text : List Char) : Option (Nat × List Char) :=
  let start := Text.trimStart text
  let digits := (start.take width).takeWhile Char.isDigit
  if digits.isEmpty then none else some (Text.decimalValue digits, start.drop digits.length)

def readSignedYear? (sign : Int) (text : List Char) : Option (Int × List Char) :=
  let digits := text.takeWhile Char.isDigit
  if digits.isEmpty then
    none
  else
    some (sign * Text.decimalValue digits, text.dropWhile Char.isDigit)

/-- A year behind any blanks. A sign in front lifts the limit of four digits. -/
def readYear? (text : List Char) : Option (Int × List Char) :=
  match Text.trimStart text with
  | '+' :: rest => readSignedYear? 1 rest
  | '-' :: rest => readSignedYear? (-1) rest
  | start => (readNumber? 4 start).map fun (value, rest) => ((value : Int), rest)

/-- The month, counted from one, whose abbreviation starts the text, with the letters
that would complete its name and the text behind the abbreviation. -/
def readAbbreviation? (text : List Char) : Option (Nat × List Char × List Char) :=
  (monthNames.zipIdx 1).findSome? fun ((short, ending), number) =>
    (dropWord? short.toList text).map fun rest => (number, ending.toList, rest)

namespace Item

/-- What an item makes of the front of a text: the moment with the item's part recorded,
and the text behind it. -/
def read? (moment : Moment) (text : List Char) : Item → Option (Moment × List Char)
  | .year => (readYear? text).map fun (value, rest) => ({ moment with year := value }, rest)
  | .number part =>
      (readNumber? 2 text).map fun (value, rest) => (moment.record value part, rest)
  | .fraction => (Text.dropFraction? text).map fun rest => (moment, rest)
  | .monthAbbreviation =>
      (readAbbreviation? text).map fun (value, _, rest) => (moment.record value .month, rest)
  | .monthName =>
      (readAbbreviation? text).map fun (value, ending, rest) =>
        (moment.record value .month, (dropWord? ending rest).getD rest)
  | .gap => some (moment, Text.trimStart text)
  | .literal char =>
      match text with
      | [] => none
      | c :: rest => if c = char then some (moment, rest) else none

end Item

abbrev Layout := List Item

namespace Layout

def readFrom? (moment : Moment) : Layout → List Char → Option Moment
  | [], text => if text.isEmpty then some moment else none
  | item :: items, text =>
      (item.read? moment text).bind fun (next, rest) => readFrom? next items rest

/-- Whether the layout fits the text and the moment that it spells exists. -/
def fits (layout : Layout) (text : List Char) : Bool :=
  (readFrom? {} layout text).any Moment.isReal

def yearFirst (separator : Char) : Layout :=
  [.year, .literal separator, .number .month, .literal separator, .number .day]

def dates : List Layout :=
  [ yearFirst '-',
    yearFirst '/',
    [.number .month, .literal '/', .number .day, .literal '/', .year],
    [.monthName, .gap, .number .day, .literal ',', .gap, .year],
    [.monthAbbreviation, .gap, .number .day, .literal ',', .gap, .year],
    [.number .day, .gap, .monthName, .gap, .year] ]

def hourMinute : Layout :=
  [.number .hour, .literal ':', .number .minute]

def hourMinuteSecond : Layout :=
  hourMinute ++ [.literal ':', .number .second]

def dateTimes : List Layout :=
  [ yearFirst '-' ++ .literal 'T' :: hourMinuteSecond,
    yearFirst '-' ++ .literal 'T' :: (hourMinuteSecond ++ [.fraction]),
    yearFirst '-' ++ .literal 'T' :: hourMinute,
    yearFirst '-' ++ .gap :: hourMinuteSecond,
    yearFirst '-' ++ .gap :: hourMinute ]

end Layout

end FormCheck.Calendar
