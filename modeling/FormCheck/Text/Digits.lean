/-!
Runs of decimal digits and the numbers they denote. Only the ten ASCII digits count as
digits, in every notation that the library reads.
-/

set_option autoImplicit false

namespace FormCheck.Text

def digitValue (c : Char) : Nat :=
  c.toNat - '0'.toNat

/-- The number that a run of decimal digits denotes, most significant digit first. The
empty run denotes zero. -/
def decimalValue (digits : List Char) : Nat :=
  digits.foldl (fun total digit => 10 * total + digitValue digit) 0

/-- Whether a text is one or more decimal digits and nothing else. -/
def isNumber (text : List Char) : Bool :=
  !text.isEmpty && text.all Char.isDigit

/-- A leading sign, read as "is negative", and the text behind it. A text without a sign
counts as positive. -/
def readSign : List Char → Bool × List Char
  | '-' :: rest => (true, rest)
  | '+' :: rest => (false, rest)
  | text => (false, text)

/-- Exactly `count` decimal digits at the front of a text: their number and the text
behind them. -/
def readFixed? (count : Nat) (text : List Char) : Option (Nat × List Char) :=
  let digits := text.take count
  if digits.length == count && digits.all Char.isDigit then
    some (decimalValue digits, text.drop count)
  else
    none

/-- The text behind a decimal point and its digits, if it starts with a point. A point without
digits is refused. -/
def dropFraction? : List Char → Option (List Char)
  | '.' :: digits =>
      if (digits.takeWhile Char.isDigit).isEmpty then
        none
      else
        some (digits.dropWhile Char.isDigit)
  | text => some text

theorem length_readSign_le (text : List Char) : (readSign text).2.length ≤ text.length := by
  unfold readSign
  split <;> simp

@[simp] theorem decimalValue_nil : decimalValue [] = 0 := rfl

theorem decimalValue_concat (digits : List Char) (digit : Char) :
    decimalValue (digits ++ [digit]) = 10 * decimalValue digits + digitValue digit := by
  simp [decimalValue, List.foldl_append]

end FormCheck.Text
