import FormCheck.Json.Reader
import FormCheck.Numeral.Binary64
import FormCheck.Text.Digits

/-!
JSON numbers. A number is an optional minus sign, digits without a superfluous leading
zero, an optional fraction and an optional exponent. A number is refused as out of range
when its estimate overflows binary64: the estimate takes the leading digits that fit 64
bits as an integer and multiplies it by a power of ten, rounding each of the two and
their product.
-/

set_option autoImplicit false

namespace FormCheck.Json

/-- The parts of a number behind its sign: the digits before and behind the point, and
the sign and the digits of the exponent. -/
structure NumberParts where
  whole : List Char
  fraction : List Char := []
  exponentNegative : Bool := false
  exponent : List Char := []

namespace NumberParts

/-- Extends an integer by decimal digits as long as it fits 64 bits, and gives the digits
that are left over. -/
def absorb (significand : Nat) : List Char → Nat × List Char
  | [] => (significand, [])
  | digit :: rest =>
      let next := 10 * significand + Text.digitValue digit
      if next < Nat.pow 2 64 then absorb next rest else (significand, digit :: rest)

/-- The integer that the leading digits of a number make, and the power of ten by which
it counts when there is no exponent. -/
def significand (parts : NumberParts) : Nat × Int :=
  let (whole, beyond) := absorb 0 parts.whole
  let (significand, ignored) := absorb whole parts.fraction
  (significand, beyond.length - (parts.fraction.length - ignored.length : Nat))

/-- Whether an integer of at most 64 bits times a power of ten overflows, when both
factors and the product are rounded. -/
def overflows (significand : Nat) (shift : Int) : Bool :=
  match shift with
  | .negSucc _ => false
  | .ofNat shift =>
      if significand = 0 then
        false
      else if 308 < shift then
        true
      else
        let factor (value : Nat) := Binary64.nearest (value * Binary64.unitsPerOne) 1
        let product := factor significand * factor (Nat.pow 10 shift)
        (Binary64.finite? (Binary64.nearest product Binary64.unitsPerOne)).isNone

/-- The digits of an exponent that come behind the one with which it passes 31 bits, or
nothing if it does not. -/
def beyondLimit? (exponent : Nat) : List Char → Option (List Char)
  | [] => none
  | digit :: rest =>
      let next := 10 * exponent + Text.digitValue digit
      if next < Nat.pow 2 31 then beyondLimit? next rest else some rest

/-- Checks that the estimate of a number is finite. An exponent that passes 31 bits is
given up at once, unless the number is zero or the exponent negative. -/
def checkRange (parts : NumberParts) (rest : List Char) : Except Stop Unit :=
  let (significand, shift) := parts.significand
  match beyondLimit? 0 parts.exponent with
  | some digits =>
      if significand = 0 || parts.exponentNegative then
        .ok ()
      else
        .error (.behind .numberOutOfRange (digits ++ rest))
  | none =>
      let exponent : Int := Text.decimalValue parts.exponent
      let shift := if parts.exponentNegative then shift - exponent else shift + exponent
      if overflows significand shift then .error (.behind .numberOutOfRange rest) else .ok ()

end NumberParts

def missingDigit (scrutiny : Scrutiny) : List Char → Stop
  | [] => if scrutiny = .full then .atEnd .value else .behind .invalidNumber []
  | text => .atNext .invalidNumber text

def digits (scrutiny : Scrutiny) : Reader (List Char)
  | [] => .error (missingDigit scrutiny [])
  | c :: rest =>
      if c.isDigit then
        .ok ⟨c :: rest.takeWhile Char.isDigit, rest.dropWhile Char.isDigit,
          Nat.lt_succ_of_le (List.dropWhile_suffix Char.isDigit).length_le⟩
      else
        .error (missingDigit scrutiny (c :: rest))

/-- Takes the digits before the point. A zero is not followed by further digits. -/
def wholeDigits (scrutiny : Scrutiny) : Reader (List Char)
  | '0' :: rest =>
      if (rest.take 1).any Char.isDigit then
        .error (.atNext .invalidNumber rest)
      else
        .ok ⟨['0'], rest, shorter_cons rest⟩
  | text => digits scrutiny text

theorem within_cons_of_readSign {α : Type} {rest : List Char}
    (taken : Taken (Text.readSign rest).2 α) : taken.rest.length ≤ rest.length + 1 :=
  Nat.le_succ_of_le (Nat.le_trans taken.within (Text.length_readSign_le rest))

/-- The sign and the digits of an exponent at the front of a text that is no longer than
another, and what comes behind them. Without a letter `e` there is no exponent. -/
def exponentPart (scrutiny : Scrutiny) (text : List Char) :
    Except Stop ((Bool × List Char) × Within text) :=
  match text with
  | [] => .ok ((false, []), .whole [])
  | mark :: rest =>
      if mark == 'e' || mark == 'E' then do
        let (negative, _) := Text.readSign rest
        let taken ← digits scrutiny (Text.readSign rest).2
        .ok ((negative, taken.value), ⟨taken.rest, within_cons_of_readSign taken⟩)
      else
        .ok ((false, []), .whole (mark :: rest))

def fractionPart (scrutiny : Scrutiny) (text : List Char) :
    Except Stop (List Char × Within text) :=
  match text with
  | '.' :: rest => do
      let taken ← digits scrutiny rest
      .ok (taken.value, ⟨taken.rest, Nat.le_succ_of_le taken.within⟩)
  | text => .ok ([], .whole text)

def unsignedNumber (scrutiny : Scrutiny) : Reader NumberParts := fun text => do
  let whole ← wholeDigits scrutiny text
  let (fraction, afterFraction) ← fractionPart scrutiny whole.rest
  let ((exponentNegative, exponent), afterExponent) ← exponentPart scrutiny afterFraction.val
  let parts : NumberParts := { whole := whole.value, fraction, exponentNegative, exponent }
  if scrutiny = .full then
    parts.checkRange afterExponent.val
  .ok ⟨parts, afterExponent.val,
    Nat.lt_of_le_of_lt (Nat.le_trans afterExponent.property afterFraction.property)
      whole.shorter⟩

def signedNumber (scrutiny : Scrutiny) : Reader NumberParts
  | '-' :: rest => (unsignedNumber scrutiny rest).map (·.widen (within_cons rest))
  | text => unsignedNumber scrutiny text

def number (scrutiny : Scrutiny) : Reader String := fun text =>
  (signedNumber scrutiny text).map fun taken =>
    taken.map fun _ => String.ofList (text.take (text.length - taken.rest.length))

end FormCheck.Json
