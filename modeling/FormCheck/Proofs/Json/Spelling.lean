import FormCheck.Json.Parser
import FormCheck.Proofs.Text.Runs

/-!
The spellings of JSON values: which texts RFC 8259 lets stand for a value. A value has many
spellings, since white space, escapes, the case of hexadecimal digits and the order and
repetition of keys are left to the writer.
-/

set_option autoImplicit false

namespace FormCheck.Json

open Text

/-- Insignificant white space. -/
def Spaces (text : List Char) : Prop :=
  ∀ c ∈ text, c = ' ' ∨ c = '\t' ∨ c = '\n' ∨ c = '\r'

/-! ## Strings -/

/-- The hexadecimal digits with their values, in either case. -/
def HexDigit (value : Nat) (c : Char) : Prop :=
  "0123456789abcdef".toList[value]? = some c ∨ "0123456789ABCDEF".toList[value]? = some c

instance (value : Nat) (c : Char) : Decidable (HexDigit value c) :=
  inferInstanceAs (Decidable (_ ∨ _))

/-- Four hexadecimal digits and the UTF-16 unit that they name. -/
inductive HexUnit : Nat → List Char → Prop where
  | digits {a b c d : Nat} {first second third fourth : Char} (firstDigit : HexDigit a first)
      (secondDigit : HexDigit b second) (thirdDigit : HexDigit c third)
      (fourthDigit : HexDigit d fourth) :
      HexUnit (((a * 16 + b) * 16 + c) * 16 + d) [first, second, third, fourth]

/-- The letters of the short escapes, each with the character for which it stands. -/
def shortEscapes : List (Char × Char) :=
  [('"', '"'), ('\\', '\\'), ('/', '/'), ('b', '\x08'), ('f', '\x0c'), ('n', '\n'), ('r', '\r'),
    ('t', '\t')]

/-- The ways in which a string can hold a character. -/
inductive CharSpelling (char : Char) : List Char → Prop where
  | plain (printable : 0x20 ≤ char.toNat) (noQuote : char ≠ '"') (noEscape : char ≠ '\\') :
      CharSpelling char [char]
  | short {letter : Char} (listed : (letter, char) ∈ shortEscapes) :
      CharSpelling char ['\\', letter]
  | unit {digits : List Char} (hex : HexUnit char.toNat digits) :
      CharSpelling char ('\\' :: 'u' :: digits)
  /-- A character above U+FFFF as two surrogates of ten bits each. -/
  | pair {high low : Nat} {leading trailing : List Char} (highBits : high < 0x400)
      (lowBits : low < 0x400) (code : char.toNat = 0x10000 + high * 0x400 + low)
      (first : HexUnit (0xD800 + high) leading) (second : HexUnit (0xDC00 + low) trailing) :
      CharSpelling char ('\\' :: 'u' :: (leading ++ '\\' :: 'u' :: trailing))

inductive Characters : List Char → List Char → Prop where
  | nil : Characters [] []
  | cons {char : Char} {chars text rest : List Char} (spelled : CharSpelling char text)
      (later : Characters chars rest) : Characters (char :: chars) (text ++ rest)

inductive StringSpelling (string : String) : List Char → Prop where
  | quoted {text : List Char} (characters : Characters string.toList text) :
      StringSpelling string ('"' :: (text ++ ['"']))

/-! ## Numbers -/

/-- The digits before the point, without a superfluous zero in front. -/
inductive Whole : List Char → Prop where
  | zero : Whole ['0']
  | digits {first : Char} {rest : List Char} (nonzero : first ≠ '0')
      (digits : Digits (first :: rest)) : Whole (first :: rest)

/-- An optional fraction, with its digits. -/
inductive Fraction : List Char → List Char → Prop where
  | none : Fraction [] []
  | some {digits : List Char} (number : digits ≠ [] ∧ Digits digits) :
      Fraction digits ('.' :: digits)

/-- An optional exponent: whether it is negative, and its digits. -/
inductive Exponent : Bool → List Char → List Char → Prop where
  | none : Exponent false [] []
  | some {mark : Char} {sign digits : List Char} {negative : Bool} (letter : mark = 'e' ∨ mark = 'E')
      (signed : Sign sign negative) (number : digits ≠ [] ∧ Digits digits) :
      Exponent negative digits (mark :: (sign ++ digits))

/-- The texts that are numbers within the range of readers. -/
inductive NumberSpelling : List Char → Prop where
  | number {minus whole fraction fractionText exponent exponentText : List Char} {negative : Bool}
      (signed : minus = [] ∨ minus = ['-']) (wholePart : Whole whole)
      (fractionPart : Fraction fraction fractionText)
      (exponentPart : Exponent negative exponent exponentText)
      (inRange : NumberParts.checkRange ⟨whole, fraction, negative, exponent⟩ [] = .ok ()) :
      NumberSpelling (minus ++ (whole ++ (fractionText ++ exponentText)))

/-! ## Values -/

inductive Scalar : Value → List Char → Prop where
  | nullName : Scalar .null "null".toList
  | trueName : Scalar (.bool true) "true".toList
  | falseName : Scalar (.bool false) "false".toList
  | number {spelling : List Char} (number : NumberSpelling spelling) :
      Scalar (.number (String.ofList spelling)) spelling
  | string {string : String} {text : List Char} (spelled : StringSpelling string text) :
      Scalar (.string string) text

section Sequences

variable {α : Type} (element : α → List Char → Prop)

inductive Spaced (item : α) : List Char → Prop where
  | spaced {before text behind : List Char} (leading : Spaces before) (spelled : element item text)
      (trailing : Spaces behind) : Spaced item (before ++ (text ++ behind))

/-- One or more elements with commas between them. -/
inductive Separated : List α → List Char → Prop where
  | last {item : α} {text : List Char} (spelled : Spaced element item text) :
      Separated [item] text
  | more {item : α} {items : List α} {text rest : List Char} (spelled : Spaced element item text)
      (later : Separated items rest) : Separated (item :: items) (text ++ ',' :: rest)

/-- What stands between the brackets of an array or an object. -/
inductive Sequence : List α → List Char → Prop where
  | empty {text : List Char} (spaces : Spaces text) : Sequence [] text
  | some {items : List α} {text : List Char} (separated : Separated element items text) :
      Sequence items text

end Sequences

section Nesting

variable (inner : Value → List Char → Prop)

inductive Member : String × Value → List Char → Prop where
  | member {key : String} {value : Value} {keyText before behind text : List Char}
      (keySpelled : StringSpelling key keyText) (leading : Spaces before)
      (trailing : Spaces behind) (spelled : inner value text) :
      Member (key, value) (keyText ++ (before ++ ':' :: (behind ++ text)))

/-- Arrays and objects of given inner values, besides the values without inner values. -/
inductive Nested : Value → List Char → Prop where
  | scalar {value : Value} {text : List Char} (spelled : Scalar value text) : Nested value text
  | array {items : List Value} {text : List Char} (spelled : Sequence inner items text) :
      Nested (.array items) ('[' :: (text ++ [']']))
  | object {members : List (String × Value)} {text : List Char}
      (spelled : Sequence (Member inner) members text) :
      Nested (.ofMembers members) ('{' :: (text ++ ['}']))

end Nesting

/-- The spellings of values with arrays and objects nested at most `depth` deep. -/
def Spells : Nat → Value → List Char → Prop
  | 0 => Scalar
  | depth + 1 => Nested (Spells depth)

/-- The texts that are an object with the given members, in this order and with repeated keys. -/
def SpellsObject (members : List (String × Value)) (text : List Char) : Prop :=
  ∃ before body behind, text = before ++ '{' :: (body ++ '}' :: behind) ∧ Spaces before ∧
    Spaces behind ∧ Sequence (Member (Spells (maxDepth - 1))) members body

end FormCheck.Json
