import FormCheck.Json.Reader

/-!
JSON strings. Between its quotes a string holds characters as they are, control
characters excepted, and escapes. An escape of four hexadecimal digits names a UTF-16
unit, and two such escapes in a row are needed for a character above U+FFFF.
-/

set_option autoImplicit false

namespace FormCheck.Json

def hexValue? (c : Char) : Option Nat :=
  if c.isDigit then
    some (c.toNat - '0'.toNat)
  else if 'a' ≤ c && c ≤ 'f' then
    some (c.toNat - 'a'.toNat + 10)
  else if 'A' ≤ c && c ≤ 'F' then
    some (c.toNat - 'A'.toNat + 10)
  else
    none

/-- The stop at a text that does not start with four hexadecimal digits. Four bytes are
looked at before the digits are judged. -/
def badUnit (text : List Char) : Stop :=
  if Text.byteCount (text.take 4) < 4 then .atEnd .string else ⟨.invalidEscape, text, 4⟩

def unit : Reader Nat
  | a :: b :: c :: d :: rest =>
      match hexValue? a, hexValue? b, hexValue? c, hexValue? d with
      | some a, some b, some c, some d =>
          .ok ⟨((a * 16 + b) * 16 + c) * 16 + d, rest, by simp only [List.length_cons]; omega⟩
      | _, _, _, _ => .error (badUnit (a :: b :: c :: d :: rest))
  | text => .error (badUnit text)

def isLeading (unit : Nat) : Bool :=
  0xD800 ≤ unit && unit ≤ 0xDBFF

def isTrailing (unit : Nat) : Bool :=
  0xDC00 ≤ unit && unit ≤ 0xDFFF

def pairChar (leading trailing : Nat) : Char :=
  Char.ofNat (0x10000 + (leading - 0xD800) * 0x400 + (trailing - 0xDC00))

/-- Takes the second half of a surrogate pair, which is an escape too, and gives the
character of the pair. -/
def pairWith (leading : Nat) : Reader Char
  | [] => .error (.atEnd .string)
  | ['\\'] => .error (.atEnd .string)
  | '\\' :: 'u' :: rest => do
      let trailing ← unit rest
      if isTrailing trailing.value then
        .ok ((trailing.map (pairChar leading)).widen (by simp only [List.length_cons]; omega))
      else
        .error (.behind .loneSurrogate trailing.rest)
  | '\\' :: c :: rest => .error (.atNext .unfinishedSurrogate (c :: rest))
  | c :: rest => .error (.atNext .unfinishedSurrogate (c :: rest))

def unicodeEscape (scrutiny : Scrutiny) : Reader Char := fun text => do
  let first ← unit text
  if scrutiny = .skim then
    .ok (first.map Char.ofNat)
  else if isTrailing first.value then
    .error (.behind .loneSurrogate first.rest)
  else if isLeading first.value then
    (pairWith first.value first.rest).map (·.widen first.within)
  else
    .ok (first.map Char.ofNat)

def shortEscape? : Char → Option Char
  | '"' => some '"'
  | '\\' => some '\\'
  | '/' => some '/'
  | 'b' => some '\x08'
  | 'f' => some '\x0c'
  | 'n' => some '\n'
  | 'r' => some '\r'
  | 't' => some '\t'
  | _ => none

def escape (scrutiny : Scrutiny) : Reader Char
  | [] => .error (.atEnd .string)
  | 'u' :: rest => (unicodeEscape scrutiny rest).map (·.widen (within_cons rest))
  | letter :: rest =>
      match shortEscape? letter with
      | some char => .ok ⟨char, rest, shorter_cons rest⟩
      | none => .error (.atNext .invalidEscape (letter :: rest))

/-- Takes the characters of a string behind its opening quote, and the closing quote. -/
def quoted (scrutiny : Scrutiny) (text : List Char) : Except Stop (Taken text (List Char)) :=
  match text with
  | [] => .error (.atEnd .string)
  | '"' :: rest => .ok ⟨[], rest, shorter_cons rest⟩
  | '\\' :: rest => do
      let char ← escape scrutiny rest
      let later ← quoted scrutiny char.rest
      .ok ⟨char.value :: later.value, later.rest,
        Nat.lt_succ_of_lt (Nat.lt_trans later.shorter char.shorter)⟩
  | char :: rest =>
      if char.toNat < 0x20 then
        .error (.atNext .controlCharacter (char :: rest))
      else do
        let later ← quoted scrutiny rest
        .ok ⟨char :: later.value, later.rest, Nat.lt_succ_of_lt later.shorter⟩
termination_by text.length
decreasing_by
  · exact Nat.lt_succ_of_lt char.shorter
  · exact Nat.lt_succ_self _

end FormCheck.Json
