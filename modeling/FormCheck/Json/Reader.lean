import FormCheck.Json.Issue
import FormCheck.Text.Bytes

/-!
Readers of JSON texts. A reader takes something from the front of a text and leaves a
strictly shorter rest, so that repeated reading ends. Where reading stops early, the text
that was left tells the place.
-/

set_option autoImplicit false

namespace FormCheck.Json

/-- Why and where reading stopped: `rest` is the text from the place on, and `reach` the
number of its bytes that had been read when the issue showed. -/
structure Stop where
  issue : Issue
  rest : List Char
  reach : Nat

namespace Stop

def atEnd (inside : Context) : Stop :=
  ⟨.endOfText inside, [], 0⟩

/-- The first character of `rest` is at fault. -/
def atNext (issue : Issue) (rest : List Char) : Stop :=
  ⟨issue, rest, 1⟩

/-- What has just been read is at fault, and `rest` comes behind it. -/
def behind (issue : Issue) (rest : List Char) : Stop :=
  ⟨issue, rest, 0⟩

end Stop

/-- The line and the column that the first `bytes` bytes of a text lead to, counted on
from the given ones. A character of several bytes may be passed in part. -/
def locate (line column : Nat) : Nat → List Char → Nat × Nat
  | 0, _ => (line, column)
  | _, [] => (line, column)
  | bytes + 1, c :: rest =>
      if c = '\n' then
        locate (line + 1) 0 bytes rest
      else
        locate line (column + min c.utf8Size (bytes + 1)) (bytes + 1 - c.utf8Size) rest

def Stop.toError (stop : Stop) (text : List Char) : Error :=
  let passed := Text.byteCount text - Text.byteCount stop.rest + stop.reach
  let (line, column) := locate 1 0 passed text
  ⟨stop.issue, line, column⟩

/-- Something taken from the front of a text, and the shorter text behind it. -/
structure Taken (text : List Char) (α : Type) where
  value : α
  rest : List Char
  shorter : rest.length < text.length

/-- Takes something from the front of any text, or says why there is nothing to take. -/
abbrev Reader (α : Type) :=
  (text : List Char) → Except Stop (Taken text α)

namespace Taken

variable {α β : Type} {text inner : List Char}

theorem within (taken : Taken text α) : taken.rest.length ≤ text.length :=
  Nat.le_of_lt taken.shorter

def widen (taken : Taken inner α) (part : inner.length ≤ text.length) : Taken text α :=
  ⟨taken.value, taken.rest, Nat.lt_of_lt_of_le taken.shorter part⟩

def map (change : α → β) (taken : Taken text α) : Taken text β :=
  ⟨change taken.value, taken.rest, taken.shorter⟩

end Taken

abbrev Within (text : List Char) :=
  { rest : List Char // rest.length ≤ text.length }

def Within.whole (text : List Char) : Within text :=
  ⟨text, Nat.le_refl _⟩

theorem shorter_cons (rest : List Char) : rest.length < rest.length + 1 :=
  Nat.lt_succ_self _

theorem within_cons (rest : List Char) : rest.length ≤ rest.length + 1 :=
  Nat.le_succ _

def isSpace (c : Char) : Bool :=
  c == ' ' || c == '\t' || c == '\n' || c == '\r'

/-- Takes the first character that is not white space, or nothing if there is none. -/
def nextChar? (text : List Char) : Option (Taken text Char) :=
  match text with
  | [] => none
  | c :: rest =>
      if isSpace c then
        (nextChar? rest).map (·.widen (within_cons rest))
      else
        some ⟨c, rest, shorter_cons rest⟩

def Stop.atChar {text : List Char} (issue : Issue) (char : Taken text Char) : Stop :=
  .atNext issue (char.value :: char.rest)

/-- How closely a part of a text is read. A part that nobody needs is skimmed: it has to
have the shape of a value, but what its escapes and numbers denote is left open. -/
inductive Scrutiny where
  | full
  | skim
  deriving DecidableEq

end FormCheck.Json
