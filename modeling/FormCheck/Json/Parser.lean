import FormCheck.Json.Number
import FormCheck.Json.Quoted
import FormCheck.Json.Value

/-!
Reading JSON texts. Arrays and objects may be nested up to a given depth. The first issue
in the order of the text is the one that is reported.
-/

set_option autoImplicit false

namespace FormCheck.Json

/-- The deepest nesting of arrays and objects that a text may have. -/
def maxDepth : Nat := 127

/-- The text behind the given letters, which have to stand at its front. -/
def word : (letters text : List Char) → Except Stop (Within text)
  | [], text => .ok (.whole text)
  | _ :: _, [] => .error (.atEnd .value)
  | letter :: letters, c :: rest =>
      if c = letter then
        (word letters rest).map fun after => ⟨after.val, Nat.le_succ_of_le after.property⟩
      else
        .error (.atNext .expectedWord (c :: rest))

/-- Takes the rest of a word that spells a value, behind its first letter. -/
def literal (meaning : Value) (letters : String) {text : List Char} (first : Taken text Char) :
    Except Stop (Taken text Value) :=
  (word letters.toList first.rest).map fun after =>
    ⟨meaning, after.val, Nat.lt_of_le_of_lt after.property first.shorter⟩

def items (item : Reader Value) (text : List Char) :
    Except Stop (Taken text (List Value)) := do
  let first ← item text
  match nextChar? first.rest with
  | none => .error (.atEnd .list)
  | some mark =>
      if mark.value = ']' then
        .ok ⟨[first.value], mark.rest, Nat.lt_trans mark.shorter first.shorter⟩
      else if mark.value = ',' then
        match nextChar? mark.rest with
        | none => .error (.atEnd .value)
        | some next =>
            if next.value = ']' then
              .error (.atChar .trailingComma next)
            else do
              let later ← items item mark.rest
              .ok ⟨first.value :: later.value, later.rest,
                Nat.lt_trans later.shorter (Nat.lt_trans mark.shorter first.shorter)⟩
      else
        .error (.atChar .expectedListEnd mark)
termination_by text.length
decreasing_by exact Nat.lt_trans mark.shorter first.shorter

def array (item : Reader Value) : Reader (List Value) := fun text =>
  match nextChar? text with
  | none => .error (.atEnd .list)
  | some next =>
      if next.value = ']' then .ok ⟨[], next.rest, next.shorter⟩ else items item text

def member (scrutiny : Scrutiny) (item : Reader Value) : Reader (String × Value) :=
  fun text => do
    let key ← quoted scrutiny text
    match nextChar? key.rest with
    | none => .error (.atEnd .object)
    | some mark =>
        if mark.value = ':' then do
          let value ← item mark.rest
          .ok ⟨(String.ofList key.value, value.value), value.rest,
            Nat.lt_trans value.shorter (Nat.lt_trans mark.shorter key.shorter)⟩
        else
          .error (.atChar .expectedColon mark)

/-- Takes the members of an object behind the opening quote of the first key, and the
closing brace. Repeated keys are all given. -/
def members (scrutiny : Scrutiny) (item : Reader Value) (text : List Char) :
    Except Stop (Taken text (List (String × Value))) := do
  let first ← member scrutiny item text
  match nextChar? first.rest with
  | none => .error (.atEnd .object)
  | some mark =>
      if mark.value = '}' then
        .ok ⟨[first.value], mark.rest, Nat.lt_trans mark.shorter first.shorter⟩
      else if mark.value = ',' then
        match nextChar? mark.rest with
        | none => .error (.atEnd .value)
        | some next =>
            if next.value = '"' then do
              let later ← members scrutiny item next.rest
              .ok ⟨first.value :: later.value, later.rest,
                Nat.lt_trans later.shorter
                  (Nat.lt_trans next.shorter (Nat.lt_trans mark.shorter first.shorter))⟩
            else if next.value = '}' then
              .error (.atChar .trailingComma next)
            else
              .error (.atChar .keyNotString next)
      else
        .error (.atChar .expectedObjectEnd mark)
termination_by text.length
decreasing_by exact Nat.lt_trans next.shorter (Nat.lt_trans mark.shorter first.shorter)

def object (scrutiny : Scrutiny) (item : Reader Value) : Reader (List (String × Value)) :=
  fun text =>
    match nextChar? text with
    | none => .error (.atEnd .object)
    | some next =>
        if next.value = '}' then
          .ok ⟨[], next.rest, next.shorter⟩
        else if next.value = '"' then
          (members scrutiny item next.rest).map (·.widen next.within)
        else
          .error (.atChar .keyNotString next)

def scalar (scrutiny : Scrutiny) {text : List Char} (first : Taken text Char) :
    Except Stop (Taken text Value) :=
  if first.value = '"' then
    (quoted scrutiny first.rest).map fun taken =>
      (taken.map fun chars => .string (String.ofList chars)).widen first.within
  else if first.value = 'n' then
    literal .null "ull" first
  else if first.value = 't' then
    literal (.bool true) "rue" first
  else if first.value = 'f' then
    literal (.bool false) "alse" first
  else if first.value = '-' || first.value.isDigit then
    (number scrutiny (first.value :: first.rest)).map fun taken =>
      (taken.map .number).widen first.shorter
  else
    .error (.atChar .expectedValue first)

/-- Takes a value, with arrays and objects nested at most `depth` deep. -/
def value (scrutiny : Scrutiny) (depth : Nat) : Reader Value := fun text =>
  match nextChar? text with
  | none => .error (.atEnd .value)
  | some first =>
      if first.value = '[' then
        match depth with
        | 0 => .error (.atChar .tooDeep first)
        | inner + 1 =>
            (array (value scrutiny inner) first.rest).map fun taken =>
              (taken.map .array).widen first.within
      else if first.value = '{' then
        match depth with
        | 0 => .error (.atChar .tooDeep first)
        | inner + 1 =>
            (object scrutiny (value scrutiny inner) first.rest).map fun taken =>
              (taken.map .ofMembers).widen first.within
      else
        scalar scrutiny first

/-- Takes a value, and nothing but white space may be left behind it. -/
def readAll (text : List Char) : Except Stop Value := do
  let taken ← value .full maxDepth text
  match nextChar? taken.rest with
  | none => .ok taken.value
  | some next => .error (.atChar .trailingText next)

def parse (text : String) : Except Error Value :=
  (readAll text.toList).mapError fun stop => stop.toError text.toList

end FormCheck.Json
