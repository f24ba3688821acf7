import FormCheck.Json.Parser
import FormCheck.Settings

/-!
Settings given as a JSON text: an object that may name the marker, or an array of at most
the marker. The text is judged while it is read, so that of several faults the first one
counts, and members that are no settings are only skimmed.
-/

set_option autoImplicit false

namespace FormCheck.Settings

open FormCheck.Json

/-- Why a text gives no settings. -/
inductive Fault where
  | stopped (stop : Stop)
  /-- A value is of another type than the settings call for. -/
  | wrongType
  | repeated

inductive Fault.Category where
  | truncated
  /-- The text is JSON but gives no settings. -/
  | unsuitable
  | malformed
  deriving DecidableEq

def Fault.category : Fault → Fault.Category
  | .stopped stop => if stop.issue.isEndOfText then .truncated else .malformed
  | .wrongType | .repeated => .unsuitable

def markerKeys : List String := ["invalidMarkerClass", "invalid_marker"]

/-- What a reader gives, with its stop as the fault. -/
def reading {α : Type} : Except Stop α → Except Fault α :=
  Except.mapError .stopped

/-- The fault of a value that starts with the given character and has the wrong type. A
value that is neither array nor object has to be well-formed first. -/
def mismatch {text : List Char} (first : Taken text Char) : Fault :=
  if first.value = '[' || first.value = '{' then
    .wrongType
  else
    match scalar .full first with
    | .ok _ => .wrongType
    | .error stop => .stopped stop

def stringValue (text : List Char) : Except Fault (Taken text String) :=
  match nextChar? text with
  | none => .error (.stopped (.atEnd .value))
  | some first =>
      if first.value = '"' then
        (reading (quoted .full first.rest)).map fun taken =>
          (taken.map String.ofList).widen first.within
      else
        .error (mismatch first)

/-- Takes the closing bracket of an array. Nothing else may come before it. -/
def closeArray (text : List Char) : Except Fault (Taken text Unit) :=
  match nextChar? text with
  | none => .error (.stopped (.atEnd .list))
  | some next =>
      if next.value = ']' then
        .ok (next.map fun _ => ())
      else if next.value = ',' && (nextChar? next.rest).any (·.value = ']') then
        .error (.stopped (.atChar .trailingComma next))
      else
        .error (.stopped (.atChar .trailingText next))

def arraySettings (text : List Char) : Except Fault (Taken text Settings) :=
  match nextChar? text with
  | none => .error (.stopped (.atEnd .list))
  | some next =>
      if next.value = ']' then
        .ok (next.map fun _ => {})
      else do
        let marker ← stringValue text
        let close ← closeArray marker.rest
        .ok ⟨⟨marker.value⟩, close.rest, Nat.lt_trans close.shorter marker.shorter⟩

/-- Takes a key behind its opening quote, the colon and the value of a member, and gives
the marker as known behind the member. A second marker is a fault before its value is
looked at. -/
def member (known : Option String) (text : List Char) :
    Except Fault (Taken text (Option String)) := do
  let key ← reading (quoted .full text)
  let isMarker := markerKeys.contains (String.ofList key.value)
  if isMarker && known.isSome then
    .error .repeated
  match nextChar? key.rest with
  | none => .error (.stopped (.atEnd .object))
  | some mark =>
      let within : mark.rest.length ≤ text.length :=
        Nat.le_of_lt (Nat.lt_trans mark.shorter key.shorter)
      if mark.value ≠ ':' then
        .error (.stopped (.atChar .expectedColon mark))
      else if isMarker then do
        let marker ← stringValue mark.rest
        .ok ((marker.map some).widen within)
      else do
        let skimmed ← reading (Json.value .skim mark.rest.length mark.rest)
        .ok ((skimmed.map fun _ => known).widen within)

/-- Takes the members of an object behind the opening quote of the first key, and the
closing brace, and gives the marker if a member does. -/
def members (known : Option String) (text : List Char) :
    Except Fault (Taken text (Option String)) := do
  let first ← member known text
  match nextChar? first.rest with
  | none => .error (.stopped (.atEnd .object))
  | some mark =>
      if mark.value = '}' then
        .ok ⟨first.value, mark.rest, Nat.lt_trans mark.shorter first.shorter⟩
      else if mark.value = ',' then
        match nextChar? mark.rest with
        | none => .error (.stopped (.atEnd .value))
        | some next =>
            if next.value = '"' then do
              let later ← members first.value next.rest
              .ok ⟨later.value, later.rest,
                Nat.lt_trans later.shorter
                  (Nat.lt_trans next.shorter (Nat.lt_trans mark.shorter first.shorter))⟩
            else if next.value = '}' then
              .error (.stopped (.atChar .trailingComma next))
            else
              .error (.stopped (.atChar .keyNotString next))
      else
        .error (.stopped (.atChar .expectedObjectEnd mark))
termination_by text.length
decreasing_by exact Nat.lt_trans next.shorter (Nat.lt_trans mark.shorter first.shorter)

def objectSettings (text : List Char) : Except Fault (Taken text Settings) :=
  match nextChar? text with
  | none => .error (.stopped (.atEnd .object))
  | some next =>
      if next.value = '}' then
        .ok (next.map fun _ => {})
      else if next.value = '"' then
        (members none next.rest).map fun taken =>
          (taken.map fun marker => ⟨marker.getD defaultMarker⟩).widen next.within
      else
        .error (.stopped (.atChar .keyNotString next))

def settings (text : List Char) : Except Fault (Taken text Settings) :=
  match nextChar? text with
  | none => .error (.stopped (.atEnd .value))
  | some first =>
      if first.value = '[' then
        (arraySettings first.rest).map (·.widen first.within)
      else if first.value = '{' then
        (objectSettings first.rest).map (·.widen first.within)
      else
        .error (mismatch first)

def ofText (text : String) : Except Fault Settings := do
  let taken ← settings text.toList
  match nextChar? taken.rest with
  | none => .ok taken.value
  | some next => .error (.stopped (.atChar .trailingText next))

end FormCheck.Settings
