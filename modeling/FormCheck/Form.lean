import FormCheck.Store.Table

/-!
Forms: inputs found by their ids. An input holds what the user entered and the markers
that checks have put on it, and a form never has two inputs of one id.
-/

set_option autoImplicit false

namespace FormCheck

/-- What an input holds. A checkbox has a value of its own, which is there whether or not
the box is checked. -/
inductive Content where
  | text (value : String)
  | checkbox (checked : Bool) (value : String)
  deriving DecidableEq

namespace Content

def defaultBoxValue : String := "on"

/-- A text counts as empty when it has no characters, a checkbox when it is unchecked. -/
def isEmpty : Content → Bool
  | .text value => value == ""
  | .checkbox checked _ => !checked

def value : Content → String
  | .text value => value
  | .checkbox _ value => value

def isChecked : Content → Bool
  | .text _ => false
  | .checkbox checked _ => checked

end Content

structure Input where
  content : Content
  markers : Table Unit := ∅
  deriving DecidableEq

namespace Input

def hasMarker (input : Input) (marker : String) : Bool :=
  input.markers.contains marker

def mark (input : Input) (marker : String) : Input :=
  { input with markers := input.markers.insert marker () }

def unmark (input : Input) (marker : String) : Input :=
  { input with markers := input.markers.erase marker }

end Input

structure Form where
  inputs : Table Input := ∅
  deriving DecidableEq

namespace Form

def empty : Form := {}

def find? (form : Form) (id : String) : Option Input :=
  form.inputs.find? id

/-- The form with a new input under an id. An earlier input of that id goes, together
with its markers. -/
def insert (form : Form) (id : String) (content : Content) : Form :=
  ⟨form.inputs.insert id { content }⟩

/-- The form with an input put under an id, such as a copy of another one, with the markers
that it brings. An earlier input of that id goes, together with its markers. -/
def put (form : Form) (id : String) (input : Input) : Form :=
  ⟨form.inputs.insert id input⟩

def adjust (form : Form) (id : String) (change : Input → Input) : Form :=
  ⟨form.inputs.adjust id change⟩

/-- The form with the text of an input replaced and its markers kept, or nothing if the id
has no text input. -/
def setText? (form : Form) (id text : String) : Option Form :=
  match (form.find? id).map Input.content with
  | some (.text _) => some (form.adjust id fun input => { input with content := .text text })
  | _ => none

/-- The form with a box checked or unchecked and its markers kept, or nothing if the id
has no checkbox. -/
def setChecked? (form : Form) (id : String) (checked : Bool) : Option Form :=
  match (form.find? id).map Input.content with
  | some (.checkbox _ value) =>
      some (form.adjust id fun input => { input with content := .checkbox checked value })
  | _ => none

def mark (form : Form) (id marker : String) : Form :=
  form.adjust id (·.mark marker)

def clear (form : Form) (marker : String) : Form :=
  ⟨form.inputs.mapEntries fun _ input => input.unmark marker⟩

def isMarked (form : Form) (id marker : String) : Bool :=
  (form.find? id).any (·.hasMarker marker)

def marked (form : Form) (marker : String) : List String :=
  form.inputs.namesWhere (·.hasMarker marker)

end Form

end FormCheck
