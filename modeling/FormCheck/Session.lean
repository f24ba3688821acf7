import FormCheck.Run

/-!
Editing sessions: a form that is filled in, checked and corrected step by step, with a
current rule book and at most one saved copy of the form.
-/

set_option autoImplicit false

namespace FormCheck

structure Session where
  form : Form := {}
  book : RuleBook := ∅
  saved : Option Form := none

inductive Action where
  | insert (id : String) (content : Content)
  /-- Puts an input with the markers that it brings, such as a copy of another one. -/
  | put (id : String) (input : Input)
  | setText (id text : String)
  | setChecked (id : String) (checked : Bool)
  | mark (id marker : String)
  | clear (marker : String)
  | find (id : String)
  /-- Asks whether an input exists and carries a marker. -/
  | isMarked (id marker : String)
  /-- Asks whether an input, if it exists, carries a marker. -/
  | hasMarker (id marker : String)
  | same (id other : String)
  | save
  /-- Goes back to the saved copy, which stays saved. -/
  | restore
  | useEntries (entries : List (String × LabelledRule))
  /-- Makes a document the current book, if it makes one. -/
  | useText (text : String)
  | findRule (id : String)
  | validate (settings : Settings)
  | validateText (text : String) (settings : Settings)
  | judge (id rule : String) (marker : Option String)
  /-- Asks how an input, if it exists, stands with a presence directive. -/
  | resolve (id : String) (presence : Presence)
  /-- Asks what a constraint finds wrong with an input, if it exists. -/
  | test (id : String) (constraint : Constraint)

inductive Answer where
  | done
  | flag (value : Bool)
  | optionalFlag (value : Option Bool)
  | input (input : Option Input)
  | book (result : Except Defect RuleBook)
  | rule (rule : Option LabelledRule)
  | report (report : Report)
  | judgement (finding : Option Finding)
  | standing (result : Option (Except Finding Standing))
  | tested (result : Option (Option Finding))

namespace Session

/-- The session with another form, if there is one, and whether there was. -/
def replace (session : Session) (form : Option Form) : Answer × Session :=
  match form with
  | none => (.flag false, session)
  | some form => (.flag true, { session with form })

def finish (session : Session) (outcome : Outcome) : Answer × Session :=
  (.report outcome.report, { session with form := outcome.form })

def step (session : Session) : Action → Answer × Session
  | .insert id content => (.done, { session with form := session.form.insert id content })
  | .put id input => (.done, { session with form := session.form.put id input })
  | .setText id text => session.replace (session.form.setText? id text)
  | .setChecked id checked => session.replace (session.form.setChecked? id checked)
  | .mark id marker => (.done, { session with form := session.form.mark id marker })
  | .clear marker => (.done, { session with form := session.form.clear marker })
  | .find id => (.input (session.form.find? id), session)
  | .isMarked id marker => (.flag (session.form.isMarked id marker), session)
  | .hasMarker id marker =>
      (.optionalFlag ((session.form.find? id).map (·.hasMarker marker)), session)
  | .same id other => (.flag (session.form.find? id == session.form.find? other), session)
  | .save => (.done, { session with saved := some session.form })
  | .restore => session.replace session.saved
  | .useEntries entries =>
      let book := RuleBook.ofEntries entries
      (.book (.ok book), { session with book })
  | .useText text =>
      match RuleBook.ofText text with
      | .ok book => (.book (.ok book), { session with book })
      | .error defect => (.book (.error defect), session)
  | .findRule id => (.rule (session.book.find? id), session)
  | .validate settings => session.finish (session.form.validate session.book settings)
  | .validateText text settings => session.finish (session.form.validateText text settings)
  | .judge id rule marker =>
      let (finding, form) := session.form.judge id rule marker
      (.judgement finding, { session with form })
  | .resolve id presence =>
      (.standing ((session.form.find? id).map (presence.resolve · session.form)), session)
  | .test id constraint =>
      (.tested ((session.form.find? id).map fun input => constraint.finding? input.content),
        session)

end Session

end FormCheck
