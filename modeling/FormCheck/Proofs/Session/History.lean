import FormCheck.Proofs.Run.Agreement
import FormCheck.Session

/-!
Sessions forget earlier marks. What a session answers, as far as it is not asked for marks,
and what a run finds at its end are the same if everything that only marks is left out. Any
number of copies of the form may be kept on the way, and the form or single inputs taken
from them again, with the marks that they had.
-/

set_option autoImplicit false

namespace FormCheck

/-- Whether an action of a session changes nothing but marks. -/
def Action.onlyMarks : Action → Bool
  | .mark _ _ | .clear _ | .judge _ _ _ | .validate _ | .validateText _ _ => true
  | _ => false

/-- Whether an action of a session asks for marks. -/
def Action.asksForMarks : Action → Bool
  | .find _ | .isMarked _ _ | .hasMarker _ _ | .same _ _ => true
  | _ => false

/-- A session with copies of its form under names, beside the one that it saves itself. -/
structure Workspace where
  session : Session
  copies : Table Form := ∅

inductive Operation where
  | act (action : Action)
  /-- Keeps a copy of the form, in place of an earlier copy of that name. -/
  | keep (name : String)
  /-- Goes back to a copy, which stays kept. -/
  | goBack (name : String)
  /-- Puts an input of a copy into the form, with the markers that it has there. -/
  | putFrom (name source id : String)

namespace Operation

def onlyMarks : Operation → Bool
  | .act action => action.onlyMarks
  | .keep _ | .goBack _ | .putFrom _ _ _ => false

def asksForMarks : Operation → Bool
  | .act action => action.asksForMarks
  | .keep _ | .goBack _ | .putFrom _ _ _ => false

end Operation

namespace Session

/-- Two sessions that differ in marks at most. -/
structure SameContents (left right : Session) : Prop where
  form : left.form.SameContents right.form
  book : left.book = right.book
  saved : Option.Rel Form.SameContents left.saved right.saved

theorem SameContents.refl (session : Session) : session.SameContents session :=
  ⟨.refl session.form, rfl, Form.SameContents.refl? session.saved⟩

theorem SameContents.trans {left middle right : Session} (first : left.SameContents middle)
    (second : middle.SameContents right) : left.SameContents right :=
  ⟨first.form.trans second.form, first.book.trans second.book,
    Form.SameContents.trans? first.saved second.saved⟩

theorem SameContents.of_form {session : Session} {form : Form}
    (same : form.SameContents session.form) :
    Session.SameContents { session with form } session :=
  ⟨same, rfl, Form.SameContents.refl? session.saved⟩

theorem SameContents.replace {left right : Session} (same : left.SameContents right)
    {leftForm rightForm : Option Form} (forms : Option.Rel Form.SameContents leftForm rightForm) :
    (left.replace leftForm).1 = (right.replace rightForm).1 ∧
      (left.replace leftForm).2.SameContents (right.replace rightForm).2 := by
  cases forms with
  | none => exact ⟨rfl, same⟩
  | some forms => exact ⟨rfl, forms, same.book, same.saved⟩

/-- An action that only marks leaves a session that differs in marks at most. -/
theorem step_onlyMarks (session : Session) {action : Action} (only : action.onlyMarks = true) :
    (session.step action).2.SameContents session := by
  cases action with
  | mark id marker => exact .of_form (Form.sameContents_mark session.form id marker)
  | clear marker => exact .of_form (Form.sameContents_clear session.form marker)
  | judge id rule marker => exact .of_form (Form.sameContents_markFor session.form id marker _)
  | validate settings =>
      exact .of_form (Form.sameContents_validate session.form session.book settings)
  | validateText text settings =>
      exact .of_form (Form.sameContents_validateText session.form text settings)
  | insert | put | setText | setChecked | find | isMarked | hasMarker | same | save | restore
  | useEntries | useText | findRule | resolve | test => cases only

/-- Any other action keeps sessions that differ in marks at most so, and is answered alike
in both unless it asks for marks. -/
theorem step_congr {left right : Session} (same : left.SameContents right) {action : Action}
    (kept : action.onlyMarks = false) :
    (action.asksForMarks = false → (left.step action).1 = (right.step action).1) ∧
      (left.step action).2.SameContents (right.step action).2 := by
  cases action with
  | mark | clear | judge | validate | validateText => cases kept
  | find | isMarked | hasMarker | same =>
      refine ⟨fun quiet => ?_, same⟩
      cases quiet
  | insert id content =>
      exact ⟨fun _ => rfl, same.form.insert id content, same.book, same.saved⟩
  | put id input => exact ⟨fun _ => rfl, same.form.put id rfl, same.book, same.saved⟩
  | setText id text =>
      obtain ⟨answer, session⟩ := same.replace (same.form.setText? id text)
      exact ⟨fun _ => answer, session⟩
  | setChecked id checked =>
      obtain ⟨answer, session⟩ := same.replace (same.form.setChecked? id checked)
      exact ⟨fun _ => answer, session⟩
  | save => exact ⟨fun _ => rfl, same.form, same.book, .some same.form⟩
  | restore =>
      obtain ⟨answer, session⟩ := same.replace same.saved
      exact ⟨fun _ => answer, session⟩
  | useEntries entries => exact ⟨fun _ => rfl, same.form, rfl, same.saved⟩
  | useText text =>
      simp only [step]
      cases RuleBook.ofText text with
      | ok book => exact ⟨fun _ => rfl, same.form, rfl, same.saved⟩
      | error defect => exact ⟨fun _ => rfl, same⟩
  | findRule id => exact ⟨fun _ => by simp only [step, same.book], same⟩
  | resolve id presence =>
      refine ⟨fun _ => congrArg Answer.standing ?_, same⟩
      exact same.form.map_find? id fun _ _ => Presence.resolve_congr same.form presence
  | test id constraint =>
      refine ⟨fun _ => congrArg Answer.tested ?_, same⟩
      exact same.form.map_find? id fun _ _ content => by rw [content]

end Session

namespace Workspace

def step (workspace : Workspace) : Operation → Answer × Workspace
  | .act action =>
      let (answer, session) := workspace.session.step action
      (answer, { workspace with session })
  | .keep name =>
      (.done, { workspace with copies := workspace.copies.insert name workspace.session.form })
  | .goBack name =>
      let (answer, session) := workspace.session.replace (workspace.copies.find? name)
      (answer, { workspace with session })
  | .putFrom name source id =>
      let input := (workspace.copies.find? name).bind (·.find? source)
      let (answer, session) :=
        workspace.session.replace (input.map (workspace.session.form.put id))
      (answer, { workspace with session })

/-- Does operations one after another and notes what each of them is answered. -/
def play : List Operation → Workspace → List (Operation × Answer) × Workspace
  | [], workspace => ([], workspace)
  | operation :: rest, workspace =>
      let (answer, workspace) := workspace.step operation
      let (answers, workspace) := play rest workspace
      ((operation, answer) :: answers, workspace)

/-- Two workspaces that differ in marks at most. -/
structure SameContents (left right : Workspace) : Prop where
  session : left.session.SameContents right.session
  copies : ∀ name,
    Option.Rel Form.SameContents (left.copies.find? name) (right.copies.find? name)

theorem SameContents.refl (workspace : Workspace) : workspace.SameContents workspace :=
  ⟨.refl workspace.session, fun _ => Form.SameContents.refl? _⟩

theorem step_onlyMarks {left right : Workspace} (same : left.SameContents right)
    {operation : Operation} (only : operation.onlyMarks = true) :
    (left.step operation).2.SameContents right := by
  cases operation with
  | act action => exact ⟨(left.session.step_onlyMarks only).trans same.session, same.copies⟩
  | keep | goBack | putFrom => cases only

theorem step_congr {left right : Workspace} (same : left.SameContents right)
    {operation : Operation} (kept : operation.onlyMarks = false) :
    (operation.asksForMarks = false →
        (left.step operation).1 = (right.step operation).1) ∧
      (left.step operation).2.SameContents (right.step operation).2 := by
  cases operation with
  | act action =>
      obtain ⟨answer, session⟩ := Session.step_congr same.session kept
      exact ⟨answer, session, same.copies⟩
  | keep name =>
      refine ⟨fun _ => rfl, same.session, ?_⟩
      intro other
      simp only [step, Table.find?_insert]
      split
      · exact .some same.session.form
      · exact same.copies other
  | goBack name =>
      obtain ⟨answer, session⟩ := same.session.replace (same.copies name)
      exact ⟨fun _ => answer, session, same.copies⟩
  | putFrom name source id =>
      obtain ⟨answer, session⟩ :=
        same.session.replace (same.session.form.putFrom (same.copies name) source id)
      exact ⟨fun _ => answer, session, same.copies⟩

/-- The answers to operations that neither only mark nor ask for marks. -/
def unmarkedAnswers (answers : List (Operation × Answer)) : List (Operation × Answer) :=
  answers.filter fun answered => !answered.1.onlyMarks && !answered.1.asksForMarks

/-- The same operations on workspaces that differ in marks at most, with those that only
mark left out on one side, come to workspaces that differ in marks at most. -/
theorem play_congr (history : List Operation) {left right : Workspace}
    (same : left.SameContents right) :
    unmarkedAnswers (play history left).1 =
        unmarkedAnswers (play (history.filter fun operation => !operation.onlyMarks) right).1 ∧
      (play history left).2.SameContents
        (play (history.filter fun operation => !operation.onlyMarks) right).2 := by
  induction history generalizing left right with
  | nil => exact ⟨rfl, same⟩
  | cons operation rest ih =>
      cases only : operation.onlyMarks with
      | true =>
          -- Only the left side does the operation, and its marks are all that changes.
          obtain ⟨answers, workspaces⟩ := ih (step_onlyMarks same only)
          rw [List.filter_cons_of_neg (by simp [only])]
          refine ⟨?_, workspaces⟩
          rw [← answers]
          exact List.filter_cons_of_neg (by simp [only])
      | false =>
          obtain ⟨answer, stepped⟩ := step_congr same only
          obtain ⟨answers, workspaces⟩ := ih stepped
          rw [List.filter_cons_of_pos (by simp [only])]
          refine ⟨?_, workspaces⟩
          simp only [play, unmarkedAnswers, List.filter_cons, only] at answers ⊢
          cases asks : operation.asksForMarks with
          | true => simpa [asks] using answers
          | false => simp [answer asks, answers]

/-- Whether two courses of operations, told by their answers and the workspaces they lead
to, are alike in all that does not ask for marks: in what was answered and in what any run
finds and marks from then on. -/
structure Alike (left right : List (Operation × Answer) × Workspace) : Prop where
  answers : unmarkedAnswers left.1 = unmarkedAnswers right.1
  book : left.2.session.book = right.2.session.book
  validate : ∀ book settings, Outcome.Agree settings
    (left.2.session.form.validate book settings) (right.2.session.form.validate book settings)
  validateText : ∀ text settings, Outcome.Agree settings
    (left.2.session.form.validateText text settings)
    (right.2.session.form.validateText text settings)

/-- What was only marked before a run makes no difference to it, and so a run repeated on
the form that it leaves finds and marks the same. -/
theorem runs_forget_marks :
    (∀ (start : Workspace) (history : List Operation), Alike (play history start)
      (play (history.filter fun operation => !operation.onlyMarks) start)) ∧
    ∀ (form : Form) (settings : Settings),
      (∀ book, Outcome.Agree settings
        ((form.validate book settings).form.validate book settings)
        (form.validate book settings)) ∧
      ∀ text, Outcome.Agree settings
        ((form.validateText text settings).form.validateText text settings)
        (form.validateText text settings) := by
  constructor
  · intro start history
    obtain ⟨answers, same⟩ := play_congr history (.refl start)
    refine ⟨answers, same.session.book, ?_, ?_⟩
    · intro book settings
      exact Form.agree_validate same.session.form book settings
    · intro text settings
      exact Form.agree_validateText same.session.form text settings
  · intro form settings
    constructor
    · intro book
      exact Form.agree_validate (Form.sameContents_validate form book settings) book settings
    · intro text
      exact Form.agree_validateText (Form.sameContents_validateText form text settings) text
        settings

end Workspace

end FormCheck
