import FormCheck.Judgement.Field
import FormCheck.Report
import FormCheck.RuleBook.Document
import FormCheck.Settings

/-!
Runs: a whole rule book checked against a form. A run takes its marker off every input,
judges the inputs that the rules name in the order of the rules, and marks those that
fail. Nothing that it finds stops it, apart from a rules document that is no object.
-/

set_option autoImplicit false

namespace FormCheck

/-- What a run leaves: its report and the form with its marks. -/
structure Outcome where
  report : Report
  form : Form
  deriving DecidableEq

namespace Form

/-- The form at the start of a run, without the marks of earlier ones. -/
def reset (form : Form) (marker : Option String) : Form :=
  match marker with
  | none => form
  | some marker => form.clear marker

/-- Checks one entry of the rules: the entry of the report, if anything was found, and
the form behind it. An input that the form does not have is reported before its rule is
looked at. -/
def checkEntry (form : Form) (marker : Option String) (id : String) :
    Except Defect LabelledRule → Option ReportEntry × Form
  | .error defect => (some ⟨id, none, .defect defect⟩, form)
  | .ok rule =>
      match form.find? id with
      | none => (some ⟨id, some rule.label, .absent id⟩, form)
      | some _ =>
          let (finding, form) := form.judge id rule.rule marker
          (finding.map fun finding => ⟨id, some rule.label, finding⟩, form)

/-- Checks entries one after another, each against the form that the one before it
leaves. -/
def checkEntries (marker : Option String) :
    List (String × Except Defect LabelledRule) → Form → List ReportEntry × Form
  | [], form => ([], form)
  | (id, rule) :: rest, form =>
      let (entry, form) := form.checkEntry marker id rule
      let (entries, form) := checkEntries marker rest form
      (entry.toList ++ entries, form)

def run (form : Form) (settings : Settings)
    (entries : List (String × Except Defect LabelledRule)) : Outcome :=
  let (entries, form) := checkEntries settings.marker? entries (form.reset settings.marker?)
  ⟨⟨entries⟩, form⟩

def validate (form : Form) (book : RuleBook) (settings : Settings) : Outcome :=
  form.run settings (book.entries.map fun (id, rule) => (id, .ok rule))

/-- Checks a form by a rules document. A malformed member is reported at its place and
the run goes on. A text that is no rules document is the only thing reported, after
earlier marks have been taken off. -/
def validateText (form : Form) (text : String) (settings : Settings) : Outcome :=
  match RuleBook.readDocument text >>= RuleBook.readMembers with
  | .error defect => ⟨⟨[⟨"", none, .defect defect⟩]⟩, form.reset settings.marker?⟩
  | .ok members => form.run settings members

end Form

end FormCheck
