import FormCheck.Judgement.Standing
import FormCheck.Judgement.Test
import FormCheck.Rule.Parser

/-!
Judging one input of a form by the text of its rule, and marking it when it fails.
-/

set_option autoImplicit false

namespace FormCheck.Form

/-- What is wrong with one input when judged by a rule. The presence directive comes
before the constraints, and the constraints are tested from left to right up to the first
that fails. -/
def finding? (form : Form) (id rule : String) : Option Finding :=
  match form.find? id with
  | none => some (.absent id)
  | some input =>
      match Rule.parse rule with
      | .error defect => some (.defect defect)
      | .ok rule =>
          match rule.presence.resolve input form with
          | .error finding => some finding
          | .ok standing =>
              if standing.runsConstraints then
                firstFinding? input.content rule.constraints
              else
                none

/-- The form in which an input bears the mark of a finding, if the finding marks it and
there is a marker to mark it with. -/
def markFor (form : Form) (id : String) (marker : Option String) (finding : Option Finding) :
    Form :=
  match marker with
  | none => form
  | some marker => if finding.any (·.marksInput) then form.mark id marker else form

/-- Judges one input and marks it if it fails. Success leaves markers as they are. -/
def judge (form : Form) (id rule : String) (marker : Option String) : Option Finding × Form :=
  let finding := form.finding? id rule
  (finding, form.markFor id marker finding)

end FormCheck.Form
