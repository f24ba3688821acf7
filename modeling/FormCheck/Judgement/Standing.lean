import FormCheck.Finding
import FormCheck.Form
import FormCheck.Rule.Presence

/-!
How an input stands with its presence directive: filled, empty by right, or at fault.
-/

set_option autoImplicit false

namespace FormCheck

/-- How an input without fault stands with its presence directive. -/
inductive Standing where
  | filled
  /-- The input is empty and its condition does not require it. -/
  | notRequired
  | emptyPermitted
  deriving DecidableEq

/-- Whether the constraints of the rule are tested. They are on an empty input too,
unless it always may be empty. -/
def Standing.runsConstraints : Standing → Bool
  | .filled | .notRequired => true
  | .emptyPermitted => false

namespace Presence

/-- Whether the sibling of a directive is empty, if the directive has one. A sibling that
the form does not have is a defect. -/
def siblingEmpty (form : Form) (presence : Presence) : Except Defect (Option Bool) :=
  match presence.sibling? with
  | none => .ok none
  | some id =>
      match form.find? id with
      | none => .error (.siblingNotFound id)
      | some sibling => .ok (some sibling.content.isEmpty)

def resolveEmpty (siblingEmpty : Option Bool) : Presence → Except Finding Standing
  | .permitEmpty => .ok .emptyPermitted
  | .required => .error .missingValue
  | .requiredIf _ =>
      if siblingEmpty = some false then .error .missingValue else .ok .notRequired
  | .requiredIfNot _ =>
      if siblingEmpty = some true then .error .missingValue else .ok .notRequired

/-- How an input stands with its directive in a form. An absent sibling is reported
whatever the input holds. -/
def resolve (presence : Presence) (own : Input) (form : Form) : Except Finding Standing :=
  match presence.siblingEmpty form with
  | .error defect => .error (.defect defect)
  | .ok siblingEmpty =>
      if own.content.isEmpty then presence.resolveEmpty siblingEmpty else .ok .filled

end Presence

end FormCheck
