import FormCheck.Json.Issue
import FormCheck.Rule.Constraint

/-!
Findings: what a check finds wrong. Either the rules themselves have a defect, or an input
that the rules name is absent, or an input is empty or holds a value that its rule refuses.
Findings are kept as causes, and `message` words them.
-/

set_option autoImplicit false

namespace FormCheck

/-- What can be wrong with rules, whatever the inputs hold. -/
inductive Defect where
  | noPresence
  /-- A conditional directive names an input that the form does not have. -/
  | siblingNotFound (id : String)
  /-- A segment names no known test. -/
  | unknownTest (segment : String)
  | notAnObject
  /-- A member of a rules document lacks a label or a rule. -/
  | malformedEntry (id : String)
  | unreadable (error : Json.Error)
  deriving DecidableEq

def Defect.message : Defect → String
  | .noPresence =>
      "First param of the rule must be: required, permit_empty, required_if, required_if_not."
  | .siblingNotFound id => id ++ " not found."
  | .unknownTest _ => "No rule type"
  | .notAnObject => "Rules must be an object"
  | .malformedEntry id => id ++ " must define a label and rules."
  | .unreadable error => "invalid rules json: " ++ error.message

/-- Why an input does not pass. -/
inductive Finding where
  | defect (defect : Defect)
  | absent (id : String)
  | missingValue
  | refused (test : Test)
  deriving DecidableEq

namespace Finding

def message : Finding → String
  | .defect cause => cause.message
  | .absent id => id ++ " doesn't exist."
  | .missingValue => "it's required."
  | .refused test => test.message

/-- Whether the input gets the marker of the check. Values that are missing or refused
do, and so does an input that reaches an unknown test; a broken directive, an absent
sibling and an absent input mark nothing. -/
def marksInput : Finding → Bool
  | .missingValue | .refused _ | .defect (.unknownTest _) => true
  | .defect _ | .absent _ => false

def isDefect : Finding → Bool
  | .defect _ => true
  | .absent _ | .missingValue | .refused _ => false

end Finding

def Constraint.message : Constraint → String
  | .known test => test.message
  | .unknown segment => (Defect.unknownTest segment).message

end FormCheck
