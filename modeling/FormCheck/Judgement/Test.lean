import FormCheck.Calendar.Written
import FormCheck.Email
import FormCheck.Finding
import FormCheck.Form
import FormCheck.Numeral.Binary64
import FormCheck.Numeral.Count
import FormCheck.Text.Pieces

/-!
Testing values. Every test but one looks at the value of an input as a text; the test for
being unchecked looks at the box. What a test cannot read, value or argument, fails it.
-/

set_option autoImplicit false

namespace FormCheck

/-- Whether two texts spell numbers that stand in a relation. Numbers are compared after
rounding to binary64. -/
def compareNumbers (relation : Int → Int → Bool) (left right : String) : Bool :=
  match Numeral.unitsOfText? left, Numeral.unitsOfText? right with
  | some left, some right => relation left right
  | _, _ => false

def compareLength (relation : Nat → Nat → Bool) (value argument : String) : Bool :=
  (Count.ofText? argument).any fun count => relation value.length count

/-- Whether a text is one of the entries between the commas of a list. -/
def isListed (list value : String) : Bool :=
  let (first, later) := Text.pieces ',' list.toList
  (first :: later).contains value.toList

namespace Test

def holdsPlain (content : Content) : PlainTest → Bool
  | .email => Email.isAddress content.value
  | .numeric => (Numeral.unitsOfText? content.value).isSome
  | .unchecked => !content.isChecked
  | .date => Calendar.isDate content.value

def holdsArgument (value argument : String) : ArgumentTest → Bool
  | .inList => isListed argument value
  | .notInList => !isListed argument value
  | .length => compareLength (· == ·) value argument
  | .minLength => compareLength (· ≥ ·) value argument
  | .maxLength => compareLength (· ≤ ·) value argument
  | .equalThan => compareNumbers (· == ·) value argument
  | .greaterThan => compareNumbers (· > ·) value argument
  | .lessThan => compareNumbers (· < ·) value argument

def holds (content : Content) : Test → Bool
  | .plain kind => holdsPlain content kind
  | .withArgument kind argument => holdsArgument content.value argument kind

end Test

def Constraint.finding? (content : Content) : Constraint → Option Finding
  | .known test => if test.holds content then none else some (.refused test)
  | .unknown segment => some (.defect (.unknownTest segment))

theorem Constraint.finding?_known_eq_none_iff (content : Content) (test : Test) :
    (known test).finding? content = none ↔ test.holds content = true := by
  by_cases passes : test.holds content = true
  · simp [finding?, passes]
  · simp [finding?, passes]

/-- Whether a text input that holds a value passes a test. -/
def Test.Accepts (test : Test) (value : String) : Prop :=
  (Constraint.known test).finding? (.text value) = none

theorem Test.accepts_iff (test : Test) (value : String) :
    test.Accepts value ↔ test.holds (.text value) = true :=
  Constraint.finding?_known_eq_none_iff _ test

/-- What the first failing constraint of a sequence finds wrong, if any fails. -/
def firstFinding? (content : Content) (constraints : List Constraint) : Option Finding :=
  constraints.findSome? (·.finding? content)

end FormCheck
