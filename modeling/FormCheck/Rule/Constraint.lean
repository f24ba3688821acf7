/-!
Constraints on the value of an input. A constraint is a test that the library knows, with
or without an argument, or a segment of a rule that names no known test. Arguments are
kept as they were written, since messages repeat them.
-/

set_option autoImplicit false

namespace FormCheck

inductive PlainTest where
  | email
  | numeric
  | unchecked
  | date
  deriving DecidableEq

inductive ArgumentTest where
  | inList
  | notInList
  | length
  | minLength
  | maxLength
  | equalThan
  | greaterThan
  | lessThan
  deriving DecidableEq

def PlainTest.keyword : PlainTest → String
  | .email => "email"
  | .numeric => "numeric"
  | .unchecked => "unchecked"
  | .date => "date"

def PlainTest.message : PlainTest → String
  | .email => "must be a valid email"
  | .numeric => "must be a number"
  | .unchecked => "must be unchecked"
  | .date => "must be a valid date"

def ArgumentTest.keyword : ArgumentTest → String
  | .inList => "in_list"
  | .notInList => "not_in_list"
  | .length => "length"
  | .minLength => "min_length"
  | .maxLength => "max_length"
  | .equalThan => "equal_than"
  | .greaterThan => "greater_than"
  | .lessThan => "less_than"

/-- What a value that fails the test is told, up to the argument. -/
def ArgumentTest.demand : ArgumentTest → String
  | .inList => "must contains "
  | .notInList => "can't contains "
  | .length => "length must be exactly "
  | .minLength => "min length must be "
  | .maxLength => "max length must be "
  | .equalThan => "must be equal than "
  | .greaterThan => "must be greater than "
  | .lessThan => "must be less than "

def PlainTest.all : List PlainTest :=
  [.email, .numeric, .unchecked, .date]

def ArgumentTest.all : List ArgumentTest :=
  [.inList, .notInList, .length, .minLength, .maxLength, .equalThan, .greaterThan, .lessThan]

def PlainTest.ofKeyword? (word : String) : Option PlainTest :=
  PlainTest.all.find? fun kind => kind.keyword == word

def ArgumentTest.ofKeyword? (word : String) : Option ArgumentTest :=
  ArgumentTest.all.find? fun kind => kind.keyword == word

/-- A known test, together with its argument if it takes one. -/
inductive Test where
  | plain (kind : PlainTest)
  | withArgument (kind : ArgumentTest) (argument : String)
  deriving DecidableEq

namespace Test

def source : Test → String
  | .plain kind => kind.keyword
  | .withArgument kind argument => kind.keyword ++ "[" ++ argument ++ "]"

def message : Test → String
  | .plain kind => kind.message
  | .withArgument kind argument => kind.demand ++ argument

end Test

inductive Constraint where
  | known (test : Test)
  /-- A segment that names no known test. No value satisfies it. -/
  | unknown (segment : String)
  deriving DecidableEq

namespace Constraint

def source : Constraint → String
  | .known test => test.source
  | .unknown segment => segment

end Constraint

@[simp] theorem PlainTest.ofKeyword?_keyword (kind : PlainTest) :
    PlainTest.ofKeyword? kind.keyword = some kind := by
  cases kind <;> decide

@[simp] theorem ArgumentTest.ofKeyword?_keyword (kind : ArgumentTest) :
    ArgumentTest.ofKeyword? kind.keyword = some kind := by
  cases kind <;> decide

end FormCheck
