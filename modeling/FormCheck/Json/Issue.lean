/-!
What can be wrong with a JSON text, and where. Lines count from one. A column is the
number of bytes of its line that had been read, the offending one included.
-/

set_option autoImplicit false

namespace FormCheck.Json

inductive Context where
  | value
  | list
  | object
  | string
  deriving DecidableEq

inductive Issue where
  | endOfText (inside : Context)
  | expectedValue
  | expectedWord
  | expectedColon
  | expectedListEnd
  | expectedObjectEnd
  | keyNotString
  | trailingComma
  | trailingText
  | invalidNumber
  | numberOutOfRange
  | invalidEscape
  | unfinishedSurrogate
  | loneSurrogate
  | controlCharacter
  | tooDeep
  deriving DecidableEq

def Context.name : Context → String
  | .value => "a value"
  | .list => "a list"
  | .object => "an object"
  | .string => "a string"

namespace Issue

def message : Issue → String
  | .endOfText inside => "EOF while parsing " ++ inside.name
  | .expectedValue => "expected value"
  | .expectedWord => "expected ident"
  | .expectedColon => "expected `:`"
  | .expectedListEnd => "expected `,` or `]`"
  | .expectedObjectEnd => "expected `,` or `\x7d`"
  | .keyNotString => "key must be a string"
  | .trailingComma => "trailing comma"
  | .trailingText => "trailing characters"
  | .invalidNumber => "invalid number"
  | .numberOutOfRange => "number out of range"
  | .invalidEscape => "invalid escape"
  | .unfinishedSurrogate => "unexpected end of hex escape"
  | .loneSurrogate => "lone leading surrogate in hex escape"
  | .controlCharacter => "control character (\\u0000-\\u001F) found while parsing a string"
  | .tooDeep => "recursion limit exceeded"

/-- Whether a longer text could have gone on from here. -/
def isEndOfText : Issue → Bool
  | .endOfText _ => true
  | _ => false

end Issue

structure Error where
  issue : Issue
  line : Nat
  column : Nat
  deriving DecidableEq

def Error.message (error : Error) : String :=
  error.issue.message ++ " at line " ++ error.line.repr ++ " column " ++ error.column.repr

end FormCheck.Json
