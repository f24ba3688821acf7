import FormCheck.Finding
import FormCheck.Rule.Expression
import FormCheck.Text.Pieces

/-!
Reading rules. A rule is cut at its bars. Each segment is a keyword with an optional
argument in brackets, and the argument reaches to the last bracket of the segment, so that
it may hold brackets itself.
-/

set_option autoImplicit false

namespace FormCheck

/-- A segment of the form `keyword` or `keyword[argument]`. -/
structure Segment where
  keyword : String
  argument : Option String
  deriving DecidableEq

namespace Segment

def isKeywordChar (c : Char) : Bool :=
  c.isAlphanum || c == '_'

/-- The text between an opening bracket at the front and a closing bracket at the end. -/
def readArgument? : List Char → Option (List Char)
  | '[' :: rest => if rest.getLast? = some ']' then some rest.dropLast else none
  | _ => none

/-- Reads a whole segment. An empty keyword, an unclosed bracket and text behind the
closing bracket are refused. -/
def ofChars? (text : List Char) : Option Segment :=
  let keyword := text.takeWhile isKeywordChar
  let rest := text.dropWhile isKeywordChar
  if keyword.isEmpty then
    none
  else if rest.isEmpty then
    some ⟨String.ofList keyword, none⟩
  else
    (readArgument? rest).map fun argument =>
      ⟨String.ofList keyword, some (String.ofList argument)⟩

/-- The presence directive that a segment writes. Conditional directives need their
argument and the others take none. -/
def presence? (segment : Segment) : Option Presence :=
  let directives : List Presence :=
    match segment.argument with
    | none => [.required, .permitEmpty]
    | some sibling => [.requiredIf sibling, .requiredIfNot sibling]
  directives.find? fun presence => presence.keyword == segment.keyword

/-- The test that a segment writes. A test without argument ignores one; the others need
theirs. -/
def test? (segment : Segment) : Option Test :=
  match PlainTest.ofKeyword? segment.keyword with
  | some kind => some (.plain kind)
  | none =>
      segment.argument.bind fun argument =>
        (ArgumentTest.ofKeyword? segment.keyword).map fun kind => .withArgument kind argument

end Segment

def Presence.ofChars? (text : List Char) : Option Presence :=
  (Segment.ofChars? text).bind Segment.presence?

/-- The constraint that a text is. What names no known test is kept as it stands, and is
reported only if testing reaches it. -/
def Constraint.ofChars (text : List Char) : Constraint :=
  match (Segment.ofChars? text).bind Segment.test? with
  | some test => .known test
  | none => .unknown (String.ofList text)

/-- Reads a rule. The only defect that reading reports is a first segment that is no
presence directive. -/
def Rule.parse (text : String) : Except Defect Rule :=
  let (first, later) := Text.pieces Rule.separator text.toList
  match Presence.ofChars? first with
  | none => .error .noPresence
  | some presence => .ok ⟨presence, later.map Constraint.ofChars⟩

end FormCheck
