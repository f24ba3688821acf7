import FormCheck.Rule.Constraint
import FormCheck.Rule.Presence
import FormCheck.Text.Pieces

/-!
Rules. A rule is a presence directive and the constraints that follow it, in the order in
which they are tested. Written out, its segments are separated by bars.
-/

set_option autoImplicit false

namespace FormCheck

/-- A presence directive and the constraints behind it. -/
structure Rule where
  presence : Presence
  constraints : List Constraint
  deriving DecidableEq

namespace Rule

def separator : Char := '|'

def source (rule : Rule) : String :=
  String.ofList <| Text.joinPieces separator rule.presence.source.toList
    (rule.constraints.map fun constraint => constraint.source.toList)

end Rule

end FormCheck
