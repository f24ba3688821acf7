/-!
Presence directives. Every rule opens with one: it says whether an empty input is in
itself a failure.
-/

set_option autoImplicit false

namespace FormCheck

/-- When an input has to be filled. -/
inductive Presence where
  /-- Always. -/
  | required
  /-- Never, and an empty input is not tested further. -/
  | permitEmpty
  /-- While the sibling is filled. -/
  | requiredIf (sibling : String)
  /-- While the sibling is empty. -/
  | requiredIfNot (sibling : String)
  deriving DecidableEq

namespace Presence

/-- The other input that a conditional directive consults. -/
def sibling? : Presence → Option String
  | .required | .permitEmpty => none
  | .requiredIf sibling | .requiredIfNot sibling => some sibling

def keyword : Presence → String
  | .required => "required"
  | .permitEmpty => "permit_empty"
  | .requiredIf _ => "required_if"
  | .requiredIfNot _ => "required_if_not"

def source (presence : Presence) : String :=
  match presence.sibling? with
  | none => presence.keyword
  | some sibling => presence.keyword ++ "[" ++ sibling ++ "]"

end Presence

end FormCheck
