import FormCheck.Store.Listing

/-!
JSON values. The members of an object keep the order in which their keys first occur. A
number keeps its spelling, since rules give numbers no meaning.
-/

set_option autoImplicit false

namespace FormCheck.Json

inductive Value where
  | null
  | bool (value : Bool)
  | number (spelling : String)
  | string (value : String)
  | array (items : List Value)
  | object (members : List (String × Value))
  deriving Inhabited

namespace Value

/-- The object with the given members. A repeated key keeps its first place and its last
value. -/
def ofMembers (members : List (String × Value)) : Value :=
  .object (Listing.ofPairs members)

def members? : Value → Option (List (String × Value))
  | .object members => some members
  | _ => none

def string? : Value → Option String
  | .string value => some value
  | _ => none

def member? (value : Value) (key : String) : Option Value :=
  value.members?.bind (List.lookup key)

end Value

end FormCheck.Json
