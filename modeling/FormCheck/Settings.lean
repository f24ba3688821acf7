/-!
Settings of a run: the marker that it puts on the inputs that fail.
-/

set_option autoImplicit false

namespace FormCheck

def defaultMarker : String := "is-invalid"

structure Settings where
  invalidMarker : String := defaultMarker
  deriving DecidableEq

/-- The marker that a run clears and puts. The empty marker turns marking off. -/
def Settings.marker? (settings : Settings) : Option String :=
  if settings.invalidMarker = "" then none else some settings.invalidMarker

end FormCheck
