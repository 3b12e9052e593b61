import Footage.Field

/-!
# Extraction warnings

Each default that stands in for a missing or unusable value leaves a warning, so that it can be
told from a value that the page states.
-/

namespace Footage

/-- A field took its default, because nothing was captured for it or because the captured text
could not be used. -/
structure Warning where
  field : Field
  raw : Option String
  deriving DecidableEq, Repr

namespace Warning

/-- The wording of a warning. -/
def message (warning : Warning) : String :=
  match warning.raw with
  | some raw => warning.field.name ++ ": unparsable value '" ++ raw ++ "', default used"
  | none => warning.field.name ++ ": not captured, default used"

end Warning

end Footage
