import Footage.Calendar.Moment
import Footage.Field
import Footage.Fixture
import Footage.Resolution
import Footage.Season

/-!
# Field values

The typed values that captured text is turned into.
-/

namespace Footage

open Text Calendar

/-- A football team. -/
structure Team where
  name : String
  deriving DecidableEq, Repr

/-- The team that a text names. -/
def Team.ofText (text : String) : Team := ⟨trimmed text⟩

/-- A football competition. -/
structure Competition where
  name : String
  deriving DecidableEq, Repr

/-- The competition that a text names. -/
def Competition.ofText (text : String) : Competition := ⟨trimmed text⟩

/-- A typed value of a field. -/
inductive Value where
  | text (text : String)
  | team (team : Team)
  | competition (competition : Competition)
  | season (season : Season)
  | fixture (fixture : Fixture)
  | date (moment : Moment)
  | resolution (resolution : Resolution)
  | integer (number : UInt64)
  | channels (number : UInt32)
  deriving DecidableEq

/-- The kind of a value. -/
def Value.kind : Value → Kind
  | .text _ => .text
  | .team _ => .team
  | .competition _ => .competition
  | .season _ => .season
  | .fixture _ => .fixture
  | .date _ => .date
  | .resolution _ => .resolution
  | .integer _ => .integer
  | .channels _ => .channels

end Footage
