import Footage.Value
import Footage.Video
import Footage.Warning

/-!
# Events

An event is a football match as one page describes it: the teams, the date, and the versions in
which it was broadcast, with a warning for every default that stands in for missing information.
-/

namespace Footage

open Calendar

/-- A football match with its broadcasts. -/
@[ext]
structure Event where
  competition : Option Competition := none
  homeTeam : Option Team := none
  awayTeam : Option Team := none
  season : Season
  fixture : Fixture
  date : Moment
  sources : List VideoSource := []
  warnings : List Warning := []

namespace Event

/-- Whether a warning says that a field took its default. -/
def wasDefaulted (event : Event) (field : Field) : Bool :=
  event.warnings.any fun warning => warning.field = field

/-- An event is resolved when its competition and its date come from the page. -/
def isResolved (event : Event) : Bool :=
  event.competition.isSome && !event.wasDefaulted .date

/-- The event with further sources. -/
def addSources (event : Event) (sources : List VideoSource) : Event :=
  { event with sources := event.sources ++ sources }

/-- Both teams, or the one that is known, or the competition. -/
def title (event : Event) : String :=
  match event.homeTeam, event.awayTeam with
  | some home, some away => home.name ++ " vs " ++ away.name
  | some team, none | none, some team => team.name
  | none, none => (event.competition.map Competition.name).getD ""

/-- The event with the containers of its sources filled in where they are missing. -/
def withContainers (event : Event) : Event :=
  { event with sources := event.sources.map VideoSource.withContainer }

end Event

end Footage
