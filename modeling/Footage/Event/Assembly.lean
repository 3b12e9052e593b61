import Footage.Event.Basic
import Footage.Record

/-!
# Events from records

What a record says about an event or a source becomes that event or source. Where the record has
no value for a field that cannot be absent, a default takes its place and a warning says so.
-/

namespace Footage

open Calendar

/-- A value, or the default that takes its place with the warning about it. -/
def orDefault {α : Type} (default : α) (warning : Warning) : Option α → α × List Warning
  | some value => (value, [])
  | none => (default, [warning])

/-- The event that a record describes. Without a date the match takes place today; without a
season it belongs to the one that starts this year. -/
def Event.ofRecord (today : Day) (record : Record) : Except Failure Event := do
  let default {α : Type} (field : Field) (value : α) :=
    orDefault value (record.defaultWarning field)
  let (date, dateWarnings) := default .date (.startOf today) (← record.date? .date)
  let (season, seasonWarnings) :=
    default .season (.startingIn today.year) (← record.season? .season)
  let (fixture, fixtureWarnings) := default .fixture .unnamed (← record.fixture? .fixture)
  return {
    competition := ← record.competition? .competition
    homeTeam := ← record.team? .homeTeam
    awayTeam := ← record.team? .awayTeam
    season, fixture, date
    warnings := dateWarnings ++ seasonWarnings ++ fixtureWarnings }

/-- The number of a field, or zero. -/
def Record.number (record : Record) (field : Field) : Except Failure UInt64 :=
  (record.integer? field).map fun number => number.getD 0

/-- The source that a record describes, with the warnings about it. A frame rate that does not fit
in 32 bits counts as none. -/
def VideoSource.ofRecord (record : Record) : Except Failure (VideoSource × List Warning) := do
  let (resolution, warnings) :=
    orDefault .standard (record.defaultWarning .resolution) (← record.resolution? .resolution)
  let source : VideoSource := {
    channel := ← record.text? .channel
    source := ← record.text? .source
    approximateDuration := ← record.text? .approximateDuration
    languages := ← record.text? .languages
    mediaContainer := ← record.text? .mediaContainer
    videoCodec := ← record.text? .videoCodec
    audioCodec := ← record.text? .audioCodec
    resolution
    audioChannels := (← record.channels? .audioChannels).getD 0
    videoBitrate := ← record.number .videoBitrate
    audioBitrate := ← record.number .audioBitrate
    filesize := ← record.number .filesize
    framerate := ← (record.number .framerate).map fun rate =>
      if rate < 4294967296 then rate.toUInt32 else 0 }
  return (source, warnings)

/-- Gives each source the pack at its place. The numbers of packs and sources must agree. -/
def VideoSource.withPacks (packs : List Pack) (sources : List VideoSource) :
    Except Failure (List VideoSource) :=
  if packs.length = sources.length then
    .ok (sources.zipWith (fun source pack => { source with packs := source.packs ++ [pack] }) packs)
  else .error (.uncorrelated packs.length sources.length)

end Footage
