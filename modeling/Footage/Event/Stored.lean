import Footage.Calendar.Layout
import Footage.Event.Basic
import Footage.Json.Decode

/-!
# Stored events

The JSON form of events. Absent optional members and empty lists are left out, the files of a
pack are the members of an object with the parts as keys, and moments are written in full.
-/

namespace Footage

open Calendar

/-- The members that are present. -/
def Json.present (members : List (String × Option Json)) : Json :=
  .object (members.filterMap fun (name, json) => json.map fun json => (name, json))

/-- A list, unless it is empty. -/
def Json.nonEmpty {α : Type} (encode : α → Json) (list : List α) : Option Json :=
  if list.isEmpty then none else some (.array (list.map encode))

namespace Season

/-- The stored form of a season. -/
def toJson (season : Season) : Json :=
  .object [("start_year", .integer season.startYear.toInt),
    ("end_year", .integer season.endYear.toInt)]

/-- The season that a JSON value stores. -/
def ofJson? (json : Json) : Option Season := do
  let member ← json.record? ["start_year", "end_year"] 2
  let year (name : String) : Option Int32 := do
    let n ← (← member name).integer? (-2147483648) 2147483647
    return .ofInt n
  return ⟨← year "start_year", ← year "end_year"⟩

end Season

namespace Fixture

/-- The stored form of a fixture. -/
def toJson (fixture : Fixture) : Json :=
  .object [("title", .string fixture.title), ("number", .integer fixture.number.toNat)]

/-- The fixture that a JSON value stores. -/
def ofJson? (json : Json) : Option Fixture := do
  let member ← json.record? ["title", "number"] 2
  return ⟨← (← member "title").text?, ← (← member "number").word32?⟩

end Fixture

/-- The stored form of a moment. -/
def Calendar.Moment.toJson (moment : Moment) : Json :=
  .string (String.ofList moment.write)

/-- The moment that a JSON value stores. -/
def Calendar.Moment.ofJson? (json : Json) : Option Moment := do
  (← Layout.storedMoment.read? (← json.text?).toList).moment?

namespace VideoFile

/-- The stored form of a video file. -/
def toJson (file : VideoFile) : Json :=
  .object [("title", .string file.part.key), ("external_url", .string file.url.text)]

/-- The video file that a JSON value stores. -/
def ofJson? (json : Json) : Option VideoFile := do
  let member ← json.record? ["title", "external_url"] 2
  let part ← Part.ofKey? (← (← member "title").choice?)
  let url ← Url.read? (← (← member "external_url").text?)
  return ⟨part, url⟩

end VideoFile

namespace Pack

/-- The stored form of a pack. -/
def toJson (pack : Pack) : Json :=
  .object (Part.all.filterMap fun part =>
    (pack.file? part).map fun file => (part.key, file.toJson))

/-- The pack that a JSON value stores. Of two files under one key the later one counts. -/
def ofJson? (json : Json) : Option Pack := do
  let entries ← (← json.entries?).mapM fun (key, json) => do
    return (← Part.ofKey? key, ← VideoFile.ofJson? json)
  return entries.foldl (fun pack (part, file) => pack.set part file) empty

end Pack

namespace VideoSource

/-- The names of the members of a stored source. -/
def memberNames : List String :=
  ["channel", "source", "approximate_duration", "languages", "media_container", "video_codec",
    "audio_codec", "resolution", "audio_channels", "video_bitrate", "audio_bitrate", "filesize",
    "framerate", "video_file_packs"]

/-- The stored form of a source. -/
def toJson (source : VideoSource) : Json :=
  .present [
    ("channel", source.channel.map .string),
    ("source", source.source.map .string),
    ("approximate_duration", source.approximateDuration.map .string),
    ("languages", source.languages.map .string),
    ("media_container", source.mediaContainer.map .string),
    ("video_codec", source.videoCodec.map .string),
    ("audio_codec", source.audioCodec.map .string),
    ("resolution", some (.string source.resolution.name)),
    ("audio_channels", some (.integer source.audioChannels.toNat)),
    ("video_bitrate", some (.integer source.videoBitrate.toNat)),
    ("audio_bitrate", some (.integer source.audioBitrate.toNat)),
    ("filesize", some (.integer source.filesize.toNat)),
    ("framerate", some (.integer source.framerate.toNat)),
    ("video_file_packs", some (.array (source.packs.map Pack.toJson)))]

/-- The source that a JSON value stores. -/
def ofJson? (json : Json) : Option VideoSource := do
  let member ← json.record? memberNames 13
  let text (name : String) : Option (Option String) := Json.optional? Json.text? (member name)
  return {
    channel := ← text "channel"
    source := ← text "source"
    approximateDuration := ← text "approximate_duration"
    languages := ← text "languages"
    mediaContainer := ← text "media_container"
    videoCodec := ← text "video_codec"
    audioCodec := ← text "audio_codec"
    resolution := ← Resolution.ofName? (← (← member "resolution").choice?)
    audioChannels := ← (← member "audio_channels").word32?
    videoBitrate := ← (← member "video_bitrate").word64?
    audioBitrate := ← (← member "audio_bitrate").word64?
    filesize := ← (← member "filesize").word64?
    framerate := ← (← member "framerate").word32?
    packs := ← Json.orElse? [] (Json.list? Pack.ofJson?) (member "video_file_packs") }

end VideoSource

namespace Warning

/-- The stored form of a warning. -/
def toJson (warning : Warning) : Json :=
  .present [("field", some (.string warning.field.name)), ("raw", warning.raw.map .string)]

/-- The warning that a JSON value stores. -/
def ofJson? (json : Json) : Option Warning := do
  let member ← json.record? ["field", "raw"] 2
  let field ← Field.ofName? (← (← member "field").choice?)
  let raw ← Json.optional? Json.text? (member "raw")
  return ⟨field, raw⟩

end Warning

namespace Event

/-- The names of the members of a stored event. -/
def memberNames : List String :=
  ["competition", "home_team", "away_team", "season", "fixture", "date", "file_sources",
    "warnings"]

/-- The stored form of an event. -/
def toJson (event : Event) : Json :=
  .present [
    ("competition", event.competition.map fun competition => .string competition.name),
    ("home_team", event.homeTeam.map fun team => .string team.name),
    ("away_team", event.awayTeam.map fun team => .string team.name),
    ("season", some event.season.toJson),
    ("fixture", some event.fixture.toJson),
    ("date", some event.date.toJson),
    ("file_sources", Json.nonEmpty VideoSource.toJson event.sources),
    ("warnings", Json.nonEmpty Warning.toJson event.warnings)]

/-- The event that a JSON value stores. -/
def ofJson? (json : Json) : Option Event := do
  let member ← json.record? memberNames 6
  let text (name : String) : Option (Option String) := Json.optional? Json.text? (member name)
  return {
    competition := (← text "competition").map Competition.mk
    homeTeam := (← text "home_team").map Team.mk
    awayTeam := (← text "away_team").map Team.mk
    season := ← Season.ofJson? (← member "season")
    fixture := ← Fixture.ofJson? (← member "fixture")
    date := ← Moment.ofJson? (← member "date")
    sources := ← Json.orElse? [] (Json.list? VideoSource.ofJson?) (member "file_sources")
    warnings := ← Json.orElse? [] (Json.list? Warning.ofJson?) (member "warnings") }

end Event

end Footage
