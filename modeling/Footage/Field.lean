/-!
# Fields

A field is a named piece of information that a pattern captures, about an event or about one of
its video sources.
-/

namespace Footage

/-- What a field describes. -/
inductive Target where
  | event
  | source
  deriving DecidableEq, Repr

/-- The name of a target in messages. -/
def Target.name : Target → String
  | .event => "Event"
  | .source => "VideoFileSource"

/-- The kinds of values that fields hold. -/
inductive Kind where
  | text
  | team
  | competition
  | season
  | fixture
  | date
  | resolution
  | integer
  | channels
  deriving DecidableEq, Repr

/-- The name of a kind in messages. -/
def Kind.name : Kind → String
  | .text => "Text"
  | .team => "Team"
  | .competition => "Competition"
  | .season => "Season"
  | .fixture => "Fixture"
  | .date => "Date"
  | .resolution => "Resolution"
  | .integer => "Integer"
  | .channels => "Channels"

/-- A piece of information that a pattern captures. -/
inductive Field where
  | homeTeam
  | awayTeam
  | competition
  | season
  | fixture
  | date
  | channel
  | source
  | approximateDuration
  | languages
  | mediaContainer
  | videoCodec
  | audioCodec
  | resolution
  | audioChannels
  | videoBitrate
  | audioBitrate
  | filesize
  | framerate
  deriving DecidableEq, Repr

namespace Field

/-- All fields, those of events first. -/
def all : List Field :=
  [homeTeam, awayTeam, competition, season, fixture, date, channel, source, approximateDuration,
    languages, mediaContainer, videoCodec, audioCodec, resolution, audioChannels, videoBitrate,
    audioBitrate, filesize, framerate]

theorem mem_all (field : Field) : field ∈ all := by
  cases field <;> decide

/-- What the field describes. -/
def target : Field → Target
  | homeTeam | awayTeam | competition | season | fixture | date => .event
  | _ => .source

/-- The kind of value that the field holds. -/
def kind : Field → Kind
  | homeTeam | awayTeam => .team
  | competition => .competition
  | season => .season
  | fixture => .fixture
  | date => .date
  | resolution => .resolution
  | audioChannels => .channels
  | videoBitrate | audioBitrate | filesize | framerate => .integer
  | _ => .text

/-- The name of the field. -/
def name : Field → String
  | homeTeam => "home_team"
  | awayTeam => "away_team"
  | competition => "competition"
  | season => "season"
  | fixture => "fixture"
  | date => "date"
  | channel => "channel"
  | source => "source"
  | approximateDuration => "approximate_duration"
  | languages => "languages"
  | mediaContainer => "media_container"
  | videoCodec => "video_codec"
  | audioCodec => "audio_codec"
  | resolution => "resolution"
  | audioChannels => "audio_channels"
  | videoBitrate => "video_bitrate"
  | audioBitrate => "audio_bitrate"
  | filesize => "filesize"
  | framerate => "framerate"

/-- The field with a given name. Two fields also have a short name. -/
def ofName? (name : String) : Option Field :=
  if name = "duration" then some approximateDuration
  else if name = "container" then some mediaContainer
  else all.find? (·.name = name)

end Field

end Footage
