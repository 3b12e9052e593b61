import Footage.CommandLine.Command
import Footage.Event.Stored
import Footage.Harvest
import Footage.Yaml.Writer

/-!
# Running commands

What a command prints, given the files it reads, the answers to its requests and the present.
-/

namespace Footage

open Calendar Text

/-- What a run of the program leaves behind. -/
structure Outcome where
  exitCode : UInt32 := 0
  /-- What it prints. -/
  output : String := ""
  /-- What it prints about its progress and its failures. -/
  messages : String := ""
  /-- The file that it writes, with its text. -/
  written : Option (String × String) := none

/-- What a run depends on. -/
structure Surroundings where
  /-- The text of a file, or why it cannot be read. -/
  read : String → Except Failure String
  fetcher : Fetcher
  now : Moment

namespace Surroundings

variable (surroundings : Surroundings)

/-- The data source that a file describes. -/
def source (name : String) : Except Failure DataSource := do
  DataSource.read (← surroundings.read name)

end Surroundings

namespace Outcome

/-- The run fails. -/
def failed (failure : Failure) : Outcome :=
  { exitCode := 1, messages := "Error: " ++ failure.message ++ "\n" }

/-- The arguments give no command. -/
def unusable : Outcome :=
  { exitCode := 2
    messages := "Usage: matchday-harvester <COMMAND>\n\nCommands: validate, parse, harvest\n" }

/-- A number in a message. -/
def count (n : Nat) : String :=
  String.ofList (decimal n)

end Outcome

namespace Command

open Outcome

/-- Reports on a data source. -/
def runValidate (source : DataSource) : Outcome :=
  { output :=
      "Valid " ++ source.name ++ " (" ++ source.base.text ++ ")\n" ++
        "  Kit sets: " ++ count source.kits.length ++ "\n" ++
        "  Pattern kits: " ++ count source.kitCount ++ "\n" }

/-- Prints an event, and its warnings as messages. -/
def runParse (event : Event) : Outcome :=
  { output := String.ofList (Yaml.write event.toJson)
    messages := String.join (event.warnings.map fun warning =>
      "Warning: " ++ warning.message ++ "\n") }

/-- The settings of a harvest: those given on the command line before those of the source, and
these before the standard ones. -/
def harvestSettings (source : DataSource) (options : HarvestOptions) : Settings :=
  let settings := source.settings {}
  let settings := (options.maxSteps.map settings.withSteps).getD settings
  { settings with workers := options.workers.getD settings.workers }

/-- Reports on a harvest, and prints or writes its events. -/
def runHarvest (source : DataSource) (options : HarvestOptions) (snapshot : Snapshot)
    (events : List Event) : Outcome :=
  let text := String.ofList (Yaml.write (.array (events.map Event.toJson)))
  let skipped := snapshot.size - events.length
  let report :=
    "Harvesting " ++ source.name ++ "\n" ++
      "  Pages: " ++ count snapshot.fetches ++ " (" ++ snapshot.stop.text ++ ")\n" ++
      "  Entries: " ++ count snapshot.size ++ "\n" ++
      "  Events: " ++ count events.length ++ "\n" ++
      if skipped = 0 then "" else "  Skipped: " ++ count skipped ++ "\n"
  match options.output with
  | some name =>
    { messages := report ++ "Saved to: " ++ name ++ "\n", written := some (name, text) }
  | none => { output := text, messages := report }

/-- Harvests a data source. The date is read before the source, and the source before the
address. -/
def harvestOutcome (surroundings : Surroundings) (options : HarvestOptions) :
    Except Failure Outcome := do
  let start ← options.since.mapM readDate
  let source ← surroundings.source options.source
  let page ← options.url.mapM fun text =>
    match Url.read? text with
    | some url => Except.ok url
    | none => .error (.badUrl text)
  let settings := harvestSettings source options
  settings.check
  let harvester : Harvester := {
    source
    fetcher := surroundings.fetcher
    settings
    known := fun _ => false
    now := surroundings.now }
  let snapshot ← (match page with
    | some url => harvester.snapshotPage url
    | none => harvester.snapshot { labels := options.labels, start }).result
  return runHarvest source options snapshot (← snapshot.extractAll harvester.today)

/-- What a command leaves behind, unless it fails. -/
def outcome (surroundings : Surroundings) : Command → Except Failure Outcome
  | version => .ok { output := "matchday-harvester 0.1.0\n" }
  | validate source => (surroundings.source source).map runValidate
  | parse source document => do
    let source ← surroundings.source source
    let text ← surroundings.read document
    return runParse (← KitSet.extractAny source.kits surroundings.now.day text)
  | harvest options => harvestOutcome surroundings options

/-- Runs the program with some arguments. -/
def run (surroundings : Surroundings) (arguments : List String) : Outcome :=
  match ofArguments? arguments with
  | none => .unusable
  | some command =>
    match command.outcome surroundings with
    | .ok outcome => outcome
    | .error failure => .failed failure

end Command

end Footage
