import Footage.Calendar.Epoch
import Footage.CommandLine.Run

/-!
# The program

Reads the files that a command needs, runs it, and writes what it leaves behind. The program has no
network: every request fails.
-/

open Footage Calendar

/-- The text of a file, or why it cannot be read, after its name. -/
def readFile (name : String) : IO (String × Except Failure String) := do
  try
    return (name, .ok (← IO.FS.readFile name))
  catch
    | .noFileOrDirectory .. => return (name, .error .missingFile)
    | _ => return (name, .error .notFile)

/-- The present, by the time at which a new file is written. -/
def present : IO Moment := do
  let (_, path) ← IO.FS.createTempFile
  let written := (← path.metadata).modified
  IO.FS.removeFile path
  match Moment.ofEpochSeconds? written.sec with
  | some moment => return moment
  | none => throw (IO.userError "the clock is out of range")

/-- A fetcher for which no page can be reached. -/
def offline : Fetcher :=
  fun _ => .error (.retriesExhausted 1 "no network")

def main (arguments : List String) : IO UInt32 := do
  let names := ((Command.ofArguments? arguments).map Command.files).getD []
  let files ← names.mapM readFile
  let read (name : String) := (files.lookup name).getD (.error .missingFile)
  let outcome := Command.run ⟨read, offline, ← present⟩ arguments
  IO.eprint outcome.messages
  IO.print outcome.output
  if let some (name, text) := outcome.written then
    IO.FS.writeFile name text
  return outcome.exitCode
