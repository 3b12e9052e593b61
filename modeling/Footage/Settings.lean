import Footage.Calendar.Layout
import Footage.Failure
import Footage.Pattern

/-!
# Settings of harvests

How many pages a harvest may fetch, how many workers it has, and how far back it goes.
-/

namespace Footage

open Calendar

/-- The settings of a harvest. -/
structure Settings where
  /-- The number of pages of a feed that links to its next page. -/
  maxScanSteps : Nat := 50
  /-- The number of pages of a forum. -/
  scrapeSteps : Nat := 10
  workers : Nat := 4
  /-- The moment before which entries are of no interest. -/
  threshold : Option Moment := none
  deriving DecidableEq

/-- A number of steps or workers must not be zero. -/
def checkBudget (name : String) (value : Nat) : Except Failure Unit :=
  if value = 0 then .error (.misconfigured (.zeroBudget name)) else .ok ()

namespace Settings

/-- The numbers must not be zero. -/
def check (settings : Settings) : Except Failure Unit := do
  checkBudget "max_scan_steps" settings.maxScanSteps
  checkBudget "scrape_steps" settings.scrapeSteps
  checkBudget "workers" settings.workers

/-- The settings with a number of pages for all feeds. -/
def withSteps (settings : Settings) (steps : Nat) : Settings :=
  { settings with maxScanSteps := steps, scrapeSteps := steps }

end Settings

/-- The pattern of dates. -/
def datePattern : String := "^\\d{4}-\\d{2}-\\d{2}$"

/-- Whether a text has the form `YYYY-MM-DD`, in the digits of any script. -/
def hasDateForm (text : String) : Bool :=
  (Pattern.ofText? datePattern).any fun pattern => pattern.isIn text

/-- The start of the day that a text of the form `YYYY-MM-DD` names. -/
def readDate (text : String) : Except Failure Moment :=
  if hasDateForm text then
    match (Layout.isoDate.read? text.toList).bind Parts.day? with
    | some day => .ok (.startOf day)
    | none => .error (.badDate text)
  else .error (.badDate text)

end Footage
