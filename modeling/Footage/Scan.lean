import Footage.Calendar.Moment
import Footage.Crawl
import Footage.Feed.Basic

/-!
# Scanning feeds

A scan follows the pages of a feed and gathers their entries. It stops at a page without entries,
at a page that reaches back past a threshold, when it has fetched as many pages as it may, or at a
page that no other one follows. What is first in this order is the reason to stop.
-/

namespace Footage

open Calendar

/-- Why a scan stopped. -/
inductive Stop where
  | exhausted
  | thresholdReached
  | stepLimit
  | endOfFeed
  deriving DecidableEq, Repr

/-- The wording of a reason to stop. -/
def Stop.text : Stop → String
  | exhausted => "exhausted"
  | thresholdReached => "threshold reached"
  | stepLimit => "step limit"
  | endOfFeed => "end of feed"

/-- What a scan gathered. -/
structure Scan (α : Type) where
  entries : List α
  stop : Stop
  /-- The number of pages. -/
  fetches : Nat

/-- How a feed is scanned. -/
structure Route (α : Type) where
  fetcher : Fetcher
  /-- Reads the body of a page. This may take further requests. -/
  read : Url → String → Crawl (Page α)
  /-- When an entry was published, if it says so. -/
  published : α → Option Moment
  /-- The moment before which entries are of no interest. -/
  threshold : Option Moment
  /-- The present, which stands for unknown times of publication. -/
  now : Moment

namespace Route

variable {α : Type} (route : Route α)

/-- Whether one of some entries was published before the threshold. -/
def reachesBack (entries : List α) : Bool :=
  route.threshold.any fun threshold =>
    entries.any fun entry => ((route.published entry).getD route.now).Before threshold

/-- Why the entries of a page end the scan, if they do. -/
def stopAt? (entries : List α) : Option Stop :=
  if entries.isEmpty then some .exhausted
  else if route.reachesBack entries then some .thresholdReached
  else none

/-- Fetches and reads a page. -/
def visit (url : Url) : Crawl (Page α) := do
  route.read url (← Crawl.fetch route.fetcher url)

/-- Scans from a page on, and fetches at most `more` further pages. -/
def scanFrom : Nat → Url → Crawl (Scan α)
  | 0, url => do
    let page ← route.visit url
    return ⟨page.entries, (route.stopAt? page.entries).getD .stepLimit, 1⟩
  | more + 1, url => do
    let page ← route.visit url
    match route.stopAt? page.entries, page.next with
    | some stop, _ => return ⟨page.entries, stop, 1⟩
    | none, none => return ⟨page.entries, .endOfFeed, 1⟩
    | none, some next =>
      let rest ← scanFrom more next
      return ⟨page.entries ++ rest.entries, rest.stop, rest.fetches + 1⟩

/-- Scans from a page on. The budget is the largest number of pages, but one is always fetched. -/
def scan (budget : Nat) (start : Url) : Crawl (Scan α) :=
  route.scanFrom (budget - 1) start

end Route

end Footage
